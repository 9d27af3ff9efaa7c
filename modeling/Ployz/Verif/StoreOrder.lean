import Ployz.Verif.Fingerprint

/-!
# The order of the store

The store lists its records in any order. The generator sorts them by machine, service and
creation time; records that differ in these have one sorted order, so that nothing of the order
of the store is left. Records that agree in all three keep their order, which then shows in the
order of the upstreams of a site, and never in which upstreams it has.
-/

namespace Ployz.Caddy

open Api Port Docker

namespace CaddyfileGenerator

variable (self : CaddyfileGenerator)

/-- What records are sorted by; a record of this machine comes before the others. -/
def sortKey (record : ContainerRecord) : Bool ×ₗ String ×ₗ WithBot Rfc3339Time :=
  toLex (decide (record.machineId ≠ self.machineId),
    toLex (record.container.serviceName, createdTime record))

variable {self} {records other : List ContainerRecord}

theorem compareRecords_ne_gt_iff {left right : ContainerRecord} :
    self.compareRecords left right ≠ .gt ↔ self.sortKey left ≤ self.sortKey right := by
  have remote : ∀ first second : Bool, compare first second = .gt ↔ second < first := by decide
  have greater : self.compareRecords left right = .gt ↔ self.sortKey right < self.sortKey left := by
    unfold compareRecords sortKey
    rw [Prod.Lex.toLex_lt_toLex, Prod.Lex.toLex_lt_toLex, Ordering.then_eq_gt, Ordering.then_eq_gt,
      Ordering.then_eq_eq, remote, compare_gt_iff_gt, compare_gt_iff_gt,
      Std.LawfulEqCmp.compare_eq_iff_eq, Std.LawfulEqCmp.compare_eq_iff_eq]
    dsimp only
    rw [eq_comm (a := decide (right.machineId ≠ self.machineId)),
      eq_comm (a := right.container.serviceName)]
    tauto
  rw [Ne, greater, not_lt]

instance : Std.Total fun left right => self.compareRecords left right ≠ .gt where
  total left right := by
    rw [compareRecords_ne_gt_iff, compareRecords_ne_gt_iff]
    exact le_total _ _

instance : IsTrans ContainerRecord fun left right => self.compareRecords left right ≠ .gt where
  trans first second third := by
    rw [compareRecords_ne_gt_iff, compareRecords_ne_gt_iff, compareRecords_ne_gt_iff]
    exact le_trans

theorem perm_sortRecords (self : CaddyfileGenerator) (records : List ContainerRecord) :
    (self.sortRecords records).Perm records :=
  List.perm_insertionSort _ records

theorem pairwise_sortRecords (self : CaddyfileGenerator) (records : List ContainerRecord) :
    (self.sortRecords records).Pairwise fun left right =>
      self.sortKey left ≤ self.sortKey right := by
  apply (List.pairwise_insertionSort _ records).imp
  intro left right ordered
  exact compareRecords_ne_gt_iff.mp ordered

theorem sortRecords_eq_of_perm (distinct : (records.map self.sortKey).Nodup)
    (same : records.Perm other) : self.sortRecords records = self.sortRecords other := by
  apply List.Perm.eq_of_pairwise _ (pairwise_sortRecords self records)
    (pairwise_sortRecords self other)
  · exact (perm_sortRecords self records).trans (same.trans (perm_sortRecords self other).symm)
  · intro left right member also before after
    apply List.inj_on_of_nodup_map distinct
    · exact (perm_sortRecords self records).mem_iff.mp member
    · exact same.mem_iff.mpr ((perm_sortRecords self other).mem_iff.mp also)
    · exact le_antisymm before after

theorem generate_eq_header (self : CaddyfileGenerator) (render : Renderer)
    (records : List ContainerRecord) : ∃ body, ∀ other,
      self.sortRecords other = self.sortRecords records →
      ∀ now, self.generate render now other true = .ok (self.header now ++ "\n" ++ body) := by
  refine ⟨(outcomeOf self render records).text (self.base records) ++
    errorSection ((outcomeOf self render records).skipped.map Skipped.note),
    fun other same now => ?_⟩
  rw [← generate_eq]
  unfold generate
  rw [same]

end CaddyfileGenerator

section Sites

/-- What a container adds to the sites of a scheme: hostnames, each with an upstream. -/
def siteEntries (protocol : String) (container : ServiceContainer) : List (String × String) :=
  match container.container.uncloudNetworkIp, container.servicePorts with
  | some ip, .ok ports => ports.filterMap fun port =>
    if port.mode = modeIngress ∧ port.protocol = protocol then
      some (port.hostname, socketText ip port.containerPort)
    else none
  | _, _ => []

theorem addPorts_eq (sites : Sites × Sites) (container : ServiceContainer) :
    addPorts sites container = (sites.1.pushAll (siteEntries protocolHttp container),
      sites.2.pushAll (siteEntries protocolHttps container)) := by
  unfold addPorts siteEntries
  cases container.container.uncloudNetworkIp with
  | none => rfl
  | some ip =>
    cases container.servicePorts with
    | error error => rfl
    | ok ports =>
      dsimp only
      induction ports generalizing sites with
      | nil => rfl
      | cons port ports ih =>
        rw [List.foldl_cons, ih, addPort]
        have apart : protocolHttps ≠ protocolHttp := by decide
        by_cases ingress : port.mode = modeIngress
        · by_cases http : port.protocol = protocolHttp
          · simp [ingress, http, OrdMap.pushAll, apart.symm]
          · by_cases https : port.protocol = protocolHttps
            · simp [ingress, https, OrdMap.pushAll, apart]
            · simp [ingress, http, https]
        · simp [ingress]

theorem httpUpstreamsFromPorts_eq (containers : List ServiceContainer) :
    httpUpstreamsFromPorts containers =
      (OrdMap.pushAll ∅ (containers.flatMap (siteEntries protocolHttp)),
        OrdMap.pushAll ∅ (containers.flatMap (siteEntries protocolHttps))) := by
  have from' : ∀ sites : Sites × Sites, containers.foldl addPorts sites =
      (sites.1.pushAll (containers.flatMap (siteEntries protocolHttp)),
        sites.2.pushAll (containers.flatMap (siteEntries protocolHttps))) := by
    induction containers with
    | nil => intro sites; rfl
    | cons container containers ih =>
      intro sites
      rw [List.foldl_cons, ih, addPorts_eq, List.flatMap_cons, List.flatMap_cons]
      simp only [OrdMap.pushAll, List.foldl_append]
  exact from' (∅, ∅)

/-- The sites of both schemes that the generated config lists. -/
def CaddyfileGenerator.sites (self : CaddyfileGenerator) (records : List ContainerRecord) :
    Sites × Sites :=
  httpUpstreamsFromPorts (self.containers records)

/-- The upstreams of a site without their order, if there is such a site. -/
def siteUpstreams (sites : Sites) (hostname : String) : Option (Multiset String) :=
  sites[hostname]?.map Multiset.ofList

theorem siteUpstreams_of_perm (self : CaddyfileGenerator) {records other : List ContainerRecord}
    (same : records.Perm other) (hostname : String) :
    siteUpstreams (self.sites records).1 hostname = siteUpstreams (self.sites other).1 hostname ∧
      siteUpstreams (self.sites records).2 hostname =
        siteUpstreams (self.sites other).2 hostname := by
  have containers : (self.containers records).Perm (self.containers other) := by
    apply List.Perm.map
    exact (self.perm_sortRecords records).trans (same.trans (self.perm_sortRecords other).symm)
  unfold CaddyfileGenerator.sites siteUpstreams
  rw [httpUpstreamsFromPorts_eq, httpUpstreamsFromPorts_eq]
  exact ⟨OrdMap.pushAll_perm (containers.flatMap_right _) hostname,
    OrdMap.pushAll_perm (containers.flatMap_right _) hostname⟩

end Sites

/-- Records that differ in machine, service or creation time give one body in whatever order the
store lists them. Any records give the same upstreams of each site, up to their order. -/
theorem generate_order_independent (self : CaddyfileGenerator) (render : Renderer)
    (records : List ContainerRecord) :
    ((records.map self.sortKey).Nodup → ∃ body, ∀ other, records.Perm other →
      ∀ now, self.generate render now other true = .ok (self.header now ++ "\n" ++ body)) ∧
    ∀ other, records.Perm other → ∀ hostname,
      siteUpstreams (self.sites records).1 hostname =
          siteUpstreams (self.sites other).1 hostname ∧
        siteUpstreams (self.sites records).2 hostname =
          siteUpstreams (self.sites other).2 hostname := by
  refine ⟨fun distinct => ?_, fun other same hostname => siteUpstreams_of_perm self same hostname⟩
  have ⟨body, generated⟩ := self.generate_eq_header render records
  refine ⟨body, fun other same now => generated other ?_ now⟩
  exact (CaddyfileGenerator.sortRecords_eq_of_perm distinct same).symm

open Sample

theorem generate_order_independent_sample :
    (∃ body, accepting.generate plain 0 [early, late] true =
        .ok (accepting.header 0 ++ "\n" ++ body) ∧
      accepting.generate plain 60 [late, early] true =
        .ok (accepting.header 60 ++ "\n" ++ body)) ∧
    siteUpstreams (accepting.sites [early, twin]).1 "web.example.com" =
      siteUpstreams (accepting.sites [twin, early]).1 "web.example.com" := by
  have distinct : ([early, late].map accepting.sortKey).Nodup := by decide +kernel
  have ⟨body, generated⟩ := (generate_order_independent accepting plain [early, late]).1 distinct
  refine ⟨⟨body, generated _ (.refl _) 0, generated _ (.swap _ _ _) 60⟩, ?_⟩
  exact ((generate_order_independent accepting plain [early, twin]).2 _ (.swap _ _ _) _).1

end Ployz.Caddy
