import Ployz.Caddy.Controller
import Ployz.Verif.Inert

/-!
# What the fingerprint says of the Caddyfile

The fingerprint of the containers keeps their ids, addresses, ports and configs. The generator reads
more: the order of the records, by machine, service and time of creation and, between records that
compare equal, by the order they came in; the name of the service; and which container of a service
is its newest. Lists of records with equal fingerprints that agree in that as well get the same
Caddyfile.
-/

namespace Ployz.Caddy

open Docker Port Api Admission List

/-- The id of the container of a record. -/
def ContainerRecord.id (self : ContainerRecord) : String := self.container.container.id

section Agreement

theorem exists_of_isEqv {α : Type} {same : α → α → Bool} {left right : List α}
    (equal : left.isEqv right same = true) {item : α} (member : item ∈ left) :
    ∃ other ∈ right, same item other = true := by
  induction left generalizing right with
  | nil => exact nomatch member
  | cons first rest ih =>
    cases right with
    | nil => exact nomatch equal
    | cons head tail =>
      have ⟨here, later⟩ := Bool.and_eq_true_iff.mp equal
      cases mem_cons.mp member with
      | inl same => exact ⟨head, mem_cons_self, same ▸ here⟩
      | inr inside =>
        have ⟨other, found, alike⟩ := ih later inside
        exact ⟨other, mem_cons_of_mem _ found, alike⟩

variable {left right : List ContainerRecord}

theorem agree_of_fingerprints (distinct : (right.map ContainerRecord.id).Nodup)
    (equal : fingerprintsEqual (fingerprintContainers left) (fingerprintContainers right) = true)
    {record other : ContainerRecord} (member : record ∈ left) (also : other ∈ right)
    (same : record.id = other.id) :
    (fingerprint record).ip = (fingerprint other).ip ∧
      (fingerprint record).caddyConfig = (fingerprint other).caddyConfig := by
  have listed : fingerprint record ∈ fingerprintContainers left :=
    (mem_insertionSort _).mpr (mem_map_of_mem member)
  have ⟨mark, marked, alike⟩ := exists_of_isEqv equal listed
  have ⟨found, inside, made⟩ := mem_map.mp ((mem_insertionSort _).mp marked)
  rw [← made] at alike
  simp only [ContainerFingerprint.eq, Bool.and_eq_true, decide_eq_true_eq] at alike
  have ⟨⟨⟨ids, ips⟩, _⟩, configs⟩ := alike
  have one : found = other :=
    inj_on_of_nodup_map distinct inside also (ids.symm.trans same)
  rw [one] at ips configs
  exact ⟨ips, configs⟩

end Agreement

section View

/-- What the generator reads of a container with an address, apart from its config. -/
structure View where
  serviceName : String
  ip : IpAddr
  ports : Option (List Port.PortSpec)

/-- The view of a container; one without an address has none. -/
def view (container : ServiceContainer) : Option View :=
  container.container.uncloudNetworkIp.map fun ip =>
    ⟨container.serviceName, ip, container.servicePorts.toOption⟩

variable {left right : List ServiceContainer} (same : left.filterMap view = right.filterMap view)
include same

/-- A loop that reads the view only ends alike on lists of equal views. -/
theorem foldl_of_view {σ : Type} {f : σ → ServiceContainer → σ} {g : σ → View → σ}
    (reads : ∀ state container, f state container = (view container).elim state (g state))
    (state : σ) : left.foldl f state = right.foldl f state := by
  have viewed : ∀ containers : List ServiceContainer,
      containers.foldl f state = (containers.filterMap view).foldl g state := by
    intro containers
    rw [foldl_filterMap]
    apply congrArg (fun f => containers.foldl f state)
    funext state container
    rw [reads]
    cases view container <;> rfl
  rw [viewed, viewed, same]

theorem httpUpstreamsFromPorts_of_view :
    httpUpstreamsFromPorts left = httpUpstreamsFromPorts right := by
  apply foldl_of_view same (g := fun sites viewed =>
    viewed.ports.elim sites (foldl (addPort viewed.ip) sites))
  intro sites container
  simp only [addPorts, view]
  cases container.container.uncloudNetworkIp with
  | none => rfl
  | some ip => cases container.servicePorts <;> rfl

theorem serviceUpstreams_of_view : serviceUpstreams left = serviceUpstreams right := by
  apply foldl_of_view same (g := fun upstreams viewed =>
    upstreams.push viewed.serviceName viewed.ip.display)
  intro upstreams container
  simp only [view]
  cases container.container.uncloudNetworkIp <;> rfl

theorem generateBaseFromPorts_of_view (machineId : String) :
    generateBaseFromPorts left machineId = generateBaseFromPorts right machineId := by
  unfold generateBaseFromPorts
  rw [httpUpstreamsFromPorts_of_view same]

end View

/-- The records of the containers with an address, in the order of the generator. -/
def CaddyfileGenerator.addressed (self : CaddyfileGenerator) (records : List ContainerRecord) :
    List ContainerRecord :=
  (self.sortRecords records).filter (·.container.container.uncloudNetworkIp.isSome)

/-- What the generator reads of two lists of records beyond their fingerprints. -/
structure SameReading (generator : CaddyfileGenerator) (left right : List ContainerRecord) :
    Prop where
  order : (generator.addressed left).map (fun record =>
      (record.id, record.container.serviceName, record.container.servicePorts.toOption)) =
    (generator.addressed right).map fun record =>
      (record.id, record.container.serviceName, record.container.servicePorts.toOption)
  newest : ∀ service, (newest (generator.containers left) service).map (·.container.id) =
    (newest (generator.containers right) service).map (·.container.id)
  caddy : (generator.newestLocalCaddy left).map (·.container.id) =
    (generator.newestLocalCaddy right).map (·.container.id)

section Outcome

variable {self : CaddyfileGenerator} {left right : List ContainerRecord}
  {records : List ContainerRecord} {container : ServiceContainer}

theorem filterMap_view_containers :
    (self.containers records).filterMap view =
      ((self.addressed records).map (view ·.container)).filterMap id := by
  unfold CaddyfileGenerator.containers CaddyfileGenerator.addressed
  rw [filterMap_map, filterMap_map, filterMap_filter]
  apply filterMap_congr
  intro record _
  simp only [Function.comp, view, id]
  cases record.container.container.uncloudNetworkIp <;> rfl

theorem mem_of_addressed {record : ContainerRecord} (member : record ∈ self.addressed records) :
    record ∈ records :=
  (mem_insertionSort _).mp (mem_filter.mp member).1

theorem mem_containers :
    container ∈ self.containers records ↔ ∃ record ∈ records, record.container = container := by
  unfold CaddyfileGenerator.containers CaddyfileGenerator.sortRecords
  simp only [mem_map, mem_insertionSort]

theorem mem_of_newest {service : String}
    (found : newest (self.containers records) service = some container) :
    ∃ record ∈ records, record.container = container := by
  have chosen := argmax_mem found
  exact mem_containers.mp (mem_filter.mp chosen).1

theorem mem_of_newestLocalCaddy (found : self.newestLocalCaddy records = some container) :
    ∃ record ∈ records, record.container = container := by
  have ⟨record, chosen, same⟩ := Option.map_eq_some_iff.mp found
  have sorted := (mem_filter.mp (argmax_mem chosen)).1
  exact ⟨record, (mem_insertionSort _).mp sorted, same⟩

variable (distinct : (right.map ContainerRecord.id).Nodup)
  (equal : fingerprintsEqual (fingerprintContainers left) (fingerprintContainers right) = true)
include distinct equal

theorem config_of_ids {chosen other : Option ServiceContainer}
    (ids : chosen.map (·.container.id) = other.map (·.container.id))
    (first : ∀ container, chosen = some container → ∃ record ∈ left, record.container = container)
    (second : ∀ container, other = some container →
      ∃ record ∈ right, record.container = container) :
    chosen.map (·.serviceSpec.caddyConfig) = other.map (·.serviceSpec.caddyConfig) := by
  cases chosen with
  | none =>
    cases other with
    | none => rfl
    | some container => exact nomatch ids
  | some container =>
    cases other with
    | none => exact nomatch ids
    | some container' =>
      have ⟨record, member, made⟩ := first container rfl
      have ⟨record', member', made'⟩ := second container' rfl
      have same : record.id = record'.id := by
        rw [ContainerRecord.id, ContainerRecord.id, made, made']
        exact Option.some.inj ids
      have agree := (agree_of_fingerprints distinct equal member member' same).2
      simp only [fingerprint, made, made'] at agree
      rw [Option.map_some, Option.map_some, agree]

variable (reading : SameReading self left right)
include reading

theorem view_containers :
    (self.containers left).filterMap view = (self.containers right).filterMap view := by
  have order := reading.order
  have lengths : (self.addressed left).length = (self.addressed right).length := by
    simpa using congrArg List.length order
  rw [filterMap_view_containers, filterMap_view_containers]
  apply congrArg (filterMap id)
  apply ext_getElem
  · rw [length_map, length_map, lengths]
  · intro index below below'
    rw [length_map] at below below'
    have here := congrArg (·[index]?) order
    simp only [getElem?_map, getElem?_eq_getElem below, getElem?_eq_getElem below',
      Option.map_some, Option.some.injEq, Prod.mk.injEq] at here
    have ⟨ids, names, ports⟩ := here
    have ips := (agree_of_fingerprints distinct equal (mem_of_addressed (getElem_mem below))
      (mem_of_addressed (getElem_mem below')) ids).1
    simp only [fingerprint] at ips
    rw [getElem_map, getElem_map, view, view, ips, names, ports]

theorem base_eq : self.base left = self.base right :=
  generateBaseFromPorts_of_view (view_containers distinct equal reading) self.machineId

theorem verdict_eq (render : Renderer) : self.verdict render left = self.verdict render right := by
  funext service config assemble
  unfold CaddyfileGenerator.verdict
  rw [serviceUpstreams_of_view (view_containers distinct equal reading)]

theorem globalVerdict_eq (render : Renderer) :
    globalVerdict self render left = globalVerdict self render right := by
  have configs := config_of_ids distinct equal reading.caddy
    (fun _ => mem_of_newestLocalCaddy) fun _ => mem_of_newestLocalCaddy
  have factor : ∀ records, globalVerdict self render records =
      ((self.newestLocalCaddy records).map (·.serviceSpec.caddyConfig)).bind fun config =>
        if config = "" then none
        else some (self.verdict render records caddyServiceName config
          (withGlobal (self.base records))) := by
    intro records
    rw [globalVerdict, Option.bind_map]
    rfl
  rw [factor, factor, configs, base_eq distinct equal reading, verdict_eq distinct equal reading]

theorem serviceConfig_iff (service config : String) :
    self.ServiceConfig left service config ↔ self.ServiceConfig right service config := by
  have configs := config_of_ids distinct equal (reading.newest service)
    (fun _ => mem_of_newest) fun _ => mem_of_newest
  unfold CaddyfileGenerator.ServiceConfig
  have chosen : ∀ records, (∃ container, newest (self.containers records) service =
      some container ∧ container.serviceSpec.caddyConfig = config) ↔
      (newest (self.containers records) service).map (·.serviceSpec.caddyConfig) =
        some config := by
    intro records
    rw [Option.map_eq_some_iff]
  rw [chosen, chosen, configs]

theorem customConfigs_eq :
    customConfigs (latestEntries self left) = customConfigs (latestEntries self right) := by
  have ascending := ascending_customConfigs self left
  have ascending' := ascending_customConfigs self right
  have nodup : ∀ configs : List (String × String),
      configs.Pairwise (fun first second => first.1 < second.1) → configs.Nodup := by
    intro configs sorted
    apply sorted.imp
    intro first second below same
    rw [same] at below
    exact lt_irrefl _ below
  have permuted : (customConfigs (latestEntries self left)).Perm
      (customConfigs (latestEntries self right)) := by
    apply (perm_ext_iff_of_nodup (nodup _ ascending) (nodup _ ascending')).mpr
    intro ⟨service, config⟩
    rw [mem_customConfigs, mem_customConfigs, serviceConfig_iff distinct equal reading]
  apply permuted.eq_of_pairwise _ ascending ascending'
  intro first second _ _ below above
  exact absurd below (lt_asymm above)

theorem outcomeOf_eq (render : Renderer) :
    outcomeOf self render left = outcomeOf self render right := by
  have global := globalVerdict_eq distinct equal reading render
  have judges : judge self render left = judge self render right := by
    funext front pieces item
    rw [judge, judge, verdict_eq distinct equal reading]
  unfold outcomeOf globalSkipped
  rw [global, base_eq distinct equal reading, judges, customConfigs_eq distinct equal reading]

end Outcome

section Body

theorem caddyfileBody_append {first : String} (line : '\n' ∉ first.toList) (rest : String) :
    caddyfileBody (first ++ "\n" ++ rest) = rest := by
  have cut : (first ++ "\n" ++ rest).toList = first.toList ++ '\n' :: rest.toList := by simp
  rw [caddyfileBody, cut, splitOnce_append line]
  exact String.ofList_toList

/-- The first line of the header. -/
def firstLine (self : CaddyfileGenerator) (now : Int) : String :=
  "# Caddyfile autogenerated by Uncloud on machine '" ++ self.machineName ++
    "' (DO NOT EDIT): " ++ String.ofList (rfc3339Utc now)

theorem newline_notMem_firstLine {self : CaddyfileGenerator}
    (name : '\n' ∉ self.machineName.toList) (now : Int) : '\n' ∉ (firstLine self now).toList := by
  have start : '\n' ∉ "# Caddyfile autogenerated by Uncloud on machine '".toList := by
    decide +kernel
  have warning : '\n' ∉ "' (DO NOT EDIT): ".toList := by decide
  have clock : '\n' ∉ (String.ofList (rfc3339Utc now)).toList := by
    rw [String.toList_ofList]
    exact newline_notMem_rfc3339Utc now
  unfold firstLine
  rw [String.toList_append, String.toList_append, String.toList_append]
  simp only [mem_append, not_or]
  exact ⟨⟨⟨start, name⟩, warning⟩, clock⟩

/-- The lines of the header after the first one. -/
def laterLines : String :=
  "# Automatically updated on service or health status changes.\n" ++
    "# Docs: https://uncloud.run/docs/concepts/ingress/overview\n" ++ "\n"

theorem caddyfileBody_header {self : CaddyfileGenerator} (name : '\n' ∉ self.machineName.toList)
    (now : Int) (text : String) :
    caddyfileBody (self.header now ++ "\n" ++ text) = laterLines ++ text := by
  have joined : ∀ first second third : String,
      first ++ "\n" ++ second ++ third ++ "\n" ++ text =
        first ++ "\n" ++ (second ++ third ++ "\n" ++ text) := by
    intro first second third
    simp only [String.append_assoc]
  exact (congrArg caddyfileBody (joined (firstLine self now) _ _)).trans
    (caddyfileBody_append (newline_notMem_firstLine name now) _)

/-- Lists of records with equal fingerprints that the generator reads alike get the same
Caddyfile after its first line. -/
theorem fingerprint_determines_body {self : CaddyfileGenerator} {left right : List ContainerRecord}
    (distinct : (right.map ContainerRecord.id).Nodup)
    (equal : fingerprintsEqual (fingerprintContainers left) (fingerprintContainers right) = true)
    (reading : SameReading self left right) (render : Renderer) {now later : Int}
    (name : '\n' ∉ self.machineName.toList ∨ now = later) :
    (self.generate render now left true).map caddyfileBody =
      (self.generate render later right true).map caddyfileBody := by
  rw [generate_eq, generate_eq, outcomeOf_eq distinct equal reading, base_eq distinct equal reading,
    Except.map, Except.map]
  cases name with
  | inl line => rw [caddyfileBody_header line, caddyfileBody_header line]
  | inr same => rw [same]

end Body

namespace Sample

/-- A generator whose validator accepts everything. -/
def accepting : CaddyfileGenerator where
  machineId := "m1"
  machineName := "one"
  validator := some fun _ => .ok ()

/-- A container of the service `web`. -/
def web (id created ip config : String) : ContainerRecord :=
  record id "m1" "web" created ip "web.example.com:80/http" config

def early : ContainerRecord := web "c1" "2026-08-12T00:00:00Z" "10.210.0.2" "x"

def late : ContainerRecord := web "c2" "2026-08-12T00:00:01Z" "10.210.0.3" "y"

theorem sorted_early_late :
    accepting.sortRecords [early, late] = accepting.sortRecords [late, early] := by
  have first : accepting.compareRecords early late ≠ .gt := by decide +kernel
  have second : ¬accepting.compareRecords late early ≠ .gt := by decide +kernel
  unfold CaddyfileGenerator.sortRecords
  simp only [insertionSort_cons, insertionSort_nil, orderedInsert_nil,
    orderedInsert_cons, if_pos first, if_neg second]

theorem sameReading_early_late : SameReading accepting [early, late] [late, early] where
  order := by rw [CaddyfileGenerator.addressed, CaddyfileGenerator.addressed, sorted_early_late]
  newest service := by
    unfold CaddyfileGenerator.containers
    rw [sorted_early_late]
  caddy := by
    unfold CaddyfileGenerator.newestLocalCaddy
    rw [sorted_early_late]

/-- A container that was created in the same second as `early`. -/
def twin : ContainerRecord := web "c2" "2026-08-12T00:00:00Z" "10.210.0.3" "y"

end Sample

open Sample

theorem fingerprint_determines_body_sample :
    (accepting.generate plain 0 [early, late] true).map caddyfileBody =
      (accepting.generate plain 60 [late, early] true).map
        caddyfileBody :=
  fingerprint_determines_body (by decide +kernel) (by decide +kernel)
    sameReading_early_late plain (.inl (by decide))

/-- The same two records in another order have equal fingerprints and different Caddyfiles. -/
theorem fingerprint_misses_order :
    ([early, twin].map ContainerRecord.id).Nodup ∧
      ([twin, early].map ContainerRecord.id).Nodup ∧
      fingerprintsEqual (fingerprintContainers [early, twin])
        (fingerprintContainers [twin, early]) = true ∧
      (accepting.generate plain 0 [early, twin] true).map
          caddyfileBody ≠
        (accepting.generate plain 0 [twin, early] true).map
          caddyfileBody := by
  refine ⟨by decide +kernel, by decide +kernel, by decide +kernel, ?_⟩
  intro same
  -- both containers are newest, so the config of the one that came first is taken
  have first : (outcomeOf accepting plain [early, twin]).accepted =
    [("web", "x")] := by decide +kernel
  have second : (outcomeOf accepting plain [twin, early]).accepted =
    [("web", "y")] := by decide +kernel
  have firstSkipped : (outcomeOf accepting plain
    [early, twin]).skipped = [] := by decide +kernel
  have secondSkipped : (outcomeOf accepting plain
    [twin, early]).skipped = [] := by decide +kernel
  rw [generate_eq, generate_eq] at same
  have bodies := Except.ok.inj same
  rw [caddyfileBody_header (by decide), caddyfileBody_header (by decide), Outcome.text,
    Outcome.text, first, second, firstSkipped, secondSkipped] at bodies
  generalize Outcome.front _ _ = front at bodies
  generalize Outcome.front _ _ = front' at bodies
  have ends : ∀ text front config : String, ∃ before, (text ++ (withServices front
      [("web", config)] ++ CaddyfileGenerator.errorSection [])).toList.reverse =
      '\n' :: (config.toList.reverse ++ before) := by
    intro text front config
    refine ⟨(text ++ front ++ "\n# User-defined config for service '" ++ "web" ++
      "'.\n").toList.reverse, ?_⟩
    simp [withServices, withService, CaddyfileGenerator.errorSection]
  have reversed := congrArg (fun text => text.toList.reverse) bodies
  obtain ⟨before, left⟩ := ends laterLines front "x"
  obtain ⟨before', right⟩ := ends laterLines front' "y"
  have letters := (List.cons.inj (left.symm.trans (reversed.trans right))).2
  exact absurd (List.cons.inj letters).1 (by decide)

end Ployz.Caddy
