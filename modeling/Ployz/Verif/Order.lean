import Ployz.Verif.Matching
import Ployz.Verif.Schedule

/-!
# Planning and the order of its input

The problem `schedule` solves mentions specs and machines by membership, so neither their
order nor the order of any loop changes a solution. What does depend on the order is which
definition of a volume comes first, and with it whether an existing volume is accepted.
-/

namespace Ployz.Scheduler

open Api VolumeScheduler List

variable {machines machines' : List Machine} {specs specs' : List ServiceSpec}

section Permutations

variable (hosts : machines'.Perm machines) (submitted : specs'.Perm specs)

include hosts submitted

/-- The coupling of the services is that of the machines and specs in any order. -/
theorem coupling_perm : coupling ⟨machines'⟩ specs' = coupling ⟨machines⟩ specs := by
  simp only [coupling, hosts.mem_iff, submitted.mem_iff]

omit hosts in
/-- Whether a volume is mixed does not depend on the order of the specs. -/
theorem mixed_perm (volume : String) : Mixed specs' volume ↔ Mixed specs volume := by
  simp only [Mixed, GlobalVolume, submitted.mem_iff]

/-- Whether there is a plan does not depend on the order of the machines and specs. -/
theorem plannable_perm : Plannable ⟨machines'⟩ specs' ↔ Plannable ⟨machines⟩ specs := by
  have choices := coupling_perm hosts submitted
  constructor <;> rintro ⟨placeable, unmixed, common⟩
  · refine ⟨?_, fun volume mixed => unmixed volume ((mixed_perm submitted volume).mpr mixed), ?_⟩
    · simpa only [hosts.mem_iff, submitted.mem_iff] using placeable
    · rwa [choices] at common
  · refine ⟨?_, fun volume mixed => unmixed volume ((mixed_perm submitted volume).mp mixed), ?_⟩
    · simpa only [hosts.mem_iff, submitted.mem_iff] using placeable
    · rwa [choices]

/-- The targets of a volume do not depend on the order of the machines and specs. -/
theorem isTarget_perm (id volume : String) :
    IsTarget ⟨machines'⟩ specs' id volume ↔ IsTarget ⟨machines⟩ specs id volume := by
  simp only [IsTarget, coupling_perm hosts submitted, submitted.mem_iff]

end Permutations

variable {order order' : HashOrder}

/-- The same definitions are read in every order. -/
theorem mem_definitions_perm (submitted : specs'.Perm specs) (definition : String × VolumeSpec) :
    definition ∈ definitions order' specs' ↔ definition ∈ definitions order specs := by
  obtain ⟨service, volume⟩ := definition
  simp only [mem_definitions, submitted.mem_iff]

/-- The names of the volumes the map schedules on the machine with the id. -/
def scheduledNames (scheduled : OrdMap String (List VolumeSpec)) (id : String) : Finset String :=
  ((scheduled.getD id []).map VolumeSpec.dockerVolumeName).toFinset

/-- Two maps schedule volumes of the same names on the same machines. -/
def SamePlan (scheduled scheduled' : OrdMap String (List VolumeSpec)) : Prop :=
  ∀ id, (id ∈ scheduled ↔ id ∈ scheduled') ∧ scheduledNames scheduled id = scheduledNames scheduled' id

/-- Both runs fail, or both succeed with the same plan. -/
def SameOutcome (left right : Exec ScheduleError (OrdMap String (List VolumeSpec))) : Prop :=
  match left, right with
  | .ok scheduled, .ok scheduled' => SamePlan scheduled scheduled'
  | .error _, .error _ => True
  | _, _ => False

/-- Planning has the same outcome in every order of the specs, the machines, the hash maps and the
loops. -/
def OrderIndependent (externals : Externals) (state : ClusterState) (specs : List ServiceSpec) :
    Prop :=
  ∀ (order order' : HashOrder) (visit visit' : VisitOrder) (machines machines' : List Machine)
    (submitted submitted' : List ServiceSpec), machines.Perm state.machines →
      machines'.Perm state.machines → submitted.Perm specs → submitted'.Perm specs →
        SameOutcome (planning externals order visit ⟨machines⟩ submitted)
          (planning externals order' visit' ⟨machines'⟩ submitted')

/-- All definitions of a volume that exists ask for exactly the same driver, once defaulted. -/
def UniformDrivers (state : ClusterState) (specs : List ServiceSpec) : Prop :=
  ∀ left ∈ specs, ∀ right ∈ specs, ∀ mounted ∈ left.dockerVolumeMounts,
    ∀ mounted' ∈ right.dockerVolumeMounts, mounted.dockerVolumeName = mounted'.dockerVolumeName →
      state.HasVolume mounted.dockerVolumeName →
        mounted.withDefaults.driver? = mounted'.withDefaults.driver?

/-- The first definition of a volume is that of a spec which mounts it. -/
theorem exists_mounted_of_firstDefinition {volume : String} {first : VolumeSpec}
    (found : firstDefinition (definitions order specs) volume = some first) :
    ∃ spec ∈ specs, ∃ mounted ∈ spec.dockerVolumeMounts, first = canonical mounted ∧
      mounted.kind = volumeTypeVolume ∧ mounted.dockerVolumeName = volume := by
  obtain ⟨service, defined, named⟩ := mem_of_firstDefinition found
  obtain ⟨spec, member, _, mounted, inside, form⟩ := mem_definitions.mp defined
  refine ⟨spec, member, mounted, inside, form.symm,
    (ServiceSpec.volume_of_mem_dockerVolumeMounts inside).2, ?_⟩
  rw [← canonical_name, form, named]

/-- The volume is mounted, and is to be created on the machine with the id. -/
def Due (state : ClusterState) (specs : List ServiceSpec) (id volume : String) : Prop :=
  (∃ spec ∈ specs, Mounts spec volume) ∧ IsTarget state specs id volume

/-- The map a planning run returns: for each machine, the first definitions of the volumes due. -/
structure Planned (order : HashOrder) (state : ClusterState) (specs : List ServiceSpec)
    (scheduled : OrdMap String (List VolumeSpec)) : Prop where
  occupied : OrdMap.Occupied scheduled
  listed : ∀ id spec, spec ∈ scheduled.getD id [] ↔
    firstDefinition (definitions order specs) spec.dockerVolumeName = some spec ∧
      IsTarget state specs id spec.dockerVolumeName

/-- What a planning run returns, and that it fails for every other input. -/
theorem planning_spec (externals : Externals) (order : HashOrder) (visit : VisitOrder)
    (state : ClusterState) (specs : List ServiceSpec) :
    Ends (planning externals order visit state specs)
      (fun scheduled => Accepted externals order state specs ∧ Plannable state specs ∧
        Planned order state specs scheduled)
      (fun _ => ¬ (Accepted externals order state specs ∧ Plannable state specs)) := by
  rw [planning]
  cases constructed : VolumeScheduler.new externals order state specs with
  | error reason =>
    have rejected := (new_spec externals order state specs).of_error constructed
    exact fun both => rejected both.1
  | ok scheduler =>
    obtain ⟨accepted, reads⟩ := (new_spec externals order state specs).of_ok constructed
    refine (scheduleIn_spec reads visit).mono ?_ fun fault failed both => failed.2.2 both.2
    rintro scheduled ⟨_, plannable, solves⟩
    have perm := visit.placing_perm scheduler.volumeSpecs.toList
    refine ⟨accepted, plannable, solves.occupied, fun id spec => ?_⟩
    rw [solves.lists]
    simp only [plannedOn, mem_map, mem_filter, decide_eq_true_eq]
    constructor
    · rintro ⟨entry, ⟨visited, target⟩, rfl⟩
      have inside := perm.mem_iff.mp visited
      rw [reads.entry_name inside, ← reads.volumeSpecs]
      exact ⟨OrdMap.mem_toList.mp inside, target⟩
    · rintro ⟨first, target⟩
      rw [← reads.volumeSpecs] at first
      exact ⟨(_, spec), ⟨perm.mem_iff.mpr (OrdMap.mem_toList.mpr first), target⟩, rfl⟩

variable {state : ClusterState} {scheduled : OrdMap String (List VolumeSpec)}

/-- A plan lists the names of the volumes that are due. -/
theorem Planned.names (planned : Planned order state specs scheduled) (id volume : String) :
    volume ∈ scheduledNames scheduled id ↔ Due state specs id volume := by
  simp only [scheduledNames, mem_toFinset, mem_map, planned.listed]
  constructor
  · rintro ⟨spec, ⟨first, target⟩, rfl⟩
    obtain ⟨service, member, mounted, inside, _, _, named⟩ :=
      exists_mounted_of_firstDefinition first
    exact ⟨⟨service, member, mounted, inside, named⟩, target⟩
  · rintro ⟨mounted, target⟩
    have defined : (firstDefinition (definitions order specs) volume).isSome :=
      firstDefinition_isSome.mpr mounted
    obtain ⟨first, found⟩ := Option.isSome_iff_exists.mp defined
    obtain ⟨_, _, definition, _, rfl, _, rfl⟩ := exists_mounted_of_firstDefinition found
    have named := canonical_dockerVolumeName definition
    refine ⟨canonical definition, ?_, named⟩
    rw [named]
    exact ⟨found, target⟩

variable {volume : DockerVolume}

/-- The canonical form of a definition suits the same volumes. -/
theorem canonical_matches_iff {mounted : VolumeSpec} (kind : mounted.kind = volumeTypeVolume) :
    (canonical mounted).matchesDockerVolume volume = true ↔
      mounted.matchesDockerVolume volume = true := by
  rw [matchesDockerVolume_iff kind, matchesDockerVolume_iff ((canonical_kind mounted).trans kind),
    canonical_dockerVolumeName, canonical_withDefaults_driver? kind]
  rfl

variable {mounted mounted' : VolumeSpec}

/-- A definition with the driver of one that suits a volume suits it too. -/
theorem matches_of_driver?_eq (kind : mounted.kind = volumeTypeVolume)
    (kind' : mounted'.kind = volumeTypeVolume)
    (named : mounted'.dockerVolumeName = mounted.dockerVolumeName)
    (drivers : mounted'.withDefaults.driver? = mounted.withDefaults.driver?)
    (suits : (canonical mounted).matchesDockerVolume volume = true) :
    (canonical mounted').matchesDockerVolume volume = true := by
  rw [canonical_matches_iff kind, matchesDockerVolume_iff kind] at suits
  rw [canonical_matches_iff kind', matchesDockerVolume_iff kind', named, drivers]
  exact suits

/-- Consistent definitions that suit one volume have the same driver. -/
theorem driver?_eq_of_matches (consistent : Consistent (definitions order specs))
    {left right : ServiceSpec} (member : left ∈ specs) (member' : right ∈ specs)
    (inside : mounted ∈ left.dockerVolumeMounts) (inside' : mounted' ∈ right.dockerVolumeMounts)
    (named : mounted.dockerVolumeName = mounted'.dockerVolumeName)
    (suits : (canonical mounted).matchesDockerVolume volume = true)
    (suits' : (canonical mounted').matchesDockerVolume volume = true) :
    mounted.withDefaults.driver? = mounted'.withDefaults.driver? := by
  have kind := (ServiceSpec.volume_of_mem_dockerVolumeMounts inside).2
  have kind' := (ServiceSpec.volume_of_mem_dockerVolumeMounts inside').2
  have same : (canonical mounted).equivalent (canonical mounted') := by
    refine consistent (left.name, canonical mounted) ?_ (right.name, canonical mounted') ?_ ?_
    · exact mem_definitions.mpr ⟨left, member, rfl, mounted, inside, rfl⟩
    · exact mem_definitions.mpr ⟨right, member', rfl, mounted', inside', rfl⟩
    · rw [canonical_name, canonical_name, named]
  exact ((matches_iff_driver?_eq kind kind' same suits).mp
    ((canonical_matches_iff kind').mp suits')).2.symm

variable {externals : Externals}

/-- Specs are accepted whatever the order of the machines. -/
theorem Accepted.of_hosts (hosts : machines'.Perm machines)
    (accepted : Accepted externals order ⟨machines⟩ specs) :
    Accepted externals order ⟨machines'⟩ specs :=
  { accepted with
    matching := fun machine hosted => accepted.matching machine (hosts.mem_iff.mp hosted) }

/-- Drivers are uniform in every order of the machines and specs. -/
theorem UniformDrivers.perm (uniform : UniformDrivers ⟨machines⟩ specs)
    (hosts : machines'.Perm machines) (submitted : specs'.Perm specs) :
    UniformDrivers ⟨machines'⟩ specs' := by
  simpa only [UniformDrivers, ClusterState.HasVolume, hosts.mem_iff, submitted.mem_iff]
    using uniform

/-- Where the drivers are uniform, specs are accepted in every order. -/
theorem Accepted.perm (uniform : UniformDrivers ⟨machines⟩ specs) (hosts : machines'.Perm machines)
    (submitted : specs'.Perm specs) (accepted : Accepted externals order ⟨machines⟩ specs) :
    Accepted externals order' ⟨machines'⟩ specs' := by
  refine ⟨fun spec member => accepted.valid spec (submitted.mem_iff.mp member),
    (submitted.map _).nodup_iff.mpr accepted.names, ?_, ?_⟩
  · intro left inside right inside'
    exact accepted.consistent left ((mem_definitions_perm submitted left).mp inside) right
      ((mem_definitions_perm submitted right).mp inside')
  · intro machine hosted existing held first found
    obtain ⟨spec, member, mounted, inside, rfl, kind, named⟩ :=
      exists_mounted_of_firstDefinition found
    have here := submitted.mem_iff.mp member
    -- the definition that comes first in the accepted order
    have some : (firstDefinition (definitions order specs) existing.name).isSome :=
      firstDefinition_isSome.mpr ⟨spec, here, mounted, inside, named⟩
    obtain ⟨leader, found'⟩ := Option.isSome_iff_exists.mp some
    have suits := accepted.matching machine (hosts.mem_iff.mp hosted) existing held leader found'
    obtain ⟨spec', member', mounted', inside', rfl, kind', named'⟩ :=
      exists_mounted_of_firstDefinition found'
    refine matches_of_driver?_eq kind' kind (named.trans named'.symm) ?_ suits
    exact uniform spec here spec' member' mounted inside mounted' inside'
      (named.trans named'.symm) ⟨machine, hosts.mem_iff.mp hosted, existing, held, named.symm⟩

/-- A hash order that yields one volume before all others. -/
def HashOrder.leading (volume : VolumeSpec) : HashOrder where
  arrange _ volumes := if volume ∈ volumes then volume :: volumes.erase volume else volumes
  perm _ volumes := by
    split_ifs with member
    · exact (perm_cons_erase member).symm
    · exact List.Perm.refl _

/-- A leading volume of the first spec that mounts it is defined first. -/
theorem firstDefinition_leading {before rest : List ServiceSpec} {spec : ServiceSpec}
    (inside : mounted ∈ spec.dockerVolumeMounts)
    (earliest : ∀ other ∈ before, ¬ Mounts other mounted.dockerVolumeName) :
    firstDefinition (definitions (HashOrder.leading mounted) (before ++ spec :: rest))
      mounted.dockerVolumeName = some (canonical mounted) := by
  have yielded : mounted ∈ lastByName spec.dockerVolumeMounts :=
    ((HashOrder.insertion.perm spec _).mem_iff.mp
      (ServiceSpec.mem_mountedDockerVolumes.mpr inside : mounted ∈
        spec.mountedDockerVolumes HashOrder.insertion))
  have first : spec.mountedDockerVolumes (HashOrder.leading mounted) =
      mounted :: (lastByName spec.dockerVolumeMounts).erase mounted := if_pos yielded
  have unseen : (definitions (HashOrder.leading mounted) before).find?
      (fun definition => definition.2.name = mounted.dockerVolumeName) = none := by
    refine find?_eq_none.mpr fun definition member => ?_
    obtain ⟨other, member', _, mounted', inside', form⟩ := mem_definitions.mp member
    rw [decide_eq_true_eq, ← form, canonical_name]
    exact fun same => earliest other member' ⟨mounted', inside', same⟩
  rw [definitions_append, firstDefinition, find?_append, unseen, Option.none_or, definitions,
    flatMap_cons, first, map_cons, cons_append,
    find?_cons_of_pos (by simp [canonical_name])]
  rfl

/-- Runs with the same volumes due return the same plan. -/
theorem samePlan_of_due {state' : ClusterState} {scheduled' : OrdMap String (List VolumeSpec)}
    (planned : Planned order state specs scheduled)
    (planned' : Planned order' state' specs' scheduled')
    (same : ∀ id volume, Due state specs id volume ↔ Due state' specs' id volume) :
    SamePlan scheduled scheduled' := by
  have equal : ∀ id, scheduledNames scheduled id = scheduledNames scheduled' id := by
    intro id
    ext volume
    rw [planned.names, planned'.names, same]
  have empty : ∀ (map : OrdMap String (List VolumeSpec)) id,
      map.getD id [] = [] ↔ scheduledNames map id = ∅ := by
    intro map id
    rw [scheduledNames, toFinset_eq_empty_iff, map_eq_nil_iff]
  refine fun id => ⟨?_, equal id⟩
  rw [planned.occupied, planned'.occupied, ne_eq, ne_eq, empty, empty, equal]

/-- Runs on the same input in other orders that accept it alike end alike. -/
theorem sameOutcome_of_accepted_iff (visit visit' : VisitOrder) (hosts : machines'.Perm machines)
    (submitted : specs'.Perm specs)
    (accepts : Plannable ⟨machines⟩ specs → (Accepted externals order ⟨machines⟩ specs ↔
      Accepted externals order' ⟨machines'⟩ specs')) :
    SameOutcome (planning externals order visit ⟨machines⟩ specs)
      (planning externals order' visit' ⟨machines'⟩ specs') := by
  have left := planning_spec externals order visit ⟨machines⟩ specs
  have right := planning_spec externals order' visit' ⟨machines'⟩ specs'
  have plannable := plannable_perm hosts submitted
  cases outcome : planning externals order visit ⟨machines⟩ specs with
  | ok scheduled =>
    obtain ⟨accepted, possible, planned⟩ := left.of_ok outcome
    cases outcome' : planning externals order' visit' ⟨machines'⟩ specs' with
    | ok scheduled' =>
      obtain ⟨_, _, planned'⟩ := right.of_ok outcome'
      refine samePlan_of_due planned planned' fun id volume => ?_
      rw [Due, Due, isTarget_perm hosts submitted]
      simp only [submitted.mem_iff]
    | error fault =>
      exact right.of_error outcome' ⟨(accepts possible).mp accepted, plannable.mpr possible⟩
  | error fault =>
    cases outcome' : planning externals order' visit' ⟨machines'⟩ specs' with
    | ok scheduled' =>
      obtain ⟨accepted, possible', _⟩ := right.of_ok outcome'
      have possible := plannable.mp possible'
      exact left.of_error outcome ⟨(accepts possible).mpr accepted, possible⟩
    | error fault' => trivial

/-- The outcome of planning is independent of every order exactly when the existing volumes have
uniform definitions, or no order succeeds at all. -/
theorem planning_order_independent_iff (externals : Externals) (state : ClusterState)
    (specs : List ServiceSpec) : OrderIndependent externals state specs ↔
      (Plannable state specs → (∃ order submitted, submitted.Perm specs ∧
        Accepted externals order state submitted) → UniformDrivers state specs) := by
  constructor
  · rintro independent plannable ⟨order, submitted, perm, accepted⟩
    -- in every order the run succeeds, so every definition that can come first is accepted
    have always : ∀ order' submitted', submitted'.Perm specs →
        Accepted externals order' state submitted' := by
      intro order' submitted' perm'
      have same := independent order order' .ascending .ascending state.machines state.machines
        submitted submitted' (.refl _) (.refl _) perm perm'
      have possible : Plannable state submitted := (plannable_perm (.refl _) perm).mpr plannable
      cases outcome : planning externals order .ascending state submitted with
      | error fault =>
        exact absurd ⟨accepted, possible⟩ ((planning_spec _ _ _ _ _).of_error outcome)
      | ok scheduled =>
        cases outcome' : planning externals order' .ascending state submitted' with
        | error fault =>
          simp only [SameOutcome, outcome, outcome'] at same
        | ok scheduled' => exact ((planning_spec _ _ _ _ _).of_ok outcome').1
    have leads : ∀ spec ∈ specs, ∀ mounted ∈ spec.dockerVolumeMounts,
        ∀ machine ∈ state.machines, ∀ existing ∈ machine.volumes,
          existing.name = mounted.dockerVolumeName →
            (canonical mounted).matchesDockerVolume existing = true := by
      intro spec member mounted inside machine hosted existing held named
      have first : firstDefinition (definitions (HashOrder.leading mounted)
          (spec :: specs.erase spec)) mounted.dockerVolumeName = some (canonical mounted) :=
        firstDefinition_leading inside fun other none => absurd none not_mem_nil
      rw [← named] at first
      exact (always (HashOrder.leading mounted) (spec :: specs.erase spec)
        (perm_cons_erase member).symm).matching machine hosted existing held _ first
    rintro left member right member' mounted inside mounted' inside' named
      ⟨machine, hosted, existing, held, name⟩
    exact driver?_eq_of_matches (always order specs (.refl _)).consistent member member' inside
      inside' named (leads left member mounted inside machine hosted existing held name)
      (leads right member' mounted' inside' machine hosted existing held (name.trans named))
  · intro uniform order order' visit visit' machines machines' submitted submitted' hosts hosts'
      perm perm'
    refine sameOutcome_of_accepted_iff visit visit' (hosts'.trans hosts.symm)
      (perm'.trans perm.symm) fun possible => ?_
    have plannable : Plannable state specs := (plannable_perm hosts perm).mp possible
    constructor
    · intro accepted
      have drivers := uniform plannable ⟨order, submitted, perm, accepted.of_hosts hosts.symm⟩
      exact accepted.perm (drivers.perm hosts perm) (hosts'.trans hosts.symm)
        (perm'.trans perm.symm)
    · intro accepted
      have drivers := uniform plannable ⟨order', submitted', perm', accepted.of_hosts hosts'.symm⟩
      exact accepted.perm (drivers.perm hosts' perm') (hosts.trans hosts'.symm)
        (perm.trans perm'.symm)

/-- One machine with a local volume that was created without options. -/
def Sample.localCluster : ClusterState :=
  ⟨[Sample.machine "m1" [⟨"data", "local", .default⟩]]⟩

/-- Two services that define the volume alike, up to nil and empty options. -/
def Sample.nilAndEmpty : List ServiceSpec :=
  [Sample.service "a" "" [] [Sample.volume "data" (some ⟨"local", .default⟩)],
    Sample.service "b" "" [] [Sample.volume "data" (some ⟨"local", .ofMap ∅⟩)]]

/-- With the nil definition first the specs are planned, with the empty one first the existing
volume is refused. -/
theorem planning_order_matters : Sample.localCluster.DistinctIds ∧
    (planning Sample.externals .insertion .ascending Sample.localCluster
      Sample.nilAndEmpty).isOk = true ∧
    planning Sample.externals .insertion .ascending Sample.localCluster
      Sample.nilAndEmpty.reverse = .error (.error (.existingVolumeMismatch "data" "m1")) ∧
    ¬ OrderIndependent Sample.externals Sample.localCluster Sample.nilAndEmpty := by
  have planned : (planning Sample.externals .insertion .ascending Sample.localCluster
      Sample.nilAndEmpty).isOk = true := by decide +kernel
  have failed : planning Sample.externals .insertion .ascending Sample.localCluster
      Sample.nilAndEmpty.reverse = .error (.error (.existingVolumeMismatch "data" "m1")) :=
    eq_error_of_failure? (by decide +kernel)
  refine ⟨by unfold ClusterState.DistinctIds; decide, planned, failed, fun independent => ?_⟩
  have same := independent .insertion .insertion .ascending .ascending
    Sample.localCluster.machines Sample.localCluster.machines Sample.nilAndEmpty
    Sample.nilAndEmpty.reverse (.refl _) (.refl _) (.refl _) (reverse_perm _)
  cases outcome : planning Sample.externals .insertion .ascending Sample.localCluster
      Sample.nilAndEmpty with
  | error fault =>
    rw [outcome] at planned
    cases planned
  | ok scheduled => simp only [SameOutcome, outcome, failed] at same

end Ployz.Scheduler
