import Ployz.Verif.Plan

/-!
# Soundness, completeness and exactness of scheduling

The results about `schedule` in terms of the cluster itself: assignments of services to
machines, the volumes the returned map places and where, and the cluster state it leaves.
-/

namespace Ployz.Scheduler

open Api VolumeScheduler List

/-- Some machine of the cluster has the volume. -/
def ClusterState.HasVolume (state : ClusterState) (volume : String) : Prop :=
  ∃ machine ∈ state.machines, machine.Holds volume

/-- A replicated service that mounts a named volume. -/
def Choosing (specs : List ServiceSpec) (spec : ServiceSpec) : Prop :=
  spec ∈ specs ∧ mountsAny spec ∧ ¬ IsGlobal spec

/-- An assignment of the replicated services to machines that suits them all. -/
structure Assignment (state : ClusterState) (specs : List ServiceSpec)
    (host : ServiceSpec → Machine) : Prop where
  /-- The machine is one of the cluster that the placement of the service accepts. -/
  placed : ∀ spec, Choosing specs spec → host spec ∈ state.machines ∧ Allows spec (host spec)
  /-- The machine has every volume of the service that exists anywhere. -/
  holding : ∀ spec, Choosing specs spec → ∀ volume, Mounts spec volume →
    state.HasVolume volume → (host spec).Holds volume
  /-- Services that mount one volume that exists nowhere are together. -/
  together : ∀ spec other, Choosing specs spec → Choosing specs other → ∀ volume,
    Mounts spec volume → Mounts other volume → ¬ state.HasVolume volume → host spec = host other

/-- The map schedules the volume on the machine with the id. -/
def Schedules (scheduled : OrdMap String (List VolumeSpec)) (id volume : String) : Prop :=
  ∃ spec ∈ scheduled.getD id [], spec.dockerVolumeName = volume

/-- The ids tell the machines apart. -/
def ClusterState.DistinctIds (state : ClusterState) : Prop :=
  (state.machines.map (·.info.id)).Nodup

section Bridge

variable {state : ClusterState} {specs : List ServiceSpec}

theorem present_iff {volume : String} :
    (coupling state specs).Present volume ↔ state.HasVolume volume := by
  constructor
  · rintro ⟨_, machine, member, _, holds⟩
    exact ⟨machine, member, holds⟩
  · rintro ⟨machine, member, holds⟩
    exact ⟨_, machine, member, rfl, holds⟩

theorem ClusterState.DistinctIds.machine_eq (distinct : state.DistinctIds)
    {machine other : Machine} (member : machine ∈ state.machines)
    (member' : other ∈ state.machines) (same : machine.info.id = other.info.id) :
    machine = other :=
  inj_on_of_nodup_map distinct member member' same

theorem Choosing.user {spec : ServiceSpec} (choosing : Choosing specs spec) :
    (coupling state specs).User spec.name := by
  obtain ⟨member, mounting, replicated⟩ := choosing
  obtain ⟨volume, mounts⟩ := exists_mounts mounting
  exact ⟨volume, spec, member, rfl, replicated, mounts⟩

/-- Where there is an assignment, coupled services share a machine. -/
theorem Assignment.common_nonempty {host : ServiceSpec → Machine}
    (assignment : Assignment state specs host) (names : (specs.map ServiceSpec.name).Nodup)
    {service : String} (user : (coupling state specs).User service) :
    ((coupling state specs).common service).Nonempty := by
  -- the id chosen for a name is the one of the host of its spec
  let choice : String → String := fun name =>
    match specs.find? (·.name = name) with
    | some spec => (host spec).info.id
    | none => ""
  have chosen : ∀ spec ∈ specs, choice spec.name = (host spec).info.id := by
    intro spec member
    have found : specs.find? (·.name = spec.name) = some spec := by
      cases outcome : specs.find? (·.name = spec.name) with
      | none => exact absurd (find?_eq_none.mp outcome spec member) (by simp)
      | some other =>
        have named : other.name = spec.name := by simpa using find?_some outcome
        rw [inj_on_of_nodup_map names (mem_of_find?_eq_some outcome) member named]
    simp only [choice, found]
  refine Coupling.exists_assigns_iff.mp ⟨choice, ?_, ?_⟩ service user
  · rintro name ⟨volume, spec, member, rfl, replicated, mounts⟩
    have choosing : Choosing specs spec := ⟨member, mounts.mountsAny, replicated⟩
    obtain ⟨hosted, allows⟩ := assignment.placed spec choosing
    rw [chosen spec member]
    refine ⟨⟨spec, member, rfl, host spec, hosted, rfl, allows⟩, ?_⟩
    rintro other ⟨spec', member', named, _, mounts'⟩ present
    rw [inj_on_of_nodup_map names member' member named] at mounts'
    exact ⟨host spec, hosted, rfl,
      assignment.holding spec choosing other mounts' (present_iff.mp present)⟩
  · rintro name name' ⟨volume, absent, ⟨spec, member, rfl, replicated, mounts⟩,
      ⟨spec', member', rfl, replicated', mounts'⟩⟩
    rw [chosen spec member, chosen spec' member', assignment.together spec spec'
      ⟨member, mounts.mountsAny, replicated⟩ ⟨member', mounts'.mountsAny, replicated'⟩ volume
      mounts mounts' (fun has => absent (present_iff.mpr has))]

/-- A plannable problem has an assignment. -/
theorem Plannable.exists_assignment (plannable : Plannable state specs)
    (names : (specs.map ServiceSpec.name).Nodup) (distinct : state.DistinctIds) :
    ∃ host, Assignment state specs host ∧ ∀ spec, Choosing specs spec →
      IsLeast ((coupling state specs).common spec.name) (host spec).info.id := by
  have hosts : ∀ spec, Choosing specs spec → ∃ machine ∈ state.machines, Allows spec machine ∧
      IsLeast ((coupling state specs).common spec.name) machine.info.id := by
    intro spec choosing
    obtain ⟨id, least⟩ := exists_isLeast_common (plannable.common _ choosing.user)
    obtain ⟨other, member, named, machine, hosted, rfl, allows⟩ :=
      (Coupling.common_subset_fit _ least.1).1
    rw [inj_on_of_nodup_map names member choosing.1 named] at allows
    exact ⟨machine, hosted, allows, least⟩
  choose host hosted allows least using hosts
  have fallback : Machine := ⟨{ id := "", name := "", network := none, publicIp := none }, [], []⟩
  classical
  refine ⟨fun spec => if choosing : Choosing specs spec then host spec choosing else fallback,
    ⟨fun spec choosing => ?_, fun spec choosing volume mounts has => ?_,
      fun spec other choosing choosing' volume mounts mounts' lacks => ?_⟩,
    fun spec choosing => ?_⟩
  · simp only [dif_pos choosing]
    exact ⟨hosted spec choosing, allows spec choosing⟩
  · simp only [dif_pos choosing]
    obtain ⟨_, suits⟩ := Coupling.common_subset_fit _ (least spec choosing).1
    obtain ⟨machine, member, same, holds⟩ := suits volume
      ⟨spec, choosing.1, rfl, choosing.2.2, mounts⟩ (present_iff.mpr has)
    rw [← distinct.machine_eq member (hosted spec choosing) same]
    exact holds
  · simp only [dif_pos choosing, dif_pos choosing']
    have linked : (coupling state specs).Linked spec.name other.name :=
      ⟨volume, fun present => lacks (present_iff.mp present),
        ⟨spec, choosing.1, rfl, choosing.2.2, mounts⟩,
        ⟨other, choosing'.1, rfl, choosing'.2.2, mounts'⟩⟩
    have least' := least other choosing'
    rw [← Coupling.common_eq_of_linked linked] at least'
    exact distinct.machine_eq (hosted spec choosing) (hosted other choosing')
      ((least spec choosing).unique least')
  · simp only [dif_pos choosing]
    exact least spec choosing

end Bridge

section Result

variable {order : HashOrder} {state : ClusterState} {specs : List ServiceSpec}
  {scheduler : VolumeScheduler} {scheduled : OrdMap String (List VolumeSpec)}

theorem Reads.entry_name (reads : Reads order state specs scheduler)
    {entry : String × VolumeSpec} (inside : entry ∈ scheduler.volumeSpecs.toList) :
    entry.2.dockerVolumeName = entry.1 := by
  have found : scheduler.volumeSpecs[entry.1]? = some entry.2 := OrdMap.mem_toList.mp inside
  rw [reads.volumeSpecs] at found
  obtain ⟨service, defined, named⟩ := mem_of_firstDefinition found
  obtain ⟨_, _, _, mounted, _, form⟩ := mem_definitions.mp defined
  rw [← named, ← form, canonical_dockerVolumeName, canonical_name]

variable {entries : List (String × VolumeSpec)} (reads : Reads order state specs scheduler)

include reads

/-- A mounted volume is listed for a machine once when the machine is its target, and not at all
otherwise. -/
theorem Reads.countP_plannedOn {volume : String} (mounted : ∃ spec ∈ specs, Mounts spec volume)
    (perm : entries.Perm scheduler.volumeSpecs.toList) (id : String) :
    (IsTarget state specs id volume →
      (plannedOn state specs entries id).countP (·.dockerVolumeName = volume) = 1) ∧
    (¬ IsTarget state specs id volume →
      (plannedOn state specs entries id).countP (·.dockerVolumeName = volume) = 0) := by
  classical
  have listed : volume ∈ entries.map Prod.fst := by
    rw [(perm.map Prod.fst).mem_iff, OrdMap.mem_map_fst_toList]
    exact reads.mem_volumeSpecs.mpr mounted
  have distinct : (entries.map Prod.fst).Nodup :=
    (perm.map Prod.fst).nodup_iff.mpr (OrdMap.nodup_keys_toList _)
  have named : ∀ entry ∈ entries, entry.2.dockerVolumeName = entry.1 :=
    fun entry inside => reads.entry_name (perm.mem_iff.mp inside)
  rw [plannedOn, countP_map, countP_filter]
  refine ⟨fun target => ?_, fun target => ?_⟩
  · have same : entries.countP (fun entry => decide (((fun spec : VolumeSpec =>
        decide (spec.dockerVolumeName = volume)) ∘ Prod.snd) entry = true ∧
          decide (IsTarget state specs id entry.1) = true)) =
        (entries.map Prod.fst).count volume := by
      rw [List.count, countP_map]
      refine countP_congr fun entry inside => ?_
      simp only [Function.comp_apply, decide_eq_true_eq, named entry inside, beq_iff_eq]
      exact ⟨And.left, fun same => ⟨same, same ▸ target⟩⟩
    simp only [Bool.decide_and, Bool.decide_eq_true] at same
    rw [same]
    exact count_eq_one_of_mem distinct listed
  · refine countP_eq_zero.mpr fun entry inside => ?_
    simp only [Function.comp_apply, Bool.and_eq_true, decide_eq_true_eq, named entry inside,
      not_and]
    exact fun same => same ▸ target

/-- `schedule` solves the problem, or refuses it and changes nothing. -/
theorem scheduleIn_spec (visit : VisitOrder) :
    Ends (scheduler.scheduleIn visit).1
      (fun scheduled => (scheduler.scheduleIn visit).2 = recordScheduled state scheduled ∧
        Plannable state specs ∧
        Reads.Solves state specs (visit.placing scheduler.volumeSpecs.toList) scheduled)
      (fun fault => (scheduler.scheduleIn visit).2 = state ∧ Refusal fault ∧
        ¬ Plannable state specs) := by
  have planned := reads.plan_spec visit
  rw [scheduleIn]
  cases outcome : scheduler.plan visit with
  | ok scheduled => exact ⟨by rw [reads.snapshot], planned.of_ok outcome⟩
  | error fault => exact ⟨reads.snapshot, planned.of_error outcome⟩

/-- `schedule` returns a map exactly when the problem has a solution. -/
theorem scheduleIn_ok_iff (visit : VisitOrder) :
    (∃ scheduled, (scheduler.scheduleIn visit).1 = .ok scheduled) ↔ Plannable state specs := by
  have ends := scheduleIn_spec reads visit
  constructor
  · rintro ⟨scheduled, returned⟩
    exact (ends.of_ok returned).2.1
  · intro plannable
    cases outcome : (scheduler.scheduleIn visit).1 with
    | ok scheduled => exact ⟨scheduled, rfl⟩
    | error fault => exact absurd plannable (ends.of_error outcome).2.2

theorem Reads.exists_scheduled (perm : entries.Perm scheduler.volumeSpecs.toList)
    (solves : Solves state specs entries scheduled) {id volume : String}
    (target : IsTarget state specs id volume) (mounted : ∃ spec ∈ specs, Mounts spec volume) :
    Schedules scheduled id volume := by
  have once := (reads.countP_plannedOn mounted perm id).1 target
  rw [← solves.lists] at once
  have positive : 0 < (scheduled.getD id []).countP (·.dockerVolumeName = volume) := by omega
  simpa [Schedules] using countP_pos_iff.mp positive

end Result

variable {state : ClusterState}

theorem exists_of_planning_ok {externals : Externals} {order : HashOrder} {visit : VisitOrder}
    {specs : List ServiceSpec} {scheduled : OrdMap String (List VolumeSpec)}
    (returned : planning externals order visit state specs = .ok scheduled) :
    ∃ scheduler, VolumeScheduler.new externals order state specs = .ok scheduler ∧
      (scheduler.scheduleIn visit).1 = .ok scheduled := by
  rw [planning] at returned
  cases constructed : VolumeScheduler.new externals order state specs with
  | ok scheduler =>
    rw [constructed] at returned
    exact ⟨scheduler, rfl, returned⟩
  | error reason =>
    rw [constructed] at returned
    cases returned

namespace Sample

/-- An image parser that accepts every name. -/
def externals : Externals := ⟨fun _ => .ok ⟨none, none⟩, fun _ => .ok (), id⟩

/-- A machine with its volumes. -/
def machine (id : String) (volumes : List DockerVolume) : Machine :=
  ⟨{ id := id, name := id, network := none, publicIp := none }, volumes, []⟩

/-- A named volume. -/
def volume (name : String) (driver : Option Driver) : VolumeSpec :=
  ⟨name, volumeTypeVolume, none, none, some ⟨driver, .default, "", false, ""⟩⟩

/-- A service that mounts its volumes. -/
def service (name mode : String) (machines : List String) (volumes : List VolumeSpec) :
    ServiceSpec :=
  ⟨none, [], ⟨"image", volumes.map fun volume => ⟨volume.name, "/data", false⟩, []⟩, mode, name,
    ⟨machines⟩, [], none, volumes⟩

/-- Three machines, the second with a volume. -/
def cluster : ClusterState :=
  ⟨[machine "m1" [], machine "m2" [⟨"logs", "local", .default⟩], machine "m3" []]⟩

/-- One machine without volumes. -/
def emptyCluster : ClusterState := ⟨[machine "m1" []]⟩

/-- Two services share the missing `data`; the second also needs `logs`, which exists. A global
service has a volume of its own. -/
def specs : List ServiceSpec :=
  [service "web" "" [] [volume "data" none],
    service "db" "replicated" ["m1", "m2"] [volume "data" none, volume "logs" none],
    service "agent" "global" ["m1", "m3"] [volume "cache" none]]

/-- The sample is planned: `data` joins the holder of `logs`. -/
theorem planned : (planning externals .insertion .ascending cluster specs).toOption.map
    (fun scheduled => scheduled.toList.map fun entry => (entry.1, entry.2.map (·.name))) =
    some [("m1", ["cache"]), ("m2", ["data"]), ("m3", ["cache"])] := by
  decide +kernel

theorem calls : ∃ scheduler scheduled,
    VolumeScheduler.new externals .insertion cluster specs = .ok scheduler ∧
      scheduler.schedule.1 = .ok scheduled := by
  obtain ⟨scheduled, outcome, _⟩ := exists_ok_of_toOption planned
  obtain ⟨scheduler, constructed, returned⟩ := exists_of_planning_ok outcome
  exact ⟨scheduler, scheduled, constructed, returned⟩

theorem distinctIds : cluster.DistinctIds := by
  unfold ClusterState.DistinctIds
  decide

theorem unmixed (name : String) : ¬ Mixed specs name := by
  have globals : ∀ spec ∈ specs, spec.mode = serviceModeGlobal →
      spec.dockerVolumeMounts.map (·.dockerVolumeName) = ["cache"] := by decide
  have others : ∀ spec ∈ specs, spec.mode ≠ serviceModeGlobal →
      "cache" ∉ spec.dockerVolumeMounts.map (·.dockerVolumeName) := by decide
  rintro ⟨⟨spec, member, global, mounted, inside, rfl⟩, other, member', replicated, mounted',
    inside', same⟩
  have cache : mounted.dockerVolumeName ∈ spec.dockerVolumeMounts.map (·.dockerVolumeName) :=
    mem_map_of_mem inside
  rw [globals spec member global, mem_singleton] at cache
  rw [cache] at same
  exact others other member' replicated (mem_map.mpr ⟨mounted', inside', same⟩)

end Sample

open Sample

/-- Scheduling succeeds exactly when an assignment exists, the returned map realises one, and no
run reports a bug of its own or panics. -/
theorem schedule_sound_complete (externals : Externals) (order : HashOrder) (state : ClusterState)
    (specs : List ServiceSpec) (scheduler : VolumeScheduler) (distinct : state.DistinctIds)
    (accepted : VolumeScheduler.new externals order state specs = .ok scheduler) :
    ((∀ volume, ¬ Mixed specs volume) →
      ((∃ scheduled, scheduler.schedule.1 = .ok scheduled) ↔
        (∀ spec ∈ specs, mountsAny spec → ∃ machine ∈ state.machines, Allows spec machine) ∧
          ∃ host, Assignment state specs host)) ∧
    (∀ scheduled, scheduler.schedule.1 = .ok scheduled →
      (∀ spec ∈ specs, ∀ volume, Mounts spec volume → ¬ state.HasVolume volume →
        ∃ machine ∈ state.machines, Schedules scheduled machine.info.id volume) ∧
      ∃ host, Assignment state specs host ∧ ∀ spec, Choosing specs spec →
        ∀ volume, Mounts spec volume →
          (host spec).Holds volume ∨ Schedules scheduled (host spec).info.id volume) ∧
    (∀ fault, scheduler.schedule.1 = .error fault → fault ≠ .panic ∧
      (∀ message, fault ≠ .error (.internal message)) ∧
      ∀ volume machine source,
        fault ≠ .error (.propagationAfterScheduling volume machine source)) := by
  obtain ⟨accepts, reads⟩ := (new_spec externals order state specs).of_ok accepted
  have ends := scheduleIn_spec reads .ascending
  refine ⟨fun unmixed => ?_, fun scheduled returned => ?_, fun fault failed => ?_⟩
  · rw [schedule, scheduleIn_ok_iff reads]
    constructor
    · intro plannable
      obtain ⟨host, assignment, _⟩ := plannable.exists_assignment reads.names distinct
      exact ⟨plannable.placeable, host, assignment⟩
    · rintro ⟨placeable, host, assignment⟩
      exact ⟨placeable, unmixed, fun service user => assignment.common_nonempty reads.names user⟩
  · obtain ⟨_, plannable, solves⟩ := ends.of_ok returned
    have targeted : ∀ {id volume : String}, IsTarget state specs id volume →
        (∃ spec ∈ specs, Mounts spec volume) → Schedules scheduled id volume :=
      fun target mounted => reads.exists_scheduled (VisitOrder.placing_perm _ _) solves target
        mounted
    obtain ⟨host, assignment, least⟩ := plannable.exists_assignment reads.names distinct
    have missing : ∀ spec, Choosing specs spec → ∀ volume, Mounts spec volume →
        ¬ state.HasVolume volume → Schedules scheduled (host spec).info.id volume := by
      intro spec choosing volume mounts lacks
      exact targeted (.inr ⟨fun present => lacks (present_iff.mp present), spec.name,
        ⟨spec, choosing.1, rfl, choosing.2.2, mounts⟩, least spec choosing⟩)
        ⟨spec, choosing.1, mounts⟩
    refine ⟨fun spec member volume mounts lacks => ?_, host, assignment,
      fun spec choosing volume mounts => ?_⟩
    · by_cases global : IsGlobal spec
      · obtain ⟨machine, hosted, allows⟩ := plannable.placeable spec member mounts.mountsAny
        refine ⟨machine, hosted, targeted (.inl ⟨spec, member, global, mounts,
          ⟨spec, member, rfl, machine, hosted, rfl, allows⟩, ?_⟩) ⟨spec, member, mounts⟩⟩
        rintro ⟨other, hosted', _, holds⟩
        exact lacks ⟨other, hosted', holds⟩
      · have choosing : Choosing specs spec := ⟨member, mounts.mountsAny, global⟩
        exact ⟨host spec, (assignment.placed spec choosing).1,
          missing spec choosing volume mounts lacks⟩
    · by_cases has : state.HasVolume volume
      · exact .inl (assignment.holding spec choosing volume mounts has)
      · exact .inr (missing spec choosing volume mounts has)
  · obtain ⟨_, refusal, _⟩ := ends.of_error failed
    refine ⟨?_, ?_, ?_⟩
    · rintro rfl
      exact refusal
    · rintro message rfl
      exact refusal
    · rintro volume machine source rfl
      exact refusal

theorem schedule_sound_complete_sample : ∃ scheduler,
    VolumeScheduler.new externals .insertion cluster specs = .ok scheduler ∧
      (∃ scheduled, scheduler.schedule.1 = .ok scheduled) ∧
      ∃ host, Assignment cluster specs host := by
  obtain ⟨scheduler, scheduled, constructed, returned⟩ := calls
  have result := schedule_sound_complete externals .insertion cluster specs
    scheduler distinctIds constructed
  have possible := (result.1 unmixed).mp ⟨scheduled, returned⟩
  exact ⟨scheduler, constructed, ⟨scheduled, returned⟩, possible.2⟩

section Frame

variable {machines : List Machine}

theorem extendMachine_eq_map (distinct : (machines.map (·.info.id)).Nodup) (id : String)
    (volumes : List VolumeSpec) :
    extendMachine id volumes machines = machines.map fun machine =>
      if machine.info.id = id then
        { machine with scheduledVolumes := machine.scheduledVolumes ++ volumes }
      else machine := by
  induction machines with
  | nil => rfl
  | cons machine machines ih =>
    obtain ⟨fresh, distinct'⟩ := nodup_cons.mp distinct
    rw [extendMachine, map_cons]
    split_ifs with same
    · congr 1
      conv_lhs => rw [← map_id machines]
      refine map_congr_left fun other inside => (if_neg fun again => ?_).symm
      exact fresh (mem_map.mpr ⟨other, inside, again.trans same.symm⟩)
    · rw [ih distinct']

theorem foldl_extendMachine (entries : List (String × List VolumeSpec))
    (distinct : (machines.map (·.info.id)).Nodup) :
    entries.foldl (fun machines entry => extendMachine entry.1 entry.2 machines) machines =
      machines.map fun machine => { machine with
        scheduledVolumes := machine.scheduledVolumes ++
          (entries.filter fun entry => entry.1 = machine.info.id).flatMap Prod.snd } := by
  induction entries generalizing machines with
  | nil => simp
  | cons entry entries ih =>
    rw [foldl_cons, extendMachine_eq_map distinct, ih]
    · rw [map_map]
      refine map_congr_left fun machine _ => ?_
      by_cases same : machine.info.id = entry.1
      · simp [same]
      · simp [same, Ne.symm same]
    · have ids : (machines.map fun machine => if machine.info.id = entry.1 then
          { machine with scheduledVolumes := machine.scheduledVolumes ++ entry.2 }
          else machine).map (·.info.id) = machines.map (·.info.id) := by
        rw [map_map]
        refine map_congr_left fun machine _ => ?_
        simp only [Function.comp_apply]
        split_ifs <;> rfl
      rw [ids]
      exact distinct

/-- Each machine's scheduled volumes are extended by the specs listed for its id. -/
def ClusterState.extendedBy (state : ClusterState)
    (scheduled : OrdMap String (List VolumeSpec)) : ClusterState :=
  ⟨state.machines.map fun machine => { machine with
    scheduledVolumes := machine.scheduledVolumes ++ scheduled.getD machine.info.id [] }⟩

/-- The last loop of `schedule` extends every machine by the list under its id. -/
theorem recordScheduled_eq (distinct : state.DistinctIds)
    (scheduled : OrdMap String (List VolumeSpec)) :
    recordScheduled state scheduled = state.extendedBy scheduled := by
  rw [recordScheduled, foldl_extendMachine _ distinct, ClusterState.extendedBy]
  simp only [OrdMap.flatMap_filter_toList]

end Frame

/-- How often the map lists a volume for the machine with the id. -/
def occurrences (scheduled : OrdMap String (List VolumeSpec)) (id volume : String) : Nat :=
  (scheduled.getD id []).countP (·.dockerVolumeName = volume)

/-- The ids in the intersection of the eligible sets of all services connected to a volume
through volumes that exist nowhere. -/
def jointlyEligible (state : ClusterState) (specs : List ServiceSpec) (volume : String) :
    Set String :=
  {id | ∀ service other, (coupling state specs).uses service volume →
    (coupling state specs).Joined service other → id ∈ (coupling state specs).fit other}

theorem jointlyEligible_eq_common {specs : List ServiceSpec} {service volume : String}
    (absent : ¬ (coupling state specs).Present volume)
    (uses : (coupling state specs).uses service volume) :
    jointlyEligible state specs volume = (coupling state specs).common service := by
  ext id
  refine ⟨fun joint other joined => joint service other uses joined,
    fun common start other uses' joined => ?_⟩
  rw [Coupling.common_eq_of_linked ⟨volume, absent, uses, uses'⟩] at common
  exact common other joined

theorem IsTarget.exists_machine {specs : List ServiceSpec} {id volume : String}
    (target : IsTarget state specs id volume) :
    ∃ machine ∈ state.machines, machine.info.id = id := by
  rcases target with ⟨spec, _, _, _, allowed, _⟩ | ⟨_, service, _, least⟩
  · obtain ⟨_, _, _, machine, member, same, _⟩ := allowed
    exact ⟨machine, member, same⟩
  · obtain ⟨_, _, _, machine, member, same, _⟩ := (Coupling.common_subset_fit _ least.1).1
    exact ⟨machine, member, same⟩

/-- Where each volume goes, and that nothing else of the cluster changes. -/
theorem schedule_places_exactly (externals : Externals) (order : HashOrder) (state : ClusterState)
    (specs : List ServiceSpec) (scheduler : VolumeScheduler) (distinct : state.DistinctIds)
    (accepted : VolumeScheduler.new externals order state specs = .ok scheduler) :
    (∀ scheduled, scheduler.schedule.1 = .ok scheduled →
      (∀ volume, (∃ spec ∈ specs, Mounts spec volume) → ¬ GlobalVolume specs volume →
        ¬ state.HasVolume volume → ∃ id, IsLeast (jointlyEligible state specs volume) id ∧
          ∀ other, occurrences scheduled other volume = if other = id then 1 else 0) ∧
      (∀ volume, (∃ spec ∈ specs, Mounts spec volume) → ¬ GlobalVolume specs volume →
        state.HasVolume volume → ∀ id, occurrences scheduled id volume = 0) ∧
      (∀ volume, GlobalVolume specs volume → ∀ id,
        ((∃ spec ∈ specs, Mounts spec volume ∧ id ∈ (coupling state specs).allowed spec.name) ∧
          ¬ (coupling state specs).holds id volume → occurrences scheduled id volume = 1) ∧
        (¬ ((∃ spec ∈ specs, Mounts spec volume ∧ id ∈ (coupling state specs).allowed spec.name) ∧
          ¬ (coupling state specs).holds id volume) → occurrences scheduled id volume = 0)) ∧
      (∀ id, id ∈ scheduled → ∃ machine ∈ state.machines, machine.info.id = id) ∧
      scheduler.schedule.2 = state.extendedBy scheduled) ∧
    (∀ fault, scheduler.schedule.1 = .error fault → scheduler.schedule.2 = state) := by
  obtain ⟨_, reads⟩ := (new_spec externals order state specs).of_ok accepted
  have ends := scheduleIn_spec reads .ascending
  refine ⟨fun scheduled returned => ?_, fun fault failed => (ends.of_error failed).1⟩
  obtain ⟨left, plannable, solves⟩ := ends.of_ok returned
  have counted : ∀ {volume}, (∃ spec ∈ specs, Mounts spec volume) → ∀ id,
      (IsTarget state specs id volume → occurrences scheduled id volume = 1) ∧
      (¬ IsTarget state specs id volume → occurrences scheduled id volume = 0) := by
    intro volume mounted id
    rw [occurrences, solves.lists]
    exact reads.countP_plannedOn mounted (VisitOrder.placing_perm _ _) id
  refine ⟨fun volume mounted single lacks => ?_, fun volume mounted single has id => ?_,
    fun volume global id => ?_, fun id listed => ?_, ?_⟩
  · have absent : ¬ (coupling state specs).Present volume :=
      fun present => lacks (present_iff.mp present)
    obtain ⟨spec, member, mounts⟩ := mounted
    have uses : (coupling state specs).uses spec.name volume :=
      ⟨spec, member, rfl, fun global => single ⟨spec, member, global, mounts⟩, mounts⟩
    obtain ⟨id, least⟩ := exists_isLeast_common (plannable.common _ ⟨volume, uses⟩)
    refine ⟨id, jointlyEligible_eq_common absent uses ▸ least, fun other => ?_⟩
    have target := isTarget_iff_of_missing single absent uses least other
    split_ifs with same
    · exact (counted ⟨spec, member, mounts⟩ other).1 (target.mpr same)
    · exact (counted ⟨spec, member, mounts⟩ other).2 (mt target.mp same)
  · exact (counted mounted id).2 (not_isTarget_of_present single (present_iff.mpr has) id)
  · have mounted : ∃ spec ∈ specs, Mounts spec volume := by
      obtain ⟨spec, member, _, mounts⟩ := global
      exact ⟨spec, member, mounts⟩
    have target : IsTarget state specs id volume ↔ _ :=
      isTarget_iff_of_global (plannable.unmixed volume) global id
    have services : (∃ spec ∈ specs, IsGlobal spec ∧ Mounts spec volume ∧
        id ∈ (coupling state specs).allowed spec.name) ↔
        ∃ spec ∈ specs, Mounts spec volume ∧ id ∈ (coupling state specs).allowed spec.name := by
      constructor
      · rintro ⟨spec, member, _, rest⟩
        exact ⟨spec, member, rest⟩
      · rintro ⟨spec, member, mounts, allowed⟩
        refine ⟨spec, member, ?_, mounts, allowed⟩
        by_contra replicated
        exact plannable.unmixed volume ⟨global, spec, member, replicated, mounts⟩
    rw [services] at target
    rw [← target]
    exact counted mounted id
  · have some := (solves.occupied id).mp listed
    rw [solves.lists] at some
    obtain ⟨spec, inside⟩ := exists_mem_of_ne_nil _ some
    obtain ⟨entry, filtered, _⟩ := mem_map.mp inside
    have target := (mem_filter.mp filtered).2
    simp only [decide_eq_true_eq] at target
    exact target.exists_machine
  · rw [schedule, left, recordScheduled_eq distinct]

theorem schedule_places_exactly_sample : ∃ scheduler scheduled,
    VolumeScheduler.new externals .insertion cluster specs = .ok scheduler ∧
      scheduler.schedule.1 = .ok scheduled ∧
      (∃ id, IsLeast (jointlyEligible cluster specs "data") id ∧
        ∀ other, occurrences scheduled other "data" = if other = id then 1 else 0) ∧
      scheduler.schedule.2 = cluster.extendedBy scheduled := by
  obtain ⟨scheduler, scheduled, constructed, returned⟩ := calls
  have result := (schedule_places_exactly externals .insertion cluster specs
    scheduler distinctIds constructed).1 scheduled returned
  have mounted : ∃ spec ∈ specs, Mounts spec "data" :=
    ⟨_, mem_cons_self, volume "data" none, by decide, by decide⟩
  have single : ¬ GlobalVolume specs "data" := by
    have others : ∀ spec ∈ specs, spec.mode = serviceModeGlobal →
        ∀ mounted ∈ spec.dockerVolumeMounts, mounted.dockerVolumeName ≠ "data" := by decide
    rintro ⟨spec, member, global, mounted, inside, named⟩
    exact others spec member global mounted inside named
  have lacks : ¬ cluster.HasVolume "data" := by
    have others : ∀ machine ∈ cluster.machines,
        ∀ existing ∈ machine.volumes, existing.name ≠ "data" := by decide
    rintro ⟨machine, member, existing, inside, named⟩
    exact others machine member existing inside named
  exact ⟨scheduler, scheduled, constructed, returned, result.1 "data" mounted single lacks,
    result.2.2.2.2⟩

end Ployz.Scheduler
