import Ployz.Verif.Matching
import Ployz.Verif.Schedule

/-!
# The two placement paths

After scheduling, `ServiceScheduler` lists the machines of a service from the volumes that exist or
are scheduled. It compares the definition the service mounts, while the volume scheduler compared
the first canonical one: on a machine that has the volume the definition is defaulted first, where
it is scheduled it is taken as written. The two paths agree exactly when no definition of the
service is told apart that way.
-/

namespace Ployz.Scheduler

open Api VolumeScheduler List

/-- The driver of the first definition of a Docker volume. -/
def leadingDriver (order : HashOrder) (specs : List ServiceSpec) (volume : String) :
    Option Driver :=
  (firstDefinition (definitions order specs) volume).bind VolumeSpec.driver?

/-- The machine has or gets the volume and the mounted definition is accepted there. -/
def AcceptedAt (order : HashOrder) (specs : List ServiceSpec) (has : Prop)
    (mounted : VolumeSpec) : Prop :=
  (has → mounted.withDefaults.driver? = leadingDriver order specs mounted.dockerVolumeName) ∧
  (¬ has → mounted.driver? = leadingDriver order specs mounted.dockerVolumeName)

/-- Every definition a service mounts is accepted where the volume scheduler has put it: for a
replicated service that depends on whether the volume existed, for a global one some machine has
to accept them all. -/
def PathsMeet (order : HashOrder) (state : ClusterState) (specs : List ServiceSpec)
    (spec : ServiceSpec) : Prop :=
  (¬ IsGlobal spec → ∀ mounted ∈ spec.dockerVolumeMounts,
    AcceptedAt order specs (state.HasVolume mounted.dockerVolumeName) mounted) ∧
  (IsGlobal spec → ∃ machine ∈ state.machines, Allows spec machine ∧
    ∀ mounted ∈ spec.dockerVolumeMounts,
      AcceptedAt order specs (machine.Holds mounted.dockerVolumeName) mounted)

/-- The service can be placed on the state after scheduling, and a replicated service with a
volume that existed nowhere on exactly the machine of that volume. -/
def Placeable (before after : ClusterState) (scheduled : OrdMap String (List VolumeSpec))
    (spec : ServiceSpec) : Prop :=
  (∃ machines, (ServiceScheduler.new after spec).eligibleMachines = .ok machines) ∧
  (¬ IsGlobal spec → ∀ volume, Mounts spec volume → ¬ before.HasVolume volume →
    ∃ machine, (ServiceScheduler.new after spec).eligibleMachines = .ok [machine] ∧
      Schedules scheduled machine.info.id volume)

variable {machine : Machine}

section Satisfied

variable {externals : Externals} {order : HashOrder} {state : ClusterState}
  {specs : List ServiceSpec} {scheduler : VolumeScheduler} {mounted : VolumeSpec}

theorem exists_first (order : HashOrder) {spec : ServiceSpec} (member : spec ∈ specs)
    (inside : mounted ∈ spec.dockerVolumeMounts) :
    ∃ first, firstDefinition (definitions order specs) mounted.dockerVolumeName =
        some (canonical first) ∧ first.kind = volumeTypeVolume ∧
      leadingDriver order specs mounted.dockerVolumeName = (canonical first).driver? ∧
      (Consistent (definitions order specs) → (canonical first).equivalent (canonical mounted)) := by
  have some : (firstDefinition (definitions order specs) mounted.dockerVolumeName).isSome :=
    firstDefinition_isSome.mpr ⟨spec, member, mounted, inside, rfl⟩
  obtain ⟨found, read⟩ := Option.isSome_iff_exists.mp some
  obtain ⟨service, defined, named⟩ := mem_of_firstDefinition read
  obtain ⟨other, _, _, first, inside', rfl⟩ := mem_definitions.mp defined
  refine ⟨first, read, (ServiceSpec.volume_of_mem_dockerVolumeMounts inside').2, ?_, ?_⟩
  · rw [leadingDriver, read]
    rfl
  · intro consistent
    refine consistent _ defined (spec.name, canonical mounted) ?_ ?_
    · exact mem_definitions.mpr ⟨spec, member, rfl, mounted, inside, rfl⟩
    · exact named.trans (canonical_name mounted).symm

/-- What `scheduled_volumes` of a machine satisfies: the definition has to be the scheduled one
as written. -/
theorem scheduledSatisfies_iff {first : VolumeSpec} (kind : first.kind = volumeTypeVolume)
    (kind' : mounted.kind = volumeTypeVolume)
    (same : (canonical first).equivalent (canonical mounted)) :
    scheduledSatisfies mounted (canonical first) = true ↔
      mounted.dockerVolumeName = first.dockerVolumeName ∧
        mounted.driver? = (canonical first).driver? := by
  have asks := driver?_isSome_of_equivalent ((canonical_kind first).trans kind)
    ((canonical_kind mounted).trans kind') same
  rw [canonical_driver? kind', Option.isSome_map] at asks
  rw [scheduledSatisfies, canonical_dockerVolumeName, canonical_withDefaults_driver? kind]
  by_cases named : mounted.dockerVolumeName = first.dockerVolumeName
  · rw [if_neg (not_not.mpr named)]
    cases asked : mounted.driver? with
    | none =>
      rw [asked] at asks
      have unasked : (canonical first).driver? = none := by simpa using asks
      simp [named, unasked]
    | some wanted =>
      rw [asked, Option.isSome_some] at asks
      obtain ⟨given, read⟩ := Option.isSome_iff_exists.mp asks
      simp [named, read]
  · simp [named]

/-- When the second path takes a machine for a volume. -/
theorem volumeSatisfied_iff (accepted : Accepted externals order state specs)
    (reads : Reads order state specs scheduler) {entries : List (String × VolumeSpec)}
    (perm : entries.Perm scheduler.volumeSpecs.toList) {scheduled : OrdMap String (List VolumeSpec)}
    (solves : Reads.Solves state specs entries scheduled) {spec : ServiceSpec}
    (member : spec ∈ specs) (inside : mounted ∈ spec.dockerVolumeMounts)
    (hosted : machine ∈ state.machines) (fresh : machine.scheduledVolumes = []) :
    volumeSatisfied { machine with
        scheduledVolumes := machine.scheduledVolumes ++ scheduled.getD machine.info.id [] }
      mounted = true ↔
      (machine.Holds mounted.dockerVolumeName ∧
        mounted.withDefaults.driver? = leadingDriver order specs mounted.dockerVolumeName) ∨
      (IsTarget state specs machine.info.id mounted.dockerVolumeName ∧
        mounted.driver? = leadingDriver order specs mounted.dockerVolumeName) := by
  obtain ⟨first, read, kind, leads, equivalent⟩ := exists_first order member inside
  have same := equivalent accepted.consistent
  have kind' := (ServiceSpec.volume_of_mem_dockerVolumeMounts inside).2
  have named : first.dockerVolumeName = mounted.dockerVolumeName := by
    obtain ⟨_, _, name⟩ := mem_of_firstDefinition read
    rw [← canonical_name first, name]
  have existing : (∃ volume ∈ machine.volumes, mounted.dockerVolumeName = volume.name ∧
      mounted.matchesDockerVolume volume = true) ↔ machine.Holds mounted.dockerVolumeName ∧
        mounted.withDefaults.driver? = (canonical first).driver? := by
    constructor
    · rintro ⟨volume, held, name, suits⟩
      have leader := accepted.matching machine hosted volume held (canonical first) (name ▸ read)
      exact ⟨⟨volume, held, name.symm⟩,
        ((matches_iff_driver?_eq kind kind' same leader).mp suits).2⟩
    · rintro ⟨⟨volume, held, name⟩, drivers⟩
      have leader := accepted.matching machine hosted volume held (canonical first) (name ▸ read)
      exact ⟨volume, held, name.symm,
        (matches_iff_driver?_eq kind kind' same leader).mpr ⟨name.symm, drivers⟩⟩
  have planned : (∃ other ∈ scheduled.getD machine.info.id [],
      scheduledSatisfies mounted other = true) ↔
        IsTarget state specs machine.info.id mounted.dockerVolumeName ∧
          mounted.driver? = (canonical first).driver? := by
    have known : (mounted.dockerVolumeName, canonical first) ∈ entries := by
      rw [perm.mem_iff, OrdMap.mem_toList, reads.volumeSpecs]
      exact read
    have satisfied := scheduledSatisfies_iff kind kind' same
    rw [solves.lists]
    simp only [plannedOn, mem_map, mem_filter, decide_eq_true_eq]
    constructor
    · rintro ⟨other, ⟨entry, ⟨listed, target⟩, rfl⟩, meets⟩
      have entryName := reads.entry_name (perm.mem_iff.mp listed)
      have sameName : entry.1 = mounted.dockerVolumeName := by
        by_contra differs
        rw [scheduledSatisfies, entryName, if_pos (Ne.symm differs)] at meets
        exact Bool.false_ne_true meets
      have leader : entry.2 = canonical first := by
        have found : scheduler.volumeSpecs[entry.1]? = some entry.2 :=
          OrdMap.mem_toList.mp (perm.mem_iff.mp listed)
        rw [reads.volumeSpecs, sameName, read] at found
        exact (Option.some.inj found).symm
      rw [leader] at meets
      exact ⟨sameName ▸ target, (satisfied.mp meets).2⟩
    · rintro ⟨target, drivers⟩
      exact ⟨_, ⟨_, ⟨known, target⟩, rfl⟩, satisfied.mpr ⟨named.symm, drivers⟩⟩
  rw [volumeSatisfied, leads, fresh, nil_append]
  simp only [ne_eq, kind', not_true_eq_false, false_or, any_eq_true, decide_eq_true_eq,
    Bool.decide_or, Bool.or_eq_true, Bool.decide_and, Bool.and_eq_true, Bool.decide_eq_true]
  rw [← existing, ← planned]

end Satisfied

theorem filter_eq_singleton {α : Type} {items : List α} (distinct : items.Nodup)
    {test : α → Bool} {item : α} (member : item ∈ items)
    (only : ∀ other ∈ items, test other = true ↔ other = item) : items.filter test = [item] := by
  refine perm_singleton.mp ?_
  refine (perm_ext_iff_of_nodup (distinct.filter _) (nodup_singleton _)).mpr ?_
  intro other
  rw [mem_filter, mem_singleton]
  refine ⟨fun ⟨inside, passes⟩ => (only other inside).mp passes, ?_⟩
  rintro rfl
  exact ⟨member, (only other member).mpr rfl⟩

/-- A machine with the specs that were scheduled for it. -/
def extendedMachine (scheduled : OrdMap String (List VolumeSpec)) (machine : Machine) : Machine :=
  { machine with scheduledVolumes := machine.scheduledVolumes ++ scheduled.getD machine.info.id [] }

section Listed

variable {state : ClusterState} {scheduled : OrdMap String (List VolumeSpec)} {spec : ServiceSpec}
  {suits : Machine → Prop} (evaluated : ∀ machine ∈ state.machines, (constraintsFromSpec spec).all
    (Constraint.evaluate (extendedMachine scheduled machine)) = true ↔ suits machine)

/-- The machines `ServiceScheduler` looks through after scheduling, from those of the cluster. -/
theorem filter_extendedBy : (state.extendedBy scheduled).machines.filter (fun machine =>
    (constraintsFromSpec spec).all (Constraint.evaluate machine)) =
      (state.machines.filter fun machine => (constraintsFromSpec spec).all
        (Constraint.evaluate (extendedMachine scheduled machine))).map
          (extendedMachine scheduled) := by
  rw [ClusterState.extendedBy, filter_map]
  rfl

include evaluated

theorem eligibleMachines_ok_iff :
    (∃ machines, (ServiceScheduler.new (state.extendedBy scheduled) spec).eligibleMachines =
      .ok machines) ↔ ∃ machine ∈ state.machines, suits machine := by
  simp only [ServiceScheduler.eligibleMachines, ServiceScheduler.new, filter_extendedBy,
    map_eq_nil_iff]
  constructor
  · rintro ⟨machines, listed⟩
    split_ifs at listed with none
    obtain ⟨machine, inside⟩ := exists_mem_of_ne_nil _ none
    obtain ⟨hosted, passes⟩ := mem_filter.mp inside
    exact ⟨machine, hosted, (evaluated machine hosted).mp passes⟩
  · rintro ⟨machine, hosted, suited⟩
    refine ⟨_, if_neg fun none => ?_⟩
    exact filter_eq_nil_iff.mp none machine hosted ((evaluated machine hosted).mpr suited)

theorem eligibleMachines_eq_single (distinct : state.machines.Nodup)
    (hosted : machine ∈ state.machines)
    (only : ∀ other ∈ state.machines, suits other ↔ other = machine) :
    (ServiceScheduler.new (state.extendedBy scheduled) spec).eligibleMachines =
      .ok [extendedMachine scheduled machine] := by
  have single := filter_eq_singleton distinct hosted fun other inside =>
    (evaluated other inside).trans (only other inside)
  simp only [ServiceScheduler.eligibleMachines, ServiceScheduler.new, filter_extendedBy, single,
    map_singleton]
  exact if_neg (cons_ne_nil _ _)

end Listed

/-- A machine takes a mounted definition: it has the volume or is to get it, and the driver of the
definition passes the comparison made there. -/
def Takes (order : HashOrder) (state : ClusterState) (specs : List ServiceSpec)
    (machine : Machine) (mounted : VolumeSpec) : Prop :=
  (machine.Holds mounted.dockerVolumeName ∧
    mounted.withDefaults.driver? = leadingDriver order specs mounted.dockerVolumeName) ∨
  (IsTarget state specs machine.info.id mounted.dockerVolumeName ∧
    mounted.driver? = leadingDriver order specs mounted.dockerVolumeName)

section Takes

variable {order : HashOrder} {state : ClusterState} {specs : List ServiceSpec} {spec : ServiceSpec}
  {mounted : VolumeSpec}

theorem takes_iff_of_global (distinct : state.DistinctIds) (plannable : Plannable state specs)
    (member : spec ∈ specs) (global : IsGlobal spec) (inside : mounted ∈ spec.dockerVolumeMounts)
    (hosted : machine ∈ state.machines) (allows : Allows spec machine) :
    Takes order state specs machine mounted ↔
      AcceptedAt order specs (machine.Holds mounted.dockerVolumeName) mounted := by
  have everywhere : GlobalVolume specs mounted.dockerVolumeName :=
    ⟨spec, member, global, mounted, inside, rfl⟩
  have holds : (coupling state specs).holds machine.info.id mounted.dockerVolumeName ↔
      machine.Holds mounted.dockerVolumeName := by
    constructor
    · rintro ⟨other, hosted', same, held⟩
      exact distinct.machine_eq hosted' hosted same ▸ held
    · exact fun held => ⟨machine, hosted, rfl, held⟩
  have target : IsTarget state specs machine.info.id mounted.dockerVolumeName ↔
      ¬ machine.Holds mounted.dockerVolumeName := by
    rw [isTarget_iff_of_global (plannable.unmixed _) everywhere, holds]
    exact and_iff_right ⟨spec, member, global, ⟨mounted, inside, rfl⟩, spec, member, rfl,
      machine, hosted, rfl, allows⟩
  simp only [Takes, target, AcceptedAt]
  by_cases held : machine.Holds mounted.dockerVolumeName <;> simp [held]

/-- A volume of a replicated service that exists is taken by its holders. -/
theorem takes_iff_of_present (plannable : Plannable state specs) (choosing : Choosing specs spec)
    (inside : mounted ∈ spec.dockerVolumeMounts) (has : state.HasVolume mounted.dockerVolumeName)
    (machine : Machine) : Takes order state specs machine mounted ↔
      machine.Holds mounted.dockerVolumeName ∧
        mounted.withDefaults.driver? = leadingDriver order specs mounted.dockerVolumeName := by
  have single : ¬ GlobalVolume specs mounted.dockerVolumeName := fun global =>
    plannable.unmixed _ ⟨global, spec, choosing.1, choosing.2.2, mounted, inside, rfl⟩
  have untargeted := not_isTarget_of_present single (present_iff.mpr has) machine.info.id
  simp only [Takes, untargeted, false_and, or_false]

/-- A volume of a replicated service that exists nowhere is taken by the machine it is scheduled
on. -/
theorem takes_iff_of_missing (distinct : state.DistinctIds) (plannable : Plannable state specs)
    (choosing : Choosing specs spec) (inside : mounted ∈ spec.dockerVolumeMounts)
    (lacks : ¬ state.HasVolume mounted.dockerVolumeName) {host : Machine}
    (hosted : host ∈ state.machines) (member : machine ∈ state.machines)
    (least : IsLeast ((coupling state specs).common spec.name) host.info.id) :
    Takes order state specs machine mounted ↔ machine = host ∧
      mounted.driver? = leadingDriver order specs mounted.dockerVolumeName := by
  have uses : (coupling state specs).uses spec.name mounted.dockerVolumeName :=
    ⟨spec, choosing.1, rfl, choosing.2.2, mounted, inside, rfl⟩
  have single : ¬ GlobalVolume specs mounted.dockerVolumeName := fun global =>
    plannable.unmixed _ ⟨global, spec, choosing.1, choosing.2.2, mounted, inside, rfl⟩
  have target := isTarget_iff_of_missing single (fun present => lacks (present_iff.mp present))
    uses least machine.info.id
  have empty : ¬ machine.Holds mounted.dockerVolumeName := fun held =>
    lacks ⟨machine, member, held⟩
  simp only [Takes, empty, false_and, false_or, target]
  refine and_congr_left fun _ => ⟨distinct.machine_eq member hosted, ?_⟩
  rintro rfl
  rfl

end Takes

/-- After scheduling, a service can be placed exactly when the two paths meet for it. -/
theorem placement_paths_agree_iff (externals : Externals) (order : HashOrder)
    (state : ClusterState) (specs : List ServiceSpec) (scheduler : VolumeScheduler)
    (scheduled : OrdMap String (List VolumeSpec)) (distinct : state.DistinctIds)
    (fresh : ∀ machine ∈ state.machines, machine.scheduledVolumes = [])
    (accepted : VolumeScheduler.new externals order state specs = .ok scheduler)
    (returned : scheduler.schedule.1 = .ok scheduled) (spec : ServiceSpec) (member : spec ∈ specs)
    (mounting : mountsAny spec) :
    Placeable state scheduler.schedule.2 scheduled spec ↔ PathsMeet order state specs spec := by
  obtain ⟨accepts, reads⟩ := (new_spec externals order state specs).of_ok accepted
  obtain ⟨left, plannable, solves⟩ := (scheduleIn_spec reads .ascending).of_ok returned
  have after : scheduler.schedule.2 = state.extendedBy scheduled :=
    left.trans (recordScheduled_eq distinct scheduled)
  have perm := VisitOrder.ascending.placing_perm scheduler.volumeSpecs.toList
  have evaluated : ∀ machine ∈ state.machines, (constraintsFromSpec spec).all
      (Constraint.evaluate (extendedMachine scheduled machine)) = true ↔
        Allows spec machine ∧ ∀ mounted ∈ spec.dockerVolumeMounts,
          Takes order state specs machine mounted := by
    intro machine hosted
    rw [constraintsFromSpec_iff]
    refine and_congr Iff.rfl (forall₂_congr fun mounted inside => ?_)
    exact volumeSatisfied_iff accepts reads perm solves member inside hosted (fresh machine hosted)
  rw [after, Placeable, PathsMeet, eligibleMachines_ok_iff evaluated]
  by_cases global : IsGlobal spec
  · simp only [global, not_true_eq_false, false_implies, and_true, true_and, forall_const]
    refine exists_congr fun machine => and_congr_right fun hosted =>
      and_congr_right fun allows => forall₂_congr fun mounted inside => ?_
    exact takes_iff_of_global distinct plannable member global inside hosted allows
  · have choosing : Choosing specs spec := ⟨member, mounting, global⟩
    obtain ⟨host, assignment, least⟩ := plannable.exists_assignment reads.names distinct
    obtain ⟨hosted, allows⟩ := assignment.placed spec choosing
    simp only [global, not_false_eq_true, forall_const, false_implies, and_true]
    constructor
    · rintro ⟨⟨machine, member', _, takes⟩, _⟩ mounted inside
      refine ⟨fun has => ?_, fun lacks => ?_⟩
      · exact ((takes_iff_of_present plannable choosing inside has machine).mp
          (takes mounted inside)).2
      · exact ((takes_iff_of_missing distinct plannable choosing inside lacks hosted member'
          (least spec choosing)).mp (takes mounted inside)).2
    · intro meets
      have takes : ∀ mounted ∈ spec.dockerVolumeMounts,
          Takes order state specs (host spec) mounted := by
        intro mounted inside
        by_cases has : state.HasVolume mounted.dockerVolumeName
        · exact (takes_iff_of_present plannable choosing inside has _).mpr
            ⟨assignment.holding spec choosing _ ⟨mounted, inside, rfl⟩ has,
              (meets mounted inside).1 has⟩
        · exact (takes_iff_of_missing distinct plannable choosing inside has hosted hosted
            (least spec choosing)).mpr ⟨rfl, (meets mounted inside).2 has⟩
      refine ⟨⟨host spec, hosted, allows, takes⟩, ?_⟩
      rintro volume ⟨mounted, inside, rfl⟩ lacks
      refine ⟨extendedMachine scheduled (host spec),
        eligibleMachines_eq_single evaluated (List.Nodup.of_map _ distinct) hosted ?_, ?_⟩
      · refine fun other hosted' => ⟨fun ⟨_, all⟩ => ?_, ?_⟩
        · exact ((takes_iff_of_missing distinct plannable choosing inside lacks hosted hosted'
            (least spec choosing)).mp (all mounted inside)).1
        · rintro rfl
          exact ⟨allows, takes⟩
      · refine reads.exists_scheduled perm solves (.inr ⟨?_, spec.name, ?_, least spec choosing⟩)
          ⟨spec, member, mounted, inside, rfl⟩
        · exact fun present => lacks (present_iff.mp present)
        · exact ⟨spec, member, rfl, global, mounted, inside, rfl⟩

open Sample

/-- In the sample no definition asks for a driver, so the paths meet. -/
theorem placement_paths_agree_sample : ∃ scheduler scheduled,
    VolumeScheduler.new externals .insertion cluster specs = .ok scheduler ∧
      scheduler.schedule.1 = .ok scheduled ∧ ∀ spec ∈ specs.take 2,
        Placeable cluster scheduler.schedule.2 scheduled spec := by
  obtain ⟨scheduler, scheduled, constructed, returned⟩ := calls
  refine ⟨scheduler, scheduled, constructed, returned, fun spec member => ?_⟩
  have replicated : ∀ spec ∈ specs.take 2, spec.mode ≠ serviceModeGlobal := by decide
  have drivers : ∀ spec ∈ specs.take 2, ∀ mounted ∈ spec.dockerVolumeMounts,
      mounted.withDefaults.driver? =
        leadingDriver .insertion specs mounted.dockerVolumeName ∧
      mounted.driver? = leadingDriver .insertion specs mounted.dockerVolumeName := by
    decide +kernel
  have mounting : ∀ spec ∈ specs.take 2, mountsAny spec := by decide +kernel
  refine (placement_paths_agree_iff externals .insertion cluster specs
    scheduler scheduled distinctIds (by decide) constructed returned spec
    (mem_of_mem_take member) (mounting spec member)).mpr ⟨fun _ mounted inside => ?_, ?_⟩
  · exact ⟨fun _ => (drivers spec member mounted inside).1,
      fun _ => (drivers spec member mounted inside).2⟩
  · exact fun global => absurd global (replicated spec member)

/-- A service whose volume asks for a driver without naming it. -/
def Sample.unnamedDriver : ServiceSpec :=
  service "web" "" [] [volume "data" (some ⟨"", .default⟩)]

/-- The volume is scheduled with the local driver; the service, asking for an unnamed one, then
finds no machine. -/
theorem placement_paths_disagree : emptyCluster.DistinctIds ∧
    (∀ machine ∈ emptyCluster.machines, machine.scheduledVolumes = []) ∧
    mountsAny unnamedDriver ∧ ∃ scheduler scheduled,
      VolumeScheduler.new externals .insertion emptyCluster
        [unnamedDriver] = .ok scheduler ∧
      scheduler.schedule.1 = .ok scheduled ∧
      (ServiceScheduler.new scheduler.schedule.2 unnamedDriver).eligibleMachines =
        .error .noEligibleMachines ∧
      ¬ Placeable emptyCluster scheduler.schedule.2 scheduled unnamedDriver := by
  have run : (VolumeScheduler.new externals .insertion emptyCluster
      [unnamedDriver]).toOption.map (fun scheduler => (scheduler.schedule.1.isOk,
        failure? (ServiceScheduler.new scheduler.schedule.2
          unnamedDriver).eligibleMachines)) = some (true, some .noEligibleMachines) := by
    decide +kernel
  refine ⟨by unfold ClusterState.DistinctIds; decide, by decide, by decide, ?_⟩
  obtain ⟨scheduler, constructed, read⟩ := exists_ok_of_toOption run
  obtain ⟨ok, refused⟩ := Prod.mk.inj read
  have failed := eq_error_of_failure? refused
  cases returned : scheduler.schedule.1 with
  | error fault =>
    rw [returned] at ok
    cases ok
  | ok scheduled =>
    refine ⟨scheduler, scheduled, constructed, returned, failed, fun placeable => ?_⟩
    obtain ⟨machines, listed⟩ := placeable.1
    rw [failed] at listed
    cases listed

end Ployz.Scheduler
