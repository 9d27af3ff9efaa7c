import Ployz.Base.Coupling
import Ployz.Scheduler.Schedule
import Ployz.Verif.Tables

/-!
# The placement problem

What `schedule` has to solve, stated on the cluster and the specs by membership alone: the
replicated services choose machine ids under a `Coupling`, a volume of a global service goes
wherever its services may run. The tables of the scheduler are read in these terms.
-/

namespace Ployz.Scheduler

open Api List

/-- The placement choices of the replicated services. A service is its name and a machine its
id, as in the tables. -/
def coupling (state : ClusterState) (specs : List ServiceSpec) :
    Coupling String String String where
  uses service volume := ∃ spec ∈ specs, spec.name = service ∧ ¬ IsGlobal spec ∧ Mounts spec volume
  allowed service := {id | ∃ spec ∈ specs, spec.name = service ∧
    ∃ machine ∈ state.machines, machine.info.id = id ∧ Allows spec machine}
  holds id volume := ∃ machine ∈ state.machines, machine.info.id = id ∧ machine.Holds volume

/-- Some global service mounts the volume. -/
def GlobalVolume (specs : List ServiceSpec) (volume : String) : Prop :=
  ∃ spec ∈ specs, IsGlobal spec ∧ Mounts spec volume

/-- A global and a replicated service mount the volume. -/
def Mixed (specs : List ServiceSpec) (volume : String) : Prop :=
  GlobalVolume specs volume ∧ ∃ spec ∈ specs, ¬ IsGlobal spec ∧ Mounts spec volume

/-- The problem has a solution. -/
structure Plannable (state : ClusterState) (specs : List ServiceSpec) : Prop where
  /-- Every service that mounts a volume may run somewhere. -/
  placeable : ∀ spec ∈ specs, mountsAny spec → ∃ machine ∈ state.machines, Allows spec machine
  /-- Global and replicated services share no volume. -/
  unmixed : ∀ volume, ¬ Mixed specs volume
  /-- Replicated services that must run together have a machine in common. -/
  common : ∀ service, (coupling state specs).User service →
    ((coupling state specs).common service).Nonempty

/-- The volume is to be created on the machine with the id. -/
def IsTarget (state : ClusterState) (specs : List ServiceSpec) (id volume : String) : Prop :=
  (∃ spec ∈ specs, IsGlobal spec ∧ Mounts spec volume ∧
    id ∈ (coupling state specs).allowed spec.name ∧ ¬ (coupling state specs).holds id volume) ∨
  (¬ (coupling state specs).Present volume ∧ ∃ service,
    (coupling state specs).uses service volume ∧ IsLeast ((coupling state specs).common service) id)

/-- A run that found no solution reports one of these errors. -/
def Refusal : Fault ScheduleError → Prop
  | .error (.serviceScheduling _ .noEligibleMachines) => True
  | .error (.existingVolumesConflict _ _) => True
  | .error (.sharedServicePlacement _ _) => True
  | .error (.mixedGlobalAndReplicated _) => True
  | _ => False

variable {spec : ServiceSpec}

theorem Mounts.mountsAny {volume : String} (mounts : Mounts spec volume) : mountsAny spec := by
  obtain ⟨mounted, member, _⟩ := mounts
  simpa [Scheduler.mountsAny] using ne_nil_of_mem member

theorem exists_mounts (mounting : mountsAny spec) : ∃ volume, Mounts spec volume := by
  have some : spec.dockerVolumeMounts ≠ [] := by simpa [mountsAny] using mounting
  obtain ⟨mounted, member⟩ := exists_mem_of_ne_nil _ some
  exact ⟨_, mounted, member, rfl⟩

theorem constraintsFromSpec_iff (spec : ServiceSpec) (machine : Machine) :
    (constraintsFromSpec spec).all (Constraint.evaluate machine) = true ↔
      Allows spec machine ∧ ∀ mounted ∈ spec.dockerVolumeMounts,
        volumeSatisfied machine mounted = true := by
  have placement : (if spec.placement.machines = [] then []
      else [Constraint.placement spec.placement.machines]).all (Constraint.evaluate machine) = true ↔
        Allows spec machine := by
    split_ifs with anywhere
    · simp [Allows, anywhere]
    · simp only [all_cons, all_nil, Bool.and_true, Constraint.evaluate,
        any_eq_true, decide_eq_true_eq, Allows, anywhere, false_or]
      constructor
      · rintro ⟨candidate, listed, rfl | rfl⟩
        · exact .inl listed
        · exact .inr listed
      · rintro (listed | listed)
        · exact ⟨_, listed, .inl rfl⟩
        · exact ⟨_, listed, .inr rfl⟩
  have volumes : (if spec.dockerVolumeMounts = [] then []
      else [Constraint.volumes spec.dockerVolumeMounts]).all (Constraint.evaluate machine) = true ↔
        ∀ mounted ∈ spec.dockerVolumeMounts, volumeSatisfied machine mounted = true := by
    split_ifs with none
    · simp [none]
    · simp [Constraint.evaluate]
  rw [constraintsFromSpec, all_append, Bool.and_eq_true, placement, volumes]

namespace Reads

variable {order : HashOrder} {state : ClusterState} {specs : List ServiceSpec}
  {scheduler : VolumeScheduler} (reads : Reads order state specs scheduler)

include reads

theorem spec_eq {other : ServiceSpec} (member : spec ∈ specs) (member' : other ∈ specs)
    (named : spec.name = other.name) : spec = other :=
  inj_on_of_nodup_map reads.names member member' named

theorem not_isGlobal (member : spec ∈ specs) (user : (coupling state specs).User spec.name) :
    ¬ IsGlobal spec := by
  obtain ⟨volume, other, member', named, replicated, _⟩ := user
  rw [reads.spec_eq member member' named.symm]
  exact replicated

theorem mem_serviceSpecs : spec ∈ scheduler.serviceSpecs ↔ spec ∈ specs ∧ mountsAny spec := by
  rw [reads.serviceSpecs, mem_filter]

theorem mem_services {service volume : String} :
    service ∈ scheduler.volumeServices.getD volume [] ↔
      ∃ spec ∈ specs, spec.name = service ∧ Mounts spec volume := by
  rw [reads.services, mem_mountingServices]

variable {volume : String}

theorem mem_volumeServices :
    volume ∈ scheduler.volumeServices ↔ ∃ spec ∈ specs, Mounts spec volume := by
  rw [reads.served]
  constructor
  · intro used
    obtain ⟨service, member⟩ := exists_mem_of_ne_nil _ used
    obtain ⟨spec, inside, _, mounts⟩ := mem_mountingServices.mp member
    exact ⟨spec, inside, mounts⟩
  · rintro ⟨spec, inside, mounts⟩
    exact ne_nil_of_mem (mem_mountingServices.mpr ⟨spec, inside, rfl, mounts⟩)

theorem services_of_getElem? {services : List String}
    (found : scheduler.volumeServices[volume]? = some services) :
    (∃ spec ∈ specs, Mounts spec volume) ∧ ∀ service, service ∈ services ↔
      ∃ spec ∈ specs, spec.name = service ∧ Mounts spec volume := by
  have known : volume ∈ scheduler.volumeServices := by
    rw [← Std.ExtTreeMap.isSome_getElem?_iff_mem, found]
    rfl
  have listed : services = scheduler.volumeServices.getD volume [] := by
    rw [OrdMap.getElem?_of_mem known []] at found
    exact (Option.some.inj found).symm
  refine ⟨reads.mem_volumeServices.mp known, fun service => ?_⟩
  rw [listed]
  exact reads.mem_services

theorem mem_volumeSpecs : volume ∈ scheduler.volumeSpecs ↔ ∃ spec ∈ specs, Mounts spec volume := by
  rw [← Std.ExtTreeMap.isSome_getElem?_iff_mem, reads.volumeSpecs, firstDefinition_isSome]

theorem mem_holders {id : String} :
    id ∈ scheduler.existingVolumeMachines.getD volume ∅ ↔
      (∃ spec ∈ specs, Mounts spec volume) ∧ (coupling state specs).holds id volume :=
  reads.holders volume id

theorem mem_existing : volume ∈ scheduler.existingVolumeMachines ↔
    (∃ spec ∈ specs, Mounts spec volume) ∧ (coupling state specs).Present volume := by
  rw [reads.occupied]
  simp only [Finset.Nonempty, reads.mem_holders, exists_and_left]
  rfl

theorem isVolumeForGlobalService_spec (mounted : ∃ spec ∈ specs, Mounts spec volume) :
    Ends (scheduler.isVolumeForGlobalService volume)
      (fun global => global = true ↔ GlobalVolume specs volume) (fun _ => False) := by
  have known := reads.mem_volumeServices.mpr mounted
  rw [VolumeScheduler.isVolumeForGlobalService, OrdMap.index_of_mem known []]
  change (List.any _ _ = true) ↔ _
  simp only [any_eq_true, decide_eq_true_eq]
  constructor
  · rintro ⟨service, inside, spec, kept, rfl, global⟩
    obtain ⟨other, member, named, mounts⟩ := reads.mem_services.mp inside
    have same := reads.spec_eq member (reads.mem_serviceSpecs.mp kept).1 named
    exact ⟨spec, (reads.mem_serviceSpecs.mp kept).1, global, same ▸ mounts⟩
  · rintro ⟨spec, member, global, mounts⟩
    exact ⟨spec.name, reads.mem_services.mpr ⟨spec, member, rfl, mounts⟩, spec,
      reads.mem_serviceSpecs.mpr ⟨member, mounts.mountsAny⟩, rfl, global⟩

theorem isVolumeShared_spec (mounted : ∃ spec ∈ specs, Mounts spec volume) :
    Ends (scheduler.isVolumeSharedBetweenGlobalAndReplicated volume)
      (fun mixed => mixed = true ↔ Mixed specs volume) (fun _ => False) := by
  have known := reads.mem_volumeServices.mpr mounted
  have mounting : ∀ spec, (spec ∈ (scheduler.volumeServices.getD volume []).flatMap fun service =>
      scheduler.serviceSpecs.filter fun spec => spec.name = service) ↔
        spec ∈ specs ∧ Mounts spec volume := by
    intro spec
    simp only [mem_flatMap, mem_filter, decide_eq_true_eq]
    constructor
    · rintro ⟨service, inside, kept, rfl⟩
      obtain ⟨other, member, named, mounts⟩ := reads.mem_services.mp inside
      have member' := (reads.mem_serviceSpecs.mp kept).1
      exact ⟨member', reads.spec_eq member member' named ▸ mounts⟩
    · rintro ⟨member, mounts⟩
      exact ⟨spec.name, reads.mem_services.mpr ⟨spec, member, rfl, mounts⟩,
        reads.mem_serviceSpecs.mpr ⟨member, mounts.mountsAny⟩, rfl⟩
  rw [VolumeScheduler.isVolumeSharedBetweenGlobalAndReplicated, OrdMap.index_of_mem known []]
  change (decide _ = true) ↔ _
  simp only [any_eq_true, decide_eq_true_eq, mounting, Mixed, GlobalVolume, IsGlobal]
  constructor
  · rintro ⟨⟨spec, ⟨member, mounts⟩, global⟩, other, ⟨member', mounts'⟩, replicated⟩
    exact ⟨⟨spec, member, global, mounts⟩, other, member', replicated, mounts'⟩
  · rintro ⟨⟨spec, member, global, mounts⟩, other, member', replicated, mounts'⟩
    exact ⟨⟨spec, ⟨member, mounts⟩, global⟩, other, ⟨member', mounts'⟩, replicated⟩

end Reads

end Ployz.Scheduler
