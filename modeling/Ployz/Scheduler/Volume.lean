import Ployz.Scheduler.Service

/-!
# The volume scheduler

`VolumeScheduler::new` reads the specs and the cluster into four tables, and `schedule`
places the missing volumes from them. The loops of `schedule` run over ordered maps; the
order of each loop is a parameter, `VisitOrder`, and the code is the ascending one.
-/

namespace Ployz.Scheduler

open Api

/-- `volume::VolumeScheduler`. -/
structure VolumeScheduler where
  state : ClusterState
  /-- The submitted specs that mount a named volume. -/
  serviceSpecs : List ServiceSpec
  volumeSpecs : OrdMap String VolumeSpec
  /-- The services mounting each Docker volume, once for every mounting definition. -/
  volumeServices : OrdMap String (List String)
  /-- The ids of the machines holding each Docker volume that exists. -/
  existingVolumeMachines : OrdMap String (Finset String)

/-- The rewriting of a mounted volume in `VolumeScheduler::new`: defaults applied, and named by
its Docker name. -/
def canonical (volume : VolumeSpec) : VolumeSpec :=
  { volume.withDefaults with name := volume.withDefaults.dockerVolumeName }

/-- The tables filled while `VolumeScheduler::new` reads the specs. -/
structure Registry where
  specsWithVolumes : List ServiceSpec
  volumeSpecs : OrdMap String VolumeSpec
  volumeServices : OrdMap String (List String)
  serviceNames : Finset String

/-- The tables before the first spec. -/
def Registry.empty : Registry := ⟨[], ∅, ∅, ∅⟩

/-- The body of the loop over a spec's mounted volumes. -/
def registerVolume (service : String) (registry : Registry) (volume : VolumeSpec) :
    Except ScheduleError Registry :=
  let volume := canonical volume
  let volumeServices := registry.volumeServices.push volume.name service
  match registry.volumeSpecs[volume.name]? with
  | some seen =>
    if seen.equivalent volume then .ok { registry with volumeServices }
    else .error (.conflictingVolumeDefinitions volume.name)
  | none =>
    .ok { registry with
      volumeSpecs := registry.volumeSpecs.insert volume.name volume
      volumeServices }

/-- The body of the loop over the submitted specs. -/
def registerSpec (externals : Externals) (order : HashOrder) (registry : Registry)
    (spec : ServiceSpec) : Except ScheduleError Registry := do
  (spec.validate externals).mapError .invalidServiceSpec
  if spec.name ∈ registry.serviceNames then .error (.duplicateServiceName spec.name)
  else
    let registry := { registry with serviceNames := insert spec.name registry.serviceNames }
    let mounted := spec.mountedDockerVolumes order
    if mounted = [] then .ok registry
    else do
      let registry ← mounted.foldlM (registerVolume spec.name) registry
      .ok { registry with specsWithVolumes := registry.specsWithVolumes ++ [spec] }

/-- The body of the loop over one machine's volumes. -/
def registerExisting (volumeSpecs : OrdMap String VolumeSpec) (machine : Machine)
    (existing : OrdMap String (Finset String)) (volume : DockerVolume) :
    Except ScheduleError (OrdMap String (Finset String)) :=
  match volumeSpecs[volume.name]? with
  | some spec =>
    if spec.matchesDockerVolume volume then .ok (existing.enter volume.name machine.info.id)
    else .error (.existingVolumeMismatch volume.name machine.info.name)
  | none => .ok existing

/-- The body of the loop over the machines. -/
def registerMachine (volumeSpecs : OrdMap String VolumeSpec)
    (existing : OrdMap String (Finset String)) (machine : Machine) :
    Except ScheduleError (OrdMap String (Finset String)) :=
  machine.volumes.foldlM (registerExisting volumeSpecs machine) existing

def VolumeScheduler.new (externals : Externals) (order : HashOrder) (state : ClusterState)
    (specs : List ServiceSpec) : Except ScheduleError VolumeScheduler := do
  let registry ← specs.foldlM (registerSpec externals order) .empty
  let existing ← state.machines.foldlM (registerMachine registry.volumeSpecs) ∅
  .ok ⟨state, registry.specsWithVolumes, registry.volumeSpecs, registry.volumeServices, existing⟩

/-- The machine ids each service may still be placed on. -/
abbrev Eligibility := OrdMap String (Finset String)

/-- The order of each loop of `schedule`. The order of a propagation pass may depend on what
the pass starts from, so that no two passes need to agree. -/
structure VisitOrder where
  narrowing : List (String × Finset String) → List (String × Finset String)
  /-- The loop that looks for volumes of global services. -/
  checking : List (String × VolumeSpec) → List (String × VolumeSpec)
  /-- One pass of `propagate_constraints`. -/
  propagating : Finset String → Eligibility → List (String × List String) →
    List (String × List String)
  placing : List (String × VolumeSpec) → List (String × VolumeSpec)
  narrowing_perm : ∀ entries, (narrowing entries).Perm entries
  checking_perm : ∀ entries, (checking entries).Perm entries
  propagating_perm : ∀ skipped eligible entries,
    (propagating skipped eligible entries).Perm entries
  placing_perm : ∀ entries, (placing entries).Perm entries

/-- The order of `BTreeMap` iteration. -/
def VisitOrder.ascending : VisitOrder :=
  ⟨id, id, fun _ _ => id, id, fun _ => .refl _, fun _ => .refl _, fun _ _ _ => .refl _,
    fun _ => .refl _⟩

namespace VolumeScheduler

def isVolumeForGlobalService (scheduler : VolumeScheduler) (volume : String) :
    Exec ScheduleError Bool := do
  let services ← scheduler.volumeServices.index volume
  .ok (services.any fun service => scheduler.serviceSpecs.any fun spec =>
    spec.name = service ∧ spec.mode = serviceModeGlobal)

/-- `VolumeScheduler::is_volume_shared_between_global_and_replicated`. Both branches of the
source for a mode that is not global count as replicated. -/
def isVolumeSharedBetweenGlobalAndReplicated (scheduler : VolumeScheduler) (volume : String) :
    Exec ScheduleError Bool := do
  let services ← scheduler.volumeServices.index volume
  let mounting := services.flatMap fun service =>
    scheduler.serviceSpecs.filter fun spec => spec.name = service
  .ok (mounting.any (fun spec => spec.mode = serviceModeGlobal) ∧
    mounting.any (fun spec => spec.mode ≠ serviceModeGlobal))

/-- The placement of one service, from its spec without its mounts. -/
def placementEligible (state : ClusterState) (spec : ServiceSpec) :
    Except ScheduleError (Finset String) :=
  let withoutMounts := { spec with container := { spec.container with volumeMounts := [] } }
  match (ServiceScheduler.new state withoutMounts).eligibleMachines with
  | .ok machines => .ok (machines.map (·.info.id)).toFinset
  | .error source => .error (.serviceScheduling spec.name source)

/-- The loop of `schedule` that fills `eligible`. -/
def initialEligible (scheduler : VolumeScheduler) : Exec ScheduleError Eligibility :=
  scheduler.serviceSpecs.foldlM (fun eligible spec => do
    let machines ← Exec.lift (placementEligible scheduler.state spec)
    .ok (eligible.insert spec.name machines)) ∅

/-- What the loop over the existing volumes carries. -/
structure Narrowing where
  /-- `quoted_service_volumes`. -/
  quoted : OrdMap String (List String)
  eligible : Eligibility

/-- The body of the inner loop over the services mounting an existing volume. -/
def narrowService (volume : String) (machines : Finset String) (progress : Narrowing)
    (service : String) : Exec ScheduleError Narrowing := do
  let quoted := progress.quoted.push service volume
  let current ← progress.eligible.index service
  let narrowed := current ∩ machines
  if narrowed = ∅ then do
    let volumes ← quoted.index service
    Exec.fail (.existingVolumesConflict service volumes)
  else .ok ⟨quoted, progress.eligible.insert service narrowed⟩

/-- The body of the loop over the existing volumes. -/
def narrowVolume (scheduler : VolumeScheduler) (progress : Narrowing)
    (entry : String × Finset String) : Exec ScheduleError Narrowing := do
  let global ← scheduler.isVolumeForGlobalService entry.1
  if global then .ok progress
  else do
    let services ← scheduler.volumeServices.index entry.1
    services.foldlM (narrowService entry.1 entry.2) progress

/-- The volumes that need no placing: first the existing ones of replicated services. -/
def existingPlaced (scheduler : VolumeScheduler) : Exec ScheduleError (Finset String) :=
  scheduler.existingVolumeMachines.toList.foldlM (fun placed entry => do
    let global ← scheduler.isVolumeForGlobalService entry.1
    .ok (if global then placed else insert entry.1 placed)) ∅

/-- The body of the loop that adds the volumes of global services and refuses a shared one. -/
def checkVolume (scheduler : VolumeScheduler) (placed : Finset String)
    (entry : String × VolumeSpec) : Exec ScheduleError (Finset String) := do
  let mixed ← scheduler.isVolumeSharedBetweenGlobalAndReplicated entry.1
  if mixed then Exec.fail (.mixedGlobalAndReplicated entry.1)
  else do
    let global ← scheduler.isVolumeForGlobalService entry.1
    .ok (if global then insert entry.1 placed else placed)

end VolumeScheduler

end Ployz.Scheduler
