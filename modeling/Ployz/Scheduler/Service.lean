import Ployz.Api.Pb
import Ployz.Api.Service

/-!
# Placement of one service

The cluster snapshot, the constraints a service spec puts on a machine, and the scheduler
that lists the machines satisfying them.
-/

namespace Ployz.Scheduler

open Api

/-- `state::Machine`. -/
structure Machine where
  info : MachineInfo
  volumes : List DockerVolume
  scheduledVolumes : List VolumeSpec
deriving DecidableEq

/-- `state::ClusterState`. -/
structure ClusterState where
  machines : List Machine
deriving DecidableEq

/-- `volume::ScheduleError`. -/
inductive ScheduleError where
  | invalidServiceSpec (error : ApiError)
  | duplicateServiceName (name : String)
  | conflictingVolumeDefinitions (name : String)
  | existingVolumeMismatch (volume machine : String)
  | noEligibleMachines
  | serviceScheduling (service : String) (source : ScheduleError)
  | existingVolumesConflict (service : String) (volumes : List String)
  | sharedServicePlacement (services : List String) (volume : String)
  | mixedGlobalAndReplicated (volume : String)
  | internal (message : String)
  | propagationAfterScheduling (volume machine : String) (source : ScheduleError)
  | containerSchedulingUnsupported
deriving DecidableEq, Repr

/-- The implementations of `constraint::Constraint`. -/
inductive Constraint where
  /-- `PlacementConstraint`: the machine is one of the named ones. -/
  | placement (machines : List String)
  /-- `VolumesConstraint`: the machine has or will have the volumes. -/
  | volumes (volumes : List VolumeSpec)
deriving DecidableEq

/-- The scheduled-volume test of `VolumesConstraint::evaluate`. Defaults are applied to the
scheduled spec, not to the required one. -/
def scheduledSatisfies (required scheduled : VolumeSpec) : Bool :=
  if required.dockerVolumeName ≠ scheduled.dockerVolumeName then false
  else match required.driver? with
    | none => true
    | some driver =>
      driver = scheduled.withDefaults.driver?.getD ⟨volumeDriverLocal, .default⟩

/-- The test of one required volume in `VolumesConstraint::evaluate`. -/
def volumeSatisfied (machine : Machine) (required : VolumeSpec) : Bool :=
  required.kind ≠ volumeTypeVolume ∨
    machine.volumes.any (fun existing =>
      required.dockerVolumeName = existing.name ∧ required.matchesDockerVolume existing) ∨
    machine.scheduledVolumes.any (scheduledSatisfies required)

def Constraint.evaluate (machine : Machine) : Constraint → Bool
  | .placement machines =>
    machines.any fun candidate => candidate = machine.info.id ∨ candidate = machine.info.name
  | .volumes required => required.all (volumeSatisfied machine)

def constraintsFromSpec (spec : ServiceSpec) : List Constraint :=
  (if spec.placement.machines = [] then [] else [.placement spec.placement.machines]) ++
    (if spec.dockerVolumeMounts = [] then [] else [.volumes spec.dockerVolumeMounts])

/-- `service::ServiceScheduler`. -/
structure ServiceScheduler where
  state : ClusterState
  constraints : List Constraint

def ServiceScheduler.new (state : ClusterState) (spec : ServiceSpec) : ServiceScheduler :=
  ⟨state, constraintsFromSpec spec⟩

def ServiceScheduler.eligibleMachines (scheduler : ServiceScheduler) :
    Except ScheduleError (List Machine) :=
  let available := scheduler.state.machines.filter fun machine =>
    scheduler.constraints.all (Constraint.evaluate machine)
  if available = [] then .error .noEligibleMachines else .ok available

end Ployz.Scheduler
