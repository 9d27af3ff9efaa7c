import Ployz.Scheduler.Propagate

/-!
# Placing the missing volumes

`VolumeScheduler::schedule`: placement of each service, narrowing by the volumes that exist,
propagation, and then one volume after another. The cluster state is written only after
every volume was placed, so the loops are a function of the tables, `plan`.
-/

namespace Ployz.Scheduler.VolumeScheduler

open Api

/-- What the loop that places volumes carries. -/
structure Placing where
  eligible : Eligibility
  placed : Finset String
  scheduled : OrdMap String (List VolumeSpec)

/-- The machines eligible for some service of a volume. -/
def unionEligible (eligible : Eligibility) (services : List String) :
    Exec ScheduleError (Finset String) :=
  services.foldlM (fun union service => do
    let machines ← eligible.index service
    .ok (union ∪ machines)) ∅

/-- The loop that schedules a volume of global services on every machine without it. -/
def placeEverywhere (existing : Option (Finset String)) (volume : VolumeSpec)
    (machines : Finset String) (scheduled : OrdMap String (List VolumeSpec)) :
    OrdMap String (List VolumeSpec) :=
  (ascending machines).foldl (fun scheduled machine =>
    if existing.any (machine ∈ ·) then scheduled else scheduled.push machine volume) scheduled

/-- Schedules a missing volume of replicated services on a machine and propagates the choice. -/
def placeOn (visit : VisitOrder) (scheduler : VolumeScheduler) (progress : Placing)
    (entry : String × VolumeSpec) (services : List String) (machine : String) :
    Exec ScheduleError Placing := do
  let eligible := services.foldl (fun (eligible : Eligibility) service =>
    eligible.insert service {machine}) progress.eligible
  let placed := insert entry.1 progress.placed
  let eligible ← (propagateConstraints visit scheduler placed eligible).mapErr
    (.propagationAfterScheduling entry.1 machine)
  .ok ⟨eligible, placed, progress.scheduled.push machine entry.2⟩

/-- The part of the loop that places volumes after `eligible_machines` is known. -/
def placeAmong (visit : VisitOrder) (scheduler : VolumeScheduler) (progress : Placing)
    (entry : String × VolumeSpec) (services : List String) (global : Bool)
    (machines : Finset String) : Exec ScheduleError Placing :=
  if some : machines.Nonempty then
    let existing := scheduler.existingVolumeMachines[entry.1]?
    if global then
      .ok { progress with
        scheduled := placeEverywhere existing entry.2 machines progress.scheduled
        placed := insert entry.1 progress.placed }
    else if existing.any (· ≠ ∅) then .ok progress
    else placeOn visit scheduler progress entry services (machines.min' some)
  else
    Exec.fail (.internal ("bug detected: no eligible machines for volume '" ++ entry.1 ++ "'"))

/-- The body of the loop that places volumes. -/
def placeVolume (visit : VisitOrder) (scheduler : VolumeScheduler) (progress : Placing)
    (entry : String × VolumeSpec) : Exec ScheduleError Placing := do
  let services ← scheduler.volumeServices.index entry.1
  match services with
  | [] => Exec.fail (.internal ("bug detected: no services using volume '" ++ entry.1 ++ "'"))
  | first :: _ =>
    let global ← scheduler.isVolumeForGlobalService entry.1
    let machines ← if global then unionEligible progress.eligible services
      else progress.eligible.index first
    placeAmong visit scheduler progress entry services global machines

/-- The loops of `VolumeScheduler::schedule`, up to the map it returns. -/
def plan (visit : VisitOrder) (scheduler : VolumeScheduler) :
    Exec ScheduleError (OrdMap String (List VolumeSpec)) :=
  if scheduler.serviceSpecs = [] then .ok ∅
  else do
    let eligible ← scheduler.initialEligible
    let narrowed ← (visit.narrowing scheduler.existingVolumeMachines.toList).foldlM
      (narrowVolume scheduler) ⟨∅, eligible⟩
    let placed ← scheduler.existingPlaced
    let placed ← (visit.checking scheduler.volumeSpecs.toList).foldlM (checkVolume scheduler)
      placed
    let eligible ← propagateConstraints visit scheduler placed narrowed.eligible
    let final ← (visit.placing scheduler.volumeSpecs.toList).foldlM (placeVolume visit scheduler)
      ⟨eligible, placed, ∅⟩
    .ok final.scheduled

/-- The extension of `scheduled_volumes` of the first machine with the id. -/
def extendMachine (id : String) (volumes : List VolumeSpec) : List Machine → List Machine
  | [] => []
  | machine :: machines =>
    if machine.info.id = id then
      { machine with scheduledVolumes := machine.scheduledVolumes ++ volumes } :: machines
    else machine :: extendMachine id volumes machines

/-- The last loop of `schedule`, which writes the cluster state. -/
def recordScheduled (state : ClusterState) (scheduled : OrdMap String (List VolumeSpec)) :
    ClusterState :=
  ⟨scheduled.toList.foldl (fun machines entry => extendMachine entry.1 entry.2 machines)
    state.machines⟩

/-- `VolumeScheduler::schedule` with its loops in any order: the result and the cluster state
it leaves. -/
def scheduleIn (visit : VisitOrder) (scheduler : VolumeScheduler) :
    Exec ScheduleError (OrdMap String (List VolumeSpec)) × ClusterState :=
  match scheduler.plan visit with
  | .ok scheduled => (.ok scheduled, recordScheduled scheduler.state scheduled)
  | .error fault => (.error fault, scheduler.state)

def schedule (scheduler : VolumeScheduler) :
    Exec ScheduleError (OrdMap String (List VolumeSpec)) × ClusterState :=
  scheduler.scheduleIn .ascending

/-- Construction and scheduling one after the other: the map a caller gets. -/
def planning (externals : Externals) (order : HashOrder) (visit : VisitOrder)
    (state : ClusterState) (specs : List ServiceSpec) :
    Exec ScheduleError (OrdMap String (List VolumeSpec)) := do
  let scheduler ← Exec.lift (VolumeScheduler.new externals order state specs)
  (scheduler.scheduleIn visit).1

end Ployz.Scheduler.VolumeScheduler
