import Mathlib.Logic.Relation
import Ployz.Proxy.Broadcast

/-!
# The connection of a remote backend

A remote backend keeps one connection state under a lock. Calls of `channel`, the reconnect task,
the destructors of the connect guard and of TCP connections, and `close` each take the lock for one
section; everything between two sections may interleave. Each section is a function on the state
here, and a step of the world is one section together with what its party does next.

What the transport does is left open: an attempt may dial any number of connections and may succeed
or fail, and a connection may be dropped at any time, also long after its attempt was given up. The
one thing taken from the transport is that the connections of an attempt that a call makes are
dropped before its failure is reported.
-/

namespace Ployz.Proxy

/-- `ConnectionPhase`. -/
inductive ConnectionPhase where
  | idle
  | initialConnect
  | backoff
deriving DecidableEq, Repr

/-- `ConnectionState`. The channel is known by the TCP connection behind it. -/
structure ConnectionState where
  channel : Option Nat := none
  phase : ConnectionPhase := .idle
  reconnectTask : Option Nat := none
  closed : Bool := false
  generation : UInt64 := 0
deriving DecidableEq, Repr

def Status.unavailable (message : String) : Status := ⟨.unavailable, message, []⟩

/-- What a turn of the loop in `channel` comes to. -/
inductive Entered where
  | returns (result : Except Status Nat)
  | connects (generation : UInt64)
  | waits

namespace ConnectionState

variable (state : ConnectionState)

/-- The section in the loop of `channel`. -/
def enter (target : String) : Entered × ConnectionState :=
  match state.channel with
  | some channel => (.returns (.ok channel), state)
  | none =>
    if state.closed then (.returns (.error (.unavailable "backend is closed")), state)
    else
      match state.phase with
      | .idle =>
        (.connects (state.generation + 1),
          { state with phase := .initialConnect, generation := state.generation + 1 })
      | .initialConnect => (.waits, state)
      | .backoff =>
        (.returns (.error (.unavailable s!"backend {target} is reconnecting")), state)

/-- The check of the connector before it opens a TCP connection. -/
def allows (generation : UInt64) : Bool :=
  state.generation == generation && state.channel.isNone && !state.closed

/-- The section of `channel` after its connection attempt succeeded: the channel is stored, or
the reason why it is not is given. -/
def install (generation : UInt64) (channel : Nat) : Except Status ConnectionState :=
  if state.closed then .error (.unavailable "backend is closed")
  else if state.generation ≠ generation ∨ state.phase ≠ .initialConnect then
    .error (.unavailable "backend connection was superseded")
  else .ok { state with phase := .idle, channel := some channel }

/-- The section of `channel` after its attempt failed, and whether it starts to reconnect. -/
def retreat (generation : UInt64) : Bool × ConnectionState :=
  if !state.closed && state.generation == generation && state.phase == .initialConnect then
    (true, { state with phase := .backoff })
  else (false, state)

/-- The destructor of an armed `InitialConnectGuard`. -/
def release : ConnectionState :=
  if state.phase = .initialConnect then { state with phase := .idle } else state

/-- `close`. The task it takes is aborted. -/
def close : ConnectionState :=
  { state with closed := true, channel := none, phase := .idle, reconnectTask := none }

/-- The section of `start_reconnecting`, and whether the new task is stored and started; if it is
not, it is aborted. -/
def register (task : Nat) : Bool × ConnectionState :=
  if state.closed then (false, { state with phase := .idle })
  else if state.reconnectTask.isNone then (true, { state with reconnectTask := some task })
  else (false, state)

/-- The section of the reconnect task before an attempt; none if the task returns. -/
def beginAttempt : Option ConnectionState :=
  if state.closed then none else some { state with generation := state.generation + 1 }

/-- The section of the reconnect task after a successful attempt, and whether the channel was
installed. -/
def finishAttempt (generation : UInt64) (channel : Nat) : Bool × ConnectionState :=
  if state.closed then (false, { state with reconnectTask := none })
  else if state.generation = generation then
    (true, { state with channel := some channel, phase := .idle, reconnectTask := none })
  else (false, state)

/-- The section of the destructor of `TrackedTcp`, with whether it starts to reconnect; none if
it returns without a change. -/
def dropped (generation : UInt64) : Option (Bool × ConnectionState) :=
  if state.closed ∨ state.generation ≠ generation then none
  else
    some (state.reconnectTask.isNone,
      { state with generation := state.generation + 1, phase := .backoff, channel := none })

end ConnectionState

/-- A connection attempt; `admitted` is set while the connector dials after its check. -/
structure Attempt where
  generation : UInt64
  admitted : Bool := false

/-- Where a call of `channel` stands. -/
inductive Call where
  | absent
  /-- Before the section of the loop. -/
  | looking
  /-- At `changed.await`. -/
  | waiting
  /-- At `connect(generation).await`, with its guard armed. -/
  | connecting (attempt : Attempt)
  /-- The attempt succeeded; the section after it is to come. -/
  | connected (generation : UInt64) (connection : Nat)
  /-- The attempt failed; the section after it is to come. -/
  | failed (generation : UInt64) (message : String)
  /-- Its armed guard is about to be dropped. Without a status the call was cancelled. -/
  | releasing (generation : UInt64) (status : Option Status)
  | returned (result : Except Status Nat)

/-- The generation of a call that owns the initial connection. -/
def Call.owned : Call → Option UInt64
  | .connecting attempt => some attempt.generation
  | .connected generation _ | .failed generation _ | .releasing generation _ => some generation
  | .absent | .looking | .waiting | .returned _ => none

/-- A call whose guard was dropped. -/
def Call.released : Option Status → Call
  | some status => .returned (.error status)
  | none => .absent

/-- Where a call of `start_reconnecting` stands. -/
inductive Starter where
  | absent
  /-- Its section is to come. -/
  | pending
  /-- It stored the task, which it is about to start. -/
  | stored (task : Nat)

/-- Where a reconnect task stands. -/
inductive Task where
  | absent
  /-- Stored; it waits for its start. -/
  | created
  | sleeping
  | connecting (attempt : Attempt)
  | connected (generation : UInt64) (connection : Nat)
  | ended

namespace Task

/-- The task has been started and has not ended. -/
def started : Task → Bool
  | .sleeping | .connecting _ | .connected _ _ => true
  | .absent | .created | .ended => false

/-- The task exists and has not ended. -/
def live (task : Task) : Bool :=
  match task with
  | .created => true
  | _ => task.started

/-- The generation of the attempt under way. -/
def attempting : Task → Option UInt64
  | .connecting attempt => some attempt.generation
  | .connected generation _ => some generation
  | .absent | .created | .sleeping | .ended => none

end Task

/-- `TrackedTcp`, and whether it was dropped. -/
structure Connection where
  generation : UInt64
  dropped : Bool := false

/-- A backend with its calls, tasks and connections. `increments` counts how often the generation
was advanced; no section reads it. -/
structure World where
  state : ConnectionState := {}
  calls : Nat → Call := fun _ => .absent
  starters : Nat → Starter := fun _ => .absent
  tasks : Nat → Task := fun _ => .absent
  connections : Nat → Option Connection := fun _ => none
  increments : Nat := 0

namespace World

variable (world : World)

def setCall (id : Nat) (call : Call) : World :=
  { world with calls := Function.update world.calls id call }

def setStarter (id : Nat) (starter : Starter) : World :=
  { world with starters := Function.update world.starters id starter }

def setTask (id : Nat) (task : Task) : World :=
  { world with tasks := Function.update world.tasks id task }

def setConnection (id : Nat) (connection : Connection) : World :=
  { world with connections := Function.update world.connections id (some connection) }

def setState (state : ConnectionState) : World := { world with state := state }

/-- A state whose generation was advanced. -/
def advance (state : ConnectionState) : World :=
  { world with state := state, increments := world.increments + 1 }

/-- No connection that carries the generation is left. -/
def AllDropped (generation : UInt64) : Prop :=
  ∀ id connection, world.connections id = some connection → connection.generation = generation →
    connection.dropped = true

/-- A call takes the section of its loop. -/
def enter (target : String) (id : Nat) : World :=
  match world.state.enter target with
  | (.returns result, _) => world.setCall id (.returned result)
  | (.connects generation, state) =>
    (world.advance state).setCall id (.connecting ⟨generation, false⟩)
  | (.waits, _) => world.setCall id .waiting

/-- A call takes the section after a successful attempt. -/
def install (id : Nat) (generation : UInt64) (connection : Nat) : World :=
  match world.state.install generation connection with
  | .ok state => (world.setState state).setCall id (.returned (.ok connection))
  | .error status => world.setCall id (.releasing generation (some status))

/-- A call takes the section after a failed attempt; `starter` is its call of
`start_reconnecting`, if it makes one. -/
def retreat (id : Nat) (generation : UInt64) (message : String) (starter : Nat) : World :=
  match world.state.retreat generation with
  | (true, state) =>
    ((world.setState state).setStarter starter .pending).setCall id
      (.returned (.error (.unavailable message)))
  | (false, _) => world.setCall id (.returned (.error (.unavailable message)))

/-- The guard of a call is dropped. -/
def release (id : Nat) (status : Option Status) : World :=
  (world.setState world.state.release).setCall id (.released status)

/-- A call of `start_reconnecting` takes its section, with `task` as the task it spawned. -/
def register (id task : Nat) : World :=
  match world.state.register task with
  | (true, state) => ((world.setState state).setTask task .created).setStarter id (.stored task)
  | (false, state) => (world.setState state).setStarter id .absent

/-- The task that was stored is started. -/
def start (id task : Nat) : World :=
  match world.tasks task with
  | .created => (world.setTask task .sleeping).setStarter id .absent
  | _ => world.setStarter id .absent

/-- The reconnect task takes the section before an attempt. -/
def beginAttempt (task : Nat) : World :=
  match world.state.beginAttempt with
  | some state => (world.advance state).setTask task (.connecting ⟨state.generation, false⟩)
  | none => world.setTask task .ended

/-- The reconnect task takes the section after a successful attempt. -/
def finishAttempt (task : Nat) (generation : UInt64) (connection : Nat) : World :=
  match world.state.finishAttempt generation connection with
  | (true, state) => (world.setState state).setTask task .ended
  | (false, state) => (world.setState state).setTask task .sleeping

/-- A connection is dropped; `starter` is the call of `start_reconnecting` its destructor makes,
if it makes one. -/
def drop (id : Nat) (connection : Connection) (starter : Nat) : World :=
  let gone := world.setConnection id { connection with dropped := true }
  match world.state.dropped connection.generation with
  | none => gone
  | some (true, state) => (gone.advance state).setStarter starter .pending
  | some (false, state) => gone.advance state

/-- A step of the world. New calls, tasks and connections take an identifier not in use. -/
inductive Step (target : String) : World → World → Prop
  | call {world : World} {id : Nat}
    (unused : world.calls id = .absent ∨ ∃ result, world.calls id = .returned result) :
    Step target world (world.setCall id .looking)
  | enter {world : World} {id : Nat} (looking : world.calls id = .looking) :
    Step target world (world.enter target id)
  | wake {world : World} {id : Nat} (waiting : world.calls id = .waiting) :
    Step target world (world.setCall id .looking)
  | leave {world : World} {id : Nat} (waiting : world.calls id = .waiting) :
    Step target world (world.setCall id .absent)
  | cancel {world : World} {id : Nat} {attempt : Attempt}
    (connecting : world.calls id = .connecting attempt) :
    Step target world (world.setCall id (.releasing attempt.generation none))
  | dial {world : World} {id : Nat} {attempt : Attempt}
    (connecting : world.calls id = .connecting attempt)
    (allowed : world.state.allows attempt.generation = true) :
    Step target world (world.setCall id (.connecting { attempt with admitted := true }))
  | opened {world : World} {id connection : Nat} {attempt : Attempt}
    (connecting : world.calls id = .connecting attempt) (admitted : attempt.admitted = true)
    (fresh : world.connections connection = none) :
    Step target world
      ((world.setConnection connection ⟨attempt.generation, false⟩).setCall id
        (.connecting { attempt with admitted := false }))
  | succeed {world : World} {id connection : Nat} {attempt : Attempt} {behind : Connection}
    (connecting : world.calls id = .connecting attempt)
    (known : world.connections connection = some behind)
    (own : behind.generation = attempt.generation) :
    Step target world (world.setCall id (.connected attempt.generation connection))
  | fail {world : World} {id : Nat} {attempt : Attempt} {message : String}
    (connecting : world.calls id = .connecting attempt)
    (none_left : world.AllDropped attempt.generation) :
    Step target world (world.setCall id (.failed attempt.generation message))
  | install {world : World} {id connection : Nat} {generation : UInt64}
    (connected : world.calls id = .connected generation connection) :
    Step target world (world.install id generation connection)
  | retreat {world : World} {id starter : Nat} {generation : UInt64} {message : String}
    (failed : world.calls id = .failed generation message)
    (fresh : world.starters starter = .absent) :
    Step target world (world.retreat id generation message starter)
  | release {world : World} {id : Nat} {generation : UInt64} {status : Option Status}
    (releasing : world.calls id = .releasing generation status) :
    Step target world (world.release id status)
  | register {world : World} {id task : Nat} (pending : world.starters id = .pending)
    (fresh : (world.tasks task).live = false) :
    Step target world (world.register id task)
  | start {world : World} {id task : Nat} (stored : world.starters id = .stored task) :
    Step target world (world.start id task)
  | beginAttempt {world : World} {task : Nat} (sleeping : world.tasks task = .sleeping) :
    Step target world (world.beginAttempt task)
  | dialAgain {world : World} {task : Nat} {attempt : Attempt}
    (connecting : world.tasks task = .connecting attempt)
    (allowed : world.state.allows attempt.generation = true) :
    Step target world (world.setTask task (.connecting { attempt with admitted := true }))
  | openedAgain {world : World} {task connection : Nat} {attempt : Attempt}
    (connecting : world.tasks task = .connecting attempt) (admitted : attempt.admitted = true)
    (fresh : world.connections connection = none) :
    Step target world
      ((world.setConnection connection ⟨attempt.generation, false⟩).setTask task
        (.connecting { attempt with admitted := false }))
  | succeedAgain {world : World} {task connection : Nat} {attempt : Attempt} {behind : Connection}
    (connecting : world.tasks task = .connecting attempt)
    (known : world.connections connection = some behind)
    (own : behind.generation = attempt.generation) :
    Step target world (world.setTask task (.connected attempt.generation connection))
  | failAgain {world : World} {task : Nat} {attempt : Attempt}
    (connecting : world.tasks task = .connecting attempt) :
    Step target world (world.setTask task .sleeping)
  | finishAttempt {world : World} {task connection : Nat} {generation : UInt64}
    (connected : world.tasks task = .connected generation connection) :
    Step target world (world.finishAttempt task generation connection)
  /-- `close` aborts the task it takes, which ends at one of its awaits. -/
  | abort {world : World} {task : Nat} (closed : world.state.closed = true)
    (live : (world.tasks task).live = true) :
    Step target world (world.setTask task .ended)
  | drop {world : World} {id starter : Nat} {connection : Connection}
    (known : world.connections id = some connection) (alive : connection.dropped = false)
    (fresh : world.starters starter = .absent) :
    Step target world (world.drop id connection starter)
  | close {world : World} : Step target world (world.setState world.state.close)

/-- Some run of the backend from its creation reaches the world. -/
def Reachable (target : String) (world : World) : Prop :=
  Relation.ReflTransGen (Step target) {} world

end World

end Ployz.Proxy
