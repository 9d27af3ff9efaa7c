import Ployz.Tunnel.Driver

/-!
# Wakers of a tunnel stream

A task that polls a stream leaves its waker there when there is nothing to do, and is polled again
after it was woken. The driver sets what a stream is ready for in one section under the stream's
lock, takes the wakers in another and wakes them after that; the health of the tunnel has a lock of
its own.

The world below has one stream, a reading and a writing task, and the two threads that notify: the
driver, and a client that drops the stream. What a thread still has to do is a list of actions, and
it begins nothing else before the list is done. A step is one section.
-/

namespace Ployz.Tunnel

/-- `HealthState`. -/
structure Health where
  closed : Bool := false
  failure : Option String := none

namespace Health

variable (self : Health)

def check : Except TunnelError Unit :=
  match self.failure with
  | some failure => .error (.dial failure)
  | none => if self.closed then .error (.dial "tunnel is closed") else .ok ()

def fail (detail : String) : Health := { self with failure := some (self.failure.getD detail) }

def close : Health := { self with closed := true }

/-- Whether `check` passes. -/
def good : Bool :=
  match self.check with
  | .ok () => true
  | .error _ => false

end Health

namespace Polling

/-- The halves of a stream. -/
inductive Side where
  | read
  | write
deriving DecidableEq, Repr

/-- What a poll is called with: the size of the buffer to fill, or the bytes to write. -/
inductive Request where
  | read (size : Nat)
  | write (buffer : List UInt8)

namespace Request

def side : Request → Side
  | .read _ => .read
  | .write _ => .write

/-- An empty buffer is answered without a look at the stream. -/
def isEmpty : Request → Bool
  | .read size => size == 0
  | .write buffer => buffer.isEmpty

/-- `Signal::try_read` or `Signal::try_write`: whether it would block, and the state it leaves. -/
def attempt (state : SignalState) : Request → Bool × SignalState
  | .read size =>
    match state.tryRead size with
    | (.error .wouldBlock, state) => (true, state)
    | (_, state) => (false, state)
  | .write buffer =>
    match state.tryWrite buffer with
    | (.error .wouldBlock, state) => (true, state)
    | (_, state) => (false, state)

end Request

/-- How far a poll is: the health was checked, the first attempt would block, the waker is
registered, the health was checked again. -/
inductive Stage where
  | checked
  | blocked
  | registered
  | rechecked
deriving DecidableEq, Repr

/-- A task: not in a poll, in a poll, or its last poll returned `Pending`. -/
inductive Task (ω : Type) where
  | idle
  | polling (stage : Stage) (request : Request) (waker : ω)
  | parked (waker : ω)

def Task.isPolling {ω : Type} : Task ω → Bool
  | .polling _ _ _ => true
  | _ => false

/-- The threads that notify. -/
inductive Thread where
  | driver
  | client
deriving DecidableEq, Repr

/-- What a thread does after a section. -/
inductive Action (ω : Type) where
  /-- `notify_all`, `notify_read` or `notify_write`, up to the end of its section. -/
  | notify (chosen : Side → Bool)
  | wake (side : Side) (waker : ω)
  /-- `health.close()`. -/
  | close

/-- What happens in a step. -/
inductive Event (ω : Type) where
  | act (thread : Thread) (action : Action ω)
  | begins (thread : Thread)
  | register (side : Side) (waker : ω)
  | poll (side : Side)

/-- A stream with the wakers of its signal, the health of the tunnel, whether the driver is in its
loop and has the stream, the actions that the threads have left, and the tasks. -/
structure World (σ ω : Type) where
  stream : Stream σ
  wakers : Side → Option ω := fun _ => none
  health : Health := {}
  running : Bool := true
  present : Bool := true
  todo : Thread → List (Action ω) := fun _ => []
  tasks : Side → Task ω := fun _ => .idle

def notifyAll {ω : Type} : Action ω := .notify fun _ => true

namespace World

variable {σ ω : Type} (self : World σ ω)

/-- A stream as `open` leaves it. -/
def start (state : σ) : World σ ω :=
  { stream := { signal := {}, record := { socket := { state := state } } } }

def setSignal (signal : SignalState) : World σ ω :=
  { self with stream := { self.stream with signal := signal } }

def setTodo (thread : Thread) (actions : List (Action ω)) : World σ ω :=
  { self with todo := Function.update self.todo thread actions }

def setTask (side : Side) (task : Task ω) : World σ ω :=
  { self with tasks := Function.update self.tasks side task }

/-- The wakers that a notification takes. -/
def taken (chosen : Side → Bool) (side : Side) : List (Action ω) :=
  if chosen side then (self.wakers side).toList.map (.wake side) else []

/-- A thread does the first action of its list. -/
def perform (thread : Thread) (rest : List (Action ω)) : Action ω → World σ ω
  | .notify chosen =>
    { self.setSignal self.stream.signal.notify with
      wakers := fun side => if chosen side then none else self.wakers side }.setTodo thread
        (self.taken chosen .read ++ self.taken chosen .write ++ rest)
  | .wake _ _ => self.setTodo thread rest
  | .close => { self with health := self.health.close }.setTodo thread rest

/-- The section of `Driver::shutdown` or `request_abort`, and what is left to notify. -/
def mark (how : Shutdown) : Option (SignalState × List (Action ω)) :=
  let state := self.stream.signal
  match how with
  | .read => none
  | .write => some ({ state with writeShutdown := true }, [notifyAll])
  | .both =>
    some ({ state with
      abortRequested := true, readClosed := true, writeClosed := true, incoming := [],
      outgoing := [] }, [notifyAll, notifyAll])

/-- The end of `Driver::run`: the streams are notified, then the tunnel is closed. -/
def leave : List (Action ω) := if self.present then [notifyAll, .close] else [.close]

variable (stack : Stack σ) (now : Nat)

/-- The sides that `sync_streams` notifies. -/
def awaits : Side → Bool
  | .read => self.stream.readAwaits stack now
  | .write => self.stream.writeAwaits stack now

/-- The body of the loop in `sync_streams`, and the notification that follows. -/
def synced : World σ ω :=
  { self with stream := self.stream.advance stack now }.setTodo .driver
    (if self.stream.readAwaits stack now || self.stream.writeAwaits stack now then
      [.notify (self.awaits stack now)]
    else [])

/-- `cleanup_streams`. -/
def cleaned : World σ ω :=
  let (removed, stream) := self.stream.cleanup stack now
  let world := { self with stream := { self.stream with record := stream.record } }
  if removed then { world with present := false }.setTodo .driver [notifyAll] else world

end World

variable {σ ω : Type} (stack : Stack σ)

/-- A step of a thread or of a task. The driver begins something only in its loop. -/
inductive Step : World σ ω → Event ω → World σ ω → Prop
  | act {self : World σ ω} {thread : Thread} {action : Action ω} {rest : List (Action ω)}
      (next : self.todo thread = action :: rest) :
    Step self (.act thread action) (self.perform thread rest action)
  | sync {self : World σ ω} (free : self.todo .driver = []) (runs : self.running = true)
      (held : self.present = true) (now : Nat) :
    Step self (.begins .driver) (self.synced stack now)
  | stack {self : World σ ω} (free : self.todo .driver = []) (runs : self.running = true)
      (held : self.present = true) {state : σ}
      (polled : stack.polls self.stream.record.socket.state state) :
    Step self (.begins .driver)
      { self with
        stream := { self.stream with
          record := { self.stream.record with
            socket := { self.stream.record.socket with state := state } } } }
  | shutdown {self : World σ ω} (free : self.todo .driver = []) (runs : self.running = true)
      (held : self.present = true) {how : Shutdown} {signal : SignalState}
      {actions : List (Action ω)} (marked : self.mark how = some (signal, actions)) :
    Step self (.begins .driver) ((self.setSignal signal).setTodo .driver actions)
  | cleanup {self : World σ ω} (free : self.todo .driver = []) (runs : self.running = true)
      (held : self.present = true) (now : Nat) :
    Step self (.begins .driver) (self.cleaned stack now)
  | fail {self : World σ ω} (free : self.todo .driver = []) (runs : self.running = true)
      (detail : String) :
    Step self (.begins .driver)
      ({ self with health := self.health.fail detail, running := false }.setTodo .driver
        self.leave)
  | stop {self : World σ ω} (free : self.todo .driver = []) (runs : self.running = true) :
    Step self (.begins .driver) ({ self with running := false }.setTodo .driver self.leave)
  | drop {self : World σ ω} (free : self.todo .client = [])
      (held : self.stream.signal.dropped = false)
      (quiet : ∀ side, (self.tasks side).isPolling = false) :
    Step self (.begins .client)
      ((self.setSignal { self.stream.signal with dropped := true, writeShutdown := true }).setTodo
        .client [notifyAll])
  | poll {self : World σ ω} (request : Request) (waker : ω)
      (held : self.stream.signal.dropped = false) (some : request.isEmpty = false)
      (free : (self.tasks request.side).isPolling = false) :
    Step self (.poll request.side)
      (self.setTask request.side
        (if self.health.good then .polling .checked request waker else .idle))
  | attempt {self : World σ ω} {request : Request} {waker : ω}
      (stage : self.tasks request.side = .polling .checked request waker) :
    Step self (.poll request.side)
      ((self.setSignal (request.attempt self.stream.signal).2).setTask request.side
        (if (request.attempt self.stream.signal).1 then .polling .blocked request waker else .idle))
  | register {self : World σ ω} {request : Request} {waker : ω}
      (stage : self.tasks request.side = .polling .blocked request waker) :
    Step self (.register request.side waker)
      ({ self with wakers := Function.update self.wakers request.side (.some waker) }.setTask
        request.side (.polling .registered request waker))
  | recheck {self : World σ ω} {request : Request} {waker : ω}
      (stage : self.tasks request.side = .polling .registered request waker) :
    Step self (.poll request.side)
      (self.setTask request.side
        (if self.health.good then .polling .rechecked request waker else .idle))
  | retry {self : World σ ω} {request : Request} {waker : ω}
      (stage : self.tasks request.side = .polling .rechecked request waker) :
    Step self (.poll request.side)
      ((self.setSignal (request.attempt self.stream.signal).2).setTask request.side
        (if (request.attempt self.stream.signal).1 then .parked waker else .idle))

/-- The traces of the world. -/
abbrev Runs : World σ ω → List (World σ ω × Event ω) → World σ ω → Prop := Trace (Step stack)

end Polling

end Ployz.Tunnel
