import Mathlib.Data.List.Basic

/-!
# Broadcasting a call to several machines

`one_to_many` spawns one task for every backend and merges what they send over one bounded
channel. A task sends what its backend answers, rewritten, and at last that it has finished; its
sends happen one after another, each as soon as the channel has room. The request pump reports
its result on a channel of its own, which the merging loop prefers until it has it.
-/

namespace Ployz.Proxy

/-- The codes of `tonic::Status` used here. -/
inductive Code where
  | ok
  | cancelled
  | unknown
  | deadlineExceeded
  | unavailable
  | internal
  | other (number : Nat)
deriving DecidableEq, Repr

/-- `MetadataMap`, in the order of its entries. -/
abbrev Metadata := List (String × List UInt8)

/-- `tonic::Status`. -/
structure Status where
  code : Code
  message : String
  metadata : Metadata := []
deriving DecidableEq, Repr

/-- A backend, as far as its responses are rewritten. -/
structure Backend where
  target : String
  /-- `append_info` of a message that is not streamed. -/
  appendInfo : List UInt8 → Except String (List UInt8)
  /-- `build_error` for a message that is not streamed. -/
  buildError : Status → Except String (Option (List UInt8))

/-- What a backend answers to the call. -/
inductive Upstream where
  /-- No response: the channel, its readiness or the call failed. -/
  | unavailable (status : Status)
  /-- Payloads, and then trailers or a failure. -/
  | answered (metadata : Metadata) (payloads : List (List UInt8))
      (ending : Except Status (Option Metadata))

/-- `BackendEvent`. -/
inductive BackendEvent where
  | initialMetadata (metadata : Metadata)
  | payload (payload : List UInt8)
  | trailers (metadata : Metadata)
  | fatal (status : Status)
  | finished
deriving DecidableEq, Repr

/-- `BroadcastFailure`. -/
inductive BroadcastFailure where
  | backend (status : Status)
  | transform (status : Status)

section Task

variable (backend : Backend)

/-- The loop of `run_broadcast_backend` over the messages of a response: what it sends, and how it
ends. -/
def relay (metadata : Metadata) (ending : Except Status (Option Metadata)) (first : Bool) :
    List (List UInt8) → List BackendEvent × Except BroadcastFailure Unit
  | [] =>
    match ending with
    | .ok (some trailers) => ([.trailers trailers], .ok ())
    | .ok none => ([], .ok ())
    | .error status => ([], .error (.backend status))
  | payload :: payloads =>
    let opening := if first then [.initialMetadata metadata] else []
    match backend.appendInfo payload with
    | .error error =>
      (opening, .error (.transform ⟨.unknown,
        "error appending info for " ++ backend.target ++ ": " ++ error, []⟩))
    | .ok rewritten =>
      let later := relay metadata ending false payloads
      (opening ++ .payload rewritten :: later.1, later.2)

/-- The part of `run_broadcast_backend` behind the loop. -/
def report : Except BroadcastFailure Unit → List BackendEvent
  | .ok () => []
  | .error (.transform status) => [.fatal status]
  | .error (.backend status) =>
    match backend.buildError status with
    | .ok (some payload) => [.payload payload]
    | .ok none => [.fatal status]
    | .error error =>
      [.fatal ⟨.unknown, "error building error for " ++ backend.target ++ ": " ++ error, []⟩]

/-- The call of `run_broadcast_backend`: what it sends, and how it ends. -/
def exchange : Upstream → List BackendEvent × Except BroadcastFailure Unit
  | .unavailable status => ([], .error (.backend status))
  | .answered metadata payloads ending => relay backend metadata ending true payloads

/-- What `run_broadcast_backend` sends, in order. -/
def runBroadcastBackend (upstream : Upstream) : List BackendEvent :=
  (exchange backend upstream).1 ++ report backend (exchange backend upstream).2 ++ [.finished]

end Task

/-- The variables of the merging loop. -/
structure Merge where
  responseMetadata : Metadata := []
  trailers : Metadata := []
  merged : List UInt8 := []
  backendFailures : List Status := []
  finished : Nat := 0

/-- The loop body on an event. -/
def Merge.absorb (self : Merge) : BackendEvent → Merge
  | .initialMetadata metadata =>
    { self with responseMetadata := self.responseMetadata ++ metadata }
  | .payload payload => { self with merged := self.merged ++ payload }
  | .trailers metadata => { self with trailers := self.trailers ++ metadata }
  | .fatal status => { self with backendFailures := self.backendFailures ++ [status] }
  | .finished => { self with finished := self.finished + 1 }

/-- What the call is answered with: a status, or a response with messages and a status behind
them. -/
inductive Reply where
  | refused (status : Status)
  | response (metadata : Metadata) (messages : List (Except Status (List UInt8)))

def responseOrStatus (metadata : Metadata) (status : Status) : Reply :=
  if metadata = [] then .refused status else .response metadata [.error status]

/-- An error of the call, with the trailers so far. -/
def Merge.failWith (self : Merge) (status : Status) : Reply :=
  responseOrStatus self.responseMetadata
    { status with metadata := status.metadata ++ self.trailers }

/-- The status that sums up the backends whose rewriting failed. -/
def failureStatus (failures : List Status) : Status :=
  let noun := if failures.length = 1 then "error" else "errors"
  let bullets := "\n\t* ".intercalate (failures.map Status.message)
  ⟨.unknown, toString failures.length ++ " " ++ noun ++ " occurred:\n\t* " ++ bullets ++ "\n\n", []⟩

/-- The request pump: its result stays with it until it ends, then waits in its channel, until
the loop has it. -/
inductive Pump where
  | running (result : Except Status Unit)
  | reported (result : Except Status Unit)
  | collected

/-- The trailers behind the merged message, sent as a status. -/
def trailing (trailers : Metadata) : List (Except Status (List UInt8)) :=
  if trailers = [] then [] else [.error ⟨.ok, "", trailers⟩]

/-- The part of `one_to_many` behind its loop. -/
def Merge.conclude (self : Merge) (pump : Pump) : Reply :=
  match pump with
  | .reported (.error status) => self.failWith status
  | _ =>
    if self.backendFailures ≠ [] then self.failWith (failureStatus self.backendFailures)
    else .response self.responseMetadata (.ok self.merged :: trailing self.trailers)

/-- A call that is being broadcast. -/
structure Broadcast where
  /-- What the task of each backend has still to send. -/
  tasks : List (List BackendEvent)
  events : List BackendEvent
  pump : Pump
  merge : Merge
  outcome : Option Reply

def responseBuffer : Nat := 8

/-- The room of the event channel. -/
def Broadcast.capacity (self : Broadcast) : Nat := max responseBuffer (self.tasks.length * 2)

/-- `one_to_many` with its tasks spawned, before any of them runs. -/
def Broadcast.start (backends : List (Backend × Upstream)) (requests : Except Status Unit) :
    Broadcast :=
  { tasks := backends.map fun entry => runBroadcastBackend entry.1 entry.2
    events := []
    pump := .running requests
    merge := {}
    outcome := if backends = [] then
      some (.refused ⟨.unavailable, "no backend connections for proxying", []⟩) else none }

/-- The loop looks at the event channel: it has the result of the request pump, or there is none
yet. -/
def Pump.Yields : Pump → Prop
  | .reported _ => False
  | _ => True

/-- The steps of a call that has not been answered. `expires` says whether its deadline may
fire. -/
inductive Broadcast.Step (expires : Bool) : Broadcast → Broadcast → Prop
  /-- A backend task sends its next event. -/
  | send {self : Broadcast} (running : self.outcome = none) {index : Nat} {event : BackendEvent}
      {rest : List BackendEvent} (next : self.tasks[index]? = some (event :: rest))
      (room : self.events.length < self.capacity) :
      Step expires self
        { self with tasks := self.tasks.set index rest, events := self.events ++ [event] }
  /-- The request stream ends. -/
  | report {self : Broadcast} (running : self.outcome = none) {result : Except Status Unit}
      (pumping : self.pump = .running result) :
      Step expires self { self with pump := .reported result }
  /-- The loop takes the result of the request pump. -/
  | collect {self : Broadcast} (running : self.outcome = none)
      (waiting : self.merge.finished < self.tasks.length) (reported : self.pump = .reported (.ok ())) :
      Step expires self { self with pump := .collected }
  /-- The request stream failed. -/
  | refuse {self : Broadcast} (running : self.outcome = none)
      (waiting : self.merge.finished < self.tasks.length) {status : Status}
      (reported : self.pump = .reported (.error status)) :
      Step expires self { self with outcome := some (self.merge.failWith status) }
  /-- The loop takes an event. -/
  | take {self : Broadcast} (running : self.outcome = none)
      (waiting : self.merge.finished < self.tasks.length) (yields : self.pump.Yields)
      {event : BackendEvent} {rest : List BackendEvent} (first : self.events = event :: rest) :
      Step expires self { self with events := rest, merge := self.merge.absorb event }
  /-- Every task has stopped and nothing is left in the channel. -/
  | stop {self : Broadcast} (running : self.outcome = none)
      (waiting : self.merge.finished < self.tasks.length) (yields : self.pump.Yields)
      (empty : self.events = []) (stopped : ∀ task ∈ self.tasks, task = []) :
      Step expires self
        { self with
          outcome := some (.refused
            ⟨.internal, "all broadcast backend tasks stopped before completion", []⟩) }
  /-- The deadline fires while the loop waits. -/
  | expire {self : Broadcast} (running : self.outcome = none)
      (waiting : self.merge.finished < self.tasks.length) (deadline : expires = true) :
      Step expires self
        { self with
          outcome := some (self.merge.failWith
            ⟨.deadlineExceeded, "context deadline exceeded", []⟩) }
  /-- The loop ends. -/
  | respond {self : Broadcast} (running : self.outcome = none)
      (done : ¬ self.merge.finished < self.tasks.length) :
      Step expires self { self with outcome := some (self.merge.conclude self.pump) }

end Ployz.Proxy
