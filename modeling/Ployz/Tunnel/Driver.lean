import Ployz.Base.OrdMap
import Ployz.Base.Run
import Ployz.Tunnel.Link
import Ployz.Tunnel.Stream

/-!
# The driver of the tunnel

The driver owns the streams and their local ports. Its loop answers commands, carries datagrams,
moves bytes between the streams and their sockets, lets the TCP stack work and removes the streams
that are done. Clients work on the signals of their streams at any time.

A step is one command, one stream of `sync_streams`, or one other function of the loop; what the
socket, the engine and the TCP stack do is chosen with the step. Every reading of the clock is at
least the one before it.
-/

namespace Ployz.Tunnel

open Api

def maxCommands : Nat := 256

def maxStreams : Nat := 256

/-- `TIMER_TICK`, in milliseconds. -/
def timerTick : Nat := 250

/-- `SocketAddr`; an IPv4 address has no scope. -/
structure SocketAddr where
  ip : IpAddr
  port : UInt16
  scopeId : UInt32 := 0

/-- `Display for SocketAddr`. -/
def SocketAddr.display (self : SocketAddr) : String :=
  match self.ip with
  | .v4 _ => self.ip.display ++ ":" ++ toString self.port.toNat
  | .v6 _ =>
    let scope := if self.scopeId = 0 then "" else "%" ++ toString self.scopeId.toNat
    "[" ++ self.ip.display ++ scope ++ "]:" ++ toString self.port.toNat

/-- `TunnelError`. -/
structure TunnelError where
  context : String
  detail : String

def TunnelError.dial (detail : String) : TunnelError := ⟨"dial through WireGuard tunnel", detail⟩

/-- A record of the driver, with its stream and its local port. -/
structure Entry (σ : Type) where
  localPort : UInt16
  stream : Stream σ

/-- The part of `Driver` that holds the streams. -/
structure Table (σ : Type) where
  streams : OrdMap UInt64 (Entry σ) := ∅
  usedPorts : Finset UInt16 := ∅
  nextStreamId : UInt64 := 1
  nextPort : UInt16 := 49152

namespace Table

variable {σ : Type} (self : Table σ)

/-- The loop of `allocate_port`. -/
def searchPort : Nat → Table σ → Option UInt16 × Table σ
  | 0, self => (none, self)
  | rounds + 1, self =>
    let port := self.nextPort
    let self := { self with nextPort := if port = 65535 then 49152 else port + 1 }
    if port ∈ self.usedPorts then searchPort rounds self else (some port, self)

def allocatePort : Option UInt16 × Table σ := searchPort (65535 - 49152 + 1) self

/-- The end of `open`, for a socket that connects. -/
def add (port : UInt16) (state : σ) : UInt64 × Table σ :=
  let id := self.nextStreamId
  (id, { self with
    usedPorts := insert port self.usedPorts
    nextStreamId := max (id + 1) 1
    streams := self.streams.insert id
      { localPort := port, stream := { signal := {}, record := { socket := { state } } } } })

/-- `Driver::open`, with what `connect` of the new socket returns. -/
def openStream (config : Config) (remote : SocketAddr) (connect : Except String σ) :
    Except TunnelError UInt64 × Table σ :=
  if maxStreams ≤ self.streams.size then
    (.error (.dial ("at most " ++ toString maxStreams ++ " simultaneous streams are supported")),
      self)
  else if !config.remoteNetwork.contains remote.ip then
    (.error (.dial ("address " ++ remote.ip.display ++ " is outside allowed network " ++
      config.remoteNetwork.address.display ++ "/" ++ toString config.remoteNetwork.prefixLen)),
      self)
  else
    match self.allocatePort with
    | (none, self) => (.error (.dial "no ephemeral TCP ports are available"), self)
    | (some port, self) =>
      match connect with
      | .error error =>
        (.error (.dial ("connect " ++ remote.display ++ ": " ++ error)), self)
      | .ok state =>
        let (id, self) := self.add port state
        (.ok id, self)

/-- The table with another state of a stream. -/
def alter (id : UInt64) (change : Stream σ → Stream σ) : Table σ :=
  match self.streams[id]? with
  | none => self
  | some entry =>
    { self with
      streams := self.streams.insert id { entry with stream := change entry.stream } }

/-- `Driver::shutdown`. -/
def shutdownStream (id : UInt64) (how : Shutdown) : Except ErrorKind Unit × Table σ :=
  match self.streams[id]? with
  | none => (.error .connectionAborted, self)
  | some entry =>
    match shutdown entry.stream.signal how with
    | .error error => (.error error, self)
    | .ok signal => (.ok (), self.alter id fun stream => { stream with signal := signal })

/-- The sockets are brought to other states. -/
def polled (next : UInt64 → σ) : Table σ :=
  { self with
    streams := self.streams.map fun id entry =>
      { entry with
        stream := { entry.stream with
          record := { entry.stream.record with
            socket := { entry.stream.record.socket with state := next id } } } } }

variable (stack : Stack σ) (now : Nat)

/-- The streams that `cleanup_streams` removes. -/
def finished : List (UInt64 × Entry σ) :=
  self.streams.toList.filter fun (_, entry) => (entry.stream.cleanup stack now).1

/-- A stream is removed and its port is free. -/
def remove (removed : UInt64 × Entry σ) : Table σ :=
  { self with
    streams := self.streams.erase removed.1
    usedPorts := self.usedPorts.erase removed.2.localPort }

def cleanupStreams : Table σ :=
  let checked := self.streams.map fun _ entry =>
    { entry with stream := (entry.stream.cleanup stack now).2 }
  (self.finished stack now).foldl remove { self with streams := checked }

end Table

/-- Where the loop of the driver is: what it does next, or that it has ended. -/
inductive Phase where
  /-- As many commands are answered at most. -/
  | commands (left : Nat)
  | flush
  | receive
  /-- `sync_streams`, before and after the stack is polled, for the streams that are left. -/
  | sync (again : Bool) (ids : List UInt64)
  | poll
  | send
  | timers
  | reflush
  | cleanup
  | ended (error : Option DriverError)

/-- What happens in a step. -/
inductive Event where
  | client (id : UInt64)
  | command
  | sync (id : UInt64) (now : Nat)
  | cleanup (now : Nat)
  | work

/-- `Driver`, with the reading of the clock last made and the number of `Open` commands. -/
structure Driver (σ : Type) where
  table : Table σ := {}
  link : Link := {}
  lastTimer : Nat := 0
  phase : Phase := .commands maxCommands
  clock : Nat := 0
  opens : Nat := 0

/-- A section of the client of a stream. -/
inductive Section : SignalState → SignalState → Prop
  | read (state : SignalState) (size : Nat) : Section state (state.tryRead size).2
  | write (state : SignalState) (buffer : List UInt8) : Section state (state.tryWrite buffer).2
  | abort (state : SignalState) : Section state state.requestAbort
  | drop (state : SignalState) : Section state state.requestDrop

namespace Driver

variable {σ : Type}

/-- A function that carries datagrams is called, and the loop goes on or ends. -/
def carry (self : Driver σ) (outside : Outside) (call : OnLink Unit) (next : Phase) : Driver σ :=
  match call.outcome { self.link with outside := outside } with
  | (.ok (), link) => { self with link := link, phase := next }
  | (.error error, link) => { self with link := link, phase := .ended (some error) }

/-- `update_timers` is called when it is time, and the clock is read again. -/
def tick (self : Driver σ) (outside : Outside) (now after : Nat) : Driver σ :=
  if self.lastTimer + timerTick ≤ now then
    { self.carry outside Link.updateTimers .reflush with lastTimer := after, clock := after }
  else { self with clock := now, phase := .reflush }

variable (config : Config) (stack : Stack σ)

/-- A step of the driver, or of a client that has not dropped its stream. -/
inductive Step : Driver σ → Event → Driver σ → Prop
  | client {self : Driver σ} {id : UInt64} {entry : Entry σ} {signal : SignalState}
      (present : self.table.streams[id]? = some entry)
      (held : entry.stream.signal.dropped = false) (section' : Section entry.stream.signal signal) :
    Step self (.client id)
      { self with table := self.table.alter id fun stream => { stream with signal := signal } }
  | openStream {self : Driver σ} {left : Nat} (phase : self.phase = .commands (left + 1))
      (remote : SocketAddr) (connect : Except String σ) :
    Step self .command
      { self with
        table := (self.table.openStream config remote connect).2
        phase := .commands left
        opens := self.opens + 1 }
  | shutdown {self : Driver σ} {left : Nat} (phase : self.phase = .commands (left + 1))
      (id : UInt64) (how : Shutdown) :
    Step self .command
      { self with table := (self.table.shutdownStream id how).2, phase := .commands left }
  | stop {self : Driver σ} {left : Nat} (phase : self.phase = .commands (left + 1)) :
    Step self .command { self with phase := .ended none }
  | proceed {self : Driver σ} {left : Nat} (phase : self.phase = .commands left) :
    Step self .work { self with phase := .flush }
  | flush {self : Driver σ} (phase : self.phase = .flush) (outside : Outside) :
    Step self .work (self.carry outside Link.flushDatagrams .receive)
  | receive {self : Driver σ} (phase : self.phase = .receive) (outside : Outside) :
    Step self .work (self.carry outside (Link.receiveDatagrams config)
      (.sync false self.table.streams.keys))
  | sync {self : Driver σ} {again : Bool} {id : UInt64} {ids : List UInt64}
      (phase : self.phase = .sync again (id :: ids)) {now : Nat} (later : self.clock ≤ now) :
    Step self (.sync id now)
      { self with
        table := self.table.alter id (Stream.sync stack · now)
        phase := .sync again ids
        clock := now }
  | synced {self : Driver σ} {again : Bool} (phase : self.phase = .sync again []) :
    Step self .work { self with phase := if again then .send else .poll }
  | poll {self : Driver σ} (phase : self.phase = .poll) (calls : List DeviceCall) {next : UInt64 → σ}
      (polled : ∀ {id entry}, self.table.streams[id]? = some entry →
        stack.polls entry.stream.record.socket.state (next id)) :
    Step self .work
      { self with
        table := self.table.polled next
        link := { self.link with device := calls.foldl IpDevice.call self.link.device }
        phase := .sync true self.table.streams.keys }
  | send {self : Driver σ} (phase : self.phase = .send) (outside : Outside) :
    Step self .work (self.carry outside (Link.sendPlaintext config) .timers)
  | timers {self : Driver σ} (phase : self.phase = .timers) (outside : Outside) {now after : Nat}
      (later : self.clock ≤ now) (last : now ≤ after) :
    Step self .work (self.tick outside now after)
  | reflush {self : Driver σ} (phase : self.phase = .reflush) (outside : Outside) :
    Step self .work (self.carry outside Link.flushDatagrams .cleanup)
  | cleanup {self : Driver σ} (phase : self.phase = .cleanup) {now : Nat}
      (later : self.clock ≤ now) :
    Step self (.cleanup now)
      { self with
        table := self.table.cleanupStreams stack now
        phase := .commands maxCommands
        clock := now }

/-- The traces of the driver. -/
abbrev Runs : Driver σ → List (Driver σ × Event) → Driver σ → Prop := Trace (Step config stack)

end Driver

end Ployz.Tunnel
