import Mathlib.Logic.Relation

/-!
# Streams of the userspace tunnel

A stream joins a client and the driver thread. They share a signal, which holds a buffer for each
direction and the flags of both sides under one lock; the driver moves bytes between the buffers and
the TCP socket. Every section under the lock is a function here, and a step of the world is one
section, or what the TCP stack does between two of them.

Streams share nothing but the driver's thread, so the world holds one. A client has a stream only
after `dial_context` saw it connected, and none once it was dropped. The TCP stack is a parameter; a
socket is kept together with a journal of what passed through it.
-/

namespace Ployz.Tunnel

def tcpBufferSize : Nat := 64 * 1024

/-- `CLOSE_TIMEOUT`, in milliseconds. -/
def closeTimeout : Nat := 5000

/-- The kinds of errors that the operations of a stream return. -/
inductive ErrorKind where
  | wouldBlock
  | brokenPipe
  | connectionAborted
  | unsupported
deriving DecidableEq, Repr

/-- The TCP sockets of smoltcp. A slice operation gives nothing if it fails, and `recvSlice` gives
the bytes it moved in place of their number. -/
structure Stack (σ : Type) where
  canSend : σ → Bool
  maySend : σ → Bool
  canRecv : σ → Bool
  mayRecv : σ → Bool
  isOpen : σ → Bool
  /-- Whether `state()` is `Closed`. -/
  isClosed : σ → Bool
  sendSlice : σ → List UInt8 → Option (Nat × σ)
  recvSlice : σ → Nat → Option (List UInt8 × σ)
  close : σ → σ
  abort : σ → σ
  /-- What `poll_stack` may do with a socket. -/
  polls : σ → σ → Prop

/-- A socket, with what was handed to it, what it delivered and whether it was closed gracefully. -/
structure Socket (σ : Type) where
  state : σ
  handed : List UInt8 := []
  delivered : List UInt8 := []
  closed : Bool := false

/-- `SignalState`, without the wakers. -/
structure SignalState where
  generation : UInt64 := 0
  incoming : List UInt8 := []
  outgoing : List UInt8 := []
  connected : Bool := false
  readClosed : Bool := false
  writeClosed : Bool := false
  writeShutdown : Bool := false
  abortRequested : Bool := false
  dropped : Bool := false

/-- `StreamStatus`. -/
inductive StreamStatus where
  | connecting
  | connected
  | closed
deriving DecidableEq, Repr

namespace SignalState

variable (state : SignalState)

/-- `Signal::notify_all`, `notify_read` and `notify_write`, apart from the wakers. -/
def notify : SignalState := { state with generation := state.generation + 1 }

def status : StreamStatus :=
  if state.connected && !(state.readClosed && state.writeClosed) then .connected
  else if state.readClosed || state.writeClosed then .closed
  else .connecting

/-- `Signal::try_read` with a buffer of the given size. -/
def tryRead (size : Nat) : Except ErrorKind (List UInt8) × SignalState :=
  let bytes := state.incoming.take size
  let state := { state with incoming := state.incoming.drop size }
  if bytes ≠ [] then (.ok bytes, state)
  else if state.readClosed then (.ok [], state)
  else (.error .wouldBlock, state)

def tryWrite (buffer : List UInt8) : Except ErrorKind Nat × SignalState :=
  if state.writeShutdown || state.writeClosed then (.error .brokenPipe, state)
  else
    let count := min buffer.length (tcpBufferSize - state.outgoing.length)
    if count = 0 then (.error .wouldBlock, state)
    else (.ok count, { state with outgoing := state.outgoing ++ buffer.take count })

def requestAbort : SignalState :=
  notify { state with
    abortRequested := true, readClosed := true, writeClosed := true, incoming := [], outgoing := [] }

def requestDrop : SignalState := notify { state with dropped := true, writeShutdown := true }

def readReady : Bool := !state.incoming.isEmpty || state.readClosed

def writeReady : Bool := decide (state.outgoing.length < tcpBufferSize) || state.writeClosed

end SignalState

/-- `Shutdown` of the standard library. -/
inductive Shutdown where
  | read
  | write
  | both
deriving DecidableEq, Repr

/-- `Driver::shutdown` for a stream that the driver has. -/
def shutdown (state : SignalState) : Shutdown → Except ErrorKind SignalState
  | .read => .error .unsupported
  | .write => .ok { state with writeShutdown := true }.notify
  | .both => .ok state.requestAbort.notify

/-- `StreamLifecycle`. -/
inductive StreamLifecycle where
  | attached
  | closing (deadline : Nat)
  | aborting (pollsRemaining : Nat)
deriving DecidableEq, Repr

/-- `StreamRecord`, with the socket for its handle and without the port. -/
structure StreamRecord (σ : Type) where
  socket : Socket σ
  connected : Bool := false
  lifecycle : StreamLifecycle := .attached

/-- A stream as the driver has it: the record and the shared state. -/
structure Stream (σ : Type) where
  signal : SignalState
  record : StreamRecord σ

section Driver

variable {σ : Type} (stack : Stack σ)

namespace Socket

variable (socket : Socket σ)

def sendSlice (bytes : List UInt8) : Option (Nat × Socket σ) :=
  (stack.sendSlice socket.state bytes).map fun (count, state) =>
    (count, { socket with state := state, handed := socket.handed ++ bytes.take count })

def recvSlice (size : Nat) : Option (List UInt8 × Socket σ) :=
  (stack.recvSlice socket.state size).map fun (bytes, state) =>
    (bytes, { socket with state := state, delivered := socket.delivered ++ bytes })

def close : Socket σ := { socket with state := stack.close socket.state, closed := true }

def abort : Socket σ := { socket with state := stack.abort socket.state }

end Socket

namespace Stream

variable (stream : Stream σ) (now : Nat)

/-- A stream that was dropped and is still attached. -/
def leaving : Bool := stream.signal.dropped && decide (stream.record.lifecycle = .attached)

/-- The first branch of `sync_streams`: an abort was requested. -/
def syncAbort : Stream σ :=
  { signal := { stream.signal with readClosed := true, writeClosed := true }
    record := { stream.record with
      socket := stream.record.socket.abort stack
      lifecycle := if stream.leaving then .aborting 1 else stream.record.lifecycle } }

/-- Bytes of the client go to the socket. -/
def send : Stream σ :=
  if stack.canSend stream.record.socket.state && !stream.signal.outgoing.isEmpty then
    match stream.record.socket.sendSlice stack stream.signal.outgoing with
    | none => stream
    | some (count, socket) =>
      { signal := { stream.signal with outgoing := stream.signal.outgoing.drop count }
        record := { stream.record with socket := socket } }
  else stream

/-- The socket is closed when everything is sent, or aborted when the client left before there was
a connection. -/
def finish : Stream σ :=
  if stream.signal.writeShutdown && stream.signal.outgoing.isEmpty &&
      stack.maySend stream.record.socket.state then
    { signal := { stream.signal with writeClosed := true }
      record := { stream.record with
        socket := stream.record.socket.close stack
        lifecycle :=
          if stream.leaving then .closing (now + closeTimeout) else stream.record.lifecycle } }
  else if stream.leaving && !stream.record.connected then
    { signal := { stream.signal with readClosed := true, writeClosed := true }
      record := { stream.record with
        socket := stream.record.socket.abort stack, lifecycle := .aborting 1 } }
  else stream

/-- A dropped stream that cannot send any more is closing. -/
def linger : Stream σ :=
  if stream.leaving && stream.record.connected && !stack.maySend stream.record.socket.state then
    { stream with record := { stream.record with lifecycle := .closing (now + closeTimeout) } }
  else stream

/-- Bytes of the socket go to the client, as far as there is room. -/
def receive : Stream σ :=
  let available := tcpBufferSize - stream.signal.incoming.length
  if available ≠ 0 && stack.canRecv stream.record.socket.state then
    match stream.record.socket.recvSlice stack (min available (8 * 1024)) with
    | none => stream
    | some (bytes, socket) =>
      { signal := { stream.signal with incoming := stream.signal.incoming ++ bytes }
        record := { stream.record with socket := socket } }
  else stream

/-- The flags are set from the state of the socket. -/
def observe : Stream σ :=
  let state := stream.record.socket.state
  let connected := stream.record.connected || stack.maySend state
  let ended := connected && !stack.mayRecv state && stream.signal.incoming.isEmpty
  let failed := !connected && !stack.isOpen state
  { signal := { stream.signal with
      connected := connected
      readClosed := stream.signal.readClosed || ended || failed
      writeClosed := stream.signal.writeClosed || (connected && !stack.maySend state) || failed }
    record := { stream.record with connected := connected } }

/-- The section of `sync_streams` under the lock of the stream. -/
def advance : Stream σ :=
  if stream.signal.abortRequested then stream.syncAbort stack
  else ((((stream.send stack).finish stack now).linger stack now).receive stack).observe stack

/-- The reader became ready in the section. -/
def readAwaits : Bool :=
  !stream.signal.readReady && (stream.advance stack now).signal.readReady

/-- The writer became ready in the section. -/
def writeAwaits : Bool :=
  !stream.signal.writeReady && (stream.advance stack now).signal.writeReady

/-- The body of the loop in `sync_streams`. The reader or the writer is notified when it became
ready. -/
def sync : Stream σ :=
  if stream.readAwaits stack now || stream.writeAwaits stack now then
    { stream.advance stack now with signal := (stream.advance stack now).signal.notify }
  else stream.advance stack now

/-- `cleanup_streams` for one stream, and whether it removes the stream. -/
def cleanup : Bool × Stream σ :=
  match stream.record.lifecycle with
  | .attached => (false, stream)
  | .closing deadline =>
    if stack.isClosed stream.record.socket.state then
      (true, { stream with signal := stream.signal.notify })
    else if deadline ≤ now then
      (false, { stream with
        record := { stream.record with
          socket := stream.record.socket.abort stack, lifecycle := .aborting 1 } })
    else (false, stream)
  | .aborting pollsRemaining =>
    if pollsRemaining = 0 then (true, { stream with signal := stream.signal.notify })
    else
      (false,
        { stream with record := { stream.record with lifecycle := .aborting (pollsRemaining - 1) } })

end Stream

end Driver

/-- The client of a stream: `dial_context` waits, the caller has the stream, or it was dropped. -/
inductive Client where
  | dialing
  | holding
  | dropped
deriving DecidableEq, Repr

/-- A stream with its client. What `try_write` accepted and what `try_read` returned is recorded. -/
structure World (σ : Type) where
  stream : Stream σ
  removed : Bool := false
  client : Client := .dialing
  accepted : List UInt8 := []
  returned : List UInt8 := []

namespace World

variable {σ : Type}

/-- A stream after `Driver::open`, with its socket in some state. -/
def opened (state : σ) : World σ :=
  { stream := { signal := {}, record := { socket := { state := state } } } }

variable (w : World σ)

def withSignal (signal : SignalState) : World σ :=
  { w with stream := { w.stream with signal := signal } }

/-- The client writes a buffer; a number of its first bytes is accepted. -/
def write (buffer : List UInt8) : World σ :=
  let (result, signal) := w.stream.signal.tryWrite buffer
  match result with
  | .ok count => { w.withSignal signal with accepted := w.accepted ++ buffer.take count }
  | .error _ => w.withSignal signal

/-- The client reads into a buffer of a size. -/
def read (size : Nat) : World σ :=
  let (result, signal) := w.stream.signal.tryRead size
  match result with
  | .ok bytes => { w.withSignal signal with returned := w.returned ++ bytes }
  | .error _ => w.withSignal signal

/-- `dial_context` returns the stream. -/
def dialed : World σ := { w with client := .holding }

def synced (stack : Stack σ) (now : Nat) : World σ :=
  { w with stream := w.stream.sync stack now }

/-- The stack brought the socket to another state. -/
def polled (state : σ) : World σ :=
  { w with
    stream := { w.stream with
      record := { w.stream.record with
        socket := { w.stream.record.socket with state := state } } } }

/-- One section of the client or of the driver. An operation of the client whose health check
fails changes nothing. -/
inductive Step (stack : Stack σ) : World σ → World σ → Prop
  | dial {w : World σ} (dialing : w.client = .dialing)
      (status : w.stream.signal.status = .connected) :
    Step stack w w.dialed
  | write {w : World σ} (holding : w.client = .holding) (buffer : List UInt8)
      (nonempty : buffer ≠ []) :
    Step stack w (w.write buffer)
  | read {w : World σ} (holding : w.client = .holding) (size : Nat) (nonempty : 0 < size) :
    Step stack w (w.read size)
  | shutdown {w : World σ} (holding : w.client = .holding) (present : w.removed = false)
      (how : Shutdown) {signal : SignalState} (done : shutdown w.stream.signal how = .ok signal) :
    Step stack w (w.withSignal signal)
  /-- `dial_context` gives up. -/
  | abort {w : World σ} (dialing : w.client = .dialing) :
    Step stack w (w.withSignal w.stream.signal.requestAbort)
  | drop {w : World σ} (present : w.client ≠ .dropped) :
    Step stack w { w.withSignal w.stream.signal.requestDrop with client := .dropped }
  | sync {w : World σ} (present : w.removed = false) (now : Nat) :
    Step stack w (w.synced stack now)
  | poll {w : World σ} (present : w.removed = false) {state : σ}
      (polled : stack.polls w.stream.record.socket.state state) :
    Step stack w (w.polled state)
  | cleanup {w : World σ} (present : w.removed = false) (now : Nat) :
    Step stack w { w with
      removed := (w.stream.cleanup stack now).1, stream := (w.stream.cleanup stack now).2 }

/-- The worlds that the sections lead to. -/
abbrev Reaches (stack : Stack σ) : World σ → World σ → Prop := Relation.ReflTransGen (Step stack)

/-- The worlds that a new stream comes to. -/
def Reachable (stack : Stack σ) (w : World σ) : Prop := ∃ state, Reaches stack (opened state) w

end World

end Ployz.Tunnel
