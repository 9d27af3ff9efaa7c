import Ployz.Base.Run
import Ployz.Tunnel.Stream

/-!
# What passes through a stream

Every byte the client wrote is with the socket or in the outgoing buffer, and every byte the socket
delivered is with the client or in the incoming one. Each stage of the driver keeps both facts
together with what the flags say, until an abort is requested. The end of the stream is reported
when the socket can receive nothing more, which then stays so.
-/

namespace Ployz.Tunnel

open List

variable {σ : Type} {stack : Stack σ}

/-- What can happen to a socket. -/
inductive Stack.Moves (stack : Stack σ) : σ → σ → Prop
  | send {state next : σ} {bytes : List UInt8} {count : Nat}
      (sent : stack.sendSlice state bytes = some (count, next)) : Moves stack state next
  | receive {state next : σ} {size : Nat} {bytes : List UInt8}
      (received : stack.recvSlice state size = some (bytes, next)) : Moves stack state next
  | close (state : σ) : Moves stack state (stack.close state)
  | abort (state : σ) : Moves stack state (stack.abort state)
  | poll {state next : σ} (polled : stack.polls state next) : Moves stack state next

/-- What is assumed of the sockets: the received bytes that wait in one, and whether its connection
was established, now or earlier. -/
structure Stack.Lawful (stack : Stack σ) (buffered : σ → List UInt8)
    (established : σ → Prop) : Prop where
  /-- A slice is received from the front of what waits. -/
  recvSlice_eq : ∀ {state next size bytes}, stack.recvSlice state size = some (bytes, next) →
    buffered state = bytes ++ buffered next
  mayRecv_of_buffered : ∀ {state}, buffered state ≠ [] → stack.mayRecv state = true
  established_of_maySend : ∀ {state}, stack.maySend state = true → established state
  established_moves : ∀ {state next}, stack.Moves state next → established state →
    established next
  /-- An established connection that may not receive never may again. -/
  ended_moves : ∀ {state next}, stack.Moves state next → established state →
    stack.mayRecv state = false → stack.mayRecv next = false

/-- The connection was established and may not receive any more. -/
def Stack.Drained (stack : Stack σ) (established : σ → Prop) (state : σ) : Prop :=
  established state ∧ stack.mayRecv state = false

variable {size : Nat} {bytes : List UInt8}

section Lawful

variable {buffered : σ → List UInt8} {established : σ → Prop}
  (lawful : stack.Lawful buffered established)

include lawful

theorem Stack.Drained.moves {state next : σ} (drained : stack.Drained established state)
    (moves : stack.Moves state next) : stack.Drained established next :=
  ⟨lawful.established_moves moves drained.1, lawful.ended_moves moves drained.1 drained.2⟩

theorem Stack.Drained.receives_nothing {state next : σ} (drained : stack.Drained established state)
    (received : stack.recvSlice state size = some (bytes, next)) : bytes = [] := by
  have waits := lawful.recvSlice_eq received
  by_contra some_bytes
  have nonempty : buffered state ≠ [] := by simp [waits, some_bytes]
  have may := lawful.mayRecv_of_buffered nonempty
  rw [drained.2] at may
  exact nomatch may

end Lawful

/-- What holds of a stream as long as no abort was requested. -/
structure Sound (stack : Stack σ) (established : σ → Prop) (client : Client)
    (accepted returned : List UInt8) (stream : Stream σ) : Prop where
  written : accepted = stream.record.socket.handed ++ stream.signal.outgoing
  read : stream.record.socket.delivered = returned ++ stream.signal.incoming
  closed : stream.record.socket.closed = true →
    stream.signal.writeClosed = true ∧ stream.signal.outgoing = []
  dropped : stream.signal.dropped = true ↔ client = .dropped
  holding : client = .holding → stream.record.connected = true
  connected : stream.signal.connected = true → stream.record.connected = true
  opened : stream.record.connected = true → established stream.record.socket.state
  /-- The read side is closed at the end of what the socket delivers, or else together with the
  write side, for a client that never gets the stream or has left. -/
  ended : stream.signal.readClosed = true →
    stack.Drained established stream.record.socket.state ∧ stream.signal.incoming = [] ∨
      client ≠ .holding ∧ stream.signal.writeClosed = true

namespace Sound

variable {buffered : σ → List UInt8} {established : σ → Prop}
  {client : Client} {accepted returned : List UInt8} {stream : Stream σ}
  (sound : Sound stack established client accepted returned stream)

include sound

theorem socket (lawful : stack.Lawful buffered established) {next : σ}
    (moves : stack.Moves stream.record.socket.state next) :
    Sound stack established client accepted returned
      { stream with record := { stream.record with
          socket := { stream.record.socket with state := next } } } :=
  { sound with
    opened := fun connected => lawful.established_moves moves (sound.opened connected)
    ended := fun readClosed =>
      (sound.ended readClosed).imp_left fun ⟨drained, empty⟩ => ⟨drained.moves lawful moves, empty⟩ }

theorem lifecycle (lifecycle : StreamLifecycle) :
    Sound stack established client accepted returned
      { stream with record := { stream.record with lifecycle := lifecycle } } :=
  { sound with }

theorem notify :
    Sound stack established client accepted returned
      { stream with signal := stream.signal.notify } :=
  { sound with }

section Stages

variable (lawful : stack.Lawful buffered established)

include lawful

theorem send : Sound stack established client accepted returned (stream.send stack) := by
  rw [Stream.send]
  split_ifs with ready
  · cases sent : stack.sendSlice stream.record.socket.state stream.signal.outgoing with
    | none => simpa [Socket.sendSlice, sent] using sound
    | some slice =>
      obtain ⟨count, next⟩ := slice
      simp only [Socket.sendSlice, sent, Option.map_some]
      have moved := sound.socket lawful (.send sent)
      refine { moved with written := ?_, closed := fun closed => ?_ }
      · simpa [append_assoc] using sound.written
      · obtain ⟨writeClosed, empty⟩ := sound.closed closed
        exact ⟨writeClosed, by simp [empty]⟩
  · exact sound

theorem finish (now : Nat) :
    Sound stack established client accepted returned (stream.finish stack now) := by
  rw [Stream.finish]
  split
  · next done =>
    -- The write side is closed: nothing waits to be sent.
    simp only [Bool.and_eq_true, List.isEmpty_iff] at done
    have moved := (sound.socket lawful (.close _)).lifecycle
      (if stream.leaving then .closing (now + closeTimeout) else stream.record.lifecycle)
    exact { moved with
      closed := fun _ => ⟨rfl, done.1.2⟩
      ended := fun readClosed => (moved.ended readClosed).imp_right fun ⟨left, _⟩ => ⟨left, rfl⟩ }
  split
  · next left =>
    -- The client left before there was a connection.
    simp only [Stream.leaving, Bool.and_eq_true, decide_eq_true_eq] at left
    have moved := (sound.socket lawful (.abort _)).lifecycle (.aborting 1)
    have gone := sound.dropped.mp left.1.1
    exact { moved with
      closed := fun closed => ⟨rfl, (moved.closed closed).2⟩
      ended := fun _ => .inr ⟨by simp [gone], rfl⟩ }
  · exact sound

omit lawful in
theorem linger (now : Nat) :
    Sound stack established client accepted returned (stream.linger stack now) := by
  rw [Stream.linger]
  split
  · exact sound.lifecycle _
  · exact sound

theorem receive : Sound stack established client accepted returned (stream.receive stack) := by
  rw [Stream.receive]
  split_ifs with ready
  · cases received : stack.recvSlice stream.record.socket.state
      (min (tcpBufferSize - stream.signal.incoming.length) (8 * 1024)) with
    | none => simpa [Socket.recvSlice, received] using sound
    | some slice =>
      obtain ⟨bytes, next⟩ := slice
      simp only [Socket.recvSlice, received, Option.map_some]
      have moved := sound.socket lawful (.receive received)
      refine { moved with read := ?_, ended := fun readClosed => ?_ }
      · simp [sound.read, append_assoc]
      · refine (sound.ended readClosed).imp_left fun ⟨drained, empty⟩ => ?_
        refine ⟨drained.moves lawful (.receive received), ?_⟩
        simp [empty, drained.receives_nothing lawful received]
  · exact sound

theorem observe : Sound stack established client accepted returned (stream.observe stack) := by
  refine { sound with
    closed := fun closed => ?_, holding := fun holding => ?_, connected := id,
    opened := fun connected => ?_, ended := fun readClosed => ?_ }
  · obtain ⟨writeClosed, empty⟩ := sound.closed closed
    exact ⟨by simp [Stream.observe, writeClosed], empty⟩
  · simp [Stream.observe, sound.holding holding]
  · simp only [Stream.observe, Bool.or_eq_true] at connected
    exact connected.elim sound.opened lawful.established_of_maySend
  · simp only [Stream.observe, Bool.or_eq_true, Bool.and_eq_true, Bool.not_eq_true',
      List.isEmpty_iff] at readClosed
    obtain (before | ⟨⟨connected, shut⟩, empty⟩) | ⟨unconnected, _⟩ := readClosed
    · exact (sound.ended before).imp_right fun ⟨left, writeClosed⟩ =>
        ⟨left, by simp [Stream.observe, writeClosed]⟩
    · exact .inl ⟨⟨connected.elim sound.opened lawful.established_of_maySend, shut⟩, empty⟩
    · refine .inr ⟨fun holding => ?_, by simp_all [Stream.observe]⟩
      simp [sound.holding holding] at unconnected

theorem sync (calm : stream.signal.abortRequested = false) (now : Nat) :
    Sound stack established client accepted returned (stream.sync stack now) := by
  have staged := ((((sound.send lawful).finish lawful now).linger now).receive lawful).observe
    lawful
  have advanced : Sound stack established client accepted returned (stream.advance stack now) := by
    rw [Stream.advance, calm]
    exact staged
  rw [Stream.sync]
  split
  · exact advanced.notify
  · exact advanced

theorem cleanup (now : Nat) :
    Sound stack established client accepted returned (stream.cleanup stack now).2 := by
  rw [Stream.cleanup]
  split
  · exact sound
  · split
    · exact sound.notify
    split
    · exact (sound.socket lawful (.abort _)).lifecycle _
    · exact sound
  · split
    · exact sound.notify
    · exact sound.lifecycle _

end Stages

section Client

/-- The stream is handed to the client: what closes both sides at once has not happened. -/
theorem dial (dialing : client = .dialing) (status : stream.signal.status = .connected) :
    Sound stack established .holding accepted returned stream := by
  have live : stream.signal.connected = true ∧
      ¬ (stream.signal.readClosed = true ∧ stream.signal.writeClosed = true) := by
    rw [SignalState.status] at status
    split at status
    · next live =>
      simp only [Bool.and_eq_true, Bool.not_eq_true', Bool.and_eq_false_iff] at live
      refine ⟨live.1, fun ⟨readClosed, writeClosed⟩ => ?_⟩
      simp [readClosed, writeClosed] at live
    · split at status <;> exact nomatch status
  refine { sound with
    dropped := ?_
    holding := fun _ => sound.connected live.1
    ended := fun readClosed => ?_ }
  · rw [sound.dropped, dialing]
    simp
  · refine .inl ((sound.ended readClosed).resolve_right fun closed => ?_)
    exact live.2 ⟨readClosed, closed.2⟩

theorem shutdown : Sound stack established client accepted returned
    { stream with signal := { stream.signal with writeShutdown := true }.notify } :=
  { sound with }

theorem drop : Sound stack established .dropped accepted returned
    { stream with signal := stream.signal.requestDrop } :=
  { sound with
    dropped := ⟨fun _ => rfl, fun _ => rfl⟩
    holding := fun holding => nomatch holding
    ended := fun readClosed => (sound.ended readClosed).imp_right fun ⟨_, writeClosed⟩ =>
      ⟨by simp, writeClosed⟩ }

theorem write (bytes : List UInt8) (opened : bytes ≠ [] → stream.signal.writeClosed = false) :
    Sound stack established client (accepted ++ bytes) returned
      { stream with signal := { stream.signal with outgoing := stream.signal.outgoing ++ bytes } } := by
  refine { sound with written := ?_, closed := fun closed => ?_ }
  · rw [sound.written, append_assoc]
  · obtain ⟨writeClosed, empty⟩ := sound.closed closed
    have none : bytes = [] := by
      by_contra some_bytes
      rw [opened some_bytes] at writeClosed
      exact nomatch writeClosed
    exact ⟨writeClosed, by simp [empty, none]⟩

theorem take (size : Nat) :
    Sound stack established client accepted (returned ++ stream.signal.incoming.take size)
      { stream with signal := { stream.signal with incoming := stream.signal.incoming.drop size } } := by
  refine { sound with read := ?_, ended := fun readClosed => ?_ }
  · rw [sound.read, append_assoc, take_append_drop]
  · exact (sound.ended readClosed).imp_left fun ⟨drained, empty⟩ => ⟨drained, by simp [empty]⟩

end Client

end Sound

/-- The socket of a stream is drained, and has delivered some bytes. -/
def Done (stack : Stack σ) (established : σ → Prop) (delivered : List UInt8)
    (socket : Socket σ) : Prop :=
  stack.Drained established socket.state ∧ socket.delivered = delivered

namespace Done

variable {buffered : σ → List UInt8} {established : σ → Prop} {delivered : List UInt8}
  {stream : Stream σ} (lawful : stack.Lawful buffered established)
  (done : Done stack established delivered stream.record.socket)

include lawful done

theorem send : Done stack established delivered (stream.send stack).record.socket := by
  rw [Stream.send]
  split
  · cases sent : stack.sendSlice stream.record.socket.state stream.signal.outgoing with
    | none => simpa [Socket.sendSlice, sent] using done
    | some slice =>
      simp only [Socket.sendSlice, sent, Option.map_some]
      exact ⟨done.1.moves lawful (.send sent), done.2⟩
  · exact done

theorem finish (now : Nat) :
    Done stack established delivered (stream.finish stack now).record.socket := by
  rw [Stream.finish]
  split
  · exact ⟨done.1.moves lawful (.close _), done.2⟩
  split
  · exact ⟨done.1.moves lawful (.abort _), done.2⟩
  · exact done

omit lawful in
theorem linger (now : Nat) :
    Done stack established delivered (stream.linger stack now).record.socket := by
  rw [Stream.linger]
  split <;> exact done

theorem receive : Done stack established delivered (stream.receive stack).record.socket := by
  rw [Stream.receive]
  split
  · cases received : stack.recvSlice stream.record.socket.state
      (min (tcpBufferSize - stream.signal.incoming.length) (8 * 1024)) with
    | none => simpa [Socket.recvSlice, received] using done
    | some slice =>
      simp only [Socket.recvSlice, received, Option.map_some]
      refine ⟨done.1.moves lawful (.receive received), ?_⟩
      simp [done.2, done.1.receives_nothing lawful received]
  · exact done

theorem sync (now : Nat) :
    Done stack established delivered (stream.sync stack now).record.socket := by
  have staged := (((done.send lawful).finish lawful now).linger now).receive lawful
  have aborted : Done stack established delivered (stream.syncAbort stack).record.socket :=
    ⟨done.1.moves lawful (.abort _), done.2⟩
  have advanced : Done stack established delivered (stream.advance stack now).record.socket := by
    rw [Stream.advance]
    split
    · exact aborted
    · exact staged
  rw [Stream.sync]
  split <;> exact advanced

theorem cleanup (now : Nat) :
    Done stack established delivered (stream.cleanup stack now).2.record.socket := by
  rw [Stream.cleanup]
  split
  · exact done
  · split
    · exact done
    split
    · exact ⟨done.1.moves lawful (.abort _), done.2⟩
    · exact done
  · split <;> exact done

end Done

section Requests

variable (stream : Stream σ) (now : Nat)

theorem Stream.send_abortRequested :
    (stream.send stack).signal.abortRequested = stream.signal.abortRequested := by
  rw [Stream.send]
  split
  · split <;> rfl
  · rfl

theorem Stream.finish_abortRequested :
    (stream.finish stack now).signal.abortRequested = stream.signal.abortRequested := by
  rw [Stream.finish]
  split
  · rfl
  · split <;> rfl

theorem Stream.linger_abortRequested :
    (stream.linger stack now).signal.abortRequested = stream.signal.abortRequested := by
  rw [Stream.linger]
  split <;> rfl

theorem Stream.receive_abortRequested :
    (stream.receive stack).signal.abortRequested = stream.signal.abortRequested := by
  rw [Stream.receive]
  split
  · split <;> rfl
  · rfl

/-- The driver neither makes nor takes back a request for an abort. -/
theorem Stream.sync_abortRequested :
    (stream.sync stack now).signal.abortRequested = stream.signal.abortRequested := by
  have staged : (((((stream.send stack).finish stack now).linger stack now).receive
      stack).observe stack).signal.abortRequested = stream.signal.abortRequested :=
    (Stream.receive_abortRequested _).trans <| (Stream.linger_abortRequested _ now).trans <|
      (Stream.finish_abortRequested _ now).trans (Stream.send_abortRequested _)
  have advanced : (stream.advance stack now).signal.abortRequested =
      stream.signal.abortRequested := by
    rw [Stream.advance]
    split
    · rfl
    · exact staged
  rw [Stream.sync]
  split <;> exact advanced

theorem Stream.cleanup_abortRequested :
    (stream.cleanup stack now).2.signal.abortRequested = stream.signal.abortRequested := by
  rw [Stream.cleanup]
  split
  · rfl
  · split
    · rfl
    · split <;> rfl
  · split <;> rfl

end Requests

namespace SignalState

variable (signal : SignalState)

/-- The bytes of a buffer that `try_write` accepts. -/
def accepts (buffer : List UInt8) : List UInt8 :=
  if signal.writeShutdown || signal.writeClosed then []
  else buffer.take (min buffer.length (tcpBufferSize - signal.outgoing.length))

theorem opened_of_accepts {buffer : List UInt8} (some_bytes : signal.accepts buffer ≠ []) :
    signal.writeClosed = false := by
  rw [accepts] at some_bytes
  split at some_bytes
  · exact absurd rfl some_bytes
  · next opened => simp_all

end SignalState

namespace World

variable (w : World σ)

theorem write_eq (buffer : List UInt8) :
    w.write buffer =
      { w.withSignal { w.stream.signal with
          outgoing := w.stream.signal.outgoing ++ w.stream.signal.accepts buffer } with
        accepted := w.accepted ++ w.stream.signal.accepts buffer } := by
  by_cases shut : (w.stream.signal.writeShutdown || w.stream.signal.writeClosed) = true
  · simp only [write, SignalState.tryWrite, SignalState.accepts, if_pos shut, append_nil]
    rfl
  by_cases full : min buffer.length (tcpBufferSize - w.stream.signal.outgoing.length) = 0
  · simp only [write, SignalState.tryWrite, SignalState.accepts, if_neg shut, full,
      take_zero, append_nil]
    rfl
  · simp only [write, SignalState.tryWrite, SignalState.accepts, if_neg shut, if_neg full]

theorem read_eq (size : Nat) :
    w.read size =
      { w.withSignal { w.stream.signal with incoming := w.stream.signal.incoming.drop size } with
        returned := w.returned ++ w.stream.signal.incoming.take size } := by
  by_cases none : w.stream.signal.incoming.take size = []
  · by_cases closed : w.stream.signal.readClosed = true
    · simp only [read, SignalState.tryRead, none, ne_eq, not_true_eq_false, if_false, if_pos closed]
    · simp only [read, SignalState.tryRead, none, ne_eq, not_true_eq_false, if_false,
        if_neg closed, append_nil]
      rfl
  · simp only [read, SignalState.tryRead, ne_eq, none, not_false_eq_true, if_true]

/-- As long as no abort was requested, the stream is sound. -/
def Sound (stack : Stack σ) (established : σ → Prop) (w : World σ) : Prop :=
  w.stream.signal.abortRequested = false →
    Tunnel.Sound stack established w.client w.accepted w.returned w.stream

variable {buffered : σ → List UInt8} {established : σ → Prop}
  (lawful : stack.Lawful buffered established) {w next : World σ}

include lawful

/-- Every step keeps the stream sound. -/
theorem Step.sound (step : Step stack w next) (sound : w.Sound stack established) :
    next.Sound stack established := by
  intro calm
  cases step with
  | dial dialing status => exact (sound calm).dial dialing status
  | write holding buffer nonempty =>
    rw [write_eq] at calm ⊢
    exact (sound calm).write _ (SignalState.opened_of_accepts _)
  | read holding size nonempty =>
    rw [read_eq] at calm ⊢
    exact (sound calm).take size
  | shutdown holding present how done =>
    cases how with
    | read => exact nomatch done
    | write =>
      obtain rfl := Except.ok.inj done
      exact (sound calm).shutdown
    | both =>
      obtain rfl := Except.ok.inj done
      exact nomatch calm
  | abort dialing => exact nomatch calm
  | drop present => exact (sound calm).drop
  | sync present now =>
    rw [synced, Stream.sync_abortRequested] at calm
    exact (sound calm).sync lawful calm now
  | poll present polled => exact (sound calm).socket lawful (.poll polled)
  | cleanup present now =>
    rw [Stream.cleanup_abortRequested] at calm
    exact (sound calm).cleanup lawful now

theorem Step.done {delivered : List UInt8} (step : Step stack w next)
    (done : Done stack established delivered w.stream.record.socket) :
    Done stack established delivered next.stream.record.socket := by
  cases step with
  | dial | shutdown | abort | drop => exact done
  | write holding buffer =>
    rw [write_eq]
    exact done
  | read holding size =>
    rw [read_eq]
    exact done
  | sync present now => exact done.sync lawful now
  | poll present polled => exact ⟨done.1.moves lawful (.poll polled), done.2⟩
  | cleanup present now => exact done.cleanup lawful now

/-- Every reachable stream is sound. -/
theorem Reachable.sound (reachable : Reachable stack w) : w.Sound stack established := by
  obtain ⟨state, reaches⟩ := reachable
  refine holds_of_reaches reaches (fun _ => ?_) (Step.sound lawful)
  exact
    { written := rfl
      read := rfl
      closed := fun closed => nomatch closed
      dropped := by simp [opened]
      holding := fun holding => nomatch holding
      connected := fun connected => nomatch connected
      opened := fun connected => nomatch connected
      ended := fun readClosed => nomatch readClosed }

omit lawful in
/-- A read that finds the end of the stream finds the socket drained and everything it delivered
returned. -/
theorem done_of_tryRead (sound : w.Sound stack established)
    (calm : w.stream.signal.abortRequested = false) (holding : w.client = .holding)
    (ended : (w.stream.signal.tryRead size).1 = .ok []) :
    Done stack established w.returned w.stream.record.socket := by
  have none : w.stream.signal.incoming.take size = [] := by
    by_contra some_bytes
    rw [SignalState.tryRead, if_pos some_bytes] at ended
    exact some_bytes (Except.ok.inj ended)
  have readClosed : w.stream.signal.readClosed = true := by
    by_contra live
    rw [SignalState.tryRead, if_neg (not_not_intro none), if_neg live] at ended
    exact nomatch ended
  obtain ⟨drained, empty⟩ := ((sound calm).ended readClosed).resolve_right fun left =>
    left.1 holding
  exact ⟨drained, by rw [(sound calm).read, empty, append_nil]⟩

/-- Bytes pass through a stream in order and once each, the socket is closed only after the last
one, and the end of the stream is reported only when the socket will deliver no more. -/
theorem stream_fidelity (reachable : Reachable stack w)
    (calm : w.stream.signal.abortRequested = false) :
    w.accepted = w.stream.record.socket.handed ++ w.stream.signal.outgoing ∧
      (w.stream.record.socket.closed = true → w.stream.record.socket.handed = w.accepted) ∧
      w.stream.record.socket.delivered = w.returned ++ w.stream.signal.incoming ∧
      ∀ size, 0 < size → w.client = .holding → (w.stream.signal.tryRead size).1 = .ok [] →
        ∀ later, Reaches stack w later → later.stream.record.socket.delivered = w.returned := by
  have sound := reachable.sound lawful calm
  refine ⟨sound.written, fun closed => ?_, sound.read, ?_⟩
  · rw [sound.written, (sound.closed closed).2, append_nil]
  · intro size _ holding ended later reaches
    have done := done_of_tryRead (reachable.sound lawful) calm holding ended
    have last : Done stack established w.returned later.stream.record.socket :=
      @holds_of_reaches _ _ (fun w' => Done stack established w.returned w'.stream.record.socket)
        _ _ reaches done (Step.done lawful)
    exact last.2

end World

namespace Sample

/-- The states of a TCP connection that matter here. -/
inductive Phase where
  | connecting
  | established
  | finWait
  | closeWait
  | closed
deriving DecidableEq, Repr

/-- A connection and the bytes that wait in it. -/
structure Tcp where
  phase : Phase
  waiting : List UInt8 := []

def Tcp.mayRecv (tcp : Tcp) : Bool :=
  decide (tcp.phase = .established) || decide (tcp.phase = .finWait) || !tcp.waiting.isEmpty

def Tcp.maySend (tcp : Tcp) : Bool :=
  decide (tcp.phase = .established) || decide (tcp.phase = .closeWait)

/-- What arrives from the peer. -/
inductive Polls : Tcp → Tcp → Prop
  | accepted (waiting : List UInt8) : Polls ⟨.connecting, waiting⟩ ⟨.established, waiting⟩
  | data {phase : Phase} (open_ : phase = .established ∨ phase = .finWait)
      (waiting bytes : List UInt8) : Polls ⟨phase, waiting⟩ ⟨phase, waiting ++ bytes⟩
  | fin (waiting : List UInt8) : Polls ⟨.established, waiting⟩ ⟨.closeWait, waiting⟩
  | reset (phase : Phase) (waiting : List UInt8) : Polls ⟨phase, waiting⟩ ⟨.closed, waiting⟩

/-- Sockets that take all bytes they are given. -/
def sockets : Stack Tcp where
  canSend := Tcp.maySend
  maySend := Tcp.maySend
  canRecv tcp := !tcp.waiting.isEmpty
  mayRecv := Tcp.mayRecv
  isOpen tcp := decide (tcp.phase ≠ .closed)
  isClosed tcp := decide (tcp.phase = .closed)
  sendSlice tcp bytes := if tcp.maySend then some (bytes.length, tcp) else none
  recvSlice tcp size :=
    if tcp.mayRecv then
      some (tcp.waiting.take size, { tcp with waiting := tcp.waiting.drop size })
    else none
  close tcp :=
    match tcp.phase with
    | .established => { tcp with phase := .finWait }
    | .finWait => tcp
    | _ => { tcp with phase := .closed }
  abort tcp := { tcp with phase := .closed }
  polls := Polls

variable {tcp next : Tcp}

theorem recvSlice_eq_some (received : sockets.recvSlice tcp size = some (bytes, next)) :
    bytes = tcp.waiting.take size ∧ next = { tcp with waiting := tcp.waiting.drop size } := by
  simp only [sockets, Option.ite_none_right_eq_some, Option.some.injEq, Prod.mk.injEq] at received
  exact ⟨received.2.1.symm, received.2.2.symm⟩

theorem sendSlice_eq_some {count : Nat} (sent : sockets.sendSlice tcp bytes = some (count, next)) :
    next = tcp := by
  simp only [sockets, Option.ite_none_right_eq_some, Option.some.injEq, Prod.mk.injEq] at sent
  exact sent.2.2.symm

theorem established_moves (moves : sockets.Moves tcp next) (established : tcp.phase ≠ .connecting) :
    next.phase ≠ .connecting := by
  cases moves with
  | send sent => rwa [sendSlice_eq_some sent]
  | receive received => rwa [(recvSlice_eq_some received).2]
  | close => cases phase : tcp.phase <;> simp_all [sockets]
  | abort => simp [sockets]
  | poll polled => cases polled <;> simp_all

theorem ended_moves (moves : sockets.Moves tcp next) (established : tcp.phase ≠ .connecting)
    (shut : tcp.mayRecv = false) : next.mayRecv = false := by
  have ended : tcp.phase ≠ .established ∧ tcp.phase ≠ .finWait ∧ tcp.waiting = [] := by
    simpa [Tcp.mayRecv, and_assoc] using shut
  cases moves with
  | send sent => rwa [sendSlice_eq_some sent]
  | receive received => simp [(recvSlice_eq_some received).2, Tcp.mayRecv, ended]
  | close => cases phase : tcp.phase <;> simp_all [sockets, Tcp.mayRecv]
  | abort => simp [sockets, Tcp.mayRecv, ended]
  | poll polled => cases polled <;> simp_all [Tcp.mayRecv]

theorem lawful : sockets.Lawful Tcp.waiting fun tcp => tcp.phase ≠ .connecting where
  recvSlice_eq {tcp next size bytes} received := by
    obtain ⟨rfl, rfl⟩ := recvSlice_eq_some received
    exact (take_append_drop size tcp.waiting).symm
  mayRecv_of_buffered {tcp} waits := by simp [sockets, Tcp.mayRecv, waits]
  established_of_maySend {tcp} may connecting := by simp [sockets, Tcp.maySend, connecting] at may
  established_moves := established_moves
  ended_moves := ended_moves

open World

/-- A stream on which the client wrote two bytes and read one, before the peer closed its side. -/
def ended : World Tcp :=
  ((((((((((opened ⟨.connecting, []⟩).polled ⟨.established, []⟩).synced sockets 0).dialed).write
    [1, 2]).synced sockets 10).polled ⟨.established, [7]⟩).synced sockets 20).read 10).polled
    ⟨.closeWait, []⟩).synced sockets 30

theorem reachable_ended : Reachable sockets ended := by
  refine ⟨⟨.connecting, []⟩, ?_⟩
  have established := (@Relation.ReflTransGen.refl _ (Step sockets) (opened ⟨.connecting, []⟩)).tail
    (.poll rfl (.accepted []))
  have dialed := (established.tail (.sync rfl 0)).tail (.dial rfl (by decide))
  have written := (dialed.tail (.write rfl [1, 2] (by decide))).tail (.sync rfl 10)
  have received := (written.tail (.poll rfl (.data (.inl rfl) [] [7]))).tail (.sync rfl 20)
  have returned := received.tail (.read rfl 10 (by decide))
  exact (returned.tail (.poll rfl (.fin []))).tail (.sync rfl 30)

end Sample

open Sample

theorem World.stream_fidelity_sample :
    ended.accepted = [1, 2] ∧ ended.stream.record.socket.handed = [1, 2] ∧
      ended.returned = [7] ∧ ended.stream.record.socket.delivered = [7] ∧
      (ended.stream.signal.tryRead 10).1 = .ok [] ∧
      ∀ later, Reaches sockets ended later →
        later.stream.record.socket.delivered = [7] :=
  ⟨by decide, by decide, by decide, by decide, by decide,
    (World.stream_fidelity lawful reachable_ended rfl).2.2.2 10 (by decide) rfl
      (by decide)⟩

end Ployz.Tunnel
