import Ployz.Verif.Driver

/-!
# The lifecycle of a stream

A stream is attached until its client has dropped it. It is then closing, up to a deadline, or
aborting, for a few more rounds. What the steps of the driver do to one stream is listed once, with
what follows for its lifecycle.
-/

namespace Ployz.Tunnel

variable {σ : Type} {stack : Stack σ}

namespace Stream

variable {stream : Stream σ} {now : Nat}

/-- The socket of a connected stream does not take all bytes of the client. -/
def stuck (stack : Stack σ) (stream : Stream σ) : Bool :=
  !stream.signal.abortRequested && stream.record.connected &&
    !(stream.send stack).signal.outgoing.isEmpty &&
    stack.maySend (stream.send stack).record.socket.state

section Sync

/-- What the stages of `sync_streams` leave of a stream as it is. -/
structure Keeps (before after : Stream σ) : Prop where
  dropped : after.signal.dropped = before.signal.dropped
  writeShutdown : after.signal.writeShutdown = before.signal.writeShutdown
  lifecycle : after.record.lifecycle = before.record.lifecycle
  connected : after.record.connected = before.record.connected

theorem keeps_send (stack : Stack σ) (stream : Stream σ) : Keeps stream (stream.send stack) := by
  unfold send
  split
  · split <;> exact ⟨rfl, rfl, rfl, rfl⟩
  · exact ⟨rfl, rfl, rfl, rfl⟩

theorem keeps_receive (stack : Stack σ) (stream : Stream σ) : Keeps stream (stream.receive stack) := by
  unfold receive
  dsimp only
  split
  · split <;> exact ⟨rfl, rfl, rfl, rfl⟩
  · exact ⟨rfl, rfl, rfl, rfl⟩

theorem keeps_sync (stack : Stack σ) (stream : Stream σ) (now : Nat) :
    Keeps (stream.advance stack now) (stream.sync stack now) := by
  rw [sync]
  split_ifs <;> exact ⟨rfl, rfl, rfl, rfl⟩

/-- `sync_streams` does not touch what the client asked for. -/
theorem advance_flags (stack : Stack σ) (stream : Stream σ) (now : Nat) :
    (stream.advance stack now).signal.dropped = stream.signal.dropped ∧
      (stream.advance stack now).signal.writeShutdown = stream.signal.writeShutdown := by
  unfold advance
  split_ifs
  · exact ⟨rfl, rfl⟩
  · have sent := keeps_send stack stream
    generalize stream.send stack = first at *
    have finished : (first.finish stack now).signal.dropped = first.signal.dropped ∧
        (first.finish stack now).signal.writeShutdown = first.signal.writeShutdown := by
      unfold finish
      split_ifs <;> exact ⟨rfl, rfl⟩
    generalize first.finish stack now = second at *
    have lingered : (second.linger stack now).signal = second.signal := by
      unfold linger
      split_ifs <;> rfl
    generalize second.linger stack now = third at *
    have received := keeps_receive stack third
    show (third.receive stack).signal.dropped = _ ∧ (third.receive stack).signal.writeShutdown = _
    rw [received.dropped, received.writeShutdown, lingered, finished.1, finished.2, sent.dropped,
      sent.writeShutdown]
    exact ⟨rfl, rfl⟩

theorem advance_lifecycle (stream : Stream σ) (now : Nat)
    (carries : stream.signal.abortRequested = false) :
    (stream.advance stack now).record.lifecycle =
      (((stream.send stack).finish stack now).linger stack now).record.lifecycle := by
  rw [advance, if_neg (by rw [carries]; exact Bool.false_ne_true)]
  exact (keeps_receive stack _).lifecycle

theorem keeps_leaving {before after : Stream σ} (kept : Keeps before after) :
    after.leaving = before.leaving := by
  unfold leaving
  rw [kept.dropped, kept.lifecycle]

theorem advance_lifecycle_of_not_leaving (stays : stream.leaving = false) (now : Nat) :
    (stream.advance stack now).record.lifecycle = stream.record.lifecycle := by
  by_cases aborted : stream.signal.abortRequested = true
  · rw [advance, if_pos aborted, syncAbort, stays]
    rfl
  · rw [advance_lifecycle stream now (eq_false_of_ne_true aborted)]
    have sent := keeps_send stack stream
    have first := (keeps_leaving sent).trans stays
    have finished : ((stream.send stack).finish stack now).record.lifecycle =
        (stream.send stack).record.lifecycle ∧
        ((stream.send stack).finish stack now).signal.dropped =
          (stream.send stack).signal.dropped := by
      unfold finish
      simp only [first, Bool.false_and, Bool.false_eq_true, if_false]
      split_ifs <;> exact ⟨rfl, rfl⟩
    have second : ((stream.send stack).finish stack now).leaving = false := by
      rw [← first]
      unfold leaving
      rw [finished.1, finished.2]
    rw [linger, second, Bool.false_and, Bool.false_and, if_neg Bool.false_ne_true, finished.1,
      sent.lifecycle]

/-- A dropped stream whose bytes are all with its socket gets a deadline or is aborted. -/
theorem advance_arms (leaves : stream.leaving = true)
    (shut : stream.signal.writeShutdown = true) (flows : stream.stuck stack = false) (now : Nat) :
    (stream.advance stack now).record.lifecycle = .closing (now + closeTimeout) ∨
      (stream.advance stack now).record.lifecycle = .aborting 1 := by
  by_cases aborted : stream.signal.abortRequested = true
  · right
    rw [advance, if_pos aborted, syncAbort, leaves]
    rfl
  · rw [advance_lifecycle stream now (eq_false_of_ne_true aborted)]
    have sent := keeps_send stack stream
    have first := (keeps_leaving sent).trans leaves
    unfold stuck at flows
    rw [eq_false_of_ne_true aborted, ← sent.connected] at flows
    rw [← sent.writeShutdown] at shut
    generalize stream.send stack = after at *
    unfold finish
    by_cases done : after.signal.outgoing.isEmpty = true ∧
        stack.maySend after.record.socket.state = true
    · left
      rw [if_pos (by rw [shut, done.1, done.2]; rfl), first]
      unfold linger leaving
      simp
    · have open' : (after.signal.writeShutdown && after.signal.outgoing.isEmpty &&
          stack.maySend after.record.socket.state) = false := by
        rw [shut, Bool.true_and, ← Bool.not_eq_true, Bool.and_eq_true]
        exact done
      rw [if_neg (by rw [open']; exact Bool.false_ne_true), first, Bool.true_and]
      cases connected : after.record.connected with
      | false =>
        right
        rw [if_pos Bool.not_false]
        unfold linger leaving
        simp
      | true =>
        -- the bytes are with the socket, so it is the socket that cannot send any more
        left
        have silent : stack.maySend after.record.socket.state = false := by
          rw [connected] at flows
          simp only [Bool.not_false, Bool.true_and, Bool.and_eq_false_imp] at flows
          simp only [not_and] at done
          cases empty : after.signal.outgoing.isEmpty with
          | true => simpa using done empty
          | false => exact flows (by rw [empty]; rfl)
        rw [if_neg (by exact Bool.false_ne_true), linger, first, connected, silent]
        rfl

theorem advance_lifecycle_cases (stack : Stack σ) (stream : Stream σ) (now : Nat) :
    (stream.advance stack now).record.lifecycle = stream.record.lifecycle ∨
      (stream.advance stack now).record.lifecycle = .closing (now + closeTimeout) ∨
      (stream.advance stack now).record.lifecycle = .aborting 1 := by
  by_cases aborted : stream.signal.abortRequested = true
  · rw [advance, if_pos aborted, syncAbort]
    dsimp only
    split_ifs
    · exact .inr (.inr rfl)
    · exact .inl rfl
  · rw [advance_lifecycle stream now (eq_false_of_ne_true aborted)]
    have sent := keeps_send stack stream
    rw [← sent.lifecycle]
    generalize stream.send stack = first at *
    have finished : (first.finish stack now).record.lifecycle = first.record.lifecycle ∨
        (first.finish stack now).record.lifecycle = .closing (now + closeTimeout) ∨
        (first.finish stack now).record.lifecycle = .aborting 1 := by
      unfold finish
      split_ifs
      · exact .inr (.inl rfl)
      · exact .inl rfl
      · exact .inr (.inr rfl)
      · exact .inl rfl
    unfold linger
    split_ifs
    · exact .inr (.inl rfl)
    · exact finished

end Sync

/-- Deadlines are not far away. -/
structure Timely (clock : Nat) (stream : Stream σ) : Prop where
  shut : stream.signal.dropped = true → stream.signal.writeShutdown = true
  closing : ∀ {deadline}, stream.record.lifecycle = .closing deadline →
    deadline ≤ clock + closeTimeout
  aborting : ∀ {polls}, stream.record.lifecycle = .aborting polls → polls ≤ 1

/-- What happens to a stream in a step of the driver. -/
inductive Moves (stack : Stack σ) (id : UInt64) : Event → Stream σ → Option (Stream σ) → Prop
  | idle {event : Event} {stream : Stream σ} (quiet : ∀ now, event ≠ .cleanup now)
      (other : ∀ now, event ≠ .sync id now) : Moves stack id event stream (some stream)
  | client {stream : Stream σ} {signal : SignalState} (held : stream.signal.dropped = false)
      (section' : Section stream.signal signal) :
    Moves stack id (.client id) stream (some { stream with signal := signal })
  | shutdown {stream : Stream σ} {how : Shutdown} {signal : SignalState}
      (done : shutdown stream.signal how = .ok signal) :
    Moves stack id .command stream (some { stream with signal := signal })
  | sync (stream : Stream σ) (now : Nat) :
    Moves stack id (.sync id now) stream (some (stream.sync stack now))
  | poll (stream : Stream σ) (state : σ) :
    Moves stack id .work stream (some { stream with
      record := { stream.record with socket := { stream.record.socket with state := state } } })
  | cleanup (stream : Stream σ) (now : Nat) :
    Moves stack id (.cleanup now) stream
      (if (stream.cleanup stack now).1 then none else some (stream.cleanup stack now).2)

variable {id : UInt64} {event : Event} {next : Stream σ}

theorem cleanup_cases (stack : Stack σ) (stream : Stream σ) (now : Nat) :
    (stream.cleanup stack now).2.signal.dropped = stream.signal.dropped ∧
    (stream.cleanup stack now).2.signal.writeShutdown = stream.signal.writeShutdown ∧
    ((stream.cleanup stack now).1 = false →
      (stream.cleanup stack now).2.record.lifecycle = .attached ∧
        stream.record.lifecycle = .attached ∨
      (∃ deadline, stream.record.lifecycle = .closing deadline ∧
        (now < deadline ∧
            (stream.cleanup stack now).2.record.lifecycle = stream.record.lifecycle ∨
          (stream.cleanup stack now).2.record.lifecycle = .aborting 1)) ∨
      ∃ polls, stream.record.lifecycle = .aborting (polls + 1) ∧
        (stream.cleanup stack now).2.record.lifecycle = .aborting polls) := by
  unfold cleanup
  cases life : stream.record.lifecycle with
  | attached => exact ⟨rfl, rfl, fun _ => .inl ⟨life, rfl⟩⟩
  | closing deadline =>
    dsimp only
    split_ifs with closed passed
    · exact ⟨rfl, rfl, nofun⟩
    · exact ⟨rfl, rfl, fun _ => .inr (.inl ⟨deadline, rfl, .inr rfl⟩)⟩
    · exact ⟨rfl, rfl, fun _ => .inr (.inl ⟨deadline, rfl, .inl ⟨Nat.lt_of_not_le passed, life⟩⟩)⟩
  | aborting polls =>
    dsimp only
    cases polls with
    | zero => exact ⟨rfl, rfl, nofun⟩
    | succ polls => exact ⟨rfl, rfl, fun _ => .inr (.inr ⟨polls, rfl, rfl⟩)⟩

/-- Every move keeps the deadline timely. -/
theorem Timely.moves {clock later : Nat} (timely : stream.Timely clock)
    (moves : Moves stack id event stream (some next)) (order : clock ≤ later)
    (read : ∀ now, event = .sync id now → now = later) : next.Timely later := by
  have closing : ∀ {deadline}, stream.record.lifecycle = .closing deadline →
      deadline ≤ later + closeTimeout :=
    fun life => (timely.closing life).trans (Nat.add_le_add_right order _)
  generalize reached : some next = result at moves
  cases moves with
  | idle | poll =>
    cases reached
    exact ⟨timely.shut, closing, timely.aborting⟩
  | client held section' =>
    cases reached
    refine ⟨?_, closing, timely.aborting⟩
    cases section' with
    | read size =>
      intro dropped
      refine absurd dropped ?_
      unfold SignalState.tryRead
      dsimp only
      split_ifs <;> simp [held]
    | write buffer =>
      intro dropped
      refine absurd dropped ?_
      unfold SignalState.tryWrite
      dsimp only
      split_ifs <;> simp [held]
    | abort =>
      intro dropped
      exact absurd dropped (by simp [SignalState.requestAbort, SignalState.notify, held])
    | drop => exact fun _ => rfl
  | @shutdown _ how signal done =>
    cases reached
    refine ⟨?_, closing, timely.aborting⟩
    cases how with
    | read => exact nomatch done
    | write =>
      cases done
      exact fun _ => rfl
    | both =>
      cases done
      exact timely.shut
  | sync _ now =>
    cases reached
    have kept := keeps_sync stack stream now
    have ⟨dropped, shut⟩ := advance_flags stack stream now
    cases read now rfl
    refine ⟨?_, ?_, ?_⟩
    · rw [kept.dropped, kept.writeShutdown, dropped, shut]
      exact timely.shut
    · intro deadline
      rw [kept.lifecycle]
      rcases advance_lifecycle_cases stack stream later with same | closes | aborts
      · rw [same]
        exact closing
      · rw [closes]
        intro life
        cases life
        exact le_rfl
      · rw [aborts]
        exact nofun
    · intro polls
      rw [kept.lifecycle]
      rcases advance_lifecycle_cases stack stream later with same | closes | aborts
      · rw [same]
        exact timely.aborting
      · rw [closes]
        exact nofun
      · rw [aborts]
        intro life
        cases life
        exact le_rfl
  | cleanup _ now =>
    split_ifs at reached with removed
    cases reached
    have ⟨dropped, shut, lifecycle⟩ := cleanup_cases stack stream now
    have ends := lifecycle (eq_false_of_ne_true removed)
    refine ⟨?_, ?_, ?_⟩
    · rw [dropped, shut]
      exact timely.shut
    · intro deadline life
      rcases ends with ⟨same, _⟩ | ⟨before, was, ⟨_, same⟩ | aborts⟩ | ⟨polls, _, aborts⟩
      · exact nomatch same.symm.trans life
      · exact closing (same.symm.trans life)
      · exact nomatch aborts.symm.trans life
      · exact nomatch aborts.symm.trans life
    · intro left life
      rcases ends with ⟨same, _⟩ | ⟨before, was, ⟨_, same⟩ | aborts⟩ | ⟨polls, was, aborts⟩
      · exact nomatch same.symm.trans life
      · exact nomatch was.symm.trans (same.symm.trans life)
      · cases aborts.symm.trans life
        exact le_rfl
      · cases aborts.symm.trans life
        exact (Nat.le_succ _).trans (timely.aborting was)

theorem Moves.dropped (moves : Moves stack id event stream (some next))
    (dropped : stream.signal.dropped = true) : next.signal.dropped = true := by
  generalize reached : some next = result at moves
  cases moves with
  | idle | poll =>
    cases reached
    exact dropped
  | client held section' => exact nomatch held.symm.trans dropped
  | @shutdown _ how signal done =>
    cases reached
    cases how with
    | read => exact nomatch done
    | write | both =>
      cases done
      exact dropped
  | sync _ now =>
    cases reached
    rw [(keeps_sync stack stream now).dropped, (advance_flags stack stream now).1]
    exact dropped
  | cleanup _ now =>
    split_ifs at reached with removed
    cases reached
    rw [(cleanup_cases stack stream now).1]
    exact dropped

theorem Moves.attached (moves : Moves stack id event stream (some next))
    (attached : next.record.lifecycle = .attached) : stream.record.lifecycle = .attached := by
  generalize reached : some next = result at moves
  cases moves with
  | idle | client | shutdown | poll =>
    cases reached
    exact attached
  | sync _ now =>
    cases reached
    rw [(keeps_sync stack stream now).lifecycle] at attached
    rcases advance_lifecycle_cases stack stream now with same | closes | aborts
    · exact same.symm.trans attached
    · exact nomatch closes.symm.trans attached
    · exact nomatch aborts.symm.trans attached
  | cleanup _ now =>
    split_ifs at reached with removed
    cases reached
    rcases (cleanup_cases stack stream now).2.2 (eq_false_of_ne_true removed) with
      ⟨_, was⟩ | ⟨deadline, was, ⟨_, same⟩ | aborts⟩ | ⟨polls, _, aborts⟩
    · exact was
    · exact same.symm.trans attached
    · exact nomatch aborts.symm.trans attached
    · exact nomatch aborts.symm.trans attached

theorem Moves.armed (moves : Moves stack id (.sync id now) stream (some next))
    (leaves : stream.leaving = true) (shut : stream.signal.writeShutdown = true)
    (flows : stream.stuck stack = false) : next.record.lifecycle ≠ .attached := by
  intro attached
  generalize reached : some next = result at moves
  cases moves with
  | idle quiet other => exact other now rfl
  | sync =>
    cases reached
    rw [(keeps_sync stack stream now).lifecycle] at attached
    rcases advance_arms leaves shut flows now with closes | aborts
    · exact nomatch closes.symm.trans attached
    · exact nomatch aborts.symm.trans attached

theorem Moves.lifecycle_of_armed (moves : Moves stack id event stream (some next))
    (armed : stream.record.lifecycle ≠ .attached) (quiet : ∀ now, event ≠ .cleanup now) :
    next.record.lifecycle = stream.record.lifecycle := by
  generalize reached : some next = result at moves
  cases moves with
  | sync _ now =>
    cases reached
    have stays : stream.leaving = false := by
      unfold leaving
      rw [decide_eq_false armed, Bool.and_false]
    rw [(keeps_sync stack stream now).lifecycle, advance_lifecycle_of_not_leaving stays]
  | cleanup _ now => exact absurd rfl (quiet now)
  | _ =>
    cases reached
    rfl

theorem Moves.cleaned (moves : Moves stack id (.cleanup now) stream (some next)) :
    next.record.lifecycle = .attached ∧ stream.record.lifecycle = .attached ∨
      (∃ deadline, stream.record.lifecycle = .closing deadline ∧
        (now < deadline ∧ next.record.lifecycle = stream.record.lifecycle ∨
          next.record.lifecycle = .aborting 1)) ∨
      ∃ polls, stream.record.lifecycle = .aborting (polls + 1) ∧
        next.record.lifecycle = .aborting polls := by
  generalize reached : some next = result at moves
  cases moves with
  | idle quiet other => exact absurd rfl (quiet now)
  | cleanup =>
    split_ifs at reached with removed
    cases reached
    exact (cleanup_cases stack stream now).2.2 (eq_false_of_ne_true removed)

end Stream

end Ployz.Tunnel
