import Ployz.Tunnel.Waker
import Ployz.Verif.Lifecycle

/-!
# Pending polls are woken

Whenever there is a cause to wake a task that has registered its waker, some thread has a
notification of its side on its list. Every step keeps this, except that a waker may be registered
after the driver notified the streams for the last time and before it closed the tunnel. The thread
works off its list before it begins anything else, so the waker is woken after a few of its actions.
-/

namespace Ployz.Tunnel.Polling

open List

variable {σ ω : Type} {stack : Stack σ} {side : Side} {waker : ω} {event : Event ω}
  {self before after : World σ ω} {todo : Thread → List (Action ω)} {thread : Thread}

/-- A poll of the side would not block. -/
def ready (state : SignalState) : Side → Bool
  | .read => state.readReady
  | .write => state.writeReady || state.writeShutdown

/-- The stream is ready, or the tunnel has failed or stopped. -/
def World.Due (self : World σ ω) (side : Side) : Prop :=
  ready self.stream.signal side = true ∨ self.health.good = false ∨ self.running = false

/-- A thread has a notification of the side on its list. -/
def Notifies (todo : Thread → List (Action ω)) (side : Side) : Prop :=
  ∃ thread chosen, Action.notify chosen ∈ todo thread ∧ chosen side = true

/-- The waker is with the stream, or was taken and is about to be woken. -/
def World.Registered (self : World σ ω) (side : Side) (waker : ω) : Prop :=
  self.wakers side = some waker ∨ ∃ thread, Action.wake side waker ∈ self.todo thread

/-- No waker is registered between the last notification and `health.close()`. -/
def Settled (side : Side) (visit : World σ ω × Event ω) : Prop :=
  ∀ waker, visit.2 = .register side waker → visit.1.running = false →
    visit.1.health.good = true → Notifies visit.1.todo side

theorem tasks_setTask (self : World σ ω) (side : Side) (task : Task ω) :
    (self.setTask side task).tasks side = task := by
  unfold World.setTask
  exact Function.update_self side task self.tasks

variable {request : Request}

section Signals

theorem attempt_dropped (request : Request) (state : SignalState) :
    (request.attempt state).2.dropped = state.dropped := by
  cases request with
  | read size =>
    unfold Request.attempt SignalState.tryRead
    dsimp only
    split_ifs <;> rfl
  | write buffer =>
    unfold Request.attempt SignalState.tryWrite
    dsimp only
    split_ifs <;> rfl

theorem ready_attempt_of_ne (other : side ≠ request.side) (state : SignalState) :
    ready (request.attempt state).2 side = ready state side := by
  cases request with
  | read size =>
    cases side with
    | read => exact absurd rfl other
    | write =>
      unfold Request.attempt SignalState.tryRead
      dsimp only
      split_ifs <;> rfl
  | write buffer =>
    cases side with
    | read =>
      unfold Request.attempt SignalState.tryWrite
      dsimp only
      split_ifs <;> rfl
    | write => exact absurd rfl other

theorem ready_of_blocks {state : SignalState} (some : request.isEmpty = false)
    (blocks : (request.attempt state).1 = true) :
    ready (request.attempt state).2 request.side = false := by
  cases request with
  | read size =>
    have positive : size ≠ 0 := beq_eq_false_iff_ne.mp some
    unfold Request.attempt SignalState.tryRead at *
    dsimp only at *
    by_cases taken : state.incoming.take size = []
    · rw [if_neg (not_not.mpr taken)] at *
      have empty : state.incoming = [] := by
        rcases take_eq_nil_iff.mp taken with zero | empty
        · exact absurd zero positive
        · exact empty
      split_ifs at * with closed
      show (!(state.incoming.drop size).isEmpty || state.readClosed) = false
      rw [empty, drop_nil, eq_false_of_ne_true closed]
      rfl
    · rw [if_pos taken] at blocks
      exact absurd blocks Bool.false_ne_true
  | write buffer =>
    have positive : buffer.length ≠ 0 := by
      rw [ne_eq, length_eq_zero_iff]
      exact isEmpty_eq_false_iff.mp some
    unfold Request.attempt SignalState.tryWrite at *
    dsimp only at *
    split_ifs at * with shut full
    show (decide (state.outgoing.length < tcpBufferSize) || state.writeClosed ||
      state.writeShutdown) = false
    rw [Bool.or_eq_true, not_or, Bool.not_eq_true, Bool.not_eq_true] at shut
    have bound : ¬ state.outgoing.length < tcpBufferSize := by omega
    rw [shut.1, shut.2, decide_eq_false bound]
    rfl

end Signals

variable {visits : List (World σ ω × Event ω)}

section Invariant

/-- What is left of the actions, with the wake-ups that a notification leads to. -/
def weight (actions : List (Action ω)) : Nat :=
  (actions.map fun
    | .notify _ => 3
    | .wake _ _ => 1
    | .close => 1).sum

/-- The invariant of the threads and the tasks. -/
structure Tidy (world : World σ ω) : Prop where
  healthy : world.running = true → world.health.good = true
  closing : ∀ thread, Action.close ∈ world.todo thread → world.running = false
  attached : world.stream.record.lifecycle ≠ .attached → world.stream.signal.dropped = true
  absent : world.present = false → world.stream.signal.dropped = true
  dropped : world.stream.signal.dropped = true → ∀ side, (world.tasks side).isPolling = false
  request : ∀ {side stage request waker}, world.tasks side = .polling stage request waker →
    request.side = side ∧ request.isEmpty = false
  brief : ∀ thread, weight (world.todo thread) ≤ 6

/-- A reason to wake a task, or to expect that it will be woken. -/
def Cause (self : World σ ω) (side : Side) : Prop :=
  self.present = false ∨ self.running = false ∧ self.health.good = true ∨
    (∃ request waker, self.tasks side = .polling .rechecked request waker ∧
      self.running = false) ∨
    ∃ waker, self.tasks side = .parked waker ∧ self.Due side

/-- A registered waker is heard. -/
def Heard (side : Side) (self : World σ ω) : Prop :=
  self.wakers side ≠ none → Cause self side → Notifies self.todo side

theorem tidy_start (state : σ) : Tidy (World.start state : World σ ω) where
  healthy _ := rfl
  closing _ member := nomatch member
  attached armed := absurd rfl armed
  absent gone := nomatch gone
  dropped left := nomatch left
  request polling := nomatch polling
  brief _ := Nat.zero_le _

theorem heard_start (side : Side) (state : σ) : Heard side (World.start state : World σ ω) :=
  fun some => absurd rfl some

variable {actions : List (Action ω)}

theorem notifies_of_mem (thread : Thread) (member : notifyAll ∈ actions) :
    Notifies (Function.update todo thread actions) side := by
  refine ⟨thread, fun _ => true, ?_, rfl⟩
  rw [Function.update_self]
  exact member

/-- The wake-ups that an action puts on the list. -/
def issued (self : World σ ω) : Action ω → List (Action ω)
  | .notify chosen => self.taken chosen .read ++ self.taken chosen .write
  | _ => []

theorem todo_perform (self : World σ ω) (thread : Thread) (rest : List (Action ω))
    (action : Action ω) : (self.perform thread rest action).todo =
      Function.update self.todo thread (issued self action ++ rest) := by
  cases action <;> rfl

variable {action : Action ω}

theorem mem_taken {chosen : Side → Bool} :
    action ∈ self.taken chosen side ↔
      chosen side = true ∧ ∃ waker, self.wakers side = some waker ∧ action = .wake side waker := by
  unfold World.taken
  split_ifs with selects
  · simp [selects, Option.mem_toList, eq_comm]
  · simp [selects]

theorem mem_issued {other : Action ω} : other ∈ issued self action ↔
    ∃ chosen side waker, action = .notify chosen ∧ chosen side = true ∧
      self.wakers side = some waker ∧ other = .wake side waker := by
  constructor
  · intro member
    cases action with
    | notify chosen =>
      rcases mem_append.mp member with first | second
      · have ⟨selects, waker, held, same⟩ := mem_taken.mp first
        exact ⟨chosen, .read, waker, rfl, selects, held, same⟩
      · have ⟨selects, waker, held, same⟩ := mem_taken.mp second
        exact ⟨chosen, .write, waker, rfl, selects, held, same⟩
    | wake side waker => exact nomatch member
    | close => exact nomatch member
  · intro ⟨chosen, side, waker, same, selects, held, wakes⟩
    rw [same]
    have member := mem_taken.mpr ⟨selects, waker, held, wakes⟩
    cases side with
    | read => exact mem_append_left _ member
    | write => exact mem_append_right _ member

variable {rest : List (Action ω)}

theorem Notifies.perform (notifies : Notifies self.todo side)
    (next : self.todo thread = action :: rest) :
    Notifies (self.perform thread rest action).todo side ∨
      (self.perform thread rest action).wakers side = none := by
  have ⟨other, chosen, member, selects⟩ := notifies
  rw [todo_perform]
  by_cases same : other = thread
  · rw [same, next] at member
    rcases mem_cons.mp member with head | tail
    · right
      rw [← head]
      exact if_pos selects
    · left
      refine ⟨thread, chosen, ?_, selects⟩
      rw [Function.update_self]
      exact mem_append_right _ tail
  · left
    refine ⟨other, chosen, ?_, selects⟩
    rw [Function.update_of_ne same]
    exact member

theorem subset_update (free : todo thread = []) (other : Thread) :
    todo other ⊆ Function.update todo thread actions other := by
  by_cases same : other = thread
  · rw [same, free]
    exact nil_subset _
  · rw [Function.update_of_ne same]
    exact List.Subset.refl _

/-- A thread acts, or the actions that are on a list stay on it. -/
theorem step_cases (step : Step stack before event after) :
    (∃ thread action rest, before.todo thread = action :: rest ∧ event = .act thread action ∧
      after = before.perform thread rest action) ∨
    (∀ thread, before.todo thread ⊆ after.todo thread) ∧
      ∀ side, (∀ waker, event ≠ .register side waker) →
        after.wakers side = before.wakers side := by
  cases step with
  | act next => exact .inl ⟨_, _, _, next, rfl, rfl⟩
  | sync free | shutdown free | fail free | stop free | drop free =>
    exact .inr ⟨subset_update free, fun _ _ => rfl⟩
  | cleanup free =>
    right
    unfold World.cleaned
    dsimp only
    split_ifs
    · exact ⟨subset_update free, fun _ _ => rfl⟩
    · exact ⟨fun _ => List.Subset.refl _, fun _ _ => rfl⟩
  | @register request waker =>
    refine .inr ⟨fun _ => List.Subset.refl _, fun side other => Function.update_of_ne ?_ _ _⟩
    intro same
    rw [same] at other
    exact other waker rfl
  | _ => exact .inr ⟨fun _ => List.Subset.refl _, fun _ _ => rfl⟩

theorem Notifies.step (step : Step stack before event after) (notifies : Notifies before.todo side) :
    Notifies after.todo side ∨ after.wakers side = none := by
  rcases step_cases step with ⟨thread, action, rest, next, _, same⟩ | ⟨kept, _⟩
  · rw [same]
    exact notifies.perform next
  · have ⟨thread, chosen, member, selects⟩ := notifies
    exact .inl ⟨thread, chosen, kept thread member, selects⟩

theorem wakers_step (step : Step stack before event after)
    (other : ∀ waker, event ≠ .register side waker) (some : after.wakers side ≠ none) :
    after.wakers side = before.wakers side := by
  rcases step_cases step with ⟨thread, action, rest, _, _, same⟩ | ⟨_, kept⟩
  · rw [same] at some ⊢
    cases action with
    | notify chosen =>
      show (if chosen side then none else before.wakers side) = _
      split_ifs with selects
      · exact absurd (if_pos selects) some
      · rfl
    | wake side waker => rfl
    | close => rfl
  · exact kept side other

theorem Cause.of_eq (cause : Cause after side) (present : after.present = before.present)
    (running : after.running = before.running) (health : after.health = before.health)
    (task : after.tasks side = before.tasks side)
    (same : ready after.stream.signal side = ready before.stream.signal side) :
    Cause before side := by
  unfold Cause World.Due at *
  rw [present, running, health, task, same] at cause
  exact cause

variable {task : Task ω}

/-- A task goes on, and leaves the other side of the stream as it is. -/
theorem Cause.goOn {other : Side} (signal : SignalState)
    (cause : Cause ((before.setSignal signal).setTask other task) side)
    (same : side ≠ other → ready signal side = ready before.stream.signal side)
    (recheck : ∀ {request waker}, task = .polling .rechecked request waker →
      before.running = false → Cause before other)
    (parked : ∀ {waker}, task = .parked waker → (before.setSignal signal).Due other →
      Cause before other) : Cause before side := by
  by_cases here : side = other
  · subst here
    rcases cause with gone | stopped | ⟨request, waker, polls, stopped⟩ | ⟨waker, waits, due⟩
    · exact .inl gone
    · exact .inr (.inl stopped)
    · exact recheck ((tasks_setTask _ _ _).symm.trans polls) stopped
    · exact parked ((tasks_setTask _ _ _).symm.trans waits) due
  · exact cause.of_eq rfl rfl rfl (Function.update_of_ne here _ _) (same here)

theorem good_close (health : Health) : health.close.good = false := by
  unfold Health.good Health.check Health.close
  cases health.failure <;> rfl

theorem ready_synced {now : Nat} (unready : ready before.stream.signal side = false)
    (becomes : ready (before.stream.advance stack now).signal side = true) :
    Notifies (before.synced stack now).todo side := by
  have awaits : before.awaits stack now side = true := by
    cases side with
    | read =>
      show (!before.stream.signal.readReady && _) = true
      have was : before.stream.signal.readReady = false := unready
      rw [was]
      exact becomes
    | write =>
      have ⟨was, open'⟩ := Bool.or_eq_false_iff.mp unready
      have shut := (Stream.advance_flags stack before.stream now).2
      have now' : ((before.stream.advance stack now).signal.writeReady ||
        (before.stream.advance stack now).signal.writeShutdown) = true := becomes
      rw [shut, open', Bool.or_false] at now'
      show (!before.stream.signal.writeReady && _) = true
      rw [was]
      exact now'
  have some : (before.stream.readAwaits stack now || before.stream.writeAwaits stack now) = true := by
    cases side with
    | read => exact Bool.or_eq_true_iff.mpr (.inl awaits)
    | write => exact Bool.or_eq_true_iff.mpr (.inr awaits)
  refine ⟨.driver, before.awaits stack now, ?_, awaits⟩
  unfold World.synced World.setTodo
  dsimp only
  rw [Function.update_self, if_pos some]
  exact mem_singleton_self _

variable {signal : SignalState}

theorem notifyAll_mem_mark {how : Shutdown} (marked : self.mark how = some (signal, actions)) :
    notifyAll ∈ actions := by
  cases how with
  | read => exact nomatch marked
  | write | both =>
    cases marked
    exact mem_cons_self

/-- The driver leaves its loop with a notification, or without the stream. -/
theorem World.leave_cases (self : World σ ω) : self.present = false ∨ notifyAll ∈ self.leave := by
  unfold World.leave
  cases self.present with
  | false => exact .inl rfl
  | true => exact .inr mem_cons_self

/-- A step that gives a cause puts a notification on a list. -/
theorem Cause.step (step : Step stack before event after) (tidy : Tidy before)
    (cause : Cause after side) : Cause before side ∨ Notifies after.todo side := by
  cases step with
  | @act thread action rest next =>
    left
    cases action with
    | notify chosen =>
      apply cause.of_eq rfl rfl rfl rfl
      cases side <;> rfl
    | wake side waker => exact cause.of_eq rfl rfl rfl rfl rfl
    | close =>
      have stopped : before.running = false := by
        apply tidy.closing thread
        rw [next]
        exact mem_cons_self
      rcases cause with gone | ⟨_, good⟩ | ⟨request, waker, task, _⟩ | ⟨waker, task, _⟩
      · exact .inl gone
      · exact absurd ((good_close _).symm.trans good) Bool.false_ne_true
      · exact .inr (.inr (.inl ⟨request, waker, task, stopped⟩))
      · exact .inr (.inr (.inr ⟨waker, task, .inr (.inr stopped)⟩))
  | sync free runs held now =>
    by_cases becomes : ready before.stream.signal side = false ∧
        ready (before.stream.advance stack now).signal side = true
    · exact .inr (ready_synced becomes.1 becomes.2)
    · left
      refine cause.imp_right (.imp_right (.imp_right fun ⟨waker, task, due⟩ => ?_))
      refine ⟨waker, task, due.imp_left fun some => ?_⟩
      exact eq_true_of_ne_false fun was => becomes ⟨was, some⟩
  | stack free runs held polled => exact .inl (cause.of_eq rfl rfl rfl rfl rfl)
  | shutdown free runs held marked =>
    exact .inr (notifies_of_mem .driver (notifyAll_mem_mark marked))
  | cleanup free runs held now =>
    unfold World.cleaned at *
    dsimp only at *
    split_ifs at *
    · exact .inr (notifies_of_mem .driver mem_cons_self)
    · exact .inl (cause.of_eq rfl rfl rfl rfl rfl)
  | fail | stop =>
    exact before.leave_cases.imp .inl fun member => notifies_of_mem .driver member
  | drop free held quiet => exact .inr (notifies_of_mem .client mem_cons_self)
  | poll request waker held some free =>
    refine .inl (Cause.goOn before.stream.signal cause (fun _ => rfl) ?_ ?_)
    · intro _ _ task
      split_ifs at task
      exact nomatch task
    · intro _ task
      split_ifs at task
  | @attempt request waker stage =>
    refine .inl (Cause.goOn _ cause (ready_attempt_of_ne · _) ?_ ?_)
    · intro _ _ task
      split_ifs at task
      exact nomatch task
    · intro _ task
      split_ifs at task
  | @register request waker stage =>
    exact .inl (Cause.goOn before.stream.signal cause (fun _ => rfl) nofun nofun)
  | @recheck request waker stage =>
    refine .inl (Cause.goOn before.stream.signal cause (fun _ => rfl) ?_ ?_)
    · intro _ _ task stopped
      split_ifs at task with good
      exact .inr (.inl ⟨stopped, good⟩)
    · intro _ task
      split_ifs at task
  | @retry request waker stage =>
    refine .inl (Cause.goOn _ cause (ready_attempt_of_ne · _) ?_ ?_)
    · intro _ _ task
      split_ifs at task
    · intro _ task due
      split_ifs at task with blocks
      have unready := ready_of_blocks (tidy.request stage).2 blocks
      refine .inr (.inr (.inl ⟨request, waker, stage, ?_⟩))
      rcases due with some | bad | stopped
      · exact absurd (unready.symm.trans some) Bool.false_ne_true
      · exact eq_false_of_ne_true fun runs =>
          absurd (bad.symm.trans (tidy.healthy runs)) Bool.false_ne_true
      · exact stopped

theorem weight_append (first second : List (Action ω)) :
    weight (first ++ second) = weight first + weight second := by
  unfold weight
  rw [map_append, sum_append]

theorem weight_taken (self : World σ ω) (chosen : Side → Bool) (side : Side) :
    weight (self.taken chosen side) ≤ 1 := by
  unfold World.taken
  split_ifs
  · cases self.wakers side with
    | none => exact Nat.zero_le _
    | some waker => exact le_rfl
  · exact Nat.zero_le _

theorem weight_perform (next : self.todo thread = action :: rest) :
    weight ((self.perform thread rest action).todo thread) < weight (self.todo thread) := by
  rw [todo_perform, Function.update_self, next, weight_append]
  cases action with
  | notify chosen =>
    have first := weight_taken self chosen .read
    have second := weight_taken self chosen .write
    show weight (self.taken chosen .read ++ self.taken chosen .write) + weight rest < 3 + weight rest
    rw [weight_append]
    omega
  | wake | close =>
    show 0 + weight rest < 1 + weight rest
    omega

section Tidiness

variable (tidy : Tidy self)

include tidy

theorem Tidy.setTodo (closing : Action.close ∈ actions → self.running = false)
    (brief : weight actions ≤ 6) : Tidy (self.setTodo thread actions) := by
  refine { tidy with closing := fun other member => ?_, brief := fun other => ?_ }
  · simp only [World.setTodo, Function.update_apply] at member
    split at member
    · exact closing member
    · exact tidy.closing other member
  · simp only [World.setTodo, Function.update_apply]
    split
    · exact brief
    · exact tidy.brief other

theorem Tidy.setTask (held : task.isPolling = true → self.stream.signal.dropped = false)
    (asked : ∀ {stage request waker}, task = .polling stage request waker →
      request.side = side ∧ request.isEmpty = false) : Tidy (self.setTask side task) := by
  refine { tidy with dropped := fun left other => ?_, request := fun {other} _ _ _ polling => ?_ }
  · simp only [World.setTask, Function.update_apply]
    split
    · exact eq_false_of_ne_true fun polling =>
        absurd ((held polling).symm.trans left) Bool.false_ne_true
    · exact tidy.dropped left other
  · simp only [World.setTask, Function.update_apply] at polling
    split at polling
    case isTrue same =>
      rw [same]
      exact asked polling
    case isFalse => exact tidy.request polling

theorem Tidy.setSignal (same : signal.dropped = self.stream.signal.dropped) :
    Tidy (self.setSignal signal) :=
  { tidy with
    attached := fun armed => same.trans (tidy.attached armed)
    absent := fun gone => same.trans (tidy.absent gone)
    dropped := fun left => tidy.dropped (same.symm.trans left) }

theorem Tidy.held {stage : Stage} (polling : self.tasks side = .polling stage request waker) :
    self.stream.signal.dropped = false := by
  apply eq_false_of_ne_true
  intro left
  have quiet := tidy.dropped left side
  rw [polling] at quiet
  exact nomatch quiet

theorem Tidy.goOn (next : Stage) {stage : Stage}
    (polling : self.tasks request.side = .polling stage request waker)
    (goes : task = .polling next request waker ∨ task.isPolling = false) :
    Tidy (self.setTask request.side task) := by
  apply tidy.setTask
  · exact fun _ => tidy.held polling
  · intro stage other waker' same
    rcases goes with goes | quiet
    · cases goes.symm.trans same
      exact tidy.request polling
    · rw [same] at quiet
      exact nomatch quiet

theorem Tidy.perform (next : self.todo thread = action :: rest) :
    Tidy (self.perform thread rest action) := by
  have lighter := weight_perform next
  have bound := tidy.brief thread
  rw [todo_perform, Function.update_self] at lighter
  have later : Action.close ∈ issued self action ++ rest → self.running = false := by
    intro member
    rcases mem_append.mp member with wakes | member
    · have ⟨_, _, _, _, _, _, same⟩ := mem_issued.mp wakes
      exact nomatch same
    · apply tidy.closing thread
      rw [next]
      exact mem_cons_of_mem _ member
  cases action with
  | notify chosen =>
    apply Tidy.setTodo
    · exact { tidy with }
    · exact later
    · exact (lighter.trans_le bound).le
  | wake side waker => exact tidy.setTodo later (lighter.trans_le bound).le
  | close =>
    have stopped : self.running = false := by
      apply tidy.closing thread
      rw [next]
      exact mem_cons_self
    apply Tidy.setTodo
    · exact { tidy with
        healthy := fun runs => absurd (stopped.symm.trans runs) Bool.false_ne_true }
    · exact later
    · exact (lighter.trans_le bound).le

theorem Tidy.synced (now : Nat) : Tidy (self.synced stack now) := by
  have flags := (Stream.advance_flags stack self.stream now).1
  apply Tidy.setTodo
  · refine { tidy with
      attached := fun armed => flags.trans ?_
      absent := fun gone => flags.trans (tidy.absent gone)
      dropped := fun left => tidy.dropped (flags.symm.trans left) }
    cases leaves : self.stream.leaving with
    | true => exact (Bool.and_eq_true_iff.mp leaves).1
    | false =>
      apply tidy.attached
      rw [← Stream.advance_lifecycle_of_not_leaving leaves now]
      exact armed
  · intro member
    split_ifs at member
    · exact nomatch mem_singleton.mp member
    · exact nomatch member
  · split_ifs
    · exact (by decide : 3 ≤ 6)
    · exact Nat.zero_le _

theorem Tidy.cleaned (now : Nat) : Tidy (self.cleaned stack now) := by
  have armed : self.stream.record.lifecycle ≠ .attached ∨
      self.stream.cleanup stack now = (false, self.stream) := by
    unfold Stream.cleanup
    cases self.stream.record.lifecycle with
    | attached => exact .inr rfl
    | closing deadline => exact .inl nofun
    | aborting polls => exact .inl nofun
  unfold World.cleaned
  rcases armed with armed | same
  · have left := tidy.attached armed
    dsimp only
    split_ifs
    · apply Tidy.setTodo
      · exact { tidy with attached := fun _ => left, absent := fun _ => left }
      · exact fun member => nomatch mem_singleton.mp member
      · exact (by decide : 3 ≤ 6)
    · exact { tidy with attached := fun _ => left, absent := fun _ => left }
  · rw [same]
    exact tidy

theorem Tidy.leaves (health : Health) :
    Tidy ({ self with health := health, running := false }.setTodo .driver self.leave) := by
  apply Tidy.setTodo
  · exact { tidy with healthy := nofun, closing := fun _ _ => rfl }
  · exact fun _ => rfl
  · unfold World.leave
    split_ifs
    · exact (by decide : 4 ≤ 6)
    · exact (by decide : 1 ≤ 6)

end Tidiness

/-- Every step keeps the world tidy. -/
theorem Tidy.step (step : Step stack before event after) (tidy : Tidy before) : Tidy after := by
  cases step with
  | act next => exact tidy.perform next
  | sync free runs held now => exact tidy.synced now
  | stack free runs held polled => exact { tidy with }
  | @shutdown free runs held how signal actions marked =>
    cases how with
    | read => exact nomatch marked
    | write =>
      cases marked
      apply Tidy.setTodo
      · exact tidy.setSignal rfl
      · exact fun member => nomatch mem_singleton.mp member
      · exact (by decide : 3 ≤ 6)
    | both =>
      cases marked
      apply Tidy.setTodo
      · exact tidy.setSignal rfl
      · intro member
        rcases mem_cons.mp member with same | member
        · exact nomatch same
        · exact nomatch mem_singleton.mp member
      · exact (by decide : 6 ≤ 6)
  | cleanup free runs held now => exact tidy.cleaned now
  | fail | stop => exact tidy.leaves _
  | drop free held quiet =>
    apply Tidy.setTodo
    · exact { tidy with
        attached := fun _ => rfl, absent := fun _ => rfl, dropped := fun _ => quiet }
    · exact fun member => nomatch mem_singleton.mp member
    · exact (by decide : 3 ≤ 6)
  | poll request waker held some free =>
    apply tidy.setTask
    · exact fun _ => held
    · intro stage other waker' same
      split_ifs at same
      cases same
      exact ⟨rfl, some⟩
  | @attempt request waker stage =>
    apply (tidy.setSignal (attempt_dropped request _)).goOn .blocked stage
    split_ifs
    · exact .inl rfl
    · exact .inr rfl
  | @register request waker stage =>
    have kept : Tidy { before with
        wakers := Function.update before.wakers request.side (some waker) } := { tidy with }
    exact kept.goOn .registered stage (.inl rfl)
  | @recheck request waker stage =>
    apply tidy.goOn .rechecked stage
    split_ifs
    · exact .inl rfl
    · exact .inr rfl
  | @retry request waker stage =>
    apply (tidy.setSignal (attempt_dropped request _)).goOn .rechecked stage
    split_ifs
    · exact .inr rfl
    · exact .inr rfl

/-- Every settled step keeps every cause heard. -/
theorem Heard.step (step : Step stack before event after) (tidy : Tidy before)
    (settled : Settled side (before, event)) (heard : Heard side before) : Heard side after := by
  intro some cause
  by_cases registers : ∃ waker, event = .register side waker
  · have ⟨waker, same⟩ := registers
    cases step with
    | @register request waker stage =>
      cases same
      have present : before.present = true := eq_true_of_ne_false fun gone =>
        absurd ((tidy.held stage).symm.trans (tidy.absent gone)) Bool.false_ne_true
      rcases cause with gone | ⟨stopped, good⟩ | ⟨_, _, task, _⟩ | ⟨_, task, _⟩
      · exact absurd (gone.symm.trans present) Bool.false_ne_true
      · exact settled waker rfl stopped good
      all_goals
        rw [tasks_setTask] at task
        exact nomatch task
    | _ => exact nomatch same
  · have same := wakers_step step (fun waker same => registers ⟨waker, same⟩) some
    rcases cause.step step tidy with was | notifies
    · rcases (heard (same ▸ some) was).step step with notifies | none
      · exact notifies
      · exact absurd none some
    · exact notifies

/-- The invariant of a world, for one side. -/
structure Sound (side : Side) (world : World σ ω) : Prop where
  tidy : Tidy world
  heard : Heard side world

theorem Runs.sound (runs : Runs stack before visits after)
    (settled : ∀ visit ∈ visits, Settled side visit) (start : Sound side before) :
    Sound side after := by
  have keeps : ∀ {first : World σ ω} {event next}, Step stack first event next →
      Settled side (first, event) → Sound side first → False ∨ Sound side next :=
    fun step allowed sound =>
      .inr ⟨sound.tidy.step step, sound.heard.step step sound.tidy allowed⟩
  rcases @Trace.until _ _ _ (Sound side) (Settled side) (fun _ => False) _ _ _ runs keeps settled
    start with ⟨_, _, none⟩ | sound
  · exact none.elim
  · exact sound

end Invariant

section Owed

/-- The waker is on the list of the thread, or is with the stream and will be taken. -/
def Owes (thread : Thread) (side : Side) (waker : ω) (self : World σ ω) : Prop :=
  .wake side waker ∈ self.todo thread ∨
    self.wakers side = some waker ∧ ∃ chosen, .notify chosen ∈ self.todo thread ∧ chosen side = true

variable {action : Action ω}

theorem wakers_perform {rest : List (Action ω)} (held : self.wakers side = some waker) :
    (self.perform thread rest action).wakers side = some waker ∨
      .wake side waker ∈ (self.perform thread rest action).todo thread := by
  rw [todo_perform, Function.update_self]
  cases action with
  | notify chosen =>
    cases selects : chosen side with
    | true =>
      right
      exact mem_append_left _ (mem_issued.mpr ⟨chosen, side, waker, rfl, selects, held, rfl⟩)
    | false =>
      left
      show (if chosen side then none else self.wakers side) = _
      rw [selects]
      exact held
  | wake side waker => exact .inl held
  | close => exact .inl held

theorem Owes.perform {rest : List (Action ω)} (owes : Owes thread side waker self)
    (next : self.todo thread = action :: rest) :
    action = .wake side waker ∨ Owes thread side waker (self.perform thread rest action) := by
  rcases owes with wakes | ⟨held, chosen, notifies, selects⟩
  · rw [next] at wakes
    rcases mem_cons.mp wakes with head | tail
    · exact .inl head.symm
    · right
      left
      rw [todo_perform, Function.update_self]
      exact mem_append_right _ tail
  · right
    rcases @wakers_perform _ _ _ _ _ thread action rest held with held | wakes
    · rw [next] at notifies
      rcases mem_cons.mp notifies with head | tail
      · cases head
        have none : (self.perform thread rest (.notify chosen)).wakers side = none :=
          if_pos selects
        exact nomatch none.symm.trans held
      · right
        refine ⟨held, chosen, ?_, selects⟩
        rw [todo_perform, Function.update_self]
        exact mem_append_right _ tail
    · exact .inl wakes

theorem Owes.perform_other {other : Thread} (rest : List (Action ω))
    (owes : Owes other side waker self) (differs : other ≠ thread) :
    ∃ thread', Owes thread' side waker (self.perform thread rest action) := by
  have same : (self.perform thread rest action).todo other = self.todo other := by
    rw [todo_perform, Function.update_of_ne differs]
  rcases owes with wakes | ⟨held, chosen, notifies, selects⟩
  · refine ⟨other, .inl ?_⟩
    rw [same]
    exact wakes
  · rcases @wakers_perform _ _ _ _ _ thread action rest held with held | wakes
    · refine ⟨other, .inr ⟨held, chosen, ?_, selects⟩⟩
      rw [same]
      exact notifies
    · exact ⟨thread, .inl wakes⟩

theorem Owes.of_same (owes : Owes thread side waker before)
    (todo : before.todo thread ⊆ after.todo thread)
    (same : after.wakers side = before.wakers side) : Owes thread side waker after := by
  rcases owes with wakes | ⟨held, chosen, notifies, selects⟩
  · exact .inl (todo wakes)
  · exact .inr ⟨same.trans held, chosen, todo notifies, selects⟩

/-- A waker stays owed until it is woken. -/
theorem Owes.step (step : Step stack before event after)
    (last : ∀ other, event ≠ .register side other) (owes : Owes thread side waker before) :
    (∃ thread', event = .act thread' (.wake side waker)) ∨
      ∃ thread', Owes thread' side waker after := by
  rcases step_cases step with ⟨other, action, rest, next, acts, perform⟩ | ⟨kept, wakers⟩
  · rw [acts, perform]
    by_cases same : thread = other
    · subst same
      rcases owes.perform next with wakes | owes
      · rw [wakes]
        exact .inl ⟨thread, rfl⟩
      · exact .inr ⟨thread, owes⟩
    · exact .inr (owes.perform_other rest same)
  · exact .inr ⟨thread, owes.of_same (kept thread) (wakers side last)⟩

/-- A thread that owes a waker wakes it. -/
theorem Owes.woken (owes : Owes thread side waker self) : ∃ late last,
    Runs stack self late last ∧ late.length ≤ weight (self.todo thread) ∧
    (∀ visit ∈ late, ∃ action, visit.2 = .act thread action) ∧
    ∃ visit ∈ late, visit.2 = .act thread (.wake side waker) := by
  generalize size : weight (self.todo thread) = bound
  induction bound using Nat.strong_induction_on generalizing self with
  | _ bound ih =>
    have ⟨action, rest, next⟩ : ∃ action rest, self.todo thread = action :: rest := by
      apply exists_cons_of_ne_nil
      intro empty
      rcases owes with wakes | ⟨_, _, notifies, _⟩
      · rw [empty] at wakes
        exact nomatch wakes
      · rw [empty] at notifies
        exact nomatch notifies
    have step : Step stack self (.act thread action) (self.perform thread rest action) := .act next
    have lighter := weight_perform next
    rw [size] at lighter
    rcases owes.perform next with wakes | owes
    · refine ⟨_, _, .cons step (.nil _), ?_, ?_, ?_⟩
      · show 1 ≤ bound
        omega
      · intro visit member
        rw [mem_singleton.mp member]
        exact ⟨action, rfl⟩
      · rw [wakes]
        exact ⟨_, mem_cons_self, rfl⟩
    · have ⟨late, last, runs, short, acts, visit, member, wakes⟩ := ih _ lighter owes rfl
      refine ⟨_, last, .cons step runs, ?_, ?_, ?_⟩
      · rw [length_cons]
        omega
      · intro visit member
        rcases mem_cons.mp member with first | later
        · rw [first]
          exact ⟨action, rfl⟩
        · exact acts visit later
      · exact ⟨visit, mem_cons_of_mem _ member, wakes⟩

end Owed

theorem Owes.registered (owes : Owes thread side waker self) : self.Registered side waker :=
  owes.elim (fun wakes => .inr ⟨thread, wakes⟩) fun ⟨held, _⟩ => .inl held

/-- A waker stays registered until it is woken. -/
theorem registered_step (step : Step stack before event after)
    (last : ∀ other, event ≠ .register side other) (registered : before.Registered side waker) :
    (∃ thread, event = .act thread (.wake side waker)) ∨ after.Registered side waker := by
  rcases registered with held | ⟨thread, wakes⟩
  · right
    rcases step_cases step with ⟨thread, action, rest, _, _, same⟩ | ⟨_, kept⟩
    · rw [same]
      exact (wakers_perform held).imp_right fun wakes => ⟨thread, wakes⟩
    · exact .inl ((kept side last).trans held)
  · have owes : Owes thread side waker before := .inl wakes
    exact (owes.step step last).imp_right fun ⟨_, owes⟩ => owes.registered

/-- The visit wakes the waker. -/
def Wakes (side : Side) (waker : ω) (visit : World σ ω × Event ω) : Prop :=
  ∃ thread, visit.2 = .act thread (.wake side waker)

/-- The visit registers no waker of the side. -/
def Last (side : Side) (visit : World σ ω × Event ω) : Prop :=
  ∀ waker, visit.2 ≠ .register side waker

variable {late : List (World σ ω × Event ω)}

/-- A waker that was registered, and whose poll returned `Pending`, is with the stream until it is
woken. When it is still there and the stream is ready for the task, or the tunnel has stopped or
failed, it is woken in every continuation, unless a thread is on its way to it: then six actions of
this thread, which are on its list, are enough. No waker of the side is registered between the last
notification of the driver and `health.close()`. -/
theorem pending_waker_woken {state : σ} {placed : World σ ω}
    {visits early late : List (World σ ω × Event ω)}
    (runs : Runs stack (World.start state) visits self)
    (registers : Step stack self (.register side waker) placed)
    (settled : ∀ visit ∈ visits ++ [(self, .register side waker)], Settled side visit)
    (polls : Runs stack placed early before) (parked : before.tasks side = .parked waker)
    (due : before.Due side) (more : Runs stack before late after)
    (last : ∀ visit ∈ early ++ late, Last side visit) :
    (before.Registered side waker ∨ ∃ visit ∈ early, Wakes side waker visit) ∧
      (before.Registered side waker →
        (∃ visit ∈ late, Wakes side waker visit) ∨
        ∃ thread rest done, Runs stack after rest done ∧ rest.length ≤ 6 ∧
          (∀ visit ∈ rest, ∃ action, visit.2 = .act thread action) ∧
          ∃ visit ∈ rest, visit.2 = .act thread (.wake side waker)) := by
  have placing : Runs stack (World.start state) (visits ++ [(self, .register side waker)]) placed :=
    Trace.append runs (.cons registers (.nil _))
  have quiet : ∀ visit ∈ early ++ late, Settled side visit :=
    fun visit member waker same => absurd same (last visit member waker)
  have start : Sound side (World.start state : World σ ω) :=
    ⟨tidy_start state, heard_start side state⟩
  have sound : Sound side before := by
    apply Runs.sound polls (fun visit member => quiet visit (mem_append_left _ member))
    exact Runs.sound placing settled start
  constructor
  · have registered : placed.Registered side waker := by
      cases registers with
      | register stage => exact .inl (Function.update_self _ _ _)
    rw [or_comm]
    exact @Trace.until _ _ _ (World.Registered · side waker) (Last side) (Wakes side waker) _ _ _
      polls registered_step (fun visit member => last visit (mem_append_left _ member))
      registered
  · intro registered
    have owes : ∃ thread, Owes thread side waker before := by
      rcases registered with held | ⟨thread, wakes⟩
      · have some : before.wakers side ≠ none := by
          rw [held]
          exact nofun
        have ⟨thread, chosen, notifies, selects⟩ :=
          sound.heard some (.inr (.inr (.inr ⟨waker, parked, due⟩)))
        exact ⟨thread, .inr ⟨held, chosen, notifies, selects⟩⟩
      · exact ⟨thread, .inl wakes⟩
    have ends := @Trace.until _ _ _ (fun world => ∃ thread, Owes thread side waker world)
      (Last side) (Wakes side waker) _ _ _ more (fun step last ⟨_, owes⟩ => owes.step step last)
      (fun visit member => last visit (mem_append_right _ member)) owes
    refine ends.imp_right fun ⟨thread, owes⟩ => ?_
    have tidy := (Runs.sound more
      (fun visit member => quiet visit (mem_append_right _ member)) sound).tidy
    have ⟨rest, done, acts, short, only, wakes⟩ := @Owes.woken _ _ stack _ _ _ _ owes
    exact ⟨thread, rest, done, acts, short.trans (tidy.brief thread), only, wakes⟩

section Rest

/-- The driver has ended, and no thread has anything left to do. -/
structure Resting (world : World σ ω) : Prop where
  stopped : world.running = false
  free : ∀ thread, world.todo thread = []

/-- Nobody is woken any more, unless the client drops the stream. -/
theorem Resting.step (step : Step stack before event after) (resting : Resting before)
    (stays : event ≠ .begins .client) :
    Resting after ∧ ∀ thread action, event ≠ .act thread action := by
  have ended : ∀ {goal : Prop}, before.running = true → goal := fun runs =>
    absurd (resting.stopped.symm.trans runs) Bool.false_ne_true
  cases step with
  | act next => exact nomatch (resting.free _).symm.trans next
  | sync _ runs | stack _ runs | shutdown _ runs | cleanup _ runs | fail _ runs | stop _ runs =>
    exact ended runs
  | drop free held quiet => exact absurd rfl stays
  | _ => exact ⟨⟨resting.stopped, resting.free⟩, nofun⟩

theorem Resting.runs (runs : Runs stack before late after) (resting : Resting before)
    (stays : ∀ visit ∈ late, visit.2 ≠ .begins .client) :
    ∀ visit ∈ late, ¬ Wakes side waker visit := by
  induction runs with
  | nil => exact fun visit member => nomatch member
  | cons step _ ih =>
    have ⟨rests, quiet⟩ := resting.step step (stays _ mem_cons_self)
    intro visit member ⟨thread, wakes⟩
    rcases mem_cons.mp member with first | later
    · rw [first] at wakes
      exact quiet thread _ wakes
    · exact ih rests (fun visit member => stays visit (mem_cons_of_mem _ member)) visit later
        ⟨thread, wakes⟩

end Rest

open Driver.Sample

/-- A task polls a stream after the driver notified the streams for the last time and before it
closed the tunnel. Nobody wakes it, unless the client drops the stream. -/
theorem pending_waker_lost :
    ∃ (visits : List (World Tcp Nat × Event Nat)) (world : World Tcp Nat),
      Runs zeroWindow (World.start .synSent) visits world ∧
      world.tasks .read = .parked 7 ∧ world.wakers .read = some 7 ∧ world.Due .read ∧
      ∀ (late : List (World Tcp Nat × Event Nat)) (after : World Tcp Nat),
        Runs zeroWindow world late after →
        (∀ visit ∈ late, visit.2 ≠ .begins .client) →
        ∀ visit ∈ late, ¬ Wakes .read 7 visit := by
  have run : Runs zeroWindow (World.start .synSent) _ _ :=
    .cons (.stack rfl rfl rfl (.inr ⟨rfl, rfl⟩)) (.cons (.sync rfl rfl rfl 0)
      (.cons (.stop rfl rfl) (.cons (@Step.act _ _ _ _ .driver notifyAll [.close] rfl)
        (.cons (.poll (.read 1) 7 rfl rfl rfl) (.cons (@Step.attempt _ _ _ _ (.read 1) 7 rfl)
          (.cons (@Step.register _ _ _ _ (.read 1) 7 rfl)
            (.cons (@Step.recheck _ _ _ _ (.read 1) 7 rfl)
              (.cons (@Step.retry _ _ _ _ (.read 1) 7 rfl)
                (.cons (@Step.act _ _ _ _ .driver .close [] rfl) (.nil _))))))))))
  refine ⟨_, _, run, rfl, rfl, .inr (.inr rfl), ?_⟩
  intro late after runs stays
  apply Resting.runs runs _ stays
  constructor
  · rfl
  · intro thread
    cases thread <;> rfl

/-- A reader waits when the driver leaves its loop, and is woken by a thread. -/
theorem pending_waker_woken_sample :
    ∃ (visits early : List (World Tcp Nat × Event Nat)) (self placed before : World Tcp Nat),
      Runs zeroWindow (World.start .synSent) visits self ∧
      Step zeroWindow self (.register .read 7) placed ∧
      Runs zeroWindow placed early before ∧
      before.tasks .read = .parked 7 ∧ before.running = false ∧ before.Registered .read 7 ∧
      ∃ thread rest done, Runs zeroWindow before rest done ∧ rest.length ≤ 6 ∧
        ∃ visit ∈ rest, visit.2 = .act thread (.wake .read 7) := by
  have waits : ∃ (visits early : List (World Tcp Nat × Event Nat))
      (self placed before : World Tcp Nat),
      Runs zeroWindow (World.start .synSent) visits self ∧
      Step zeroWindow self (.register .read 7) placed ∧
      Runs zeroWindow placed early before ∧
      before.tasks .read = .parked 7 ∧ before.running = false ∧ before.wakers .read = some 7 ∧
      (∀ visit ∈ visits ++ [(self, .register .read 7)], Settled .read visit) ∧
      ∀ visit ∈ early ++ [], Last .read visit := by
    refine ⟨_, _, _, _, _, .cons (.stack rfl rfl rfl (.inr ⟨rfl, rfl⟩)) (.cons (.sync rfl rfl rfl 0)
      (.cons (.poll (.read 1) 7 rfl rfl rfl) (.cons (@Step.attempt _ _ _ _ (.read 1) 7 rfl)
        (.nil _)))), @Step.register _ _ _ _ (.read 1) 7 rfl,
      .cons (@Step.recheck _ _ _ _ (.read 1) 7 rfl)
        (.cons (@Step.retry _ _ _ _ (.read 1) 7 rfl) (.cons (.stop rfl rfl) (.nil _))), rfl, rfl,
      rfl, ?_, ?_⟩
    · intro visit member waker same stopped
      simp only [cons_append, nil_append, mem_cons, not_mem_nil, or_false] at member
      rcases member with here | here | here | here | here
      all_goals
        rw [here] at stopped
        exact nomatch stopped
    · intro visit member
      simp only [append_nil, mem_cons, not_mem_nil, or_false] at member
      rcases member with here | here | here
      all_goals
        rw [here]
        exact nofun
  obtain ⟨visits, early, self, placed, before, run, registers, polls, parked, stopped, held, settled,
    last⟩ := waits
  have woken := (pending_waker_woken run registers settled polls parked (.inr (.inr stopped))
    (.nil _) last).2 (.inl held)
  obtain ⟨_, member, _⟩ | ⟨thread, rest, done, runs, short, _, wakes⟩ := woken
  · cases member
  · exact ⟨visits, early, self, placed, before, run, registers, polls, parked, stopped, .inl held,
      thread, rest, done, runs, short, wakes⟩

end Ployz.Tunnel.Polling
