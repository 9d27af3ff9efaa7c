import Mathlib
import Ployz.Base.Run
import Ployz.Proxy.Connection

/-!
# One owner of a backend's connection

Two invariants hold in every state of a backend. The first says who may act next: nobody yet, the
call that owns the initial connection, or afterwards the stored reconnect task and the calls that
are about to start one. It needs no order of the generations. The second says which parties carry
the current generation. Stale parties are told apart by the generation alone, so it holds as long
as the counter has not come round.
-/

namespace Ployz.Proxy

namespace World

/-- No reconnect task lives and none is about to be stored. -/
def Quiet (world : World) : Prop :=
  (∀ id, world.starters id ≠ .pending) ∧ ∀ id, (world.tasks id).live = false

/-- Who may act on the state. An open backend without a channel that is idle is vacant; it is in its
initial connection, which one call owns; or it is past it, in backoff without a channel or idle with
one, and then the task that lives is the stored one. -/
structure Sound (world : World) : Prop where
  single : ∀ first second, (world.tasks first).live = true → (world.tasks second).live = true →
    first = second
  closed : world.state.closed = true → world.state.channel = none ∧ world.state.phase = .idle
  channel : ∀ id, world.state.channel = some id → world.state.phase = .idle
  live : world.state.closed = false → ∀ id, (world.tasks id).live = true ↔
    world.state.reconnectTask = some id
  created : world.state.closed = false → ∀ id, world.tasks id = .created →
    ∃ starter, world.starters starter = .stored id
  vacant : world.state.closed = false → world.state.channel = none → world.state.phase = .idle →
    (∀ id, (world.calls id).owned = none) ∧ world.Quiet
  initial : world.state.phase = .initialConnect → world.Quiet ∧
    ∃ id, (world.calls id).owned = some world.state.generation ∧
      ∀ other, other ≠ id → (world.calls other).owned = none
  backoff : world.state.phase = .backoff → world.state.reconnectTask = none →
    ∃ id, world.starters id = .pending

/-- A connection carries the generation of the attempt that succeeded with it. -/
def Behind (world : World) (generation : UInt64) (id : Nat) : Prop :=
  ∃ behind, world.connections id = some behind ∧ behind.generation = generation

/-- How the generations of attempts and connections stand to the current one. -/
structure Dated (world : World) : Prop where
  counted : world.state.generation.toNat = world.increments
  connections : ∀ id connection, world.connections id = some connection →
    connection.generation.toNat ≤ world.increments
  dropped : world.state.closed = false → ∀ id connection,
    world.connections id = some connection → connection.dropped = true →
    connection.generation.toNat < world.increments
  calls : ∀ id generation, (world.calls id).owned = some generation →
    generation.toNat ≤ world.increments
  tasks : ∀ id generation, (world.tasks id).attempting = some generation →
    generation.toNat ≤ world.increments
  behindCall : ∀ id generation connection, world.calls id = .connected generation connection →
    world.Behind generation connection
  behindTask : ∀ id generation connection, world.tasks id = .connected generation connection →
    world.Behind generation connection

/-- A call of `start_reconnecting` is in progress, and nothing else carries the generation. -/
structure Starting (world : World) (id : Nat) : Prop where
  channel : world.state.channel = none
  task : world.state.reconnectTask = none
  single : ∀ other, world.starters other = .pending → other = id
  none_left : world.AllDropped world.state.generation
  stale : ∀ call, (world.calls call).owned ≠ some world.state.generation

/-- Who carries the current generation. -/
structure Timely (world : World) : Prop where
  dated : world.Dated
  failed : world.state.phase = .initialConnect → ∀ id generation message,
    world.calls id = .failed generation message → world.AllDropped generation
  starting : world.state.closed = false → ∀ id, world.starters id = .pending → world.Starting id
  stored : ∀ id, world.state.channel = some id → world.state.reconnectTask = none ∧
    ∃ behind, world.connections id = some behind ∧ behind.generation = world.state.generation ∧
      behind.dropped = false

section Setters

variable {world : World}

@[simp] theorem setCall_state (id : Nat) (call : Call) :
    (world.setCall id call).state = world.state := rfl

@[simp] theorem setStarter_state (id : Nat) (starter : Starter) :
    (world.setStarter id starter).state = world.state := rfl

@[simp] theorem setTask_state (id : Nat) (task : Task) :
    (world.setTask id task).state = world.state := rfl

@[simp] theorem setConnection_state (id : Nat) (connection : Connection) :
    (world.setConnection id connection).state = world.state := rfl

@[simp] theorem setState_state (state : ConnectionState) :
    (world.setState state).state = state := rfl

/-- What a call owns after one call has moved on. -/
theorem setCall_owned (id other : Nat) (call : Call) :
    ((world.setCall id call).calls other).owned =
      if other = id then call.owned else (world.calls other).owned := by
  simp only [setCall, Function.update_apply]
  split <;> rfl

/-- Which tasks live after one has moved on. -/
theorem setTask_live (id other : Nat) (task : Task) :
    ((world.setTask id task).tasks other).live =
      if other = id then task.live else (world.tasks other).live := by
  simp only [setTask, Function.update_apply]
  split <;> rfl

end Setters

section Outcomes

variable (world : World)

/-- A call that enters takes the initial connection of a vacant backend, or owns nothing. -/
theorem enter_spec (target : String) (id : Nat) :
    (∃ call : Call, call.owned = none ∧ world.enter target id = world.setCall id call) ∨
      (world.state.closed = false ∧ world.state.channel = none ∧ world.state.phase = .idle ∧
        world.enter target id = (world.advance { world.state with
          phase := .initialConnect, generation := world.state.generation + 1 }).setCall id
            (.connecting ⟨world.state.generation + 1, false⟩)) := by
  by_cases vacant : world.state.closed = false ∧ world.state.channel = none ∧
      world.state.phase = .idle
  · obtain ⟨closed, channel, phase⟩ := vacant
    refine .inr ⟨closed, channel, phase, ?_⟩
    simp only [enter, ConnectionState.enter, channel, closed, phase, Bool.false_eq_true, ↓reduceIte]
  · left
    unfold enter ConnectionState.enter
    cases channel : world.state.channel with
    | some stored => exact ⟨_, rfl, rfl⟩
    | none =>
      cases closed : world.state.closed with
      | true => exact ⟨_, rfl, rfl⟩
      | false =>
        cases phase : world.state.phase with
        | idle => exact absurd ⟨closed, channel, phase⟩ vacant
        | initialConnect | backoff => exact ⟨_, rfl, rfl⟩

/-- The channel of a call is stored only while the call owns the initial connection. -/
theorem install_spec (id : Nat) (generation : UInt64) (connection : Nat) :
    (∃ status, world.install id generation connection =
      world.setCall id (.releasing generation (some status))) ∨
    (world.state.closed = false ∧ world.state.generation = generation ∧
      world.state.phase = .initialConnect ∧ world.install id generation connection =
        (world.setState { world.state with
          phase := .idle, channel := some connection }).setCall id (.returned (.ok connection))) := by
  unfold install ConnectionState.install
  split_ifs with closed superseded
  · exact .inl ⟨_, rfl⟩
  · exact .inl ⟨_, rfl⟩
  · obtain ⟨current, phase⟩ := not_or.mp superseded
    exact .inr ⟨eq_false_of_ne_true closed, not_not.mp current, not_not.mp phase, rfl⟩

variable {world} {id starter : Nat} {generation : UInt64} {message : String}

/-- The owner of the initial connection whose attempt failed puts the backend into backoff. -/
theorem retreat_initial (open_ : world.state.closed = false)
    (phase : world.state.phase = .initialConnect) (current : generation = world.state.generation) :
    world.retreat id generation message starter =
      ((world.setState { world.state with phase := .backoff }).setStarter starter
        .pending).setCall id (.returned (.error (.unavailable message))) := by
  simp [World.retreat, ConnectionState.retreat, open_, phase, current]

/-- A failed attempt has no further effect once the initial connection is past. -/
theorem retreat_past (phase : world.state.phase ≠ .initialConnect) :
    world.retreat id generation message starter =
      world.setCall id (.returned (.error (.unavailable message))) := by
  simp [World.retreat, ConnectionState.retreat, phase]

variable (world)

/-- The section of `start_reconnecting` stores its task if the backend is open and has none. -/
theorem register_spec (id task : Nat) :
    (world.state.closed = true ∧ world.register id task =
      (world.setState { world.state with phase := .idle }).setStarter id .absent) ∨
    (world.state.closed = false ∧ world.state.reconnectTask ≠ none ∧
      world.register id task = world.setStarter id .absent) ∨
    (world.state.closed = false ∧ world.state.reconnectTask = none ∧ world.register id task =
      ((world.setState { world.state with reconnectTask := some task }).setTask task
        .created).setStarter id (.stored task)) := by
  unfold register ConnectionState.register
  split_ifs with closed absent
  · exact .inl ⟨closed, rfl⟩
  · exact .inr (.inr ⟨eq_false_of_ne_true closed, Option.isNone_iff_eq_none.mp absent, rfl⟩)
  · exact .inr (.inl ⟨eq_false_of_ne_true closed, fun none => absent (by rw [none]; rfl), rfl⟩)

/-- The section of a reconnect task after its attempt. -/
theorem finishAttempt_spec (task : Nat) (generation : UInt64) (connection : Nat) :
    (world.state.closed = true ∧ world.finishAttempt task generation connection =
      (world.setState { world.state with reconnectTask := none }).setTask task .sleeping) ∨
    world.finishAttempt task generation connection = world.setTask task .sleeping ∨
    (world.state.closed = false ∧ world.state.generation = generation ∧
      world.finishAttempt task generation connection = (world.setState { world.state with
        channel := some connection, phase := .idle, reconnectTask := none }).setTask task
          .ended) := by
  unfold finishAttempt ConnectionState.finishAttempt
  split_ifs with closed current
  · exact .inl ⟨closed, rfl⟩
  · exact .inr (.inr ⟨eq_false_of_ne_true closed, current, rfl⟩)
  · exact .inr (.inl rfl)

/-- The drop of a connection of the current generation puts an open backend into backoff, and
starts to reconnect if no task is stored. -/
theorem drop_spec (id : Nat) (connection : Connection) (starter : Nat) :
    ((world.state.closed = true ∨ world.state.generation ≠ connection.generation) ∧
      world.drop id connection starter =
        world.setConnection id { connection with dropped := true }) ∨
    (world.state.closed = false ∧ world.state.generation = connection.generation ∧
      world.state.reconnectTask = none ∧ world.drop id connection starter =
        ((world.advance { world.state with
            generation := world.state.generation + 1, phase := .backoff,
            channel := none }).setConnection id
          { connection with dropped := true }).setStarter starter .pending) ∨
    (world.state.closed = false ∧ world.state.generation = connection.generation ∧
      world.state.reconnectTask ≠ none ∧ world.drop id connection starter =
        (world.advance { world.state with
          generation := world.state.generation + 1, phase := .backoff,
          channel := none }).setConnection id { connection with dropped := true }) := by
  by_cases ignored : world.state.closed = true ∨ world.state.generation ≠ connection.generation
  · refine .inl ⟨ignored, ?_⟩
    simp only [drop, ConnectionState.dropped, if_pos ignored]
  · obtain ⟨closed, current⟩ := not_or.mp ignored
    simp only [drop, ConnectionState.dropped, if_neg ignored]
    cases stored : world.state.reconnectTask with
    | none => exact .inr (.inl ⟨eq_false_of_ne_true closed, not_not.mp current, rfl, rfl⟩)
    | some task =>
      exact .inr (.inr ⟨eq_false_of_ne_true closed, not_not.mp current, Option.some_ne_none _, rfl⟩)

end Outcomes

variable {call : Call}

section Parties

variable {world : World} {id : Nat} {generation : UInt64}

theorem live_of_started {task : Task} (started : task.started = true) : task.live = true := by
  cases task <;> first | rfl | exact nomatch started

variable (sound : world.Sound)

include sound

/-- Nothing lives and nothing is stored in a quiet world. -/
theorem Sound.task_eq_none (open_ : world.state.closed = false) (quiet : world.Quiet) :
    world.state.reconnectTask = none := by
  cases stored : world.state.reconnectTask with
  | none => rfl
  | some task =>
    have alive := (sound.live open_ task).mpr stored
    exact nomatch (quiet.2 task).symm.trans alive

/-- A backend in its initial connection is open. -/
theorem Sound.open_of_initial (phase : world.state.phase = .initialConnect) :
    world.state.closed = false := by
  apply eq_false_of_ne_true
  intro closed
  exact nomatch phase.symm.trans (sound.closed closed).2

/-- A backend in its initial connection has no channel. -/
theorem Sound.channel_of_initial (phase : world.state.phase = .initialConnect) :
    world.state.channel = none := by
  cases stored : world.state.channel with
  | none => rfl
  | some id => exact nomatch phase.symm.trans (sound.channel id stored)

/-- A call that owns something while the initial connection is under way is its only owner. -/
theorem Sound.owner (phase : world.state.phase = .initialConnect)
    (owns : (world.calls id).owned = some generation) :
    generation = world.state.generation ∧
      ∀ other, other ≠ id → (world.calls other).owned = none := by
  obtain ⟨_, owner, own, others⟩ := sound.initial phase
  have same : id = owner := by
    by_contra apart
    exact nomatch owns.symm.trans (others id apart)
  subst same
  exact ⟨Option.some.inj (owns.symm.trans own), others⟩

/-- A call moves on: it owns what it did, or nothing any more once the initial connection is
past. -/
theorem Sound.setCall (same : call.owned = (world.calls id).owned ∨
      call.owned = none ∧ world.state.phase ≠ .initialConnect) : (world.setCall id call).Sound := by
  have free : ∀ other, (world.calls other).owned = none →
      ((world.setCall id call).calls other).owned = none := by
    intro other none
    rw [setCall_owned]
    split
    case isTrue this => exact same.elim (fun same => same.trans (this ▸ none)) And.left
    case isFalse => exact none
  refine { sound with vacant := fun open_ channel phase => ?_, initial := fun phase => ?_ }
  · obtain ⟨owners, quiet⟩ := sound.vacant open_ channel phase
    exact ⟨fun other => free other (owners other), quiet⟩
  · obtain ⟨quiet, owner, owns, others⟩ := sound.initial phase
    refine ⟨quiet, owner, ?_,
      fun other apart => free other (others other apart)⟩
    rw [setCall_owned]
    split
    case isTrue this =>
      exact (same.resolve_right fun lost => lost.2 phase).trans (this ▸ owns)
    case isFalse => exact owns

/-- A task moves on without being created. -/
theorem Sound.setTask {task : Task} (same : task.live = (world.tasks id).live)
    (begun : task ≠ .created) : (world.setTask id task).Sound := by
  have live : ∀ other, ((world.setTask id task).tasks other).live = (world.tasks other).live := by
    intro other
    rw [setTask_live]
    split
    case isTrue this => rw [this, same]
    case isFalse => rfl
  have quiet : world.Quiet → (world.setTask id task).Quiet := fun quiet =>
    ⟨quiet.1, fun other => (live other).trans (quiet.2 other)⟩
  refine { sound with
    single := fun first second => ?_, live := fun open_ other => ?_,
    created := fun open_ other created => ?_,
    vacant := fun open_ channel phase => (sound.vacant open_ channel phase).imp_right quiet,
    initial := fun phase => (sound.initial phase).imp_left quiet }
  · rw [live, live]
    exact sound.single first second
  · rw [live]
    exact sound.live open_ other
  · simp only [World.setTask, Function.update_apply] at created
    split at created
    · exact absurd created begun
    · exact sound.created open_ other created

/-- A call of `start_reconnecting` ends that does not hold a task to be started. -/
theorem Sound.setStarter
    (begun : ∀ task, world.starters id = .stored task → world.tasks task ≠ .created)
    (kept : world.starters id = .pending → world.state.closed = true ∨
      world.state.reconnectTask ≠ none) : (world.setStarter id .absent).Sound := by
  have quiet : world.Quiet → (world.setStarter id .absent).Quiet := by
    intro quiet
    refine ⟨fun other => ?_, quiet.2⟩
    simp only [World.setStarter, Function.update_apply]
    split
    · exact nofun
    · exact quiet.1 other
  refine { sound with
    created := fun open_ task created => ?_
    vacant := fun open_ channel phase => (sound.vacant open_ channel phase).imp_right quiet
    initial := fun phase => (sound.initial phase).imp_left quiet
    backoff := fun phase absent => ?_ }
  · obtain ⟨starter, stored⟩ := sound.created open_ task created
    refine ⟨starter, (Function.update_of_ne ?_ ..).trans stored⟩
    rintro rfl
    exact begun task stored created
  · obtain ⟨starter, pending⟩ := sound.backoff phase absent
    refine ⟨starter, (Function.update_of_ne ?_ ..).trans pending⟩
    rintro rfl
    rcases kept pending with closed | stored
    · exact nomatch phase.symm.trans (sound.closed closed).2
    · exact stored absent

/-- A task ends after the backend was closed. -/
theorem Sound.ended (closed : world.state.closed = true) (id : Nat) :
    (world.setTask id .ended).Sound := by
  have live : ∀ {other}, ((world.setTask id .ended).tasks other).live = true →
      (world.tasks other).live = true := by
    intro other alive
    rw [setTask_live] at alive
    split at alive
    · exact nomatch alive
    · exact alive
  exact { sound with
    single := fun first second one two => sound.single first second (live one) (live two)
    live := fun open_ => nomatch closed.symm.trans open_
    created := fun open_ => nomatch closed.symm.trans open_
    vacant := fun open_ => nomatch closed.symm.trans open_
    initial := fun phase => nomatch closed.symm.trans (sound.open_of_initial phase) }

end Parties

variable {task : Nat}

section Sections

variable {world : World} {generation : UInt64} {target : String} {id connection : Nat}
  (sound : world.Sound)

include sound

theorem Sound.enter (looking : world.calls id = .looking) : (world.enter target id).Sound := by
  rcases world.enter_spec target id with ⟨call, free, next⟩ | ⟨open_, channel, phase, next⟩
  · rw [next]
    exact sound.setCall (.inl (by rw [looking]; exact free))
  · obtain ⟨owners, quiet⟩ := sound.vacant open_ channel phase
    rw [next]
    refine { sound with
      closed := fun closed => nomatch open_.symm.trans closed
      channel := fun id stored => nomatch channel.symm.trans stored
      vacant := nofun, backoff := nofun
      initial := fun _ => ⟨quiet, id, ?_, fun other apart => ?_⟩ }
    · rw [setCall_owned, if_pos rfl]
      rfl
    · rw [setCall_owned, if_neg apart]
      exact owners other

theorem Sound.install (connected : world.calls id = .connected generation connection) :
    (world.install id generation connection).Sound := by
  rcases world.install_spec id generation connection with ⟨status, next⟩ | ⟨open_, _, _, next⟩
  · rw [next]
    exact sound.setCall (.inl (by rw [connected]; rfl))
  · rw [next]
    exact { sound with
      closed := fun closed => nomatch open_.symm.trans closed
      channel := fun _ _ => rfl
      vacant := nofun, initial := nofun, backoff := nofun }

theorem Sound.retreat {starter : Nat} {message : String}
    (failed : world.calls id = .failed generation message) :
    (world.retreat id generation message starter).Sound := by
  by_cases phase : world.state.phase = .initialConnect
  · have open_ := sound.open_of_initial phase
    have current := (sound.owner phase (by rw [failed]; rfl)).1
    have quiet := (sound.initial phase).1
    rw [retreat_initial open_ phase current]
    exact { sound with
      closed := fun closed => nomatch open_.symm.trans closed
      channel := fun id stored => nomatch (sound.channel_of_initial phase).symm.trans stored
      created := fun _ task created =>
        nomatch (quiet.2 task).symm.trans (congrArg Task.live created)
      vacant := nofun, initial := nofun
      backoff := fun _ _ => ⟨starter, Function.update_self ..⟩ }
  · rw [retreat_past phase]
    exact sound.setCall (.inr ⟨rfl, phase⟩)

theorem Sound.release {status : Option Status}
    (releasing : world.calls id = .releasing generation status) :
    (world.release id status).Sound := by
  have free : (Call.released status).owned = none := by cases status <;> rfl
  rw [World.release, ConnectionState.release]
  by_cases phase : world.state.phase = .initialConnect
  · have open_ := sound.open_of_initial phase
    have others := (sound.owner phase (by rw [releasing]; rfl)).2
    have quiet := (sound.initial phase).1
    rw [if_pos phase]
    refine { sound with
      closed := fun closed => nomatch open_.symm.trans closed
      channel := fun _ _ => rfl
      vacant := fun _ _ _ => ⟨fun other => ?_, quiet⟩
      initial := nofun, backoff := nofun }
    rw [setCall_owned]
    split
    case isTrue => exact free
    case isFalse apart => exact others other apart
  · rw [if_neg phase]
    exact sound.setCall (.inr ⟨free, phase⟩)

theorem Sound.register (pending : world.starters id = .pending) :
    (world.register id task).Sound := by
  have held : ∀ task, world.starters id = .stored task → world.tasks task ≠ .created :=
    fun task stored => nomatch pending.symm.trans stored
  rcases world.register_spec id task with ⟨closed, next⟩ | ⟨open_, kept, next⟩ |
    ⟨open_, absent, next⟩
  · have same : { world.state with phase := .idle } = world.state := by
      rw [← (sound.closed closed).2]
    rw [next, same]
    exact sound.setStarter held fun _ => .inl closed
  · rw [next]
    exact sound.setStarter held fun _ => .inr kept
  · -- no task is stored, so none lives but the new one
    have live : ∀ other, (((world.setState { world.state with
        reconnectTask := some task }).setTask task .created).tasks other).live = true ↔
        some task = some other := by
      intro other
      rw [setTask_live]
      split
      case isTrue this => exact iff_of_true rfl (congrArg some this.symm)
      case isFalse apart =>
        refine iff_of_false (fun alive => ?_) fun same => apart (Option.some.inj same).symm
        exact nomatch absent.symm.trans ((sound.live open_ other).mp alive)
    rw [next]
    refine ⟨fun first second one two => ?_, sound.closed, sound.channel, fun _ => live,
      fun _ other created => ⟨id, ?_⟩, fun open_ channel phase => ?_, fun phase => ?_, nofun⟩
    · exact Option.some.inj (((live first).mp one).symm.trans ((live second).mp two))
    · have same := (live other).mp (congrArg Task.live created)
      rw [← Option.some.inj same]
      exact Function.update_self ..
    · exact absurd pending ((sound.vacant open_ channel phase).2.1 id)
    · exact absurd pending ((sound.initial phase).1.1 id)

theorem Sound.start (stored : world.starters id = .stored task) : (world.start id task).Sound := by
  have idle : ∀ {P : Prop}, world.starters id = .pending → P :=
    fun pending => nomatch stored.symm.trans pending
  rw [World.start]
  split
  case h_1 created =>
    have begun : (world.setTask task .sleeping).Sound :=
      sound.setTask (by rw [created]; rfl) nofun
    refine begun.setStarter (fun other holds => ?_) idle
    obtain rfl := Starter.stored.inj (stored.symm.trans holds)
    exact (Function.update_self ..).trans_ne nofun
  case h_2 begun =>
    refine sound.setStarter (fun other holds => ?_) idle
    obtain rfl := Starter.stored.inj (stored.symm.trans holds)
    exact begun

theorem Sound.beginAttempt (sleeping : world.tasks task = .sleeping) :
    (world.beginAttempt task).Sound := by
  have alive : (world.tasks task).live = true := by rw [sleeping]; rfl
  unfold World.beginAttempt ConnectionState.beginAttempt
  split_ifs with closed
  · exact sound.ended closed task
  · have moved : (world.advance { world.state with
        generation := world.state.generation + 1 }).Sound :=
      { sound with
        initial := fun phase => nomatch ((sound.initial phase).1.2 task).symm.trans alive }
    exact moved.setTask alive.symm nofun

theorem Sound.finishAttempt (connected : world.tasks task = .connected generation connection) :
    (world.finishAttempt task generation connection).Sound := by
  have alive : (world.tasks task).live = true := by rw [connected]; rfl
  rcases world.finishAttempt_spec task generation connection with ⟨closed, next⟩ | next |
    ⟨open_, _, next⟩
  · have moved : (world.setState { world.state with reconnectTask := none }).Sound :=
      { sound with
        live := fun open_ => nomatch closed.symm.trans open_
        backoff := fun phase => nomatch phase.symm.trans (sound.closed closed).2 }
    rw [next]
    exact moved.setTask alive.symm nofun
  · rw [next]
    exact sound.setTask alive.symm nofun
  · -- the task was the stored one, so none lives any more
    have none_live : ∀ other, ((world.setTask task .ended).tasks other).live = false := by
      intro other
      rw [setTask_live]
      split
      case isTrue => rfl
      case isFalse apart =>
        exact eq_false_of_ne_true fun alive' => apart (sound.single other task alive' alive)
    rw [next]
    exact {
      single := fun first second one => nomatch (none_live first).symm.trans one
      closed := fun closed => nomatch open_.symm.trans closed
      channel := fun _ _ => rfl
      live := fun _ other => iff_of_false (Bool.not_eq_true _ ▸ none_live other) nofun
      created := fun _ other created =>
        nomatch (none_live other).symm.trans (congrArg Task.live created)
      vacant := nofun, initial := nofun, backoff := nofun }

/-- A new connection is of no account to who may act. -/
theorem Sound.setConnection (id : Nat) (connection : Connection) :
    (world.setConnection id connection).Sound :=
  { sound with }

theorem Sound.drop (id : Nat) (connection : Connection) (starter : Nat) :
    (world.drop id connection starter).Sound := by
  rcases world.drop_spec id connection starter with ⟨_, next⟩ | ⟨open_, _, absent, next⟩ |
    ⟨open_, _, kept, next⟩
  · rw [next]
    exact sound.setConnection id { connection with dropped := true }
  · rw [next]
    exact { sound with
      closed := fun closed => nomatch open_.symm.trans closed
      channel := nofun
      created := fun _ task created =>
        nomatch absent.symm.trans ((sound.live open_ task).mp (congrArg Task.live created))
      vacant := nofun, initial := nofun
      backoff := fun _ _ => ⟨starter, Function.update_self ..⟩ }
  · rw [next]
    exact { sound with
      closed := fun closed => nomatch open_.symm.trans closed
      channel := nofun, vacant := nofun, initial := nofun
      backoff := fun _ absent => absurd absent kept }

theorem Sound.close : (world.setState world.state.close).Sound where
  single := sound.single
  closed := fun _ => ⟨rfl, rfl⟩
  channel := nofun
  live := nofun
  created := nofun
  vacant := nofun
  initial := nofun
  backoff := nofun

end Sections

variable {target : String} {before after : World}

/-- Every step keeps to who may act. -/
theorem Sound.step (step : Step target before after) (sound : before.Sound) : after.Sound := by
  cases step with
  | call unused =>
    refine sound.setCall (.inl ?_)
    obtain absent | ⟨result, returned⟩ := unused
    · rw [absent]; rfl
    · rw [returned]; rfl
  | wake waiting | leave waiting => exact sound.setCall (.inl (by rw [waiting]; rfl))
  | cancel connecting | dial connecting | succeed connecting | fail connecting =>
    exact sound.setCall (.inl (by rw [connecting]; rfl))
  | opened connecting admitted fresh =>
    exact (sound.setConnection ..).setCall (.inl (congrArg Call.owned connecting).symm)
  | enter looking => exact sound.enter looking
  | install connected => exact sound.install connected
  | retreat failed fresh => exact sound.retreat failed
  | release releasing => exact sound.release releasing
  | register pending fresh => exact sound.register pending
  | start stored => exact sound.start stored
  | beginAttempt sleeping => exact sound.beginAttempt sleeping
  | dialAgain connecting | succeedAgain connecting | failAgain connecting =>
    exact sound.setTask (by rw [connecting]; rfl) nofun
  | openedAgain connecting admitted fresh =>
    exact (sound.setConnection ..).setTask (congrArg Task.live connecting).symm nofun
  | finishAttempt connected => exact sound.finishAttempt connected
  | abort closed live => exact sound.ended closed _
  | drop known alive fresh => exact sound.drop ..
  | close => exact sound.close

theorem Sound.empty : ({} : World).Sound where
  single := nofun
  closed := nofun
  channel := nofun
  live := fun _ _ => iff_of_false nofun nofun
  created := nofun
  vacant := fun _ _ _ => ⟨fun _ => rfl, nofun, fun _ => rfl⟩
  initial := nofun
  backoff := nofun


/-- In every state of a run it is known who may act. -/
theorem Reachable.sound {world : World} (reached : Reachable target world) : world.Sound :=
  @holds_of_reaches _ _ Sound _ _ reached Sound.empty Sound.step

section Generations

variable {world : World} {id : Nat}

section Dates

variable (dated : world.Dated)

include dated

theorem Dated.setCall
    (owned : ∀ generation, call.owned = some generation → generation.toNat ≤ world.increments)
    (behind : ∀ generation connection, call = .connected generation connection →
      world.Behind generation connection) : (world.setCall id call).Dated := by
  refine { dated with
    calls := fun other generation owner => ?_
    behindCall := fun other generation connection connected => ?_ }
  · rw [setCall_owned] at owner
    split at owner
    · exact owned generation owner
    · exact dated.calls other generation owner
  · simp only [World.setCall, Function.update_apply] at connected
    split at connected
    · exact behind generation connection connected
    · exact dated.behindCall other generation connection connected

theorem Dated.setTask {task : Task}
    (attempting : ∀ generation, task.attempting = some generation →
      generation.toNat ≤ world.increments)
    (behind : ∀ generation connection, task = .connected generation connection →
      world.Behind generation connection) : (world.setTask id task).Dated := by
  refine { dated with
    tasks := fun other generation attempt => ?_
    behindTask := fun other generation connection connected => ?_ }
  · simp only [World.setTask, Function.update_apply] at attempt
    split at attempt
    · exact attempting generation attempt
    · exact dated.tasks other generation attempt
  · simp only [World.setTask, Function.update_apply] at connected
    split at connected
    · exact behind generation connection connected
    · exact dated.behindTask other generation connection connected

/-- A connection is added, or its entry changed with its generation kept. -/
theorem Dated.setConnection {connection : Connection}
    (known : ∀ before, world.connections id = some before →
      before.generation = connection.generation)
    (past : connection.generation.toNat ≤ world.increments)
    (gone : world.state.closed = false → connection.dropped = true →
      connection.generation.toNat < world.increments) :
    (world.setConnection id connection).Dated := by
  have behind : ∀ {other generation}, world.Behind generation other →
      (world.setConnection id connection).Behind generation other := by
    rintro other generation ⟨behind, stored, same⟩
    by_cases this : other = id
    · subst this
      exact ⟨connection, Function.update_self .., by rw [← known behind stored, same]⟩
    · exact ⟨behind, (Function.update_of_ne this ..).trans stored, same⟩
  refine { dated with
    connections := fun other entry found => ?_, dropped := fun closed other entry found => ?_
    behindCall := fun other generation at_ connected =>
      behind (dated.behindCall other generation at_ connected)
    behindTask := fun other generation at_ connected =>
      behind (dated.behindTask other generation at_ connected) }
  all_goals simp only [World.setConnection, Function.update_apply] at found
  · split at found
    · rw [← Option.some.inj found]
      exact past
    · exact dated.connections other entry found
  · split at found
    · rw [← Option.some.inj found]
      exact gone closed
    · exact dated.dropped closed other entry found

/-- With the counter below its limit, an advanced generation is new. -/
theorem Dated.advance {state : ConnectionState}
    (generation : state.generation = world.state.generation + 1)
    (bound : world.increments + 1 < 2 ^ 64) : (world.advance state).Dated := by
  have counted := dated.counted
  refine { dated with
    counted := ?_
    connections := fun id connection known =>
      Nat.le_succ_of_le (dated.connections id connection known)
    dropped := fun _ id connection known _ =>
      Nat.lt_succ_of_le (dated.connections id connection known)
    calls := fun id generation owner => Nat.le_succ_of_le (dated.calls id generation owner)
    tasks := fun id generation attempt => Nat.le_succ_of_le (dated.tasks id generation attempt) }
  change state.generation.toNat = world.increments + 1
  rw [generation, UInt64.toNat_add, counted]
  exact Nat.mod_eq_of_lt bound

/-- No connection and no attempt carries a generation that the counter has not reached. -/
theorem Dated.ne_next (bound : world.increments + 1 < 2 ^ 64) {generation : UInt64}
    (past : generation.toNat ≤ world.increments) : generation ≠ world.state.generation + 1 := by
  rintro rfl
  rw [UInt64.toNat_add, dated.counted] at past
  have := Nat.mod_eq_of_lt bound
  simp only [UInt64.toNat_one] at past
  omega

/-- A connection of the current generation of an open backend was not dropped. -/
theorem Dated.alive (closed : world.state.closed = false) {connection : Connection}
    (known : world.connections id = some connection)
    (current : connection.generation = world.state.generation) : connection.dropped = false := by
  by_contra gone
  have past := dated.dropped closed id connection known (by simpa using gone)
  rw [current, dated.counted] at past
  exact Nat.lt_irrefl _ past

end Dates

/-- A call moves on, to own what it did or nothing. -/
theorem Timely.setCall (timely : world.Timely)
    (same : call.owned = (world.calls id).owned ∨ call.owned = none)
    (failed : ∀ generation message, call = .failed generation message → world.AllDropped generation)
    (behind : ∀ generation connection, call = .connected generation connection →
      world.Behind generation connection) : (world.setCall id call).Timely := by
  have owned : ∀ other generation, ((world.setCall id call).calls other).owned = some generation →
      (world.calls other).owned = some generation := by
    intro other generation owns
    rw [setCall_owned] at owns
    split at owns
    case isTrue this =>
      rcases same with same | none
      · rw [this, ← same, owns]
      · exact nomatch none.symm.trans owns
    case isFalse => exact owns
  refine { timely with
    dated := timely.dated.setCall (fun generation owns => ?_) behind
    failed := fun phase other generation message is => ?_
    starting := fun open_ starter pending => ?_ }
  · exact timely.dated.calls id generation (owned id generation (by rwa [setCall_owned, if_pos rfl]))
  · simp only [World.setCall, Function.update_apply] at is
    split at is
    · exact failed generation message is
    · exact timely.failed phase other generation message is
  · have starting := timely.starting open_ starter pending
    exact { starting with stale := fun other owns => starting.stale other (owned other _ owns) }

/-- A task moves on, with the attempt it had or without one. -/
theorem Timely.setTask (timely : world.Timely) {task : Task}
    (same : task.attempting = (world.tasks id).attempting ∨ task.attempting = none)
    (behind : ∀ generation connection, task = .connected generation connection →
      world.Behind generation connection) : (world.setTask id task).Timely := by
  refine { timely with
    dated := timely.dated.setTask (fun generation attempt => ?_) behind
    starting := fun open_ starter pending => { timely.starting open_ starter pending with } }
  rcases same with same | none
  · exact timely.dated.tasks id generation (same ▸ attempt)
  · exact nomatch none.symm.trans attempt

/-- A call of `start_reconnecting` is over. -/
theorem Timely.setStarter (timely : world.Timely) {starter : Starter} (ended : starter ≠ .pending) :
    (world.setStarter id starter).Timely := by
  have pending : ∀ other, (world.setStarter id starter).starters other = .pending →
      world.starters other = .pending := by
    intro other waits
    simp only [World.setStarter, Function.update_apply] at waits
    split at waits
    · exact absurd waits ended
    · exact waits
  refine { timely with dated := { timely.dated with }, starting := fun open_ other waits => ?_ }
  have starting := timely.starting open_ other (pending other waits)
  exact { starting with single := fun third waits' => starting.single third (pending third waits') }

/-- Some attempt of the generation is under way. -/
def Attempts (world : World) (generation : UInt64) : Prop :=
  (∃ id attempt, world.calls id = .connecting attempt ∧ attempt.generation = generation) ∨
    ∃ id attempt, world.tasks id = .connecting attempt ∧ attempt.generation = generation

variable {generation : UInt64} {connection : Connection}

/-- While no task is stored, an attempt is that of a call. -/
theorem Attempts.owned (attempts : world.Attempts generation) (sound : world.Sound)
    (open_ : world.state.closed = false) (absent : world.state.reconnectTask = none) :
    ∃ id attempt, world.calls id = .connecting attempt ∧ attempt.generation = generation := by
  rcases attempts with called | ⟨task, attempt, connecting, _⟩
  · exact called
  · have alive : (world.tasks task).live = true := by rw [connecting]; rfl
    exact nomatch absent.symm.trans ((sound.live open_ task).mp alive)

/-- A dropped connection leaves no more of a generation than there was. -/
theorem AllDropped.setConnection {old : UInt64} (none_left : world.AllDropped old)
    (gone : connection.generation = old → connection.dropped = true) :
    (world.setConnection id connection).AllDropped old := by
  intro other entry known carries
  simp only [World.setConnection, Function.update_apply] at known
  split at known
  · rw [← Option.some.inj known] at carries ⊢
    exact gone carries
  · exact none_left other entry known carries

theorem Timely.start (timely : world.Timely) (id task : Nat) : (world.start id task).Timely := by
  rw [World.start]
  split
  · have begun : (world.setTask task .sleeping).Timely := timely.setTask (.inr rfl) nofun
    exact begun.setStarter nofun
  · exact timely.setStarter nofun

variable (timely : world.Timely) (sound : world.Sound)

include timely sound

theorem Timely.opened (fresh : world.connections id = none) (attempts : world.Attempts generation) :
    (world.setConnection id ⟨generation, false⟩).Timely := by
  refine { timely with
    dated := timely.dated.setConnection (fun before known => nomatch fresh.symm.trans known) ?_
      (fun _ gone => nomatch gone)
    failed := fun phase owner old message failed => ?_
    starting := fun open_ starter pending => ?_
    stored := fun other stored => ?_ }
  · obtain ⟨caller, attempt, connecting, rfl⟩ | ⟨task, attempt, connecting, rfl⟩ := attempts
    · exact timely.dated.calls caller _ (by rw [connecting]; rfl)
    · exact timely.dated.tasks task _ (by rw [connecting]; rfl)
  · -- the attempt is the owner's, which therefore has not failed
    have open_ := sound.open_of_initial phase
    have absent := sound.task_eq_none open_ (sound.initial phase).1
    obtain ⟨caller, attempt, connecting, _⟩ := attempts.owned sound open_ absent
    by_cases this : caller = owner
    · subst this
      exact nomatch connecting.symm.trans failed
    · have free := (sound.owner phase (congrArg Call.owned failed)).2 caller this
      rw [connecting] at free
      exact nomatch free
  · have starting := timely.starting open_ starter pending
    refine { starting with none_left := starting.none_left.setConnection fun carries => ?_ }
    obtain ⟨caller, attempt, connecting, own⟩ := attempts.owned sound open_ starting.task
    have apart := starting.stale caller
    rw [connecting] at apart
    exact absurd (congrArg some (own.trans carries)) apart
  · obtain ⟨absent, behind, known, current, alive⟩ := timely.stored other stored
    refine ⟨absent, behind, (Function.update_of_ne ?_ ..).trans known, current, alive⟩
    rintro rfl
    exact nomatch fresh.symm.trans known

theorem Timely.enter {target : String} (bound : (world.enter target id).increments < 2 ^ 64) :
    (world.enter target id).Timely := by
  rcases world.enter_spec target id with ⟨call, free, next⟩ | ⟨open_, channel, phase, next⟩
  · rw [next]
    refine timely.setCall (.inr free) (fun generation message is => ?_)
      fun generation connection is => ?_
    all_goals
      rw [is] at free
      exact nomatch free
  · obtain ⟨owners, quiet⟩ := sound.vacant open_ channel phase
    rw [next] at bound ⊢
    have dated : (world.advance { world.state with
        phase := .initialConnect, generation := world.state.generation + 1 }).Dated :=
      timely.dated.advance rfl bound
    refine ⟨dated.setCall (fun generation owned => ?_) nofun,
      fun _ other generation message failed => ?_, fun _ starter pending => ?_,
      fun other stored => nomatch channel.symm.trans stored⟩
    · rw [← Option.some.inj owned]
      exact Nat.le_of_eq dated.counted
    · simp only [World.setCall, Function.update_apply] at failed
      split at failed
      · exact nomatch failed
      · have free := owners other
        rw [show world.calls other = _ from failed] at free
        exact nomatch free
    · exact absurd pending (quiet.1 starter)

theorem Timely.install {connection : Nat}
    (connected : world.calls id = .connected generation connection) :
    (world.install id generation connection).Timely := by
  rcases world.install_spec id generation connection with ⟨status, next⟩ |
    ⟨open_, current, phase, next⟩
  · rw [next]
    exact timely.setCall (.inl (by rw [connected]; rfl)) nofun nofun
  · have quiet := (sound.initial phase).1
    obtain ⟨behind, known, own⟩ := timely.dated.behindCall id generation connection connected
    have carries : behind.generation = world.state.generation := own.trans current.symm
    rw [next]
    have stored : (world.setState { world.state with
        phase := .idle, channel := some connection }).Timely := by
      refine ⟨{ timely.dated with }, nofun, fun _ starter pending => absurd pending (quiet.1 starter),
        fun other same => ⟨sound.task_eq_none open_ quiet, behind, ?_, carries,
          timely.dated.alive open_ known carries⟩⟩
      exact Option.some.inj same ▸ known
    exact stored.setCall (.inr rfl) nofun nofun

theorem Timely.retreat {starter : Nat} {message : String}
    (failed : world.calls id = .failed generation message) :
    (world.retreat id generation message starter).Timely := by
  by_cases phase : world.state.phase = .initialConnect
  · have open_ := sound.open_of_initial phase
    have quiet := (sound.initial phase).1
    obtain ⟨current, others⟩ := sound.owner phase (by rw [failed]; rfl)
    have alone : ∀ other, ((world.setStarter starter .pending).starters other) = .pending →
        other = starter := by
      intro other pending
      by_contra apart
      exact quiet.1 other ((Function.update_of_ne apart ..).symm.trans pending)
    rw [retreat_initial open_ phase current]
    have dated : (world.setCall id (.returned (.error (.unavailable message)))).Dated :=
      timely.dated.setCall nofun nofun
    refine ⟨{ dated with }, nofun, fun _ other pending => ?_, fun other stored =>
      nomatch (sound.channel_of_initial phase).symm.trans stored⟩
    obtain rfl := alone other pending
    refine ⟨sound.channel_of_initial phase, sound.task_eq_none open_ quiet, alone,
      current ▸ timely.failed phase id generation message failed, fun call => ?_⟩
    rw [setCall_owned]
    split
    case isTrue => exact nofun
    case isFalse apart => exact (others call apart).trans_ne nofun
  · rw [retreat_past phase]
    exact timely.setCall (.inr rfl) nofun nofun

theorem Timely.release (id : Nat) (status : Option Status) : (world.release id status).Timely := by
  have free : (Call.released status).owned = none := by cases status <;> rfl
  have moved : (world.setState world.state.release).Timely := by
    rw [ConnectionState.release]
    split_ifs with phase
    · exact ⟨{ timely.dated with }, nofun,
        fun _ starter pending => absurd pending ((sound.initial phase).1.1 starter), timely.stored⟩
    · exact timely
  refine moved.setCall (.inr free) (fun generation message is => ?_)
    fun generation connection is => ?_
  all_goals
    rw [is] at free
    exact nomatch free

theorem Timely.register (pending : world.starters id = .pending) :
    (world.register id task).Timely := by
  rcases world.register_spec id task with ⟨closed, next⟩ | ⟨open_, kept, next⟩ |
    ⟨open_, absent, next⟩
  · have same : { world.state with phase := .idle } = world.state := by
      rw [← (sound.closed closed).2]
    rw [next, same]
    exact timely.setStarter nofun
  · rw [next]
    exact timely.setStarter nofun
  · have starting := timely.starting open_ id pending
    have others : ∀ other, Function.update world.starters id (.stored task) other ≠ .pending := by
      intro other waits
      rw [Function.update_apply] at waits
      split at waits
      case isTrue => exact nomatch waits
      case isFalse apart => exact apart (starting.single other waits)
    have dated : (world.setTask task .created).Dated := timely.dated.setTask nofun nofun
    rw [next]
    exact ⟨{ dated with }, timely.failed,
      fun _ other waits => absurd waits (others other),
      fun other stored => nomatch starting.channel.symm.trans stored⟩

/-- While a task lives, no other is about to be stored and no channel is. -/
theorem Timely.task_alone (open_ : world.state.closed = false)
    (alive : (world.tasks task).live = true) :
    (∀ id, world.starters id ≠ .pending) ∧ ∀ id, world.state.channel ≠ some id := by
  have kept := (sound.live open_ task).mp alive
  constructor
  · intro id pending
    exact nomatch kept.symm.trans (timely.starting open_ id pending).task
  · intro id stored
    exact nomatch kept.symm.trans (timely.stored id stored).1

theorem Timely.beginAttempt (sleeping : world.tasks task = .sleeping)
    (bound : (world.beginAttempt task).increments < 2 ^ 64) : (world.beginAttempt task).Timely := by
  have alive : (world.tasks task).live = true := by rw [sleeping]; rfl
  unfold World.beginAttempt ConnectionState.beginAttempt at bound ⊢
  split_ifs at bound ⊢ with closed
  · exact timely.setTask (.inr rfl) nofun
  · obtain ⟨starters, channel⟩ := timely.task_alone sound (eq_false_of_ne_true closed) alive
    have dated : (world.advance { world.state with
        generation := world.state.generation + 1 }).Dated := timely.dated.advance rfl bound
    refine ⟨dated.setTask (fun generation attempt => ?_) nofun, timely.failed,
      fun _ other pending => absurd pending (starters other),
      fun other stored => absurd stored (channel other)⟩
    rw [← Option.some.inj attempt]
    exact Nat.le_of_eq dated.counted

theorem Timely.finishAttempt {connection : Nat}
    (connected : world.tasks task = .connected generation connection) :
    (world.finishAttempt task generation connection).Timely := by
  have alive : (world.tasks task).live = true := by rw [connected]; rfl
  rcases world.finishAttempt_spec task generation connection with ⟨closed, next⟩ | next |
    ⟨open_, current, next⟩
  · have moved : (world.setState { world.state with reconnectTask := none }).Timely :=
      { timely with
        dated := { timely.dated with }
        starting := fun open_ => nomatch closed.symm.trans open_
        stored := fun other stored => ⟨rfl, (timely.stored other stored).2⟩ }
    rw [next]
    exact moved.setTask (.inr rfl) nofun
  · rw [next]
    exact timely.setTask (.inr rfl) nofun
  · obtain ⟨behind, known, own⟩ := timely.dated.behindTask task generation connection connected
    have carries : behind.generation = world.state.generation := own.trans current.symm
    have starters := (timely.task_alone sound open_ alive).1
    have moved : (world.setState { world.state with
        channel := some connection, phase := .idle, reconnectTask := none }).Timely := by
      refine ⟨{ timely.dated with }, nofun, fun _ other pending => absurd pending (starters other),
        fun other same => ⟨rfl, behind, ?_, carries, timely.dated.alive open_ known carries⟩⟩
      exact Option.some.inj same ▸ known
    rw [next]
    exact moved.setTask (.inr rfl) nofun

theorem Timely.drop {starter : Nat} (known : world.connections id = some connection)
    (alive : connection.dropped = false)
    (bound : (world.drop id connection starter).increments < 2 ^ 64) :
    (world.drop id connection starter).Timely := by
  have past := timely.dated.connections id connection known
  have same : ∀ before, world.connections id = some before →
      before.generation = connection.generation := by
    intro before found
    rw [Option.some.inj (found.symm.trans known)]
  have gone : world.increments + 1 < 2 ^ 64 → ((world.advance { world.state with
      generation := world.state.generation + 1, phase := .backoff,
      channel := none }).setConnection id { connection with dropped := true }).Dated := by
    intro bound
    have dated : (world.advance { world.state with
        generation := world.state.generation + 1, phase := .backoff, channel := none }).Dated :=
      timely.dated.advance rfl bound
    exact dated.setConnection same (Nat.le_succ_of_le past) fun _ _ => Nat.lt_succ_of_le past
  rcases world.drop_spec id connection starter with ⟨ignored, next⟩ |
    ⟨open_, current, absent, next⟩ | ⟨open_, current, kept, next⟩
  · have stale : world.state.closed = false → connection.generation ≠ world.state.generation := by
      intro open_ current
      obtain closed | apart := ignored
      · exact nomatch closed.symm.trans open_
      · exact apart current.symm
    rw [next]
    refine ⟨timely.dated.setConnection same past fun open_ _ => ?_,
      fun phase other old message failed =>
        (timely.failed phase other old message failed).setConnection fun _ => rfl,
      fun open_ other pending => ?_, fun other stored => ?_⟩
    · refine Nat.lt_of_le_of_ne past fun equal => stale open_ ?_
      exact UInt64.toNat_inj.mp (equal.trans timely.dated.counted.symm)
    · have starting := timely.starting open_ other pending
      exact { starting with none_left := starting.none_left.setConnection fun _ => rfl }
    · obtain ⟨absent, behind, here, carries, unharmed⟩ := timely.stored other stored
      refine ⟨absent, behind, (Function.update_of_ne ?_ ..).trans here, carries, unharmed⟩
      rintro rfl
      have open_ : world.state.closed = false := by
        apply eq_false_of_ne_true
        intro closed
        exact nomatch (sound.closed closed).1.symm.trans stored
      exact stale open_ (Option.some.inj (known.symm.trans here) ▸ carries)
  · -- whoever was about to store a task would have seen this connection dropped
    have alone : ∀ other, Function.update world.starters starter .pending other = .pending →
        other = starter := by
      intro other pending
      by_contra apart
      have before : world.starters other = .pending :=
        (Function.update_of_ne apart ..).symm.trans pending
      have dropped := (timely.starting open_ other before).none_left id connection known
        current.symm
      exact nomatch alive.symm.trans dropped
    rw [next] at bound ⊢
    refine ⟨{ gone bound with }, nofun, fun _ other pending => ?_, nofun⟩
    obtain rfl := alone other pending
    have none_left : world.AllDropped (world.state.generation + 1) :=
      fun third entry found carries =>
        absurd carries (timely.dated.ne_next bound (timely.dated.connections third entry found))
    refine ⟨rfl, absent, alone, none_left.setConnection fun _ => rfl, fun call owned => ?_⟩
    exact timely.dated.ne_next bound (timely.dated.calls call _ owned) rfl
  · rw [next] at bound ⊢
    exact ⟨gone bound, nofun,
      fun _ other pending => absurd (timely.starting open_ other pending).task kept, nofun⟩

end Generations

theorem Step.increments_le (step : Step target before after) :
    before.increments ≤ after.increments := by
  cases step with
  | enter | install | retreat | register | start | beginAttempt | finishAttempt | drop =>
    simp only [World.enter, World.install, World.retreat, World.register, World.start,
      World.beginAttempt, World.finishAttempt, World.drop]
    split <;> first | exact Nat.le_refl _ | exact Nat.le_succ _
  | _ => exact Nat.le_refl _

theorem Step.closed (step : Step target before after) (closed : before.state.closed = true) :
    after.state.closed = true := by
  cases step with
  | enter =>
    cases channel : before.state.channel <;>
      simp [World.enter, ConnectionState.enter, channel, closed]
  | install | retreat | register | beginAttempt | finishAttempt | drop =>
    simp [World.install, ConnectionState.install, World.retreat, ConnectionState.retreat,
      World.register, ConnectionState.register, World.beginAttempt, ConnectionState.beginAttempt,
      World.finishAttempt, ConnectionState.finishAttempt, World.drop, ConnectionState.dropped,
      closed]
  | release =>
    simp only [World.release, ConnectionState.release]
    split <;> exact closed
  | start =>
    rw [World.start]
    split <;> exact closed
  | close => rfl
  | _ => exact closed

/-- Every step keeps to who carries the current generation, until the counter comes round. -/
theorem Timely.step (step : Step target before after) (sound : before.Sound)
    (timely : before.Timely) (bound : after.increments < 2 ^ 64) : after.Timely := by
  cases step with
  | call | wake | leave => exact timely.setCall (.inr rfl) nofun nofun
  | cancel connecting | dial connecting =>
    exact timely.setCall (.inl (by rw [connecting]; rfl)) nofun nofun
  | opened connecting admitted fresh =>
    have grown := timely.opened sound fresh (.inl ⟨_, _, connecting, rfl⟩)
    exact grown.setCall (.inl (congrArg Call.owned connecting).symm) nofun nofun
  | succeed connecting known own =>
    refine timely.setCall (.inl (by rw [connecting]; rfl)) nofun fun generation connection is => ?_
    obtain ⟨rfl, rfl⟩ := Call.connected.inj is
    exact ⟨_, known, own⟩
  | fail connecting none_left =>
    refine timely.setCall (.inl (by rw [connecting]; rfl)) (fun generation message is => ?_) nofun
    obtain ⟨rfl, _⟩ := Call.failed.inj is
    exact none_left
  | enter looking => exact timely.enter sound bound
  | install connected => exact timely.install sound connected
  | retreat failed fresh => exact timely.retreat sound failed
  | release releasing => exact timely.release sound ..
  | register pending fresh => exact timely.register sound pending
  | start stored => exact timely.start ..
  | beginAttempt sleeping => exact timely.beginAttempt sound sleeping bound
  | dialAgain connecting allowed =>
    exact timely.setTask (.inl (by rw [connecting]; rfl)) nofun
  | openedAgain connecting admitted fresh =>
    have grown := timely.opened sound fresh (.inr ⟨_, _, connecting, rfl⟩)
    exact grown.setTask (.inl (congrArg Task.attempting connecting).symm) nofun
  | succeedAgain connecting known own =>
    refine timely.setTask (.inl (by rw [connecting]; rfl)) fun generation connection is => ?_
    obtain ⟨rfl, rfl⟩ := Task.connected.inj is
    exact ⟨_, known, own⟩
  | failAgain | abort => exact timely.setTask (.inr rfl) nofun
  | finishAttempt connected => exact timely.finishAttempt sound connected
  | drop known alive fresh => exact timely.drop sound known alive bound
  | close => exact ⟨{ timely.dated with dropped := nofun }, nofun, nofun, nofun⟩

theorem Timely.empty : ({} : World).Timely :=
  ⟨⟨rfl, nofun, nofun, nofun, nofun, nofun, nofun⟩, nofun, nofun, nofun⟩

variable {world : World}

/-- As long as the counter has not come round, it is known who carries the generation. -/
theorem Reachable.timely (reached : Reachable target world)
    (bound : world.increments < 2 ^ 64) : world.Timely := by
  have both : world.Sound ∧ (world.increments < 2 ^ 64 → world.Timely) :=
    @holds_of_reaches _ _ (fun world => world.Sound ∧ (world.increments < 2 ^ 64 → world.Timely))
      _ _ reached ⟨Sound.empty, fun _ => Timely.empty⟩ fun step kept =>
        ⟨kept.1.step step, fun bound =>
          (kept.2 (Nat.lt_of_le_of_lt step.increments_le bound)).step step kept.1 bound⟩
  exact both.2 bound

theorem Timely.channel (timely : world.Timely) (sound : world.Sound) {id : Nat}
    (stored : world.state.channel = some id) :
    ∃ behind, world.connections id = some behind ∧ behind.dropped = false ∧
      behind.generation = world.state.generation ∧
      (world.state.dropped behind.generation).isSome = true := by
  obtain ⟨_, behind, known, current, alive⟩ := timely.stored id stored
  refine ⟨behind, known, alive, current, ?_⟩
  have open_ : ¬ world.state.closed = true := fun closed =>
    nomatch (sound.closed closed).1.symm.trans stored
  simp [ConnectionState.dropped, open_, current]

theorem Sound.existsUnique_owner (sound : world.Sound)
    (phase : world.state.phase = .initialConnect) :
    ∃! id, (world.calls id).owned.isSome = true := by
  obtain ⟨_, id, owner, others⟩ := sound.initial phase
  refine ⟨id, congrArg Option.isSome owner, fun other owns => ?_⟩
  by_contra apart
  exact nomatch (congrArg Option.isSome (others other apart)).symm.trans owns

theorem Sound.exists_reconnecting (sound : world.Sound) (phase : world.state.phase = .backoff)
    (open_ : world.state.closed = false) :
    (∃ task, (world.tasks task).started = true) ∨ ∃ id, world.starters id ≠ .absent := by
  cases stored : world.state.reconnectTask with
  | none =>
    obtain ⟨id, pending⟩ := sound.backoff phase stored
    exact .inr ⟨id, pending.trans_ne nofun⟩
  | some task =>
    have live := (sound.live open_ task).mpr stored
    cases stage : world.tasks task with
    | created =>
      obtain ⟨starter, holds⟩ := sound.created open_ task stage
      exact .inr ⟨starter, holds.trans_ne nofun⟩
    | sleeping | connecting _ | connected _ _ => exact .inl ⟨task, by rw [stage]; rfl⟩
    | absent | ended =>
      rw [stage] at live
      exact nomatch live

/-- In every state that a run reaches: a backend that was closed is closed and has no channel; at
most one started reconnect task lives; a stored channel means that the backend is idle, and, as long
as the generation has been advanced less than `2 ^ 64` times, the connection behind it carries the
current generation and its drop is recognised; the initial connection has one owner; and an open
backend in backoff has a reconnect task or is about to have one. -/
theorem backend_connection_safe {target : String} {world later : World}
    (reached : Reachable target world)
    (follows : Relation.ReflTransGen (Step target) world later) :
    (world.state.closed = true → later.state.closed = true ∧ later.state.channel = none) ∧
      (∀ first second, (later.tasks first).started = true →
        (later.tasks second).started = true → first = second) ∧
      (∀ id, later.state.channel = some id → later.state.phase = .idle ∧
        (later.increments < 2 ^ 64 →
          ∃ behind, later.connections id = some behind ∧ behind.dropped = false ∧
            behind.generation = later.state.generation ∧
            (later.state.dropped behind.generation).isSome = true)) ∧
      (later.state.phase = .initialConnect → ∃! id, (later.calls id).owned.isSome = true) ∧
      (later.state.phase = .backoff → later.state.closed = false →
        (∃ task, (later.tasks task).started = true) ∨ ∃ id, later.starters id ≠ .absent) := by
  have arrived : Reachable target later := reached.trans follows
  have sound : later.Sound := arrived.sound
  refine ⟨fun closed => ?_, fun first second one two => ?_, fun id stored => ?_,
    sound.existsUnique_owner, sound.exists_reconnecting⟩
  · have stays : later.state.closed = true :=
      @holds_of_reaches _ _ (fun world => world.state.closed = true) _ _ follows closed Step.closed
    exact ⟨stays, (sound.closed stays).1⟩
  · exact sound.single first second (live_of_started one) (live_of_started two)
  · exact ⟨sound.channel id stored, fun bound => (arrived.timely bound).channel sound stored⟩

/-- A call stored its channel. -/
theorem backend_connection_safe_sample :
    ∃ world, Reachable "backend" world ∧ world.increments < 2 ^ 64 ∧
      world.state.channel = some 0 ∧ world.state.phase = .idle ∧
      ∃ behind, world.connections 0 = some behind ∧ behind.dropped = false ∧
        behind.generation = world.state.generation ∧
        (world.state.dropped behind.generation).isSome = true := by
  have run : Reachable "backend" _ := (((((@Relation.ReflTransGen.refl _ (Step "backend") {}).tail
    (@Step.call _ _ 0 (.inl rfl))).tail (@Step.enter _ _ 0 rfl)).tail
    (@Step.dial _ _ 0 _ rfl rfl)).tail (@Step.opened _ _ 0 0 _ rfl rfl rfl)).tail
    (@Step.succeed _ _ 0 0 _ _ rfl rfl rfl) |>.tail (@Step.install _ _ 0 0 _ rfl)
  have stored := (backend_connection_safe run .refl).2.2.1 0 rfl
  exact ⟨_, run, by decide, rfl, stored.1, stored.2 (by decide)⟩

namespace Sample

/-- A backend after some calls that were cancelled, the first of them with a connection open. -/
def lingering (count : Nat) : World :=
  { state := { generation := UInt64.ofNat count }
    connections := Function.update (fun _ => none) 0 (some ⟨1, false⟩)
    increments := count }

/-- One more call that is cancelled leaves nothing but the advanced generation. -/
theorem lingering_succ (target : String) (count : Nat) :
    Relation.ReflTransGen (Step target) (lingering count) (lingering (count + 1)) := by
  have run := ((((@Relation.ReflTransGen.refl _ (Step target) (lingering count)).tail
    (@Step.call target _ 0 (.inl rfl))).tail (@Step.enter target _ 0 rfl)).tail
    (@Step.cancel target _ 0 _ rfl)).tail (@Step.release target _ 0 _ none rfl)
  convert run using 1
  simp [lingering, World.release, ConnectionState.release, World.enter, ConnectionState.enter,
    World.setCall, World.setState, World.advance, Call.released, UInt64.ofNat_add]

theorem lingering_reachable (target : String) (count : Nat) :
    Reachable target (lingering (count + 1)) := by
  induction count with
  | zero =>
    have run := ((((((@Relation.ReflTransGen.refl _ (Step target) {}).tail
      (@Step.call target _ 0 (.inl rfl))).tail (@Step.enter target _ 0 rfl)).tail
      (@Step.dial target _ 0 _ rfl rfl)).tail (@Step.opened target _ 0 0 _ rfl rfl rfl)).tail
      (@Step.cancel target _ 0 _ rfl)).tail (@Step.release target _ 0 _ none rfl)
    rw [Reachable]
    convert run using 1
    simp [lingering, World.release, ConnectionState.release, World.enter, ConnectionState.enter,
      World.setCall, World.setState, World.advance, World.setConnection, Call.released]
  | succ count reached => exact reached.trans (lingering_succ target (count + 1))

end Sample

/-- When the counter has come round, the connection of a call cancelled long ago carries the
generation that the drop of a later connection has just left behind. Both destructors then start
to reconnect, and the second task advances the generation past the channel that the first has
stored. -/
theorem stored_channel_outdated :
    ∃ world, Reachable "backend" world ∧ ∃ id behind, world.state.channel = some id ∧
      world.connections id = some behind ∧ behind.generation ≠ world.state.generation := by
  have old : Reachable "backend" (Sample.lingering 18446744073709551615) :=
    Sample.lingering_reachable "backend" 18446744073709551614
  have dropped := (((((old.tail (@Step.call _ _ 0 (.inl rfl))).tail (@Step.enter _ _ 0 rfl)).tail
    (@Step.dial _ _ 0 _ rfl (by decide +kernel))).tail (@Step.opened _ _ 0 1 _ rfl rfl rfl)).tail
    (@Step.drop _ _ 1 0 _ rfl rfl rfl)).tail (@Step.drop _ _ 0 1 _ rfl rfl rfl)
  have first := ((((((dropped.tail (@Step.register _ _ 0 0 rfl rfl)).tail
    (@Step.start _ _ 0 0 rfl)).tail (@Step.beginAttempt _ _ 0 rfl)).tail
    (@Step.dialAgain _ _ 0 _ rfl (by decide +kernel))).tail
    (@Step.openedAgain _ _ 0 2 _ rfl rfl rfl)).tail
    (@Step.succeedAgain _ _ 0 2 _ _ rfl rfl rfl)).tail (@Step.finishAttempt _ _ 0 2 _ rfl)
  have second := ((first.tail (@Step.register _ _ 1 1 rfl rfl)).tail
    (@Step.start _ _ 1 1 rfl)).tail (@Step.beginAttempt _ _ 1 rfl)
  exact ⟨_, second, 2, ⟨3, false⟩, rfl, rfl, by decide +kernel⟩

end World

end Ployz.Proxy
