import Ployz.Verif.Lifecycle

/-!
# Dropped streams

When a client drops a stream, the next `sync_streams` makes the driver wait for the connection to
close, up to a deadline, or aborts it; `cleanup_streams` removes the stream two rounds after an
abort at the latest. One case is left out: a stream that is connected and has bytes that its socket
does not take stays attached, for as long as the peer keeps its window closed.
-/

namespace Ployz.Tunnel

open List

variable {σ : Type} {stack : Stack σ}

namespace Driver

variable {config : Config} {self after : Driver σ} {event : Event} {id : UInt64} {entry : Entry σ}

section Steps

section Kept

variable (step : Step config stack self event after)

include step

/-- A step moves a stream as its lifecycle allows. -/
theorem Step.moves (present : self.table.streams[id]? = some entry)
    (old : self.opens < after.opens → self.table.nextStreamId ≠ id) :
    Stream.Moves stack id event entry.stream (after.table.streams[id]?.map Entry.stream) := by
  cases step with
  | @client other entry' signal found held section' =>
    dsimp only
    rw [Table.getElem?_alter]
    split_ifs with same
    · subst same
      rw [present] at found ⊢
      cases found
      exact .client held section'
    · rw [present]
      exact .idle nofun nofun
  | openStream phase remote connect =>
    dsimp only
    have ⟨later, opens⟩ := self.table.openStream_cases config remote connect
    rcases opens with passed | ⟨port, state, added⟩
    · rw [passed, present]
      exact .idle nofun nofun
    · rw [added, Table.add]
      dsimp only
      rw [OrdMap.getElem?_insert_eq, if_neg (old (Nat.lt_succ_self _)), present]
      exact .idle nofun nofun
  | shutdown phase other how =>
    dsimp only
    unfold Table.shutdownStream
    split
    · rw [present]
      exact .idle nofun nofun
    · rename_i entry' found
      split
      · rw [present]
        exact .idle nofun nofun
      · rename_i signal done
        dsimp only
        rw [Table.getElem?_alter]
        split_ifs with same
        · subst same
          rw [present] at found ⊢
          cases found
          exact .shutdown done
        · rw [present]
          exact .idle nofun nofun
  | stop | proceed | flush | receive | synced | send | timers | reflush =>
    simp only [table_carry, table_tick, present]
    exact .idle nofun nofun
  | @sync again other ids phase now later =>
    dsimp only
    rw [Table.getElem?_alter]
    split_ifs with same
    · subst same
      rw [present]
      exact .sync entry.stream now
    · rw [present]
      exact .idle nofun fun time eq => same (by cases eq; rfl)
  | @poll phase calls next polled =>
    dsimp only
    rw [Table.getElem?_polled, present]
    exact .poll entry.stream (next id)
  | @cleanup phase now later =>
    dsimp only
    rw [Table.getElem?_cleanupStreams, present]
    have done := @Stream.Moves.cleanup σ stack id entry.stream now
    rw [Option.bind_some]
    split_ifs with removed
    · rw [if_pos removed] at done
      exact done
    · rw [if_neg removed] at done
      exact done

theorem Step.arrives (absent : self.table.streams[id]? = none) :
    after.table.streams[id]? = none ∨
      self.opens < after.opens ∧ self.table.nextStreamId = id ∧ ∃ port state,
        after.table.streams[id]? =
          some ⟨port, { signal := {}, record := { socket := { state := state } } }⟩ := by
  have altered : ∀ other change, (self.table.alter other change).streams[id]? = none := by
    intro other change
    rw [Table.getElem?_alter, absent]
    split_ifs <;> rfl
  cases step with
  | client | sync => exact .inl (altered _ _)
  | openStream phase remote connect =>
    have ⟨later, opens⟩ := self.table.openStream_cases config remote connect
    dsimp only
    rcases opens with passed | ⟨port, state, added⟩
    · rw [passed]
      exact .inl absent
    · rw [added, Table.add]
      dsimp only
      rw [OrdMap.getElem?_insert_eq]
      split_ifs with new
      · exact .inr ⟨Nat.lt_succ_self _, new, port, state, rfl⟩
      · exact .inl absent
  | shutdown phase other how =>
    left
    dsimp only
    unfold Table.shutdownStream
    split
    · exact absent
    · split
      · exact absent
      · exact altered _ _
  | poll phase calls polled =>
    left
    dsimp only
    rw [Table.getElem?_polled, absent]
    rfl
  | cleanup phase later =>
    left
    dsimp only
    rw [Table.getElem?_cleanupStreams, absent]
    rfl
  | _ =>
    simp only [table_carry, table_tick]
    exact .inl absent

theorem Step.nextStreamId_le (sound : self.Sound) (lasts : after.opens + 1 < 2 ^ 64) :
    self.table.nextStreamId ≤ after.table.nextStreamId := by
  cases step with
  | client | sync =>
    rw [(self.table.samePorts_alter _ _).nextStreamId]
    exact UInt64.le_refl _
  | openStream phase remote connect =>
    have ⟨later, opens⟩ := self.table.openStream_cases config remote connect
    dsimp only at lasts ⊢
    rcases opens with passed | ⟨port, state, added⟩
    · rw [passed]
      exact UInt64.le_refl _
    · have next := (sound.table.fresh (by omega)).1
      have grown := @Table.nextStreamId_add σ { self.table with nextPort := later }
        (by dsimp only; omega) port state
      rw [added, UInt64.le_iff_toNat_le, grown]
      exact Nat.le_succ _
  | shutdown phase other how =>
    rw [(self.table.samePorts_shutdownStream other how).nextStreamId]
    exact UInt64.le_refl _
  | cleanup phase later =>
    dsimp only
    rw [Table.cleanupStreams, Table.nextStreamId_foldl_remove]
    exact UInt64.le_refl _
  | _ =>
    simp only [table_carry, table_tick]
    exact UInt64.le_refl _

theorem Step.clock_le : self.clock ≤ after.clock := by
  cases step with
  | flush | receive | send | reflush => rw [clock_carry]
  | sync phase later | cleanup phase later => exact later
  | timers phase outside later last =>
    unfold tick
    split_ifs
    · exact later.trans last
    · exact later
  | _ => exact le_rfl

end Kept

theorem Step.clock_sync {now : Nat} (step : Step config stack self (.sync id now) after) :
    now = after.clock := by
  cases step
  rfl

end Steps

variable {visits : List (Driver σ × Event)} {before : Driver σ}

section Levels

/-- The limits are kept and the streams have their deadlines. -/
structure Steady (driver : Driver σ) : Prop where
  sound : driver.Sound
  timely : ∀ {id : UInt64} {entry : Entry σ}, driver.table.streams[id]? = some entry →
    entry.stream.Timely driver.clock

theorem Sound.id_lt (sound : self.Sound) (few : self.opens + 1 < 2 ^ 64)
    (present : self.table.streams[id]? = some entry) : id < self.table.nextStreamId := by
  apply (sound.table.fresh few).2
  rw [Table.port?, present]
  rfl

theorem Sound.nextStreamId_ne (sound : self.Sound) (few : self.opens + 1 < 2 ^ 64)
    (present : self.table.streams[id]? = some entry) : self.table.nextStreamId ≠ id := by
  intro same
  have old := sound.id_lt few present
  rw [same] at old
  exact UInt64.lt_irrefl _ old

theorem Sound.old (sound : self.Sound) (few : after.opens < 2 ^ 64)
    (present : self.table.streams[id]? = some entry) :
    self.opens < after.opens → self.table.nextStreamId ≠ id :=
  fun opened => sound.nextStreamId_ne (by omega) present

theorem Steady.step (steady : self.Steady) (step : Step config stack self event after)
    (few : after.opens < 2 ^ 64) : after.Steady := by
  refine ⟨step.sound few steady.sound, fun {id entry} found => ?_⟩
  cases before : self.table.streams[id]? with
  | none =>
    rcases step.arrives before with absent | ⟨_, _, port, state, new⟩
    · exact nomatch absent.symm.trans found
    · cases new.symm.trans found
      exact ⟨nofun, nofun, nofun⟩
  | some was =>
    have moves := step.moves before (steady.sound.old few before)
    rw [found] at moves
    apply (steady.timely before).moves moves step.clock_le
    intro now same
    subst same
    exact step.clock_sync

/-- A stream was removed, and its number is not given again. -/
def Gone (id : UInt64) (driver : Driver σ) : Prop :=
  driver.table.streams[id]? = none ∧
    (driver.opens + 1 < 2 ^ 64 → id < driver.table.nextStreamId)

/-- A removed stream stays removed. -/
theorem Gone.step (gone : self.Gone id) (sound : self.Sound)
    (step : Step config stack self event after) (few : after.opens < 2 ^ 64) :
    after.Gone id := by
  have more := step.opens_le
  refine ⟨?_, fun lasts => ?_⟩
  · rcases step.arrives gone.1 with absent | ⟨opened, same, _⟩
    · exact absent
    · have old := gone.2 (by omega)
      rw [same] at old
      exact absurd old (UInt64.lt_irrefl _)
  · have old := gone.2 (by omega)
    have next := step.nextStreamId_le sound lasts
    exact UInt64.lt_of_lt_of_le old next

theorem Gone.of_removed (sound : self.Sound) (step : Step config stack self event after)
    (present : self.table.streams[id]? = some entry)
    (removed : after.table.streams[id]? = none) : after.Gone id := by
  have more := step.opens_le
  refine ⟨removed, fun lasts => ?_⟩
  exact UInt64.lt_of_lt_of_le (sound.id_lt (by omega) present) (step.nextStreamId_le sound lasts)

/-- The stream is synced before the next round of `cleanup_streams`, if there is one. -/
def Due (id : UInt64) : Phase → Prop
  | .commands _ | .flush | .receive | .sync false _ | .poll | .ended _ => True
  | .sync true ids => id ∈ ids
  | .send | .timers | .reflush | .cleanup => False

theorem Step.due (step : Step config stack self event after) (due : Due id self.phase)
    (present : self.table.streams[id]? = some entry) :
    Due id after.phase ∨ ∃ now, event = .sync id now := by
  have listed : id ∈ self.table.streams.keys := by
    rw [Std.ExtTreeMap.mem_keys, Std.ExtTreeMap.mem_iff_isSome_getElem?, present]
    rfl
  have carried : ∀ outside call next, Due id next →
      Due id (self.carry outside call next).phase := by
    intro outside call next later
    have ⟨link, phase, eq, reached⟩ := self.carry_eq outside call next
    rw [eq]
    rcases reached with same | ⟨error, ended⟩
    · rw [same]
      exact later
    · rw [ended]
      trivial
  cases step with
  | client found held section' => exact .inl due
  | openStream | shutdown | stop | proceed => exact .inl trivial
  | flush | receive => exact .inl (carried _ _ _ trivial)
  | @sync again other ids phase now later =>
    rw [phase] at due
    cases again with
    | false => exact .inl trivial
    | true =>
      rcases mem_cons.mp due with same | still
      · rw [same]
        exact .inr ⟨now, rfl⟩
      · exact .inl still
  | @synced again phase =>
    rw [phase] at due
    cases again with
    | false => exact .inl trivial
    | true => exact absurd due not_mem_nil
  | poll phase calls polled => exact .inl listed
  | send phase | timers phase | reflush phase | cleanup phase =>
    rw [phase] at due
    exact due.elim

/-- Whether an event is a round of `cleanup_streams` at a time or later. -/
def cleansFrom (time : Nat) : Event → Bool
  | .cleanup now => time ≤ now
  | _ => false

/-- The socket of the stream takes the bytes of the client whenever the stream is synced. -/
def Flows (stack : Stack σ) (id : UInt64) (visit : Driver σ × Event) : Prop :=
  ∀ now, visit.2 = .sync id now → ∀ entry : Entry σ, visit.1.table.streams[id]? = some entry →
    entry.stream.stuck stack = false

/-- How many rounds may pass until a dropped stream has its deadline. -/
def Waits (id : UInt64) (rounds : Nat) (driver : Driver σ) : Prop :=
  driver.opens < 2 ^ 64 → driver.Steady ∧ (driver.Gone id ∨
    ∃ entry : Entry σ, driver.table.streams[id]? = some entry ∧
      entry.stream.signal.dropped = true ∧
      (entry.stream.record.lifecycle = .attached → 0 < rounds ∧ (rounds = 1 → Due id driver.phase)))

theorem Step.cleanup_phase {now : Nat} (step : Step config stack self (.cleanup now) after) :
    self.phase = .cleanup ∧ after.phase = .commands maxCommands := by
  cases step with
  | cleanup phase later => exact ⟨phase, rfl⟩

/-- A round brings a dropped stream closer to its deadline. -/
theorem Waits.step {rounds : Nat} (step : Step config stack self event after)
    (flows : Flows stack id (self, event)) (waits : Waits id rounds self) :
    Waits id (rounds - if cleansFrom 0 event then 1 else 0) after := by
  intro few
  have ⟨steady, state⟩ := waits (step.opens_le.trans_lt few)
  refine ⟨steady.step step few, ?_⟩
  rcases state with gone | ⟨entry, present, dropped, waiting⟩
  · exact .inl (gone.step steady.sound step few)
  have moves := step.moves present (steady.sound.old few present)
  cases found : after.table.streams[id]? with
  | none => exact .inl (.of_removed steady.sound step present found)
  | some next =>
    rw [found] at moves
    refine .inr ⟨next, rfl, moves.dropped dropped, fun attached => ?_⟩
    have before := moves.attached attached
    have ⟨positive, soon⟩ := waiting before
    by_cases cleans : ∃ now, event = .cleanup now
    · -- a round has passed: if no sync was due before it, one is due before the next
      obtain ⟨now, same⟩ := cleans
      subst same
      have ⟨here, start⟩ := step.cleanup_phase
      have more : rounds ≠ 1 := by
        intro last
        have due := soon last
        rw [here] at due
        exact due
      have counted : (if cleansFrom 0 (.cleanup now) then 1 else 0) = 1 :=
        if_pos (decide_eq_true (Nat.zero_le now))
      rw [counted, start]
      exact ⟨by omega, fun _ => trivial⟩
    · have counted : (if cleansFrom 0 event then 1 else 0) = 0 := by
        cases event with
        | cleanup now => exact absurd ⟨now, rfl⟩ cleans
        | _ => rfl
      rw [counted, Nat.sub_zero]
      refine ⟨positive, fun last => (step.due (soon last) present).resolve_right ?_⟩
      intro ⟨now, same⟩
      subst same
      have leaves : entry.stream.leaving = true := by
        unfold Stream.leaving
        rw [dropped, before]
        rfl
      have shut := (steady.timely present).shut dropped
      exact moves.armed leaves shut (flows now rfl entry present) attached

/-- How many rounds are left to a lifecycle once the clock shows a time. -/
def Ends (time rounds : Nat) : StreamLifecycle → Prop
  | .attached => False
  | .closing deadline => deadline ≤ time ∧ 3 ≤ rounds
  | .aborting polls => polls < rounds

/-- How many rounds may pass from some time on until a stream is removed. -/
def Leaves (id : UInt64) (time rounds : Nat) (driver : Driver σ) : Prop :=
  driver.opens < 2 ^ 64 → driver.Steady ∧ (driver.Gone id ∨
    ∃ entry : Entry σ, driver.table.streams[id]? = some entry ∧
      Ends time rounds entry.stream.record.lifecycle)

/-- A round brings a leaving stream closer to its end. -/
theorem Leaves.step {time rounds : Nat} (step : Step config stack self event after)
    (leaves : Leaves id time rounds self) :
    Leaves id time (rounds - if cleansFrom time event then 1 else 0) after := by
  intro few
  have ⟨steady, state⟩ := leaves (step.opens_le.trans_lt few)
  refine ⟨steady.step step few, ?_⟩
  rcases state with gone | ⟨entry, present, ends⟩
  · exact .inl (gone.step steady.sound step few)
  have moves := step.moves present (steady.sound.old few present)
  cases found : after.table.streams[id]? with
  | none => exact .inl (.of_removed steady.sound step present found)
  | some next =>
    rw [found] at moves
    refine .inr ⟨next, rfl, ?_⟩
    have armed : entry.stream.record.lifecycle ≠ .attached := by
      intro attached
      rw [attached] at ends
      exact ends
    by_cases cleans : ∃ now, event = .cleanup now
    · obtain ⟨now, same⟩ := cleans
      subst same
      have counted : (if cleansFrom time (.cleanup now) then 1 else 0) =
          if time ≤ now then 1 else 0 := by simp only [cleansFrom, decide_eq_true_eq]
      rw [counted]
      rcases moves.cleaned with ⟨_, was⟩ | ⟨deadline, was, rest⟩ | ⟨polls, was, reached⟩
      · exact absurd was armed
      · rw [was] at ends
        have ⟨early, three⟩ := ends
        rcases rest with ⟨later, same⟩ | aborts
        · rw [same, was, if_neg (by omega)]
          exact ends
        · rw [aborts]
          show 1 < rounds - _
          split_ifs <;> omega
      · rw [was] at ends
        rw [reached]
        show polls < rounds - _
        have left : polls + 1 < rounds := ends
        split_ifs <;> omega
    · have counted : (if cleansFrom time event then 1 else 0) = 0 := by
        cases event with
        | cleanup now => exact absurd ⟨now, rfl⟩ cleans
        | _ => rfl
      rw [counted, Nat.sub_zero,
        moves.lifecycle_of_armed armed fun now same => cleans ⟨now, same⟩]
      exact ends

theorem steady_new : Steady ({} : Driver σ) :=
  ⟨sound_new, fun found => nomatch found⟩

theorem Runs.steady (runs : Runs config stack {} visits self) (few : self.opens < 2 ^ 64) :
    self.Steady := by
  have kept : self.opens < 2 ^ 64 → self.Steady := by
    apply @Trace.holds _ _ _ (fun driver => driver.opens < 2 ^ 64 → driver.Steady) _ _ _ runs
    · exact fun _ => steady_new
    · intro before event after step steady few
      exact (steady (step.opens_le.trans_lt few)).step step few
  exact kept few

theorem Runs.opens_le (runs : Runs config stack before visits self) : before.opens ≤ self.opens :=
  @Trace.holds _ _ _ (fun driver => before.opens ≤ driver.opens) _ _ _ runs le_rfl
    fun step more => more.trans step.opens_le

end Levels

/-- A dropped stream whose bytes its socket takes is removed: its deadline is set within two rounds
of the loop, and it is gone after three rounds that begin when the deadline has passed. The ports
in use are then those of the streams that are left. -/
theorem dropped_stream_reclaimed {visits early late : List (Driver σ × Event)}
    {before middle : Driver σ} (runs : Runs config stack {} visits before)
    (present : before.table.streams[id]? = some entry)
    (dropped : entry.stream.signal.dropped = true)
    (first : Runs config stack before early middle) (second : Runs config stack middle late after)
    (few : after.opens < 2 ^ 64) (flows : ∀ visit ∈ early, Flows stack id visit)
    (two : 2 ≤ early.countP fun visit => cleansFrom 0 visit.2)
    (three : 3 ≤ late.countP fun visit => cleansFrom (middle.clock + closeTimeout) visit.2) :
    after.table.streams[id]? = none ∧ ∀ port, port ∈ after.table.usedPorts ↔
      ∃ (other : UInt64) (left : Entry σ),
        after.table.streams[other]? = some left ∧ left.localPort = port := by
  have fewer : middle.opens < 2 ^ 64 := second.opens_le.trans_lt few
  have start : Waits id 2 before := by
    intro fewest
    refine ⟨runs.steady fewest, .inr ⟨entry, present, dropped, fun _ => ⟨by decide, nofun⟩⟩⟩
  have waited := first.descends (fun step flows waits => waits.step step flows) flows start
  rw [Nat.sub_eq_zero_of_le two] at waited
  have ⟨steady, state⟩ := waited fewer
  have leaving : Leaves id (middle.clock + closeTimeout) 3 middle := by
    intro _
    refine ⟨steady, state.imp_right ?_⟩
    intro ⟨entry, present, _, attached⟩
    refine ⟨entry, present, ?_⟩
    have timely := steady.timely present
    cases life : entry.stream.record.lifecycle with
    | attached => exact absurd (attached life).1 (Nat.lt_irrefl 0)
    | closing deadline => exact ⟨timely.closing life, le_rfl⟩
    | aborting polls => exact Nat.lt_of_le_of_lt (timely.aborting life) (by decide)
  have free : ∀ visit ∈ late, (fun _ : Driver σ × Event => True) visit := fun _ _ => trivial
  have left := second.descends (fun step _ leaves => leaves.step step) free leaving
  rw [Nat.sub_eq_zero_of_le three] at left
  have ⟨steady', ended⟩ := left few
  have gone : after.table.streams[id]? = none := by
    rcases ended with gone | ⟨entry, _, ends⟩
    · exact gone.1
    · cases life : entry.stream.record.lifecycle with
      | attached =>
        rw [life] at ends
        exact ends.elim
      | closing deadline =>
        rw [life] at ends
        exact absurd ends.2 (by decide)
      | aborting polls =>
        rw [life] at ends
        exact absurd ends (Nat.not_lt_zero _)
  refine ⟨gone, fun port => ?_⟩
  rw [steady'.sound.table.used]
  simp only [Table.port?, Option.map_eq_some_iff]

namespace Sample

/-- A table with one stream. -/
def single (stream : Stream Tcp) : Table Tcp where
  streams := (∅ : OrdMap UInt64 (Entry Tcp)).insert 1 ⟨49152, stream⟩
  usedPorts := {49152}
  nextStreamId := 2
  nextPort := 49153

/-- A driver with one stream on an idle link. -/
def serving (stream : Stream Tcp) (lastTimer : Nat) (phase : Phase) (clock : Nat) : Driver Tcp :=
  ⟨single stream, {}, lastTimer, phase, clock, 1⟩

/-- The stream with its socket in a state. -/
def inState (stream : Stream Tcp) (state : Tcp) : Stream Tcp :=
  { stream with
    record := { stream.record with socket := { stream.record.socket with state := state } } }

variable (stream : Stream Tcp)

theorem getElem?_single (id : UInt64) :
    (single stream).streams[id]? = if 1 = id then some ⟨49152, stream⟩ else none := by
  unfold single
  dsimp only
  rw [OrdMap.getElem?_insert_eq]
  rfl

theorem single_ext {table : Table Tcp}
    (streams : ∀ id : UInt64, table.streams[id]? = if 1 = id then some ⟨49152, stream⟩ else none)
    (used : table.usedPorts = {49152}) (next : table.nextStreamId = 2)
    (port : table.nextPort = 49153) : table = single stream := by
  obtain ⟨map, ports, number, last⟩ := table
  cases used
  cases next
  cases port
  have same : map = (single stream).streams := by
    apply Std.ExtTreeMap.ext_getElem?
    intro id
    rw [getElem?_single]
    exact streams id
  rw [same]
  rfl

theorem alter_single (change : Stream Tcp → Stream Tcp) :
    (single stream).alter 1 change = single (change stream) := by
  have same := (single stream).samePorts_alter 1 change
  apply single_ext _ _ same.used same.nextStreamId same.nextPort
  intro id
  rw [Table.getElem?_alter, getElem?_single]
  split_ifs <;> rfl

theorem polled_single (next : UInt64 → Tcp) :
    (single stream).polled next = single (inState stream (next 1)) := by
  apply single_ext _ _ rfl rfl rfl
  intro id
  rw [Table.getElem?_polled, getElem?_single]
  split_ifs with first
  · rw [first]
    rfl
  · rfl

theorem cleanupStreams_single {now : Nat} {after : Stream Tcp}
    (cleaned : stream.cleanup zeroWindow now = (false, after)) :
    (single stream).cleanupStreams zeroWindow now = single after := by
  have none : (single stream).finished zeroWindow now = [] := by
    apply eq_nil_iff_forall_not_mem.mpr
    intro ⟨id, entry⟩ member
    have ⟨found, done⟩ := (Table.mem_finished zeroWindow now).mp member
    rw [getElem?_single] at found
    split_ifs at found
    cases found
    rw [cleaned] at done
    exact absurd done Bool.false_ne_true
  apply single_ext
  · intro id
    rw [Table.getElem?_cleanupStreams, getElem?_single]
    split_ifs
    · show (if (stream.cleanup zeroWindow now).1 then _ else _) = _
      rw [cleaned]
      rfl
    · rfl
  all_goals
    unfold Table.cleanupStreams
    rw [none]
    rfl

variable {stream}

theorem flows_serving (calm : stream.stuck zeroWindow = false) (timer : Nat) (phase : Phase)
    (clock : Nat) (event : Event) :
    Flows zeroWindow 1 (serving stream timer phase clock, event) := by
  intro now _ entry found
  rw [serving, getElem?_single] at found
  cases found
  exact calm

section Round

variable {left lastTimer clock now : Nat} (order : clock ≤ now)
  {middle last after : Stream Tcp} {state : Tcp} (first : stream.sync zeroWindow now = middle)
  (polled : zeroWindow.polls middle.record.socket.state state)
  (second : (inState middle state).sync zeroWindow now = last)

include order first polled second

/-- An idle link goes through a round up to `cleanup_streams`. -/
theorem runs_toCleanup : ∃ visits timer,
    Runs tunnel zeroWindow (serving stream lastTimer (.commands left) clock) visits
      (serving last timer .cleanup now) ∧
    (stream.stuck zeroWindow = false → (inState middle state).stuck zeroWindow = false →
      ∀ visit ∈ visits, Flows zeroWindow 1 visit) := by
  have sync : ∀ {before next : Stream Tcp} {again : Bool} {time : Nat}, time ≤ now →
      before.sync zeroWindow now = next →
      Step tunnel zeroWindow (serving before lastTimer (.sync again [1]) time) (.sync 1 now)
        (serving next lastTimer (.sync again []) now) := by
    intro before next again time order synced
    have step := @Step.sync Tcp tunnel zeroWindow (serving before lastTimer (.sync again [1]) time)
      again 1 [] rfl now order
    rw [serving, alter_single, synced] at step
    exact step
  have poll : Step tunnel zeroWindow (serving middle lastTimer .poll now) .work
      (serving (inState middle state) lastTimer (.sync true [1]) now) := by
    have polls : ∀ {id : UInt64} {entry : Entry Tcp},
        (serving middle lastTimer .poll now).table.streams[id]? = some entry →
          zeroWindow.polls entry.stream.record.socket.state state := by
      intro id entry found
      rw [serving, getElem?_single] at found
      split_ifs at found
      cases found
      exact polled
    have step := @Step.poll Tcp tunnel zeroWindow (serving middle lastTimer .poll now) rfl []
      (fun _ => state) polls
    rw [serving, polled_single] at step
    exact step
  have ⟨timer, timers⟩ : ∃ timer, Step tunnel zeroWindow (serving last lastTimer .timers now) .work
      (serving last timer .reflush now) := by
    have step := @Step.timers Tcp tunnel zeroWindow (serving last lastTimer .timers now) rfl {}
      now now le_rfl le_rfl
    unfold tick at step
    split_ifs at step
    · exact ⟨now, step⟩
    · exact ⟨lastTimer, step⟩
  refine ⟨_, timer, .cons (.proceed rfl) (.cons (.flush rfl {}) (.cons (.receive rfl {})
    (.cons (sync order first) (.cons (.synced rfl) (.cons poll (.cons (sync le_rfl second)
      (.cons (.synced rfl) (.cons (.send rfl {}) (.cons timers (.cons (.reflush rfl {})
        (.nil _))))))))))), fun calm calm' visit member => ?_⟩
  simp only [mem_cons, not_mem_nil, or_false] at member
  rcases member with rfl | rfl | rfl | rfl | rfl | rfl | rfl | rfl | rfl | rfl | rfl
  case inr.inr.inr.inl => exact flows_serving calm _ _ _ _
  case inr.inr.inr.inr.inr.inr.inl => exact flows_serving calm' _ _ _ _
  all_goals exact fun _ same => nomatch same

theorem runs_single (cleaned : last.cleanup zeroWindow now = (false, after)) : ∃ visits timer,
    Runs tunnel zeroWindow (serving stream lastTimer (.commands left) clock) visits
      (serving after timer (.commands maxCommands) now) ∧
    (∀ time ≤ now, 1 ≤ visits.countP fun visit => cleansFrom time visit.2) ∧
    (stream.stuck zeroWindow = false → (inState middle state).stuck zeroWindow = false →
      ∀ visit ∈ visits, Flows zeroWindow 1 visit) := by
  have ⟨visits, timer, runs, flows⟩ := @runs_toCleanup stream left lastTimer clock now order
    middle last state first polled second
  have cleanup := @Step.cleanup Tcp tunnel zeroWindow (serving last timer .cleanup now) rfl now
    le_rfl
  rw [serving, cleanupStreams_single last cleaned] at cleanup
  refine ⟨_, timer, Trace.append runs (.cons cleanup (.nil _)), fun time early => ?_,
    fun calm calm' visit member => ?_⟩
  · rw [countP_append, countP_cons]
    have counted : cleansFrom time (.cleanup now) = true := decide_eq_true early
    rw [if_pos counted]
    omega
  · rcases mem_append.mp member with worked | cleans
    · exact flows calm calm' visit worked
    · rw [mem_singleton.mp cleans]
      exact fun _ same => nomatch same

end Round

theorem runs_client {left timer : Nat} {signal : SignalState}
    (taken : Section stream.signal signal) (held : stream.signal.dropped = false) :
    ∃ visits, Runs tunnel zeroWindow (serving stream timer (.commands left) 0) visits
      (serving { stream with signal := signal } timer (.commands left) 0) := by
  have step := @Step.client Tcp tunnel zeroWindow (serving stream timer (.commands left) 0) 1
    ⟨49152, stream⟩ signal (getElem?_single stream 1) held taken
  rw [serving, alter_single] at step
  exact ⟨_, .cons step (.nil _)⟩

/-- A stream as `open` leaves it. -/
def fresh : Stream Tcp := (added 49152).stream

/-- A connected stream whose socket was given some bytes. -/
def filled (generation : UInt64) (bytes outgoing : List UInt8) : Stream Tcp where
  signal := { generation, outgoing, connected := true }
  record := { socket := { state := .established bytes.length, handed := bytes }, connected := true }

/-- The stream after its client left. -/
def deserted (bytes : List UInt8) : Stream Tcp where
  signal := (filled 1 bytes bytes).signal.requestDrop
  record := (filled 1 bytes bytes).record

theorem sync_fresh (now : Nat) : fresh.sync zeroWindow now = fresh := rfl

theorem sync_connected (now : Nat) :
    (inState fresh (.established 0)).sync zeroWindow now = filled 0 [] [] := rfl

/-- An opened stream gets connected. -/
theorem runs_connected : ∃ visits timer, Runs tunnel zeroWindow {} visits
    (serving (filled 0 [] []) timer (.commands maxCommands) 0) := by
  have ⟨_, timer, connects, _⟩ := @runs_single fresh 255 0 0 0 le_rfl _ _ _ (.established 0)
    (sync_fresh 0) (.inr ⟨rfl, rfl⟩) (sync_connected 0) rfl
  exact ⟨_, timer, Trace.append runs_opened connects⟩

theorem sync_of_advance {stream : Stream Tcp} {now : Nat}
    (fixed : stream.advance zeroWindow now = stream) : stream.sync zeroWindow now = stream := by
  unfold Stream.sync Stream.readAwaits Stream.writeAwaits
  rw [fixed, Bool.not_and_self, Bool.not_and_self]
  rfl

theorem sync_emptied (generation : UInt64) (bytes : List UInt8) (now : Nat) :
    (filled generation bytes []).sync zeroWindow now = filled generation bytes [] := by
  have sent : (filled generation bytes []).send zeroWindow = filled generation bytes [] := by
    unfold Stream.send
    rw [if_neg]
    simp [filled]
  apply sync_of_advance
  unfold Stream.advance
  rw [sent]
  rfl

section Full

variable {bytes : List UInt8} (full : bytes.length = tcpBufferSize)

include full

theorem isEmpty_of_full : bytes.isEmpty = false := by
  rw [isEmpty_eq_false_iff, ← length_pos_iff, full]
  decide

theorem sync_filled (now : Nat) :
    (filled 0 [] bytes).sync zeroWindow now = filled 1 bytes [] := by
  have sent : (filled 0 [] bytes).send zeroWindow = filled 0 bytes [] := by
    simp [Stream.send, filled, zeroWindow, Socket.sendSlice, isEmpty_of_full full, full,
      tcpBufferSize]
  have unready : (filled 0 [] bytes).signal.writeReady = false := by
    simp [SignalState.writeReady, filled, full]
  unfold Stream.sync Stream.readAwaits Stream.writeAwaits Stream.advance
  rw [sent, unready]
  rfl

theorem sync_deserted (now : Nat) :
    (deserted bytes).sync zeroWindow now = deserted bytes := by
  have sent : (deserted bytes).send zeroWindow = deserted bytes := by
    simp [Stream.send, deserted, filled, zeroWindow, full]
  have finished : (deserted bytes).finish zeroWindow now = deserted bytes := by
    simp [Stream.finish, deserted, filled, SignalState.requestDrop, SignalState.notify,
      isEmpty_of_full full]
  have lingered : (deserted bytes).linger zeroWindow now = deserted bytes := by
    simp [Stream.linger, deserted, filled, zeroWindow]
  apply sync_of_advance
  unfold Stream.advance
  rw [sent, finished, lingered]
  rfl

theorem tryWrite_filled (generation : UInt64) (handed : List UInt8) :
    ((filled generation handed []).signal.tryWrite bytes).2 =
      (filled generation handed bytes).signal := by
  simp [SignalState.tryWrite, filled, full, tcpBufferSize]

theorem runs_write (generation : UInt64) (handed : List UInt8) (timer : Nat) : ∃ visits,
    Runs tunnel zeroWindow
      (serving (filled generation handed []) timer (.commands maxCommands) 0) visits
      (serving (filled generation handed bytes) timer (.commands maxCommands) 0) := by
  have ⟨visits, runs⟩ := @runs_client (filled generation handed []) maxCommands timer _
    (.write _ bytes) rfl
  rw [tryWrite_filled full] at runs
  exact ⟨visits, runs⟩

theorem runs_deserted : ∃ visits timer,
    Runs tunnel zeroWindow {} visits
      (serving (deserted bytes) timer (.commands maxCommands) 0) := by
  have ⟨_, timer, connects⟩ := runs_connected
  have ⟨_, writes⟩ := runs_write full 0 [] timer
  have ⟨_, timer', sends, _⟩ := @runs_single (filled 0 [] bytes) maxCommands timer 0 0 le_rfl _ _
    _ (.established bytes.length) (sync_filled full 0) (.inl rfl) (sync_emptied 1 bytes 0) rfl
  have ⟨_, writes'⟩ := runs_write full 1 bytes timer'
  have ⟨_, drops⟩ := @runs_client (filled 1 bytes bytes) maxCommands timer' _ (.drop _) rfl
  exact ⟨_, timer', Trace.append connects (Trace.append writes (Trace.append sends
    (Trace.append writes' drops)))⟩

theorem runs_rounds (rounds time clock lastTimer left : Nat) : ∃ late timer left' clock',
    Runs tunnel zeroWindow (serving (deserted bytes) lastTimer (.commands left) clock) late
      (serving (deserted bytes) timer (.commands left') clock') ∧
    rounds ≤ late.countP fun visit => cleansFrom time visit.2 := by
  induction rounds generalizing clock lastTimer left with
  | zero => exact ⟨[], lastTimer, left, clock, .nil _, Nat.zero_le _⟩
  | succ rounds ih =>
    have ⟨_, timer, round, cleans, _⟩ := @runs_single (deserted bytes) left lastTimer clock
      (max clock time) (le_max_left _ _) _ _ _ (.established bytes.length)
      (sync_deserted full _) (.inl rfl) (sync_deserted full _) rfl
    have ⟨_, timer', left', clock', rest, more⟩ := ih (max clock time) timer maxCommands
    refine ⟨_, timer', left', clock', Trace.append round rest, ?_⟩
    have once := cleans time (le_max_right _ _)
    rw [countP_append]
    omega

end Full

/-- A connected stream without bytes after its client left. -/
def left : Stream Tcp where
  signal := (filled 0 [] []).signal.requestDrop
  record := (filled 0 [] []).record

/-- The stream after the first `sync_streams`: the socket is closing, up to the deadline. -/
def closing : Stream Tcp where
  signal := { left.signal with writeClosed := true }
  record := { left.record with
    socket := { state := .finWait 0, closed := true }, lifecycle := .closing closeTimeout }

/-- The stream after its deadline. -/
def expired (signal : SignalState) (pollsRemaining : Nat) : Stream Tcp where
  signal := signal
  record := { closing.record with
    socket := { state := .closed, closed := true }, lifecycle := .aborting pollsRemaining }

/-- The reader of an aborted stream is told. -/
def told : SignalState := { closing.signal with readClosed := true }.notify

end Sample

open Sample

/-- A client fills the socket and the buffer of its stream and leaves. The peer keeps its window
closed, so that the stream is never removed. -/
theorem dropped_stream_kept :
    ∃ (visits : List (Driver Tcp × Event)) (before : Driver Tcp) (entry : Entry Tcp),
      Runs tunnel zeroWindow {} visits before ∧
      before.table.streams[(1 : UInt64)]? = some entry ∧ entry.stream.signal.dropped = true ∧
      ∀ rounds time : Nat, ∃ (late : List (Driver Tcp × Event)) (after : Driver Tcp),
        Runs tunnel zeroWindow before late after ∧ after.opens < 2 ^ 64 ∧
        rounds ≤ late.countP (fun visit => cleansFrom time visit.2) ∧
        after.table.streams[(1 : UInt64)]? = some entry := by
  have full : (List.replicate tcpBufferSize (0 : UInt8)).length = tcpBufferSize :=
    length_replicate
  generalize List.replicate tcpBufferSize (0 : UInt8) = bytes at full
  have ⟨visits, timer, runs⟩ := runs_deserted full
  refine ⟨visits, _, ⟨49152, deserted bytes⟩, runs, getElem?_single _ 1, rfl, ?_⟩
  intro rounds time
  have ⟨late, timer', left, clock, stays, cleans⟩ :=
    runs_rounds full rounds time 0 timer maxCommands
  exact ⟨late, _, stays, (by decide : 1 < 2 ^ 64), cleans, getElem?_single _ 1⟩

/-- A client leaves a connected stream. The peer does not answer the end of the stream, so that the
deadline passes, the stream is aborted and then removed. -/
theorem dropped_stream_reclaimed_sample :
    ∃ (visits early late : List (Driver Tcp × Event)) (before middle after : Driver Tcp),
      Runs tunnel zeroWindow {} visits before ∧
      before.table.streams[(1 : UInt64)]? = some ⟨49152, left⟩ ∧ left.signal.dropped = true ∧
      Runs tunnel zeroWindow before early middle ∧
      middle.table.streams[(1 : UInt64)]? = some ⟨49152, closing⟩ ∧
      Runs tunnel zeroWindow middle late after ∧
      after.table.streams[(1 : UInt64)]? = none ∧ 49152 ∉ after.table.usedPorts := by
  have ⟨_, timer, connects⟩ := runs_connected
  have ⟨_, drops⟩ := @runs_client (filled 0 [] []) maxCommands timer _ (.drop _) rfl
  have runs := Trace.append connects drops
  have ⟨early₁, timer₁, runs₁, cleans₁, flows₁⟩ := @runs_single left maxCommands timer 0 0 le_rfl
    closing closing closing (.finWait 0) rfl (.inl rfl) rfl rfl
  have ⟨early₂, timer₂, runs₂, cleans₂, flows₂⟩ := @runs_single closing maxCommands timer₁ 0 0
    le_rfl closing closing closing (.finWait 0) rfl (.inl rfl) rfl rfl
  have ⟨late₁, timer₃, runs₃, cleans₃, _⟩ := @runs_single closing maxCommands timer₂ 0 closeTimeout
    (Nat.zero_le _) closing closing (expired closing.signal 1) (.finWait 0) rfl (.inl rfl) rfl rfl
  have ⟨late₂, timer₄, runs₄, cleans₄, _⟩ := @runs_single (expired closing.signal 1) maxCommands
    timer₃ closeTimeout closeTimeout le_rfl (expired told 1) (expired told 1) (expired told 0)
    .closed rfl (.inl rfl) rfl rfl
  have ⟨late₃, timer₅, runs₅, _⟩ := @runs_toCleanup (expired told 0) maxCommands timer₄ closeTimeout
    closeTimeout le_rfl (expired told 0) (expired told 0) .closed rfl (.inl rfl) rfl
  have removes := @Step.cleanup Tcp tunnel zeroWindow
    (serving (expired told 0) timer₅ .cleanup closeTimeout) rfl closeTimeout le_rfl
  have early := Trace.append runs₁ runs₂
  have late := Trace.append runs₃ (Trace.append runs₄ (Trace.append runs₅
    (Trace.cons removes (.nil _))))
  have flows : ∀ visit ∈ early₁ ++ early₂, Flows zeroWindow 1 visit := by
    intro visit member
    rcases mem_append.mp member with first | second
    · exact flows₁ rfl rfl visit first
    · exact flows₂ rfl rfl visit second
  have two := Nat.add_le_add (cleans₁ 0 le_rfl) (cleans₂ 0 le_rfl)
  rw [← countP_append] at two
  have three := Nat.add_le_add (cleans₃ closeTimeout le_rfl) (cleans₄ closeTimeout le_rfl)
  have ⟨gone, ports⟩ := dropped_stream_reclaimed runs (getElem?_single _ 1) rfl early late
    (by decide : 1 < 2 ^ 64) flows two ?_
  · refine ⟨_, _, _, _, _, _, runs, getElem?_single _ 1, rfl, early, getElem?_single _ 1, late, gone,
      ?_⟩
    intro used
    obtain ⟨other, entry, found, _⟩ := (ports 49152).mp used
    have same : 1 = other := by
      by_contra other
      rw [Table.getElem?_cleanupStreams, serving, getElem?_single, if_neg other] at found
      cases found
    rw [← same, gone] at found
    cases found
  · have third : cleansFrom closeTimeout (.cleanup closeTimeout) = true := rfl
    have deadline : (serving closing timer₂ (.commands maxCommands) 0).clock + closeTimeout =
        closeTimeout := Nat.zero_add _
    rw [deadline, countP_append, countP_append, countP_append, countP_singleton, if_pos third]
    omega

end Driver

end Ployz.Tunnel
