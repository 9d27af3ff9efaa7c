import Ployz.Base.Run
import Ployz.Corrosion.Stream

/-!
# A change stream has no gaps

Whatever the server and the network do and wherever a pending call is dropped, the changes a stream
returns are numbered one after another from the first it expects, and nothing follows an error. The
argument is about one await of the future: from a live stream it stops at another await with the
stream unchanged in what matters, returns the change that is expected next, or ends the stream with
an error. It never panics.
-/

namespace Ployz.Corrosion

/-- A stream that has not ended: it has a decoder, or may resubscribe to get one. -/
structure ChangeStream.Live (stream : ChangeStream) : Prop where
  unfinished : stream.finished = false
  source : if stream.needsResubscribe then stream.resubscribes = true
    else stream.decoder.isSome = true

/-- The stream that a future suspended at an await leaves behind. -/
structure Pending.Awaits (pending : Pending) (stream : ChangeStream) : Prop where
  live : stream.Live
  resubscribing : stream.needsResubscribe = true ↔ pending ≠ .reading

/-- A client between two steps. -/
inductive Client.Consistent : Client → Prop
  | live {stream : ChangeStream} (live : stream.Live) : Consistent ⟨stream, none⟩
  | waiting {stream : ChangeStream} {pending : Pending} (awaits : pending.Awaits stream) :
      Consistent ⟨stream, some pending⟩
  | ended {stream : ChangeStream} (finished : stream.finished = true) : Consistent ⟨stream, none⟩

/-- The changes that may follow the last one: any after none, else the next. -/
def Follows (lastChangeId changeId : Nat) : Prop :=
  lastChangeId ≠ 0 → changeId = (lastChangeId + 1) % wordLimit

/-- What a future does between two awaits, from a live stream whose last change is given. -/
inductive Advances (lastChangeId : Nat) : Progress × ChangeStream → Prop
  | suspended {pending : Pending} {stream : ChangeStream} (awaits : pending.Awaits stream)
      (last : stream.lastChangeId = lastChangeId) :
      Advances lastChangeId (.suspended pending, stream)
  | change {change : ChangeEvent} {stream : ChangeStream} (live : stream.Live)
      (follows : Follows lastChangeId change.changeId)
      (last : stream.lastChangeId = change.changeId) :
      Advances lastChangeId (.returned (.ok (some change)), stream)
  | failed {error : ClientError} {stream : ChangeStream} (finished : stream.finished = true)
      (last : stream.lastChangeId = lastChangeId) :
      Advances lastChangeId (.returned (Exec.fail error), stream)

section Steps

variable {externals : Externals} {lastChangeId : Nat}

theorem follows_of_checkChange {change accepted : ChangeEvent}
    (checked : checkChange lastChangeId change = .ok accepted) :
    Follows lastChangeId accepted.changeId := by
  intro seen
  rw [checkChange, expectedChangeId, if_pos seen] at checked
  simp only at checked
  split at checked
  · cases checked
  · rename_i expected
    cases checked
    exact not_not.mp expected

theorem follows_of_changeOf {json : Json} {change : ChangeEvent}
    (read : changeOf externals lastChangeId json = .ok change) :
    Follows lastChangeId change.changeId := by
  obtain ⟨event, -, taken⟩ := bind_eq_ok_iff.mp read
  unfold changeOfEvent at taken
  split at taken
  · cases taken
  · exact follows_of_checkChange taken
  · cases taken

variable {stream : ChangeStream}

theorem ChangeStream.finish_advances (stream : ChangeStream) (error : ClientError) :
    Advances stream.lastChangeId (stream.finish error) := .failed rfl rfl

/-- A stream that is reading: a change or an error ends the iteration. -/
structure ChangeStream.Reading (stream : ChangeStream) : Prop where
  unfinished : stream.finished = false
  connected : stream.needsResubscribe = false
  source : stream.decoder.isSome = true

theorem ChangeStream.Reading.live (reading : stream.Reading) : stream.Live := by
  refine ⟨reading.unfinished, ?_⟩
  rw [if_neg (by simp [reading.connected])]
  exact reading.source

theorem ChangeStream.Reading.awaits (reading : stream.Reading) :
    Pending.reading.Awaits stream :=
  ⟨reading.live, by simp [reading.connected]⟩

theorem Pending.Awaits.reading (awaits : Pending.reading.Awaits stream) : stream.Reading := by
  have connected : stream.needsResubscribe = false := by
    rw [← Bool.not_eq_true, awaits.resubscribing]
    exact fun different => different rfl
  have source := awaits.live.source
  rw [if_neg (by simp [connected])] at source
  exact ⟨awaits.live.unfinished, connected, source⟩

theorem ChangeStream.settle_ok_advances (reading : stream.Reading) {change : ChangeEvent}
    (follows : Follows stream.lastChangeId change.changeId) :
    Advances stream.lastChangeId (stream.settle (.ok change)) :=
  .change (Reading.live ⟨reading.unfinished, reading.connected, reading.source⟩) follows rfl

theorem ChangeStream.settle_error_advances (reading : stream.Reading) (error : ClientError) :
    Advances stream.lastChangeId (stream.settle (.error error)) := by
  show Advances _ (if stream.resubscribes then _ else _)
  split
  · rename_i resubscribes
    refine .suspended ⟨⟨reading.unfinished, ?_⟩, ?_⟩ rfl
    · simpa using resubscribes
    · simp
  · exact stream.finish_advances error

theorem ChangeStream.readOn_advances (reading : stream.Reading) :
    Advances stream.lastChangeId (stream.readOn externals) := by
  obtain ⟨decoder, decoderEq⟩ := Option.isSome_iff_exists.mp reading.source
  have polled (next : NdjsonDecoder) : { stream with decoder := some next }.Reading :=
    ⟨reading.unfinished, reading.connected, rfl⟩
  rw [ChangeStream.readOn, decoderEq]
  simp only
  split
  · exact .suspended (polled _).awaits rfl
  · exact settle_error_advances (polled _) _
  · exact settle_error_advances (polled _) _
  · rename_i json next _
    cases read : changeOf externals stream.lastChangeId json with
    | ok change => exact settle_ok_advances (polled next) (follows_of_changeOf read)
    | error error => exact settle_error_advances (polled next) error

theorem ChangeStream.resume_advances (live : stream.Live) (decoder : NdjsonDecoder) :
    Advances stream.lastChangeId (stream.resume externals decoder) := by
  have reading : { stream with decoder := some decoder, needsResubscribe := false }.Reading :=
    ⟨live.unfinished, rfl, rfl⟩
  exact readOn_advances reading

variable {again : Bool}

section Attempt

variable (live : stream.Live) (needs : stream.needsResubscribe = true)

include live needs

theorem ChangeStream.attemptFailed_advances (error : ClientError) :
    Advances stream.lastChangeId (stream.attemptFailed again error) := by
  unfold ChangeStream.attemptFailed
  split
  · exact .suspended ⟨live, by simp [needs]⟩ rfl
  · exact stream.finish_advances _

theorem ChangeStream.drainOn_advances (columns : List String) (decoder : NdjsonDecoder) :
    Advances stream.lastChangeId (stream.drainOn externals again columns decoder) := by
  unfold ChangeStream.drainOn
  split
  · exact .suspended ⟨live, by simp [needs]⟩ rfl
  · exact attemptFailed_advances live needs _
  · exact resume_advances live _

theorem ChangeStream.openOn_advances (decoder : NdjsonDecoder) :
    Advances stream.lastChangeId (stream.openOn externals again decoder) := by
  unfold ChangeStream.openOn
  simp only
  split
  · exact .suspended ⟨live, by simp [needs]⟩ rfl
  · exact attemptFailed_advances live needs _
  · exact attemptFailed_advances live needs _
  · split
    · exact attemptFailed_advances live needs _
    · exact drainOn_advances live needs _ _

theorem ChangeStream.replied_advances (reply : Reply) :
    Advances stream.lastChangeId (stream.replied externals again reply) := by
  cases reply with
  | failed | notFound => exact attemptFailed_advances live needs _
  | accepted =>
    show Advances _ (if _ then _ else _)
    split
    · exact openOn_advances live needs _
    · exact resume_advances live _

end Attempt

theorem ChangeStream.start_advances (live : stream.Live) :
    Advances stream.lastChangeId (stream.start externals) := by
  have source := live.source
  rw [ChangeStream.start, if_neg (by simp [live.unfinished])]
  split
  · rename_i needs
    rw [if_pos needs] at source
    rw [if_pos source]
    exact .suspended ⟨live, by simp [needs]⟩ rfl
  · rename_i reading
    rw [if_neg reading] at source
    exact readOn_advances ⟨live.unfinished, by simpa using reading, source⟩

theorem ChangeStream.received_advances {pending : Pending} (awaits : pending.Awaits stream)
    (result : Except ClientError (List UInt8)) :
    Advances stream.lastChangeId (stream.received externals again pending result) := by
  have resubscribing := awaits.resubscribing
  cases pending with
  | requesting => exact .suspended awaits rfl
  | opening decoder =>
    have needs : stream.needsResubscribe = true := resubscribing.mpr nofun
    cases result with
    | ok chunk => exact openOn_advances awaits.live needs _
    | error error => exact attemptFailed_advances awaits.live needs _
  | draining columns decoder =>
    have needs : stream.needsResubscribe = true := resubscribing.mpr nofun
    cases result with
    | ok chunk => exact drainOn_advances awaits.live needs _ _
    | error error => exact attemptFailed_advances awaits.live needs _
  | reading =>
    have reading := awaits.reading
    cases result with
    | ok chunk =>
      have fed : (stream.fed chunk).Reading := by
        refine ⟨reading.unfinished, reading.connected, ?_⟩
        rw [ChangeStream.fed, Option.isSome_map]
        exact reading.source
      exact readOn_advances fed
    | error error => exact settle_error_advances reading error

end Steps

/-- What a step of a client can do, and what it returns. -/
inductive Moves (before : Client) : Option Item × Client → Prop
  | quiet {after : Client} (consistent : after.Consistent)
      (last : after.stream.lastChangeId = before.stream.lastChangeId)
      (finished : after.stream.finished = before.stream.finished) : Moves before (none, after)
  | change {change : ChangeEvent} {after : Client} (consistent : after.Consistent)
      (live : before.stream.finished = false) (lives : after.stream.finished = false)
      (follows : Follows before.stream.lastChangeId change.changeId)
      (last : after.stream.lastChangeId = change.changeId) :
      Moves before (some (.ok (some change)), after)
  | failed {error : ClientError} {after : Client} (consistent : after.Consistent)
      (live : before.stream.finished = false) (ends : after.stream.finished = true)
      (last : after.stream.lastChangeId = before.stream.lastChangeId) :
      Moves before (some (Exec.fail error), after)
  | ended (finished : before.stream.finished = true) (consistent : before.Consistent) :
      Moves before (some (.ok none), before)

theorem Advances.moves {client : Client} {progress : Progress × ChangeStream}
    (advances : Advances client.stream.lastChangeId progress)
    (live : client.stream.finished = false) : Moves client (Progress.after progress) := by
  cases advances with
  | suspended awaits last =>
    refine .quiet (.waiting awaits) last ?_
    rw [live]
    exact awaits.live.unfinished
  | change lives follows last => exact .change (.live lives) live lives.unfinished follows last
  | failed finished last => exact .failed (.ended finished) live finished last

/-- Every step of a consistent client is one of the moves. -/
theorem Client.step_moves {client : Client} (consistent : client.Consistent)
    (externals : Externals) (action : Action) : Moves client (client.step externals action) := by
  cases consistent with
  | live live =>
    cases action with
    | next =>
      have advances : Advances _ (ChangeStream.start externals _) :=
        ChangeStream.start_advances live
      exact advances.moves live.unfinished
    | cancel | reply | read => exact .quiet (.live live) rfl rfl
  | @waiting stream pending awaits =>
    have kept : Moves ⟨stream, some pending⟩ (none, ⟨stream, some pending⟩) :=
      .quiet (.waiting awaits) rfl rfl
    cases action with
    | next => exact kept
    | cancel => exact .quiet (.live awaits.live) rfl rfl
    | reply again reply =>
      cases pending with
      | requesting =>
        have needs : stream.needsResubscribe = true := awaits.resubscribing.mpr nofun
        exact (ChangeStream.replied_advances awaits.live needs reply).moves awaits.live.unfinished
      | opening decoder => exact kept
      | draining columns decoder => exact kept
      | reading => exact kept
    | read again result =>
      exact (ChangeStream.received_advances awaits result).moves awaits.live.unfinished
  | @ended stream finished =>
    cases action with
    | next =>
      show Moves _ (Progress.after (if stream.finished then _ else _))
      rw [if_pos finished]
      exact .ended finished (.ended finished)
    | cancel | reply | read => exact .quiet (.ended finished) rfl rfl

/-- What the calls of a run returned. -/
def Client.items (externals : Externals) (client : Client) (actions : List Action) : List Item :=
  (run (Client.step externals) client actions).1.reduceOption

/-- The client that a run leaves. -/
def Client.last (externals : Externals) (client : Client) (actions : List Action) : Client :=
  (run (Client.step externals) client actions).2

/-- The end of what a stream returns: nothing while it lives, then one error and nothing more. -/
def Ending (finished : Bool) (rest : List Item) : Prop :=
  if finished then ∃ error count, rest = Exec.fail error :: List.replicate count (.ok none)
  else rest = []

/-- What a stream returns: changes numbered one after another, and its end. -/
def Consecutive (first : Nat) (finished : Bool) (items : List Item) : Prop :=
  ∃ (changes : List ChangeEvent) (rest : List Item),
    items = changes.map (fun change => .ok (some change)) ++ rest ∧
    changes.map ChangeEvent.changeId = List.range' first changes.length ∧
    Ending finished rest

section Runs

variable {externals : Externals} {client : Client}

theorem Client.items_cons (action : Action) (actions : List Action) :
    client.items externals (action :: actions) =
      (client.step externals action).1.toList ++
        (client.step externals action).2.items externals actions := by
  unfold Client.items
  rw [run_cons]
  generalize client.step externals action = result
  obtain ⟨answer, after⟩ := result
  cases answer with
  | none => exact List.reduceOption_cons_of_none _
  | some item => exact List.reduceOption_cons_of_some _ _

theorem Client.last_cons (action : Action) (actions : List Action) :
    client.last externals (action :: actions) =
      (client.step externals action).2.last externals actions := rfl

theorem Client.items_of_finished (consistent : client.Consistent)
    (finished : client.stream.finished = true) (externals : Externals) (actions : List Action) :
    (client.last externals actions).stream.finished = true ∧
      ∃ count, client.items externals actions = List.replicate count (.ok none) := by
  induction actions generalizing client with
  | nil => exact ⟨finished, 0, rfl⟩
  | cons action actions ih =>
    have moves := client.step_moves consistent externals action
    rw [items_cons, last_cons]
    revert moves
    generalize client.step externals action = result
    rintro (⟨consistent', -, same⟩ | ⟨-, live, -⟩ | ⟨-, live, -⟩ | ⟨-, -⟩)
    · obtain ⟨ends, count, items⟩ := ih consistent' (same.trans finished)
      exact ⟨ends, count, by simpa using items⟩
    · cases finished.symm.trans live
    · cases finished.symm.trans live
    · obtain ⟨ends, count, items⟩ := ih consistent finished
      exact ⟨ends, count + 1, by simp [items, List.replicate_succ]⟩

/-- The run lemma: the changes returned are numbered from the one after the last, and what
follows them is the end of the stream. -/
theorem Client.items_consecutive {actions : List Action} (consistent : client.Consistent)
    (live : client.stream.finished = false) (seen : client.stream.lastChangeId ≠ 0)
    (small : client.stream.lastChangeId < wordLimit - 1)
    (bounded : ∀ change, .ok (some change) ∈ client.items externals actions →
      change.changeId < wordLimit - 1) :
    Consecutive (client.stream.lastChangeId + 1) (client.last externals actions).stream.finished
      (client.items externals actions) := by
  induction actions generalizing client with
  | nil => exact ⟨[], [], rfl, rfl, by simp [Client.last, run, live, Ending]⟩
  | cons action actions ih =>
    have moves := client.step_moves consistent externals action
    rw [items_cons] at bounded
    rw [items_cons, last_cons]
    revert moves bounded
    generalize client.step externals action = result
    rintro bounded (⟨consistent', last, same⟩ | ⟨consistent', -, lives, follows, last⟩ |
      ⟨consistent', -, ends, -⟩ | ⟨finished, -⟩)
    · obtain ⟨changes, rest, items, ids, ending⟩ := ih consistent' (same.trans live)
        (by rwa [last]) (by rwa [last]) bounded
      exact ⟨changes, rest, by simpa using items, by rw [ids, last], ending⟩
    · rename_i change after
      have room : (client.stream.lastChangeId + 1) % wordLimit = client.stream.lastChangeId + 1 :=
        Nat.mod_eq_of_lt (by omega)
      have next : after.stream.lastChangeId = client.stream.lastChangeId + 1 := by
        rw [last, follows seen, room]
      obtain ⟨changes, rest, items, ids, ending⟩ := ih consistent' lives (by omega)
        (by rw [last]; exact bounded change (by simp))
        fun other member => bounded other (by simp [member])
      refine ⟨change :: changes, rest, by simp [items], ?_, ending⟩
      rw [List.map_cons, ids, List.length_cons, List.range'_succ, next, ← last, next]
    · rename_i error after
      obtain ⟨finished, count, items⟩ := items_of_finished consistent' ends externals actions
      refine ⟨[], _, rfl, rfl, ?_⟩
      unfold Ending
      rw [if_pos finished]
      exact ⟨error, count, by simp [items]⟩
    · cases live.symm.trans finished

end Runs

theorem live_of_intoChanges {subscription : Subscription} {stream : ChangeStream}
    (opened : subscription.intoChanges = .ok stream) : stream.Live := by
  obtain ⟨source, -, same⟩ := bind_eq_ok_iff.mp opened
  cases same
  exact ⟨rfl, rfl⟩

/-- The numbers of the changes among what was returned. -/
def idsOf (items : List Item) : List Nat :=
  items.filterMap fun
    | .ok (some change) => some change.changeId
    | _ => none

theorem mem_idsOf {items : List Item} {change : ChangeEvent} (member : .ok (some change) ∈ items) :
    change.changeId ∈ idsOf items := List.mem_filterMap.mpr ⟨_, member, rfl⟩

/-- The changes of a subscription that has seen one have no gap: whatever the network does and
wherever pending calls are dropped, they are numbered one after another from the last one seen,
an error that stays is returned behind them, and nothing follows it. -/
theorem change_stream_gap_free (externals : Externals) {subscription : Subscription}
    {stream : ChangeStream} (opened : subscription.intoChanges = .ok stream)
    (seen : 0 < stream.lastChangeId) (small : stream.lastChangeId < wordLimit - 1)
    (actions : List Action)
    (bounded : ∀ change, .ok (some change) ∈ Client.items externals ⟨stream, none⟩ actions →
      change.changeId < wordLimit - 1) :
    Consecutive (stream.lastChangeId + 1)
      (Client.last externals ⟨stream, none⟩ actions).stream.finished
      (Client.items externals ⟨stream, none⟩ actions) := by
  have live := live_of_intoChanges opened
  exact Client.items_consecutive (.live live) live.unfinished (Nat.pos_iff_ne_zero.mp seen) small
    bounded

namespace Sample

/-- The bytes of an ASCII text. -/
def ascii (text : String) : List UInt8 := text.toList.map fun c => UInt8.ofNat c.toNat

/-- A JSON library that knows the texts of a few values. -/
def externals (text : Json → List UInt8) (values : List Json) : Externals where
  nextValue buffer :=
    match values.find? fun value => decide (text value ≠ []) && (text value).isPrefixOf buffer with
    | some value => some (.ok (value, (text value).length))
    | none => some (.error ⟨values.any fun value => buffer.isPrefixOf (text value), "unexpected"⟩)
  takes_some := by
    intro buffer json taken found
    split at found
    · rename_i value first
      have holds := List.find?_some first
      simp only [Bool.and_eq_true, decide_eq_true_eq] at holds
      rw [← (Prod.mk.inj (Except.ok.inj (Option.some.inj found))).2]
      exact List.length_pos_of_ne_nil holds.1
    · cases found
  finite _ := true
  complaint expected _ := "expected " ++ expected
  debug _ := "QueryEvent"

/-- The texts of the events of a small server. -/
def text : Json → List UInt8
  | .obj [("columns", _)] => ascii "\x7b\"columns\":[\"id\"]\x7d"
  | .obj [("row", _)] => ascii "\x7b\"row\":[1,[\"a\"]]\x7d"
  | .obj [("eoq", .obj [_, (_, .num id)])] =>
    ascii ("\x7b\"eoq\":\x7b\"time\":0,\"change_id\":" ++ id ++ "\x7d\x7d")
  | .obj [("change", .arr [_, _, _, .num id])] =>
    ascii ("\x7b\"change\":[\"insert\",1,[\"a\"]," ++ id ++ "]\x7d")
  | _ => []

/-- The announcement of a change. -/
def change (id : Nat) : Json :=
  .obj [("change", .arr [.str "insert", .nat 1, .arr [.str "a"], .nat id])]

/-- A subscription whose snapshot ended with change 5. -/
def subscription : Subscription :=
  ⟨"query", some ⟨["id"], some {}, some ⟨"0", some 5⟩, false⟩, none, true⟩

def stream : ChangeStream := ⟨"query", some {}, 5, true, false, false⟩

/-- Change 6 arrives in two parts around a dropped call; change 8 is refused, and the
subscription is gone. -/
def actions : List Action :=
  [.next, .read true (.ok ((text (change 6)).take 9)), .cancel, .next,
    .read true (.ok ((text (change 6)).drop 9)), .next, .read true (.ok (text (change 8))),
    .reply true .notFound, .next]

end Sample

open Sample

theorem change_stream_gap_free_sample :
    idsOf (Client.items (externals text [change 6, change 8])
      ⟨stream, none⟩ actions) = [6] ∧
    Consecutive 6 true (Client.items
      (externals text [change 6, change 8])
      ⟨stream, none⟩ actions) := by
  have ids : idsOf (Client.items
      (externals text [change 6, change 8])
      ⟨stream, none⟩ actions) = [6] := by decide +kernel
  have finished : (Client.last (externals text [change 6, change 8])
      ⟨stream, none⟩ actions).stream.finished = true := by decide +kernel
  have opened : subscription.intoChanges = .ok stream := rfl
  have result := change_stream_gap_free
    (externals text [change 6, change 8]) opened (by decide)
    (by decide) actions fun change member => by
      have listed := mem_idsOf member
      rw [ids, List.mem_singleton] at listed
      rw [listed]
      decide
  rw [finished] at result
  exact ⟨ids, result⟩

end Ployz.Corrosion
