import Ployz.Base.Framing
import Ployz.Verif.Changes

/-!
# A fresh subscription and the log of its server

A stream that has not seen a change yet cannot check the number of the first one. The system below
joins a client to a server that holds one log, over connections that break anywhere: the log grows
at any time, and a resubscription from change 0 is answered with a snapshot of the log as it is
then. As long as every drained snapshot is one of the log at the time of the subscription, the
stream returns every later change in order. A snapshot of a longer log hides the changes in between:
the stream goes on with the change after its end.
-/

namespace Ployz.Corrosion

open List

/-- The line feed between two events. -/
def newline : UInt8 := 0x0a

/-- How a server writes the events it sends. The streaming JSON parser reads back a text that is
there as a whole, whatever follows it, and reads no value from a text that is there in part. -/
structure Server (externals : Externals) where
  text : Json → List UInt8
  speaks : Json → Prop
  solid : ∀ {json}, speaks json → Solid isAsciiWhitespace (text json)
  whole : ∀ {json}, speaks json → ∀ rest,
    externals.nextValue (text json ++ rest) = some (.ok (json, (text json).length))
  part : ∀ {json}, speaks json → ∀ {front}, front ≠ [] → front <+: text json → front ≠ text json →
    ∀ value, externals.nextValue front ≠ some (.ok value)

/-- A change of the log. -/
structure Change where
  name : String
  rowId : Nat
  values : List Json

/-- The event that announces a change. -/
def Change.event (change : Change) (id : Nat) : Json :=
  .obj [("change", .arr [.str change.name, .nat change.rowId, .arr change.values, .nat id])]

/-- The contents of a snapshot. -/
structure Snapshot where
  columns : List String
  rows : List (Nat × List Json)
  time : String

/-- The event of one row of a snapshot. -/
def rowEvent (row : Nat × List Json) : Json := .obj [("row", .arr [.nat row.1, .arr row.2])]

/-- The event behind the rows of a snapshot. -/
def endEvent (time : String) (changeId : Nat) : Json :=
  .obj [("eoq", .obj [("time", .num time), ("change_id", .nat changeId)])]

/-- The events of a snapshot of the log up to a change. -/
def Snapshot.events (snapshot : Snapshot) (changeId : Nat) : List Json :=
  .obj [("columns", .arr (snapshot.columns.map .str))] ::
    (snapshot.rows.map rowEvent ++ [endEvent snapshot.time changeId])

/-- The events of the changes of a log after the first ones. -/
def later (log : List Change) (base : Nat) : List Json :=
  ((log.zipIdx 1).map fun entry => entry.1.event entry.2).drop base

theorem later_append {log : List Change} {base : Nat} (inside : base ≤ log.length)
    (change : Change) :
    later (log ++ [change]) base = later log base ++ [change.event (log.length + 1)] := by
  unfold later
  rw [zipIdx_append, map_append, drop_append_of_le_length (by simpa using inside)]
  simp [Nat.add_comm]

theorem later_length (log : List Change) : later log log.length = [] := by
  simp [later]

variable {json : Json}

theorem eq_event_of_later {log : List Change} {base : Nat} {rest : List Json}
    (first : later log base = json :: rest) :
    ∃ change : Change, json = change.event (base + 1) := by
  have found : (later log base)[0]? = some json := by rw [first]; rfl
  simp only [later, getElem?_drop, getElem?_map, Option.map_eq_some_iff] at found
  obtain ⟨entry, member, rfl⟩ := found
  rw [Nat.add_zero, getElem?_zipIdx, Option.map_eq_some_iff] at member
  obtain ⟨change, -, rfl⟩ := member
  exact ⟨change, by rw [Nat.add_comm]⟩

variable {columns : List String} {change : Change} {time : String} {changeId : Nat}

section Parsing

variable {externals : Externals}

theorem value_of_decode {α : Type} {expected context : String} {read : Json → Option α} {value : α}
    (decoded : decode externals expected read json context = .ok value) :
    read json = some value := by
  unfold decode at decoded
  split at decoded
  · rename_i result
    rw [result, Except.ok.inj decoded]
  · cases decoded

theorem eq_of_unsigned_nat {limit value read : Nat}
    (accepted : (Json.nat value).unsigned limit = some read) : read = value := by
  rw [Json.nat, Json.unsigned, String.toList_ofList, decimal,
    digitsValue_toDigits (by decide) (by decide)] at accepted
  split at accepted
  · exact (Option.some.inj accepted).symm
  · cases accepted

theorem parseQueryEvent_single (key : String) (value : Json) :
    parseQueryEvent externals (.obj [(key, value)]) = parseMember externals {} (key, value) := by
  show List.foldlM (parseMember externals) {} [(key, value)] = _
  rw [foldlM_cons]
  exact bind_pure _

theorem of_unlessNull {α : Type} {parse : Json → Except ClientError α} {member : Option α}
    (set : json.isNull = false) (parsed : unlessNull parse json = .ok member) :
    ∃ value, parse json = .ok value ∧ member = some value := by
  rw [unlessNull, if_neg (by simp [set])] at parsed
  cases result : parse json with
  | ok value =>
    rw [result] at parsed
    exact ⟨value, rfl, (Except.ok.inj parsed).symm⟩
  | error error =>
    rw [result] at parsed
    cases parsed

theorem changeId_of_event {id : Nat} {read : ChangeEvent}
    (taken : changeOf externals 0 (change.event id) = .ok read) : read.changeId = id := by
  obtain ⟨event, parsed, accepted⟩ := bind_eq_ok_iff.mp taken
  rw [Change.event, parseQueryEvent_single] at parsed
  obtain ⟨member, parsedMember, same⟩ := bind_eq_ok_iff.mp parsed
  cases same
  obtain ⟨written, parsedChange, rfl⟩ := of_unlessNull rfl parsedMember
  -- nothing is expected of the first change
  cases accepted
  obtain ⟨items, same, parsedChange⟩ := bind_eq_ok_iff.mp parsedChange
  cases same
  obtain ⟨name, -, parsedChange⟩ := bind_eq_ok_iff.mp parsedChange
  obtain ⟨rowId, -, parsedChange⟩ := bind_eq_ok_iff.mp parsedChange
  obtain ⟨values, -, parsedChange⟩ := bind_eq_ok_iff.mp parsedChange
  obtain ⟨changeId, parsedId, same⟩ := bind_eq_ok_iff.mp parsedChange
  cases same
  exact eq_of_unsigned_nat (value_of_decode parsedId)

theorem rowOf_rowEvent {row : Nat × List Json} {final : EndOfQuery} :
    rowOf externals columns (rowEvent row) ≠ .finished final := by
  intro finished
  unfold rowOf at finished
  rw [rowEvent, parseQueryEvent_single] at finished
  split at finished
  · cases finished
  · rename_i event parsed
    obtain ⟨member, -, same⟩ := bind_eq_ok_iff.mp parsed
    cases same
    unfold rowOfEvent at finished
    split at finished
    · cases finished
    · simp only at finished
      split at finished <;> cases finished
    · rename_i none; cases none
    · cases finished

theorem rowOf_endEvent {row : Row} :
    rowOf externals columns (endEvent time changeId) ≠ .row row := by
  intro another
  unfold rowOf at another
  rw [endEvent, parseQueryEvent_single] at another
  split at another
  · cases another
  · rename_i event parsed
    obtain ⟨member, -, same⟩ := bind_eq_ok_iff.mp parsed
    cases same
    unfold rowOfEvent at another
    split at another
    · cases another
    · rename_i none; cases none
    · cases another
    · cases another

end Parsing

/-- The bytes in a buffer and on the line are those of events that the server sends. -/
def OnLine {externals : Externals} (server : Server externals) (line : Option (List UInt8))
    (buffer : List UInt8) (events : List Json) : Prop :=
  ∃ bytes, line = some bytes ∧
    Carries isAsciiWhitespace server.text newline buffer bytes events ∧
    ∀ event ∈ events, server.speaks event

variable {bytes : List UInt8} {rows : List (Nat × List Json)}

section Decoding

variable {externals : Externals} {server : Server externals} {line : Option (List UInt8)}

theorem solid_dropWhile (filled : bytes.dropWhile isAsciiWhitespace ≠ []) :
    Solid isAsciiWhitespace (bytes.dropWhile isAsciiWhitespace) := by
  obtain ⟨first, rest, spelled⟩ := exists_cons_of_ne_nil filled
  refine ⟨first, rest, spelled, ?_⟩
  have visible := head_dropWhile_not isAsciiWhitespace filled
  simpa only [spelled, head_cons, Bool.not_eq_true] using visible

variable {decoder : NdjsonDecoder}

/-- A poll delivers the next event on the line, or waits. -/
theorem NdjsonDecoder.poll_onLine {events : List Json}
    (onLine : OnLine server line decoder.buffer events) :
    match decoder.poll externals.nextValue with
    | (.waits, next) => OnLine server line next.buffer events
    | (.value json, next) => ∃ rest, events = json :: rest ∧ OnLine server line next.buffer rest
    | _ => True := by
  obtain ⟨bytes, lineEq, carries, spoken⟩ := onLine
  have trimmed := carries.trim fun event member => server.solid (spoken event member)
  by_cases empty : decoder.trimmed.buffer = []
  · rw [poll, if_pos empty]
    unfold short
    split_ifs
    · trivial
    · exact ⟨bytes, lineEq, trimmed, spoken⟩
  · obtain ⟨event, rest, rfl, ⟨left, whole, carried⟩ | ⟨front, strict⟩⟩ :=
      trimmed.split (solid_dropWhile empty) rfl
    · have buffered : decoder.trimmed.buffer = server.text event ++ left := whole
      have found := server.whole (spoken event mem_cons_self) left
      rw [← buffered] at found
      rw [poll, if_neg empty, found]
      refine ⟨rest, rfl, bytes, lineEq, ?_, fun other member => spoken other (.tail _ member)⟩
      simpa only [buffered, drop_left] using carried
    · have unread := server.part (spoken event mem_cons_self) empty front strict
      have waits : OnLine server line decoder.trimmed.buffer (event :: rest) :=
        ⟨bytes, lineEq, trimmed, spoken⟩
      rw [poll, if_neg empty]
      cases found : externals.nextValue decoder.trimmed.buffer with
      | none =>
        unfold short
        split_ifs
        · trivial
        · exact waits
      | some read =>
        cases read with
        | ok value => exact absurd found (unread value)
        | error error =>
          dsimp only
          split_ifs
          · exact waits
          · trivial

theorem drain_eq :
    drain externals columns decoder =
      match decoder.poll externals.nextValue with
      | (.waits, next) => .waits next
      | (.ended, _) => .failed endOfBody
      | (.failed error, _) => .failed error
      | (.value json, next) =>
        match rowOf externals columns json with
        | .row _ => drain externals columns next
        | .finished _ => .done next
        | .failed error => .failed error := by
  rw [drain]
  split
  · rename_i found
    simp only [found]
  · rename_i found
    simp only [found]
  · rename_i found
    simp only [found]
  · rename_i json next found
    cases step : rowOf externals columns json <;> simp only [found, step]

/-- The drain of a snapshot stops among its rows, or right behind its end. -/
theorem drain_onLine {after : List Json} (onLine : OnLine server line decoder.buffer
      (rows.map rowEvent ++ endEvent time changeId :: after)) :
    match drain externals columns decoder with
    | .waits next => ∃ left : List (Nat × List Json),
        OnLine server line next.buffer (left.map rowEvent ++ endEvent time changeId :: after)
    | .done next => OnLine server line next.buffer after
    | .failed _ => True := by
  induction rows generalizing decoder with
  | nil =>
    have polled := NdjsonDecoder.poll_onLine onLine
    rw [drain_eq]
    revert polled
    generalize decoder.poll externals.nextValue = result
    obtain ⟨poll, next⟩ := result
    cases poll with
    | ended => exact fun _ => trivial
    | failed error => exact fun _ => trivial
    | waits => exact fun polled => ⟨[], polled⟩
    | value json =>
      rintro ⟨rest, events, polled⟩
      obtain ⟨rfl, rfl⟩ := List.cons.inj events
      simp only
      cases taken : rowOf externals columns (endEvent time changeId) with
      | row row => exact absurd taken rowOf_endEvent
      | finished final => exact polled
      | failed error => trivial
  | cons row rows ih =>
    have polled := NdjsonDecoder.poll_onLine onLine
    rw [drain_eq]
    revert polled
    generalize decoder.poll externals.nextValue = result
    obtain ⟨poll, next⟩ := result
    cases poll with
    | ended => exact fun _ => trivial
    | failed error => exact fun _ => trivial
    | waits => exact fun polled => ⟨row :: rows, polled⟩
    | value json =>
      rintro ⟨rest, events, polled⟩
      obtain ⟨rfl, rfl⟩ := List.cons.inj events
      simp only
      cases taken : rowOf externals columns (rowEvent row) with
      | row row => exact ih polled
      | finished final => exact absurd taken rowOf_rowEvent
      | failed error => trivial

end Decoding

/-- A client, the log of its server, what the server has sent and the client has not read, and
what the calls have returned. On a connection that resumes behind a change that was seen, the
server may send anything. -/
structure World where
  client : Client
  log : List Change
  line : Option (List UInt8)
  returned : List Item

/-- The world after a step of the client. -/
def World.act (externals : Externals) (world : World) (action : Action) : World :=
  { world with
    client := (world.client.step externals action).2
    returned := world.returned ++ (world.client.step externals action).1.toList }

/-- The client waits for the body of the response in use. -/
def Client.ReadsBody (client : Client) : Prop :=
  ∃ pending, client.pending = some pending ∧ pending ≠ .requesting

/-- The steps of the system. `taken` says at which lengths of the log a subscription from change
0 may be answered. -/
inductive World.Step {externals : Externals} (server : Server externals) (taken : Nat → Prop) :
    World → World → Prop
  /-- A change is made; a connection that follows the log carries it. -/
  | write (world : World) (change : Change)
      (spoken : server.speaks (change.event (world.log.length + 1))) :
      Step server taken world
        { world with
          log := world.log ++ [change]
          line := world.line.map fun bytes =>
            bytes ++ wire server.text newline [change.event (world.log.length + 1)] }
  | call (world : World) : Step server taken world (world.act externals .next)
  | cancel (world : World) : Step server taken world (world.act externals .cancel)
  /-- An attempt to resubscribe fails or is refused. -/
  | refuse (world : World) (again : Bool) (reply : Reply) (refused : reply ≠ .accepted) :
      Step server taken world (world.act externals (.reply again reply))
  /-- A subscription from change 0 is answered with a snapshot; the later changes follow. -/
  | snapshot (world : World) (again : Bool) (snapshot : Snapshot)
      (waits : world.client.pending = some .requesting)
      (unseen : world.client.stream.lastChangeId = 0)
      (spoken : ∀ event ∈ snapshot.events world.log.length, server.speaks event)
      (now : taken world.log.length) :
      Step server taken world
        ({ world with line := some (wire server.text newline (snapshot.events world.log.length)) }.act
          externals (.reply again .accepted))
  /-- A subscription from a change that was seen is answered. -/
  | replay (world : World) (again : Bool) (waits : world.client.pending = some .requesting)
      (seen : world.client.stream.lastChangeId ≠ 0) :
      Step server taken world
        ({ world with line := none }.act externals (.reply again .accepted))
  /-- Bytes arrive on a connection that follows the log. -/
  | deliver (world : World) (again : Bool) (chunk bytes : List UInt8)
      (reads : world.client.ReadsBody) (sent : world.line = some (chunk ++ bytes)) (filled : chunk ≠ []) :
      Step server taken world
        ({ world with line := some bytes }.act externals (.read again (.ok chunk)))
  /-- Any bytes arrive on any other connection. -/
  | arrive (world : World) (again : Bool) (chunk : List UInt8) (free : world.line = none) :
      Step server taken world (world.act externals (.read again (.ok chunk)))
  /-- The connection ends. -/
  | close (world : World) (again : Bool) :
      Step server taken world (world.act externals (.read again (.ok [])))
  /-- The connection breaks. -/
  | cut (world : World) (again : Bool) (error : ClientError) :
      Step server taken world (world.act externals (.read again (.error error)))

variable {pending : Pending}

section Linked

variable {externals : Externals} (server : Server externals) (log : List Change) (base : Nat)
  (line : Option (List UInt8))

/-- What a future that has seen no change leaves behind: the line carries the rest of a snapshot
taken at the base, and the changes of the log after the base. -/
def Keeps : Progress × ChangeStream → Prop
  | (.suspended .requesting, stream) => stream.needsResubscribe = true
  | (.suspended (.opening decoder), _) => ∃ snapshot : Snapshot,
      OnLine server line decoder.buffer (snapshot.events base ++ later log base)
  | (.suspended (.draining _ decoder), _) => ∃ (rows : List (Nat × List Json)) (time : String),
      OnLine server line decoder.buffer
        (rows.map rowEvent ++ endEvent time base :: later log base)
  | (.suspended .reading, stream) => ∀ decoder, stream.decoder = some decoder →
      OnLine server line decoder.buffer (later log base)
  | (.returned (.ok (some change)), _) => change.changeId = base + 1
  | (.returned (.error (.error _)), stream) => stream.decoder = none
  | (.returned _, _) => True

variable {server log base line} {stream : ChangeStream}

theorem ChangeStream.settle_error_keeps (stream : ChangeStream) (error : ClientError) :
    Keeps server log base line (stream.settle (.error error)) := by
  show Keeps _ _ _ _ (if stream.resubscribes then _ else _)
  split
  · exact rfl
  · exact rfl

variable {decoder : NdjsonDecoder}

theorem ChangeStream.readOn_keeps (unseen : stream.lastChangeId = 0)
    (source : stream.decoder = some decoder)
    (onLine : OnLine server line decoder.buffer (later log base)) :
    Keeps server log base line (stream.readOn externals) := by
  have polled := NdjsonDecoder.poll_onLine onLine
  rw [ChangeStream.readOn, source]
  simp only
  revert polled
  generalize decoder.poll externals.nextValue = result
  obtain ⟨poll, next⟩ := result
  cases poll with
  | ended | failed => exact fun _ => settle_error_keeps _ _
  | waits =>
    rintro polled other same
    cases same
    exact polled
  | value json =>
    rintro ⟨rest, first, -⟩
    obtain ⟨change, rfl⟩ := eq_event_of_later first
    simp only [unseen]
    cases taken : changeOf externals 0 (change.event (base + 1)) with
    | error error => exact settle_error_keeps _ _
    | ok read => exact changeId_of_event taken

theorem ChangeStream.attemptFailed_keeps (needs : stream.needsResubscribe = true) (again : Bool)
    (error : ClientError) : Keeps server log base line (stream.attemptFailed again error) := by
  unfold ChangeStream.attemptFailed
  split
  · exact needs
  · exact rfl

variable {again : Bool}

theorem ChangeStream.drainOn_keeps (unseen : stream.lastChangeId = 0)
    (needs : stream.needsResubscribe = true)
    (onLine : OnLine server line decoder.buffer
      (rows.map rowEvent ++ endEvent time base :: later log base)) :
    Keeps server log base line (stream.drainOn externals again columns decoder) := by
  have drained : match drain externals columns decoder with
      | .waits next => ∃ left : List (Nat × List Json),
          OnLine server line next.buffer (left.map rowEvent ++ endEvent time base :: later log base)
      | .done next => OnLine server line next.buffer (later log base)
      | .failed _ => True := drain_onLine onLine
  unfold ChangeStream.drainOn
  revert drained
  cases drain externals columns decoder with
  | waits next => exact fun ⟨left, carried⟩ => ⟨left, time, carried⟩
  | failed error => exact fun _ => attemptFailed_keeps needs again error
  | done next => exact fun carried => readOn_keeps unseen rfl carried

theorem ChangeStream.openOn_keeps (unseen : stream.lastChangeId = 0)
    (needs : stream.needsResubscribe = true) {snapshot : Snapshot}
    (onLine : OnLine server line decoder.buffer (snapshot.events base ++ later log base)) :
    Keeps server log base line (stream.openOn externals again decoder) := by
  have polled := NdjsonDecoder.poll_onLine onLine
  unfold ChangeStream.openOn
  simp only
  revert polled
  generalize decoder.poll externals.nextValue = result
  obtain ⟨poll, next⟩ := result
  cases poll with
  | ended | failed => exact fun _ => attemptFailed_keeps needs again _
  | waits => exact fun polled => ⟨snapshot, polled⟩
  | value json =>
    rintro ⟨rest, events, carried⟩
    obtain ⟨-, rfl⟩ := List.cons.inj events
    rw [append_eq, append_assoc] at carried
    simp only
    cases columnsOf externals json with
    | error error => exact attemptFailed_keeps needs again _
    | ok columns => exact drainOn_keeps unseen needs carried

variable {result : Except ClientError (List UInt8)} {before : Option (List UInt8)}

/-- What a read of the body leaves on the line, for a future that waits for it. -/
theorem ChangeStream.received_keeps (unseen : stream.lastChangeId = 0)
    (awaits : pending.Awaits stream)
    (keeps : Keeps server log base before (.suspended pending, stream))
    (feeds : ∀ chunk, result = .ok chunk → ∀ (decoder : NdjsonDecoder) events,
      OnLine server before decoder.buffer events →
      OnLine server line (decoder.feed chunk).buffer events) :
    Keeps server log base line (stream.received externals again pending result) := by
  have resubscribing := awaits.resubscribing
  cases pending with
  | requesting => exact keeps
  | opening decoder =>
    have needs : stream.needsResubscribe = true := resubscribing.mpr nofun
    cases result with
    | error error => exact attemptFailed_keeps needs again _
    | ok chunk =>
      obtain ⟨snapshot, onLine⟩ := keeps
      exact openOn_keeps unseen needs (feeds chunk rfl decoder _ onLine)
  | draining columns decoder =>
    have needs : stream.needsResubscribe = true := resubscribing.mpr nofun
    cases result with
    | error error => exact attemptFailed_keeps needs again _
    | ok chunk =>
      obtain ⟨rows, time, onLine⟩ := keeps
      exact drainOn_keeps unseen needs (feeds chunk rfl decoder _ onLine)
  | reading =>
    cases result with
    | error error => exact settle_error_keeps _ _
    | ok chunk =>
      obtain ⟨decoder, source⟩ := Option.isSome_iff_exists.mp awaits.reading.source
      have fed : (stream.fed chunk).decoder = some (decoder.feed chunk) := by
        rw [ChangeStream.fed, source, Option.map_some]
      exact readOn_keeps unseen fed (feeds chunk rfl decoder _ (keeps decoder source))

/-- What a client that has seen no change leaves on the line between two steps. -/
def Client.Keeps (server : Server externals) (log : List Change) (base : Nat)
    (line : Option (List UInt8)) (client : Client) : Prop :=
  match client.pending with
  | some pending => Corrosion.Keeps server log base line (.suspended pending, client.stream)
  | none => client.stream.needsResubscribe = false →
      Corrosion.Keeps server log base line (.suspended .reading, client.stream)

/-- What a step of a client that has seen no change leaves, or returns. -/
def StepKeeps (server : Server externals) (log : List Change) (base : Nat)
    (line : Option (List UInt8)) : Option Item × Client → Prop
  | (none, client) => client.Keeps server log base line
  | (some (.ok (some change)), _) => change.changeId = base + 1
  | (some _, _) => True

theorem Keeps.after {progress : Progress × ChangeStream}
    (keeps : Keeps server log base line progress) :
    StepKeeps server log base line (Progress.after progress) := by
  obtain ⟨progress, stream⟩ := progress
  cases progress with
  | suspended pending => exact keeps
  | returned item =>
    match item with
    | .ok (some change) => exact keeps
    | .ok none => trivial
    | .error _ => trivial

variable {client : Client} (consistent : client.Consistent)

include consistent

theorem Client.next_keeps (unseen : client.stream.lastChangeId = 0)
    (live : client.stream.finished = false) (keeps : client.Keeps server log base line) :
    StepKeeps server log base line (client.step externals .next) := by
  cases consistent with
  | @live stream lives =>
    refine Keeps.after ?_
    have source := lives.source
    rw [ChangeStream.start, if_neg (by simpa using live)]
    split
    · rename_i needs
      rw [if_pos needs] at source
      rw [if_pos source]
      exact needs
    · rename_i reads
      rw [if_neg reads] at source
      obtain ⟨decoder, found⟩ := Option.isSome_iff_exists.mp source
      exact ChangeStream.readOn_keeps unseen found (keeps (by simpa using reads) decoder found)
  | waiting awaits => exact keeps
  | ended finished => cases live.symm.trans finished

theorem Client.cancel_keeps (keeps : client.Keeps server log base line) :
    StepKeeps server log base line (client.step externals .cancel) := by
  cases consistent with
  | live lives => exact keeps
  | @waiting stream pending awaits =>
    intro connected
    cases pending with
    | reading => exact keeps
    | requesting | opening _ | draining _ _ =>
      cases connected.symm.trans (awaits.resubscribing.mpr nofun)
  | ended finished => exact keeps

theorem Client.refuse_keeps (keeps : client.Keeps server log base line) {reply : Reply}
    (refused : reply ≠ .accepted) :
    StepKeeps server log base line (client.step externals (.reply again reply)) := by
  cases consistent with
  | live lives => exact keeps
  | @waiting stream pending awaits =>
    cases pending with
    | requesting =>
      have needs : stream.needsResubscribe = true := awaits.resubscribing.mpr nofun
      cases reply with
      | failed error => exact (ChangeStream.attemptFailed_keeps needs again error).after
      | notFound => exact (ChangeStream.attemptFailed_keeps needs again _).after
      | accepted => exact absurd rfl refused
    | opening _ | draining _ _ | reading => exact keeps
  | ended finished => exact keeps

theorem Client.snapshot_keeps (unseen : client.stream.lastChangeId = 0)
    (waits : client.pending = some .requesting) {snapshot : Snapshot} (now : later log base = [])
    (sent : bytes = wire server.text newline (snapshot.events base))
    (spoken : ∀ event ∈ snapshot.events base, server.speaks event) :
    StepKeeps server log base (some bytes) (client.step externals (.reply again .accepted)) := by
  cases consistent with
  | live lives => cases waits
  | @waiting stream pending awaits =>
    cases waits
    have needs : stream.needsResubscribe = true := awaits.resubscribing.mpr nofun
    have onLine : OnLine server (some bytes) (NdjsonDecoder.buffer {})
        (snapshot.events base ++ later log base) := by
      rw [now, append_nil]
      exact ⟨bytes, rfl, ⟨[], nofun, by rw [sent]⟩, spoken⟩
    refine Keeps.after ?_
    show Corrosion.Keeps _ _ _ _ (if stream.lastChangeId = 0 then _ else _)
    rw [if_pos unseen]
    exact ChangeStream.openOn_keeps unseen needs onLine
  | ended finished => cases waits

theorem Client.read_keeps (unseen : client.stream.lastChangeId = 0)
    (keeps : client.Keeps server log base before) (reads : client.ReadsBody ∨ line = before)
    (feeds : ∀ chunk, result = .ok chunk → ∀ (decoder : NdjsonDecoder) events,
      OnLine server before decoder.buffer events →
      OnLine server line (decoder.feed chunk).buffer events) :
    StepKeeps server log base line (client.step externals (.read again result)) := by
  cases consistent with
  | waiting awaits => exact (ChangeStream.received_keeps unseen awaits keeps feeds).after
  | live _ | ended _ =>
    obtain ⟨pending, waits, -⟩ | rfl := reads
    · cases waits
    · exact keeps

end Linked

/-- The changes returned so far, and what followed them: the last change the stream knows of is the
last one it returned. -/
structure World.Counts (base : Nat) (world : World) (changes : List ChangeEvent)
    (rest : List Item) : Prop where
  returned : world.returned = changes.map (fun change => .ok (some change)) ++ rest
  numbered : changes.map ChangeEvent.changeId = List.range' (base + 1) changes.length
  ending : Ending world.client.stream.finished rest
  last : world.client.stream.lastChangeId = if changes = [] then 0 else base + changes.length

/-- The numbers of the changes returned have a successor. -/
def World.Bounded (world : World) : Prop :=
  ∀ change, .ok (some change) ∈ world.returned → change.changeId < wordLimit - 1

variable {action : Action}

section Counting

variable {externals : Externals} {base : Nat} {world : World} {changes : List ChangeEvent}
  {rest : List Item}

section Counts

variable (counts : world.Counts base changes rest)

include counts

theorem World.Counts.elsewhere (log : List Change) (line : Option (List UInt8)) :
    World.Counts base { world with log, line } changes rest :=
  { counts with }

theorem World.Counts.next (bounded : world.Bounded)
    (first : world.client.stream.lastChangeId = 0 → changeId = base + 1)
    (follows : Follows world.client.stream.lastChangeId changeId) :
    changeId = base + changes.length + 1 := by
  have last := counts.last
  by_cases none : changes = []
  · rw [if_pos none] at last
    rw [first last, none]
    rfl
  · rw [if_neg none] at last
    have positive := length_pos_of_ne_nil none
    have listed : base + changes.length ∈ changes.map ChangeEvent.changeId := by
      rw [counts.numbered, mem_range'_1]
      omega
    obtain ⟨change, member, same⟩ := mem_map.mp listed
    have small := bounded change (by
      rw [counts.returned]
      exact mem_append_left _ (mem_map_of_mem member))
    rw [follows (by omega), last]
    exact Nat.mod_eq_of_lt (by omega)

theorem World.Counts.seen (live : world.client.stream.finished = false) (some : world.returned ≠ []) :
    world.client.stream.lastChangeId ≠ 0 := by
  have ending := counts.ending
  rw [live] at ending
  cases ending
  have returned : changes ≠ [] := by
    rintro rfl
    exact some counts.returned
  have positive := length_pos_of_ne_nil returned
  rw [counts.last, if_neg returned]
  omega

end Counts

theorem World.act_counts (moves : Moves world.client (world.client.step externals action))
    (first : ∀ change after, world.client.step externals action = (some (.ok (some change)), after) →
      world.client.stream.lastChangeId = 0 → change.changeId = base + 1) (bounded : world.Bounded)
    (counts : world.Counts base changes rest) :
    ∃ changes rest, (world.act externals action).Counts base changes rest := by
  unfold World.act
  revert moves first
  generalize world.client.step externals action = result
  have ending := counts.ending
  rintro (⟨-, last, same⟩ | ⟨-, live, lives, follows, last⟩ | ⟨-, live, ends, last⟩ |
    ⟨finished, -⟩) first
  · refine ⟨changes, rest, ⟨by simp [counts.returned], counts.numbered, ?_, ?_⟩⟩
    · simpa only [same] using ending
    · simpa only [last] using counts.last
  · rename_i change after
    rw [live] at ending
    cases ending
    have next := counts.next bounded (first change after rfl) follows
    refine ⟨changes ++ [change], [], ⟨by simp [counts.returned], ?_, ?_, ?_⟩⟩
    · rw [map_append, counts.numbered, length_append, length_singleton,
        List.range'_concat, map_singleton, next]
      simp [Nat.add_right_comm]
    · simp [lives, Ending]
    · simp [last, next, Nat.add_assoc]
  · rename_i error after
    rw [live] at ending
    cases ending
    refine ⟨changes, [Exec.fail error], ⟨by simp [counts.returned], counts.numbered, ?_, ?_⟩⟩
    · rw [ends]
      exact ⟨error, 0, rfl⟩
    · simpa only [last] using counts.last
  · rw [finished] at ending
    obtain ⟨error, count, rfl⟩ := ending
    refine ⟨changes, Exec.fail error :: List.replicate (count + 1) (.ok none),
      ⟨by simp [counts.returned, replicate_succ'], counts.numbered, ?_, counts.last⟩⟩
    simp only [finished]
    exact ⟨error, count + 1, rfl⟩

end Counting

section Safety

variable {externals : Externals} {server : Server externals} {base : Nat} {world : World}

/-- The invariant of the system. -/
structure World.Sound (server : Server externals) (base : Nat) (world : World) : Prop where
  consistent : world.client.Consistent
  inside : base ≤ world.log.length
  spoken : ∀ event ∈ later world.log base, server.speaks event
  counts : world.Bounded → ∃ changes rest, world.Counts base changes rest
  keeps : world.Bounded → world.client.stream.lastChangeId = 0 →
    world.client.stream.finished = false → world.client.Keeps server world.log base world.line

theorem Moves.consistent {before after : Client} {answer : Option Item}
    (moves : Moves before (answer, after)) : after.Consistent := by
  cases moves <;> assumption

theorem World.Bounded.of_act (bounded : (world.act externals action).Bounded) : world.Bounded :=
  fun change member => bounded change (mem_append_left _ member)

variable {line : Option (List UInt8)}

theorem World.Sound.act (sound : world.Sound server base) {action : Action}
    (kept : world.client.stream.lastChangeId = 0 → world.client.stream.finished = false →
      world.client.Keeps server world.log base world.line →
      StepKeeps server world.log base line (world.client.step externals action)) :
    World.Sound server base ({ world with line }.act externals action) := by
  have moves := world.client.step_moves sound.consistent externals action
  have counted : ({ world with line }.act externals action).Bounded →
      ∃ changes rest, World.Counts base ({ world with line }.act externals action) changes rest := by
    intro bounded
    have before : world.Bounded := bounded.of_act
    obtain ⟨changes, rest, counts⟩ := sound.counts before
    refine World.act_counts moves ?_ before (counts.elsewhere world.log line)
    intro change after result unseen
    rw [result] at moves
    cases moves with
    | change _ live _ _ _ =>
      have keeps := kept unseen live (sound.keeps before unseen live)
      rw [result] at keeps
      exact keeps
  refine ⟨moves.consistent, sound.inside, sound.spoken, counted, fun bounded unseen live => ?_⟩
  have before : world.Bounded := bounded.of_act
  obtain ⟨changes, rest, counts⟩ := counted bounded
  revert kept moves counts unseen live
  unfold World.act
  generalize world.client.step externals action = result
  rintro kept (⟨-, last, same⟩ | ⟨-, -, -, -, last⟩ | ⟨-, -, ends, -⟩ | ⟨finished, -⟩) unseen live counts
  · have unseenBefore := last.symm.trans unseen
    have liveBefore := same.symm.trans live
    exact kept unseenBefore liveBefore (sound.keeps before unseenBefore liveBefore)
  · exact absurd unseen (counts.seen live (by simp))
  · cases ends.symm.trans live
  · cases finished.symm.trans live

theorem onLine_feed {chunk : List UInt8} (filled : chunk ≠ []) {decoder : NdjsonDecoder}
    {events : List Json} (onLine : OnLine server (some (chunk ++ bytes)) decoder.buffer events) :
    OnLine server (some bytes) (decoder.feed chunk).buffer events := by
  obtain ⟨sent, same, carries, spoken⟩ := onLine
  cases same
  rw [NdjsonDecoder.feed, if_neg filled]
  exact ⟨bytes, rfl, carries.receive, spoken⟩

theorem OnLine.write {buffer : List UInt8} {events : List Json}
    (onLine : OnLine server line buffer events) {event : Json} (spoken : server.speaks event) :
    OnLine server (line.map fun bytes => bytes ++ wire server.text newline [event]) buffer
      (events ++ [event]) := by
  obtain ⟨bytes, rfl, carries, each⟩ := onLine
  exact ⟨_, rfl, carries.send [event],
    forall_mem_append.mpr ⟨each, forall_mem_singleton.mpr spoken⟩⟩

theorem Keeps.write {log : List Change} (inside : base ≤ log.length)
    (spoken : server.speaks (change.event (log.length + 1))) {stream : ChangeStream}
    (keeps : Keeps server log base line (.suspended pending, stream)) :
    Keeps server (log ++ [change]) base
      (line.map fun bytes => bytes ++ wire server.text newline [change.event (log.length + 1)])
      (.suspended pending, stream) := by
  have longer := later_append inside change
  cases pending with
  | requesting => exact keeps
  | opening decoder =>
    obtain ⟨snapshot, onLine⟩ := keeps
    refine ⟨snapshot, ?_⟩
    rw [longer, ← append_assoc]
    exact onLine.write spoken
  | draining columns decoder =>
    obtain ⟨rows, time, onLine⟩ := keeps
    refine ⟨rows, time, ?_⟩
    rw [longer, ← cons_append, ← append_assoc]
    exact onLine.write spoken
  | reading =>
    intro decoder source
    rw [longer]
    exact (keeps decoder source).write spoken

/-- The step lemma: every step of the system keeps the invariant, as long as a subscription from
change 0 is answered only while the log ends at the base. -/
theorem World.Sound.step {after : World} (sound : world.Sound server base)
    (step : World.Step server (· = base) world after) : after.Sound server base := by
  have consistent := sound.consistent
  cases step with
  | write change spoken =>
    refine ⟨consistent, ?_, ?_, fun bounded => ?_, fun bounded unseen live => ?_⟩
    · rw [length_append]
      exact Nat.le_add_right_of_le sound.inside
    · rw [later_append sound.inside]
      exact forall_mem_append.mpr ⟨sound.spoken, forall_mem_singleton.mpr spoken⟩
    · obtain ⟨changes, rest, counts⟩ := sound.counts bounded
      exact ⟨changes, rest, counts.elsewhere _ _⟩
    · have keeps := sound.keeps bounded unseen live
      unfold Client.Keeps at keeps ⊢
      split
      · rename_i waits
        rw [waits] at keeps
        exact Keeps.write sound.inside spoken keeps
      · rename_i idle
        rw [idle] at keeps
        exact fun connected => Keeps.write sound.inside spoken (keeps connected)
  | call => exact sound.act fun unseen live keeps => Client.next_keeps consistent unseen live keeps
  | cancel => exact sound.act fun _ _ keeps => Client.cancel_keeps consistent keeps
  | refuse again reply refused =>
    exact sound.act fun _ _ keeps => Client.refuse_keeps consistent keeps refused
  | snapshot again snapshot waits unseen spoken now =>
    refine sound.act fun _ _ _ => Client.snapshot_keeps consistent unseen waits ?_ ?_ (now ▸ spoken)
    · rw [← now]
      exact later_length _
    · rw [now]
  | replay again waits seen => exact sound.act fun unseen => absurd unseen seen
  | deliver again chunk bytes reads sent filled =>
    refine sound.act fun unseen _ keeps => ?_
    refine Client.read_keeps consistent unseen keeps (.inl reads) ?_
    rintro _ ⟨rfl⟩ decoder events onLine
    rw [sent] at onLine
    exact onLine_feed filled onLine
  | arrive again chunk free =>
    refine sound.act fun unseen _ keeps => ?_
    refine Client.read_keeps consistent unseen keeps (.inr rfl) ?_
    rintro _ _ decoder events ⟨bytes, sent, -⟩
    cases free.symm.trans sent
  | close again =>
    refine sound.act fun unseen _ keeps => ?_
    refine Client.read_keeps consistent unseen keeps (.inr rfl) ?_
    rintro _ ⟨rfl⟩ decoder events onLine
    exact onLine
  | cut again error =>
    refine sound.act fun unseen _ keeps => ?_
    exact Client.read_keeps consistent unseen keeps (.inr rfl) fun _ failed => nomatch failed

/-- A subscription that has seen no change yet: its connection carries the changes of the log
after the base. -/
structure World.Started (server : Server externals) (base : Nat) (world : World) : Prop where
  opened : ∃ subscription : Subscription, subscription.intoChanges = .ok world.client.stream
  unseen : world.client.stream.lastChangeId = 0
  idle : world.client.pending = none
  unreturned : world.returned = []
  inside : base ≤ world.log.length
  onLine : ∀ decoder, world.client.stream.decoder = some decoder →
    OnLine server world.line decoder.buffer (later world.log base)

theorem World.Started.sound (started : world.Started server base) : world.Sound server base := by
  obtain ⟨subscription, opened⟩ := started.opened
  have live := live_of_intoChanges opened
  have source : ∃ decoder, world.client.stream.decoder = some decoder := by
    obtain ⟨from_, -, same⟩ := bind_eq_ok_iff.mp opened
    exact ⟨from_.1, by rw [← Except.ok.inj same]⟩
  obtain ⟨decoder, found⟩ := source
  obtain ⟨bytes, sent, carries, spoken⟩ := started.onLine decoder found
  refine ⟨?_, started.inside, spoken, fun _ => ⟨[], [], ?_⟩, fun _ _ _ => ?_⟩
  · have client : world.client = ⟨world.client.stream, none⟩ := by rw [← started.idle]
    rw [client]
    exact .live live
  · refine ⟨started.unreturned, rfl, ?_, started.unseen⟩
    rw [live.unfinished]
    rfl
  · unfold Client.Keeps
    rw [started.idle]
    exact fun _ => started.onLine

/-- A fresh subscription loses no change in a run in which every subscription from change 0 is
answered while the log still ends where it did at the start: the changes returned are those of
the log after that point, one after another, until an error ends the stream. -/
theorem fresh_subscription_complete (server : Server externals) {base : Nat} {first last : World}
    (started : first.Started server base)
    (reaches : Relation.ReflTransGen (World.Step server (· = base)) first last)
    (bounded : last.Bounded) :
    Consecutive (base + 1) last.client.stream.finished last.returned := by
  have sound := holds_of_reaches reaches started.sound fun step sound => World.Sound.step sound step
  obtain ⟨changes, rest, counts⟩ := sound.counts bounded
  exact ⟨changes, rest, counts.returned, counts.numbered, counts.ending⟩

end Safety

namespace Sample

section Table

variable {text : Json → List UInt8} {values : List Json}

/-- No text starts with another. -/
def Apart (text : Json → List UInt8) (values : List Json) : Prop :=
  values.Pairwise fun left right => ¬ text left <+: text right ∧ ¬ text right <+: text left

theorem find?_whole (apart : Apart text values) (member : json ∈ values) (solid : text json ≠ [])
    (rest : List UInt8) :
    values.find? (fun value => decide (text value ≠ []) &&
      (text value).isPrefixOf (text json ++ rest)) = some json := by
  induction values with
  | nil => cases member
  | cons value values ih =>
    obtain ⟨others, apart⟩ := pairwise_cons.mp apart
    rcases mem_cons.mp member with rfl | later
    · rw [find?_cons_of_pos]
      simp [solid]
    · rw [find?_cons_of_neg, ih apart later]
      intro found
      simp only [Bool.and_eq_true, isPrefixOf_iff_prefix] at found
      rcases prefix_or_prefix_of_prefix found.2 (prefix_append _ rest) with shorter | longer
      · exact (others json later).1 shorter
      · exact (others json later).2 longer

theorem find?_part (apart : Apart text values) (member : json ∈ values) {front : List UInt8}
    (inside : front <+: text json) (strict : front ≠ text json) :
    values.find? (fun value => decide (text value ≠ []) && (text value).isPrefixOf front) = none := by
  rw [find?_eq_none]
  intro value listed found
  simp only [Bool.and_eq_true, isPrefixOf_iff_prefix] at found
  have shorter := found.2.trans inside
  by_cases same : text value = text json
  · rw [same] at found
    exact strict (inside.eq_of_length (le_antisymm inside.length_le found.2.length_le))
  · have symmetric : Std.Symm fun left right =>
        ¬ text left <+: text right ∧ ¬ text right <+: text left := ⟨fun _ _ both => both.symm⟩
    exact (apart.forall listed member fun equal => same (congrArg text equal)).1 shorter

end Table

def snapshot : Snapshot := ⟨["id"], [(1, [.str "a"])], "0"⟩

def insertion : Change := ⟨"insert", 1, [.str "a"]⟩

/-- The events of a small server: snapshots of an empty log and of one change, and two
changes. -/
def events : List Json :=
  snapshot.events 0 ++ [endEvent "0" 1, insertion.event 1, insertion.event 2]

theorem apart_events : Apart text events := by
  unfold Apart
  decide +kernel

theorem solid_events (member : json ∈ events) : Solid isAsciiWhitespace (text json) := by
  have visible : ∀ value ∈ events,
      (text value).head?.map isAsciiWhitespace = some false := by decide +kernel
  obtain ⟨first, head, shown⟩ := Option.map_eq_some_iff.mp (visible json member)
  obtain ⟨rest, spelled⟩ := head?_eq_some_iff.mp head
  exact ⟨first, rest, spelled, shown⟩

theorem text_ne_nil (member : json ∈ events) : text json ≠ [] := by
  obtain ⟨first, rest, spelled, -⟩ := solid_events member
  rw [spelled]
  exact cons_ne_nil _ _

def server : Server (externals text events) where
  text := text
  speaks json := json ∈ events
  solid := solid_events
  whole := by
    intro json member rest
    simp only [externals, find?_whole apart_events member (text_ne_nil member) rest]
  part := by
    intro json member front _ inside strict value
    simp only [externals, find?_part apart_events member inside strict]
    intro read
    cases Option.some.inj read

/-- A subscription created without rows, before the first change. -/
def opening : World :=
  { client := ⟨⟨"query", some {}, 0, true, false, false⟩, none⟩, log := [], line := some [], returned := [] }

theorem started_opening : opening.Started server 0 := by
  refine ⟨⟨⟨"query", none, some {}, true⟩, rfl⟩, rfl, rfl, rfl, le_rfl, ?_⟩
  rintro decoder ⟨rfl⟩
  exact ⟨[], rfl, ⟨[], nofun, rfl⟩, nofun⟩

/-- The server makes a change. -/
def written (world : World) : World :=
  { world with
    log := world.log ++ [insertion]
    line := world.line.map fun bytes =>
      bytes ++ wire text newline [insertion.event (world.log.length + 1)] }

/-- The server answers a subscription from change 0. -/
def answered (world : World) : World :=
  { world with line := some (wire text newline (snapshot.events world.log.length)) }.act
    (externals text events) (.reply true .accepted)

/-- Everything on the line arrives. -/
def received (world : World) : World :=
  { world with line := some [] }.act (externals text events)
    (.read true (.ok (world.line.getD [])))

/-- The first call waits for a change when the connection ends. -/
def disconnected : World :=
  (opening.act (externals text events) .next).act (externals text events) (.read true (.ok []))

theorem reaches_disconnected (taken : Nat → Prop) :
    Relation.ReflTransGen (World.Step server taken) opening disconnected :=
  .tail (.single (.call opening)) (.close _ true)

/-- The client resubscribes, and a change is made after that. -/
def resumed (world : World) : World := received (written (received (answered world)))

/-- The connection ends before the first change. -/
def undisturbed : World := resumed disconnected

/-- The connection ends, and the first change is made before the snapshot. -/
def overtaken : World := resumed (written disconnected)

variable {taken : Nat → Prop} {world : World}

theorem received_step (waits : world.client.pending = some pending) (reads : pending ≠ .requesting)
    (sent : world.line = some bytes) (filled : bytes ≠ []) :
    World.Step server taken world (received world) := by
  unfold received
  rw [sent]
  exact .deliver world true bytes [] ⟨pending, waits, reads⟩ (by rw [sent, append_nil]) filled

theorem answered_step (waits : world.client.pending = some .requesting)
    (unseen : world.client.stream.lastChangeId = 0) (short : world.log.length ≤ 1)
    (now : taken world.log.length) : World.Step server taken world (answered world) := by
  refine .snapshot world true snapshot waits unseen ?_ now
  generalize world.log.length = length at short
  intro event member
  simp only [Snapshot.events, mem_cons, mem_append, not_mem_nil, or_false] at member
  show event ∈ events
  simp only [events, Snapshot.events, mem_cons, mem_append, not_mem_nil, or_false]
  rcases member with rfl | row | rfl
  · exact .inl (.inl rfl)
  · exact .inl (.inr (.inl row))
  · interval_cases length
    · exact .inl (.inr (.inr rfl))
    · exact .inr (.inl rfl)

theorem written_step (short : world.log.length ≤ 1) :
    World.Step server taken world (written world) := by
  refine .write world insertion ?_
  generalize world.log.length = length at short
  interval_cases length <;> simp [server, events]

theorem reaches_resumed (waits : world.client.pending = some .requesting)
    (unseen : world.client.stream.lastChangeId = 0) (short : world.log.length ≤ 1)
    (now : taken world.log.length)
    (opens : (answered world).client.pending = some (.opening {}))
    (reads : (written (received (answered world))).client.pending = some .reading)
    (filled : (written (received (answered world))).line.getD [] ≠ []) :
    Relation.ReflTransGen (World.Step server taken) world (resumed world) := by
  have answers : World.Step server taken world (answered world) :=
    answered_step waits unseen short now
  have drains : World.Step server taken _ (received (answered world)) :=
    received_step opens (by simp) rfl (by simp [wire, Snapshot.events])
  have writes : World.Step server taken _ (written (received (answered world))) :=
    written_step short
  have delivers : World.Step server taken _ (resumed world) :=
    received_step reads (by simp) rfl filled
  exact (((Relation.ReflTransGen.single answers).tail drains).tail writes).tail delivers

theorem reaches_undisturbed :
    Relation.ReflTransGen (World.Step server (· = 0)) opening undisturbed :=
  (reaches_disconnected _).trans (reaches_resumed (by decide +kernel) (by decide +kernel)
    (by decide +kernel) (by decide +kernel) (by decide +kernel) (by decide +kernel)
    (by decide +kernel))

theorem reaches_overtaken :
    Relation.ReflTransGen (World.Step server fun _ => True) opening overtaken :=
  ((reaches_disconnected _).tail (written_step (by decide +kernel))).trans
    (reaches_resumed (by decide +kernel) (by decide +kernel) (by decide +kernel) trivial
      (by decide +kernel) (by decide +kernel) (by decide +kernel))

theorem bounded_of_ids {id : Nat} (ids : idsOf world.returned = [id]) (small : id < wordLimit - 1) :
    world.Bounded := by
  intro change member
  have listed := mem_idsOf member
  rw [ids, mem_singleton] at listed
  rwa [listed]

end Sample

open Sample

theorem fresh_subscription_complete_sample :
    idsOf undisturbed.returned = [1] ∧
      Consecutive 1 undisturbed.client.stream.finished undisturbed.returned := by
  have ids : idsOf undisturbed.returned = [1] := by decide +kernel
  exact ⟨ids, fresh_subscription_complete server started_opening
    reaches_undisturbed (bounded_of_ids ids (by decide))⟩

/-- A change that is made while a fresh subscription is disconnected is lost: the snapshot that is
drained contains it, and the stream goes on with the change after it. -/
theorem fresh_subscription_skips_change :
    ∃ (externals : Externals) (server : Server externals) (first last : World),
      first.Started server 0 ∧
      Relation.ReflTransGen (World.Step server fun _ => True) first last ∧
      last.log.length = 2 ∧ last.client.stream.finished = false ∧ idsOf last.returned = [2] ∧
      last.Bounded ∧
      ¬ Consecutive 1 last.client.stream.finished last.returned := by
  have live : overtaken.client.stream.finished = false := by decide +kernel
  have ids : idsOf overtaken.returned = [2] := by decide +kernel
  refine ⟨_, server, opening, overtaken, started_opening,
    reaches_overtaken, by decide +kernel, live, ids,
    bounded_of_ids ids (by decide), ?_⟩
  rintro ⟨changes, rest, returned, numbered, ending⟩
  rw [live] at ending
  cases ending
  have listed : idsOf overtaken.returned = changes.map ChangeEvent.changeId := by
    rw [returned, append_nil]
    simp [idsOf, filterMap_map]
  rw [ids, numbered] at listed
  cases changes with
  | nil => cases listed
  | cons change changes =>
    rw [length_cons, List.range'_succ] at listed
    cases listed

end Ployz.Corrosion
