import Ployz.Base.Exec
import Ployz.Corrosion.Event

/-!
# The change stream of a subscription

`ChangeStream::next` is a future: it runs until it awaits the network, is resumed with what
arrived, and may be dropped while it waits, which loses its local variables and keeps the fields
of the stream. A `Client` is the stream together with the future that is pending, if any. Every
function below runs the future from one await to the next.
-/

namespace Ployz.Corrosion

/-- `NdjsonDecoder`, without the response body it reads from. -/
structure NdjsonDecoder where
  buffer : List UInt8 := []
  eof : Bool := false
deriving DecidableEq

def isAsciiWhitespace (byte : UInt8) : Bool :=
  byte = 0x20 || byte = 0x09 || byte = 0x0a || byte = 0x0c || byte = 0x0d

/-- What `next_raw` comes to without reading from the body. -/
inductive Poll (α : Type) where
  | value (found : α)
  | ended
  | failed (error : ClientError)
  /-- The body has to be read first. -/
  | waits

/-- The first answer of the stream deserializer of the JSON library on a buffer: a value with the
offset behind it, or a complaint. -/
abbrev Deserializer (α : Type) := List UInt8 → Option (Except StreamError (α × Nat))

namespace NdjsonDecoder

/-- The buffer without the white space in front. -/
def trimmed (self : NdjsonDecoder) : NdjsonDecoder :=
  { self with buffer := self.buffer.dropWhile isAsciiWhitespace }

/-- The end of an iteration of `next_raw` that found no value. -/
def short {α : Type} (self : NdjsonDecoder) : Poll α := if self.eof then .ended else .waits

/-- An iteration of `next_raw` up to the read of the body. -/
def poll {α : Type} (next : Deserializer α) (self : NdjsonDecoder) : Poll α × NdjsonDecoder :=
  if self.trimmed.buffer = [] then (self.short, self.trimmed)
  else
    match next self.trimmed.buffer with
    | some (.ok (found, taken)) =>
      (.value found, { self with buffer := self.trimmed.buffer.drop taken })
    | some (.error error) =>
      if error.isEof ∧ self.eof = false then (.waits, self.trimmed)
      else (.failed (.withText .json "decode query event" error.text), self.trimmed)
    | none => (self.short, self.trimmed)

/-- The bytes of a read; none are the end of the body. -/
def feed (self : NdjsonDecoder) (chunk : List UInt8) : NdjsonDecoder :=
  if chunk = [] then { self with eof := true } else { self with buffer := self.buffer ++ chunk }

theorem length_trimmed (self : NdjsonDecoder) :
    self.trimmed.buffer.length ≤ self.buffer.length :=
  (List.dropWhile_suffix _).length_le

theorem length_poll (externals : Externals) {self next : NdjsonDecoder} {json : Json}
    (found : self.poll externals.nextValue = (.value json, next)) :
    next.buffer.length < self.buffer.length := by
  unfold poll at found
  split at found
  · unfold short at found
    split at found <;> cases (Prod.mk.inj found).1
  · rename_i filled
    split at found
    · rename_i taken value
      rw [← (Prod.mk.inj found).2, List.length_drop]
      have positive := externals.takes_some value
      have some := List.length_pos_of_ne_nil filled
      have bound := self.length_trimmed
      omega
    · split at found <;> cases (Prod.mk.inj found).1
    · unfold short at found
      split at found <;> cases (Prod.mk.inj found).1

end NdjsonDecoder

/-- The complaint of every reader of events about a body that ended. -/
def endOfBody : ClientError := .new .protocol "decode query event: EOF"

/-- `Rows`, of a response that stays open after its last row. -/
structure Rows where
  columns : List String
  decoder : Option NdjsonDecoder
  «end» : Option EndOfQuery := none
  failed : Bool := false

/-- What `Rows::next` makes of an event. -/
inductive RowStep where
  | row (row : Row)
  | finished (final : EndOfQuery)
  | failed (error : ClientError)

section Events

variable (externals : Externals)

/-- The columns `Rows::new` reads from its first event. -/
def columnsOf (json : Json) : Except ClientError (List String) := do
  let event ← parseQueryEvent externals json
  match event.columns with
  | some columns => .ok columns
  | none => .error (.new .protocol ("expected columns event, got: " ++ externals.debug event))

/-- The branches of `Rows::next` on an event that was read. -/
def rowOfEvent (columns : List String) (event : QueryEvent) : RowStep :=
  match event.error, event.row, event.end with
  | some error, _, _ => .failed (.new .protocol ("query error: " ++ error))
  | none, some row, _ =>
    let count := (row.values.map List.length).getD 0
    if count ≠ columns.length then
      .failed (.new .protocol ("expected " ++ toString columns.length ++ " column values, got " ++
        toString count))
    else .row row
  | none, none, some final => .finished final
  | none, none, none =>
    .failed (.new .protocol ("expected row or eof event, got: " ++ externals.debug event))

/-- `Rows::next` on the next value of the body. -/
def rowOf (columns : List String) (json : Json) : RowStep :=
  match parseQueryEvent externals json with
  | .error error => .failed error
  | .ok event => rowOfEvent externals columns event

/-- Where the loop that drains the rows of a snapshot stops. -/
inductive Drained where
  | waits (decoder : NdjsonDecoder)
  | failed (error : ClientError)
  | done (decoder : NdjsonDecoder)

/-- `while rows.next().await?.is_some() {}` up to the next read, and the decoder that is taken
from the rows after it. -/
def drain (columns : List String) (decoder : NdjsonDecoder) : Drained :=
  match _found : decoder.poll externals.nextValue with
  | (.waits, next) => .waits next
  | (.ended, _) => .failed endOfBody
  | (.failed error, _) => .failed error
  | (.value json, next) =>
    match rowOf externals columns json with
    | .row _ => drain columns next
    | .finished _ => .done next
    | .failed error => .failed error
termination_by decoder.buffer.length
decreasing_by exact NdjsonDecoder.length_poll externals _found

def expectedChangeId (lastChangeId : Nat) : Option Nat :=
  if lastChangeId ≠ 0 then some ((lastChangeId + 1) % wordLimit) else none

/-- The check of `ChangeStream::next` on a change. -/
def checkChange (lastChangeId : Nat) (change : ChangeEvent) : Except ClientError ChangeEvent :=
  match expectedChangeId lastChangeId with
  | some expected =>
    if change.changeId ≠ expected then
      .error (.new .protocol ("missed a change: expected change ID " ++ toString expected ++
        ", got " ++ toString change.changeId))
    else .ok change
  | none => .ok change

/-- What `ChangeStream::next` makes of an event. -/
def changeOfEvent (lastChangeId : Nat) (event : QueryEvent) : Except ClientError ChangeEvent :=
  match event.error, event.change with
  | some error, _ => .error (.new .protocol ("query error: " ++ error))
  | none, some change => checkChange lastChangeId change
  | none, none => .error (.new .protocol ("expected change event, got: " ++ externals.debug event))

/-- `ChangeStream::next` on the next value of the body. -/
def changeOf (lastChangeId : Nat) (json : Json) : Except ClientError ChangeEvent := do
  changeOfEvent externals lastChangeId (← parseQueryEvent externals json)

end Events

/-- `ChangeStream`; of its client only whether it resubscribes matters. -/
structure ChangeStream where
  id : String
  decoder : Option NdjsonDecoder
  lastChangeId : Nat
  resubscribes : Bool
  needsResubscribe : Bool
  finished : Bool

/-- `Subscription`. -/
structure Subscription where
  id : String
  rows : Option Rows
  decoder : Option NdjsonDecoder
  resubscribes : Bool

/-- The start of the changes that follow the rows of a snapshot. -/
def Rows.changesFrom (rows : Rows) : Except ClientError (NdjsonDecoder × Nat) :=
  match rows.end with
  | none => .error (.new .protocol "changes are not available until all rows are consumed")
  | some final =>
    match final.changeId, rows.decoder with
    | none, _ => .error (.new .protocol "end-of-query event has no change ID")
    | some _, none => .error (.new .protocol "subscription response is closed")
    | some changeId, some decoder => .ok (decoder, changeId)

/-- The decoder and the last change that `into_changes` starts from. -/
def Subscription.changesFrom (self : Subscription) : Except ClientError (NdjsonDecoder × Nat) :=
  match self.rows, self.decoder with
  | some rows, _ => rows.changesFrom
  | none, some decoder => .ok (decoder, 0)
  | none, none => .error (.new .protocol "subscription response is closed")

def Subscription.intoChanges (self : Subscription) : Except ClientError ChangeStream := do
  let source ← self.changesFrom
  pure ⟨self.id, some source.1, source.2, self.resubscribes, false, false⟩

/-- The await a future is suspended at. -/
inductive Pending where
  /-- `resubscribe`, waiting before an attempt or for its response. -/
  | requesting
  /-- `Rows::new` of a resubscription, reading the body. -/
  | opening (decoder : NdjsonDecoder)
  /-- The drain of a snapshot, reading the body. -/
  | draining (columns : List String) (decoder : NdjsonDecoder)
  /-- `next_raw` of the stream, reading the body. -/
  | reading
deriving DecidableEq

/-- What a call of `next` returned: a change, nothing, an error or a panic. -/
abbrev Item := Exec ClientError (Option ChangeEvent)

/-- Where a future stops: at an await, or with its result. -/
inductive Progress where
  | suspended (pending : Pending)
  | returned (item : Item)

/-- The response to an attempt to resubscribe. -/
inductive Reply where
  /-- The request failed, or its status is neither 200 nor 404. -/
  | failed (error : ClientError)
  | notFound
  | accepted

namespace ChangeStream

variable (externals : Externals) (self : ChangeStream)

/-- The last result of the stream. -/
def finish (error : ClientError) : Progress × ChangeStream :=
  (.returned (Exec.fail error), { self with finished := true, decoder := none })

/-- The end of an iteration of `next`. An error starts the next iteration with a
resubscription. -/
def settle : Except ClientError ChangeEvent → Progress × ChangeStream
  | .ok change => (.returned (.ok (some change)), { self with lastChangeId := change.changeId })
  | .error error =>
    if self.resubscribes then
      (.suspended .requesting, { self with decoder := none, needsResubscribe := true })
    else self.finish error

/-- The second half of an iteration of `next`: read an event off the stream's own decoder. -/
def readOn : Progress × ChangeStream :=
  match self.decoder with
  | none => (.returned (Exec.expect none), self)
  | some decoder =>
    match decoder.poll externals.nextValue with
    | (.waits, next) => (.suspended .reading, { self with decoder := some next })
    | (.ended, next) => { self with decoder := some next }.settle (.error endOfBody)
    | (.failed error, next) => { self with decoder := some next }.settle (.error error)
    | (.value json, next) =>
      { self with decoder := some next }.settle (changeOf externals self.lastChangeId json)

/-- A resubscription that succeeded. -/
def resume (decoder : NdjsonDecoder) : Progress × ChangeStream :=
  { self with decoder := some decoder, needsResubscribe := false }.readOn externals

/-- An attempt to resubscribe that failed. It is repeated while the backoff has another delay,
unless the subscription is gone. -/
def attemptFailed (again : Bool) (error : ClientError) : Progress × ChangeStream :=
  if again ∧ error.isSubscriptionNotFound = false then (.suspended .requesting, self)
  else self.finish (.withSource .protocol "resubscribe to query with backoff" error)

/-- The drain of a snapshot, resumed with the decoder it has come to. -/
def drainOn (again : Bool) (columns : List String) (decoder : NdjsonDecoder) :
    Progress × ChangeStream :=
  match drain externals columns decoder with
  | .waits next => (.suspended (.draining columns next), self)
  | .failed error => self.attemptFailed again error
  | .done next => self.resume externals next

/-- `Rows::new` of a resubscription, resumed with the decoder it has come to. -/
def openOn (again : Bool) (decoder : NdjsonDecoder) : Progress × ChangeStream :=
  let refused (error : ClientError) :=
    self.attemptFailed again (.withSource .protocol "parse resubscribe response" error)
  match decoder.poll externals.nextValue with
  | (.waits, next) => (.suspended (.opening next), self)
  | (.ended, _) => refused endOfBody
  | (.failed error, _) => refused error
  | (.value json, next) =>
    match columnsOf externals json with
    | .error error => refused error
    | .ok columns => self.drainOn externals again columns next

/-- `resubscribe_once` from its response on. From change 0 the server sends a snapshot, which is
drained; from any other change the changes come first. -/
def replied (again : Bool) : Reply → Progress × ChangeStream
  | .failed error => self.attemptFailed again error
  | .notFound => self.attemptFailed again (.new .subscriptionNotFound "subscription not found")
  | .accepted => if self.lastChangeId = 0 then self.openOn externals again {}
      else self.resume externals {}

/-- `next`, up to its first await. A client that does not resubscribe has no backoff to
resubscribe with. -/
def start : Progress × ChangeStream :=
  if self.finished then (.returned (.ok none), self)
  else if self.needsResubscribe then
    if self.resubscribes then (.suspended .requesting, self)
    else (.returned (Exec.expect none), self)
  else self.readOn externals

/-- The bytes of a read of the stream's own body. -/
def fed (chunk : List UInt8) : ChangeStream :=
  { self with decoder := self.decoder.map fun decoder => decoder.feed chunk }

/-- A read of the body, for the future that waits for it. -/
def received (again : Bool) (pending : Pending) (result : Except ClientError (List UInt8)) :
    Progress × ChangeStream :=
  match pending, result with
  | .requesting, _ => (.suspended .requesting, self)
  | .opening decoder, .ok chunk => self.openOn externals again (decoder.feed chunk)
  | .opening _, .error error =>
    self.attemptFailed again (.withSource .protocol "parse resubscribe response" error)
  | .draining columns decoder, .ok chunk =>
    self.drainOn externals again columns (decoder.feed chunk)
  | .draining _ _, .error error => self.attemptFailed again error
  | .reading, .ok chunk => (self.fed chunk).readOn externals
  | .reading, .error error => self.settle (.error error)

end ChangeStream

/-- A stream and its pending future. -/
structure Client where
  stream : ChangeStream
  pending : Option Pending := none

/-- What can happen to a client. The flag says whether the backoff of the resubscription has
another delay, should the attempt fail. -/
inductive Action where
  /-- `next` is called. -/
  | next
  /-- The pending future is dropped. -/
  | cancel
  /-- The response to an attempt to resubscribe arrives. -/
  | reply (again : Bool) (reply : Reply)
  /-- A read of the body ends: with bytes, with none at the end of the body, or with an error. -/
  | read (again : Bool) (result : Except ClientError (List UInt8))

/-- The client after its future has run. -/
def Progress.after : Progress × ChangeStream → Option Item × Client
  | (.suspended pending, stream) => (none, ⟨stream, some pending⟩)
  | (.returned item, stream) => (some item, ⟨stream, none⟩)

/-- One step of a client, and the result of the call it ends. What does not concern the pending
future changes nothing. -/
def Client.step (externals : Externals) (client : Client) : Action → Option Item × Client
  | .next =>
    match client.pending with
    | none => Progress.after (client.stream.start externals)
    | some _ => (none, client)
  | .cancel => (none, { client with pending := none })
  | .reply again reply =>
    match client.pending with
    | some .requesting => Progress.after (client.stream.replied externals again reply)
    | _ => (none, client)
  | .read again result =>
    match client.pending with
    | some pending => Progress.after (client.stream.received externals again pending result)
    | none => (none, client)

end Ployz.Corrosion
