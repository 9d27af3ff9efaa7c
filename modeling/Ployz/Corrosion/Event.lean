import Ployz.Base.Json

/-!
# Events of a Corrosion query

The error type of the client and the events a query or a subscription is answered with. An event
is a JSON object; `parse_query_event` reads its members one after another, by names in any case,
a later member replacing an earlier one. The JSON library is a parameter: it finds the next
value of a buffer and words its complaints.
-/

namespace Ployz.Corrosion

/-- `ClientErrorKind`. -/
inductive ClientErrorKind where
  | admin
  | http
  | json
  | protocol
  | subscriptionNotFound
deriving DecidableEq, Repr

/-- `ClientError`: its source is absent, an error of a library, or another client error. -/
inductive ClientError where
  | new (kind : ClientErrorKind) (message : String)
  | withText (kind : ClientErrorKind) (message source : String)
  | withSource (kind : ClientErrorKind) (message : String) (source : ClientError)
deriving DecidableEq, Repr

/-- `ClientError::is_subscription_not_found`: the kind of the error or of one of its sources. -/
def ClientError.isSubscriptionNotFound : ClientError → Bool
  | .new kind _ => kind = .subscriptionNotFound
  | .withText kind _ _ => kind = .subscriptionNotFound
  | .withSource kind _ source => kind = .subscriptionNotFound || source.isSubscriptionNotFound

/-- `Display for ClientError`. -/
def ClientError.display : ClientError → String
  | .new _ message => message
  | .withText _ message source => message ++ ": " ++ source
  | .withSource _ message source => message ++ ": " ++ source.display

/-- `ChangeType`. -/
inductive ChangeType where
  | insert
  | update
  | delete
  | other (value : String)

/-- `Row`; its columns are kept undecoded. -/
structure Row where
  id : Nat
  values : Option (List Json)

/-- `EndOfQuery`; the time is kept as it is written. -/
structure EndOfQuery where
  time : String := "0"
  changeId : Option Nat := none

/-- `ChangeEvent`. -/
structure ChangeEvent where
  changeType : ChangeType
  rowId : Nat
  values : Option (List Json)
  changeId : Nat

/-- `QueryEvent`. -/
structure QueryEvent where
  columns : Option (List String) := none
  row : Option Row := none
  «end» : Option EndOfQuery := none
  change : Option ChangeEvent := none
  error : Option String := none

/-- A complaint of the streaming JSON parser. -/
structure StreamError where
  isEof : Bool
  text : String

/-- The JSON library as the client uses it. -/
structure Externals where
  /-- The first value of a buffer and the bytes it takes, if the buffer holds any value. -/
  nextValue : List UInt8 → Option (Except StreamError (Json × Nat))
  takes_some : ∀ {buffer json taken}, nextValue buffer = some (.ok (json, taken)) → 0 < taken
  /-- Whether a literal is the literal of a finite double. -/
  finite : String → Bool
  /-- How a value that is not of the expected type is refused. -/
  complaint : String → Json → String
  /-- `Debug for QueryEvent`. -/
  debug : QueryEvent → String

/-- The largest `u64` plus one. -/
def wordLimit : Nat := 2 ^ 64

section Parsing

variable (externals : Externals)

/-- `decode`: read a value as one type. -/
def decode {α : Type} (expected : String) (read : Json → Option α) (json : Json)
    (context : String) : Except ClientError α :=
  match read json with
  | some value => .ok value
  | none => .error (.withText .json context (externals.complaint expected json))

def parseValues (json : Json) (context : String) : Except ClientError (Option (List Json)) :=
  decode externals "a sequence" (Json.nullable Json.array) json context

def parseRowEvent (json : Json) : Except ClientError Row := do
  match ← decode externals "a sequence" Json.array json "invalid row event" with
  | [id, values] =>
    let id ← decode externals "u64" (Json.unsigned wordLimit) id "invalid row event row ID"
    let values ← parseValues externals values "invalid row event values"
    pure ⟨id, values⟩
  | _ => throw (.new .protocol "invalid row event: expected an array of 2 elements")

/-- The type of a change from its name. -/
def ChangeType.fromName : String → ChangeType
  | "insert" => .insert
  | "update" => .update
  | "delete" => .delete
  | name => .other name

def parseChangeEvent (json : Json) : Except ClientError ChangeEvent := do
  match ← decode externals "a sequence" Json.array json "invalid change event" with
  | [name, rowId, values, changeId] =>
    let name ← decode externals "a string" Json.string name "invalid change event type"
    let rowId ← decode externals "u64" (Json.unsigned wordLimit) rowId
      "invalid change event row ID"
    let values ← parseValues externals values "invalid change event values"
    let changeId ← decode externals "u64" (Json.unsigned wordLimit) changeId
      "invalid change event change ID"
    pure ⟨.fromName name, rowId, values, changeId⟩
  | _ => throw (.new .protocol "invalid change event: expected an array of 4 elements")

def eqIgnoreAsciiCase (left right : String) : Bool :=
  left.toList.map Char.toLower = right.toList.map Char.toLower

/-- A double, kept as its literal. -/
def readTime : Json → Option String
  | .num literal => if externals.finite literal then some literal else none
  | _ => none

/-- One member in `merge_end_of_query`. -/
def mergeEndMember (final : EndOfQuery) : String × Json → Except ClientError EndOfQuery
  | (key, value) =>
    if eqIgnoreAsciiCase key "time" ∧ value.isNull = false then do
      let time ← decode externals "f64" (readTime externals) value "invalid end-of-query time"
      pure { final with time }
    else if eqIgnoreAsciiCase key "change_id" then do
      let changeId ← decode externals "u64" (Json.nullable (Json.unsigned wordLimit)) value
        "invalid end-of-query change ID"
      pure { final with changeId }
    else pure final

def mergeEndOfQuery (final : EndOfQuery) (json : Json) : Except ClientError EndOfQuery := do
  let members ← decode externals "a JSON object" Json.members json "invalid end-of-query event"
  members.foldlM (mergeEndMember externals) final

/-- A member that `null` clears and any other value sets. -/
def unlessNull {α : Type} (parse : Json → Except ClientError α) (json : Json) :
    Except ClientError (Option α) :=
  if json.isNull then .ok none else (parse json).map some

/-- One member in `parse_query_event`. -/
def parseMember (event : QueryEvent) : String × Json → Except ClientError QueryEvent
  | (key, value) =>
    if eqIgnoreAsciiCase key "columns" then do
      let columns ← decode externals "a sequence" (Json.nullable (Json.listOf Json.string)) value
        "invalid columns event"
      pure { event with columns }
    else if eqIgnoreAsciiCase key "row" then do
      let row ← unlessNull (parseRowEvent externals) value
      pure { event with row }
    else if eqIgnoreAsciiCase key "eoq" then do
      -- a repeated member is merged into what the earlier one set
      let merged ← unlessNull (mergeEndOfQuery externals (event.end.getD {})) value
      pure { event with «end» := merged }
    else if eqIgnoreAsciiCase key "change" then do
      let change ← unlessNull (parseChangeEvent externals) value
      pure { event with change }
    else if eqIgnoreAsciiCase key "error" then do
      let error ← decode externals "a string" (Json.nullable Json.string) value
        "invalid query error"
      pure { event with error }
    else pure event

def parseQueryEvent (json : Json) : Except ClientError QueryEvent := do
  let members ← decode externals "a JSON object" Json.members json "decode query event"
  members.foldlM (parseMember externals) {}

end Parsing

end Ployz.Corrosion
