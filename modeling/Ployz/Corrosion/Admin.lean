import Ployz.Base.Bytes
import Ployz.Base.Run
import Ployz.Corrosion.Event

/-!
# The admin protocol

Responses of a Corrosion admin command, each behind its length in four bytes. `next` is a future
that waits for the socket in two places. What it has read is kept in the reader of the responses,
so that a later call goes on from there when the future is dropped. The JSON library is a
parameter.
-/

namespace Ployz.Corrosion.Admin

def encodeFrame (data : List UInt8) : List UInt8 := toBytes 4 (data.length % 2 ^ 32) ++ data

/-- The JSON library as the reader of responses uses it. -/
structure Externals where
  /-- `serde_json::from_slice`. -/
  fromSlice : List UInt8 → Except String Json
  float : String → Option String
  /-- `Debug` of the members of an object. -/
  debug : List (String × Json) → String

mutual

/-- `normalize_numbers_to_f64`. -/
def normalizeNumbers (float : String → Option String) : Json → Json
  | .num literal => .num ((float literal).getD literal)
  | .arr items => .arr (normalizeItems float items)
  | .obj members => .obj (normalizeMembers float members)
  | json => json

def normalizeItems (float : String → Option String) : List Json → List Json
  | [] => []
  | item :: items => normalizeNumbers float item :: normalizeItems float items

def normalizeMembers (float : String → Option String) :
    List (String × Json) → List (String × Json)
  | [] => []
  | (name, value) :: members =>
    (name, normalizeNumbers float value) :: normalizeMembers float members

end

/-- What `next` makes of a frame. -/
inductive Response where
  | fails (error : ClientError)
  | succeeds
  | yields (json : List (String × Json))
  /-- The loop goes on with the next frame. -/
  | skips

/-- The branches of `next` on the data of a frame. -/
def respond (externals : Externals) (data : List UInt8) : Response :=
  match externals.fromSlice data with
  | .error error => .fails (.withText .json "unmarshal response" error)
  | .ok decoded =>
    match normalizeNumbers externals.float decoded with
    | .str value => if value = "Success" then .succeeds else .skips
    | .obj object =>
      match object.lookup "Error" with
      | some (.obj error) =>
        match error.lookup "msg" with
        | some (.str message) => .fails (.new .admin message)
        | _ => .fails (.new .admin ("invalid error response: " ++ externals.debug error))
      | _ =>
        match object.lookup "Json" with
        | some (.obj json) => .yields json
        | _ => .skips
    | _ => .skips

/-- The socket: the bytes still to come and how it ends, with an error or without. -/
structure Socket where
  bytes : List UInt8
  failure : Option String := none

/-- A read into a buffer, which takes at most `count + 1` bytes. No bytes are the end. -/
def Socket.read (self : Socket) (limit count : Nat) : Except String (List UInt8) × Socket :=
  if self.bytes = [] then
    match self.failure with
    | none => (.ok [], self)
    | some error => (.error error, self)
  else
    (.ok (self.bytes.take (min (count + 1) limit)),
      { self with bytes := self.bytes.drop (min (count + 1) limit) })

/-- The data of a frame that is being read: its length and the bytes read so far. -/
structure FrameData where
  length : Nat
  read : List UInt8
deriving DecidableEq

/-- `AdminResponses`, without its connection; `frameHead` is the part of the head that has been
read. -/
structure AdminResponses where
  finished : Bool := false
  frameHead : List UInt8 := []
  frameData : Option FrameData := none
deriving DecidableEq

/-- Where a future waits for the socket. -/
inductive Await where
  | head
  | data
deriving DecidableEq

/-- What `read_frame` comes to before it waits. -/
inductive FrameOutcome where
  | pending (await : Await)
  | frame (data : List UInt8)
  | failed (error : ClientError)

/-- An item of the responses. -/
abbrev Item := Except ClientError (List (String × Json))

/-- What `next` comes to before it waits. -/
inductive Outcome where
  | pending (await : Await)
  | returned (item : Option Item)

namespace AdminResponses

variable (externals : Externals) (self : AdminResponses)

/-- The loop of `read_frame` over the data, and what follows it. -/
def readData (data : FrameData) : FrameOutcome × AdminResponses :=
  if data.read.length < data.length then (.pending .data, { self with frameData := some data })
  else (.frame data.read, { self with frameHead := [], frameData := none })

/-- `read_frame` behind the loop over the head. -/
def startData : FrameOutcome × AdminResponses :=
  self.readData (self.frameData.getD ⟨ofBytes self.frameHead, []⟩)

/-- `read_frame` up to where it waits first. -/
def readFrame : FrameOutcome × AdminResponses :=
  if self.frameHead.length < 4 then (.pending .head, self) else self.startData

/-- The room in the buffer of the read that is waited for. -/
def room : Await → Nat
  | .head => 4 - self.frameHead.length
  | .data =>
    match self.frameData with
    | none => 0
    | some data => data.length - data.read.length

/-- What the errors of a read are about. -/
def context : Await → String
  | .head => "read frame head"
  | .data => "read frame data"

/-- `read_frame` from where it waited up to where it waits again. -/
def resumeFrame (await : Await) : Except String (List UInt8) → FrameOutcome × AdminResponses
  | .error error => (.failed (.withText .admin (context await) error), self)
  | .ok [] => (.failed (.new .admin (context await ++ ": unexpected EOF")), self)
  | .ok (byte :: bytes) =>
    match await with
    | .head => { self with frameHead := self.frameHead ++ byte :: bytes }.readFrame
    | .data =>
      match self.frameData with
      | none => (.pending .data, self)
      | some data => self.readData { data with read := data.read ++ byte :: bytes }

/-- The loop of `next` on what `read_frame` comes to. A frame without a response makes it call
`read_frame` again, which waits for the next head. -/
def deliver : FrameOutcome × AdminResponses → Outcome × AdminResponses
  | (.pending await, after) => (.pending await, after)
  | (.failed error, after) => (.returned (some (.error error)), { after with finished := true })
  | (.frame data, after) =>
    match respond externals data with
    | .fails error => (.returned (some (.error error)), { after with finished := true })
    | .succeeds => (.returned none, { after with finished := true })
    | .yields json => (.returned (some (.ok json)), after)
    | .skips => (.pending .head, after)

/-- `AdminResponses::next` up to where it waits first. -/
def next : Outcome × AdminResponses :=
  if self.finished then (.returned none, self) else deliver externals self.readFrame

/-- A future of `read_frame` is polled through reads of the given sizes, or until it returns. -/
def driveFrame : FrameOutcome × AdminResponses → Socket → List Nat →
    (FrameOutcome × AdminResponses) × Socket
  | (.pending await, self), socket, count :: counts =>
    let (read, left) := socket.read (self.room await) count
    driveFrame (self.resumeFrame await read) left counts
  | reached, socket, _ => (reached, socket)

end AdminResponses

/-- The reader and its connection. -/
structure Connection where
  responses : AdminResponses
  socket : Socket

namespace Connection

variable (externals : Externals)

/-- A future that waits gets what its read returns. -/
def resume (self : Connection) (await : Await) (count : Nat) : Outcome × Connection :=
  let (read, socket) := self.socket.read (self.responses.room await) count
  let (outcome, responses) :=
    AdminResponses.deliver externals (self.responses.resumeFrame await read)
  (outcome, ⟨responses, socket⟩)

/-- A future is polled through reads of the given sizes, or until it returns. -/
def drive : Outcome × Connection → List Nat → Outcome × Connection
  | (.pending await, self), count :: counts => drive (self.resume externals await count) counts
  | (.pending await, self), [] => (.pending await, self)
  | (.returned item, self), _ => (.returned item, self)

/-- A call of `next` whose future is polled through reads of the given sizes and dropped if it
has not returned by then. -/
def call (self : Connection) (counts : List Nat) : Option (Option Item) × Connection :=
  let (outcome, responses) := self.responses.next externals
  match drive externals (outcome, ⟨responses, self.socket⟩) counts with
  | (.returned item, after) => (some item, after)
  | (.pending _, after) => (none, after)

/-- What the calls return that are not dropped before. -/
def returned (self : Connection) (calls : List (List Nat)) : List (Option Item) :=
  (run (call externals) self calls).1.reduceOption

end Connection

end Ployz.Corrosion.Admin
