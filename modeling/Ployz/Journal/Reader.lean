import Ployz.Base.Text

/-!
# Reading the journal

The output of `journalctl` is read in lines, with the limit of Go's line scanner, and each line
becomes a log entry. A reader delivers its bytes in reads of its own choice; one of them may fail.
Times are nanoseconds since the epoch.
-/

namespace Ployz.Journal

def maxScanTokenSize : Nat := 64 * 1024

/-- What a read of the underlying reader delivers, if it is not at its end. -/
inductive Delivery
  | data (first : UInt8) (rest : List UInt8)
  | fail (error : String)

/-- `LogStreamType`, for the streams of the journal. -/
inductive LogStreamType
  | unknown
  | stdout
  deriving DecidableEq

/-- `LogEntry`, with the text of its error. -/
structure LogEntry where
  stream : LogStreamType := .unknown
  timestamp : Option Int := none
  message : List UInt8 := []
  error : Option String := none
  deriving DecidableEq

/-- The error entry of a read. -/
def failure (error : String) : LogEntry := { error := some ("journal logs: " ++ error) }

def tokenTooLong : String := "bufio.Scanner: token too long"

/-- `parse_i64`. A byte that is not of an ASCII text is no digit, so that the check of the encoding
makes no difference. -/
def parseI64 (data : List UInt8) : Option Int :=
  (parseSigned (2 ^ 63) (data.map fun byte => Char.ofNat byte.toNat)).toOption

/-- `parse_unix_timestamp`; an instant has its seconds in an `i64`. -/
def parseUnixTimestamp (data : List UInt8) : Option Int := do
  let separator ← data.findIdx? (· = 46)
  let seconds ← parseI64 (data.take separator)
  let microseconds ← parseI64 (data.drop (separator + 1))
  let nanoseconds := (microseconds * 1000).bmod (2 ^ 64)
  some (seconds * 1000000000 + nanoseconds) |>.filter fun total =>
    -2 ^ 63 ≤ total / 1000000000 && total / 1000000000 < 2 ^ 63

def entry (data : List UInt8) : LogEntry :=
  let (timestamp, message) : Option Int × List UInt8 :=
    ((data.findIdx? (· = 32)).bind fun separator =>
      (parseUnixTimestamp (data.take separator)).map fun timestamp =>
        (some timestamp, data.drop (separator + 1))).getD (none, data)
  { stream := .stdout, timestamp, message := message ++ [10] }

/-- `ScanLines`; its line is empty between calls. -/
structure ScanLines where
  reader : List Delivery
  pendingError : Option String := none

/-- The line without a carriage return at its end. -/
def stripReturn (line : List UInt8) : List UInt8 :=
  if line.getLast? = some 13 then line.dropLast else line

/-- `BufRead::consume` on the bytes of the first read. -/
def consume (available : List UInt8) (reader : List Delivery) : Nat → List Delivery := fun count =>
  match available.drop count with
  | [] => reader
  | first :: rest => .data first rest :: reader

/-- The loop of `ScanLines::next_line`, from the bytes of the line so far. -/
def ScanLines.scan (line : List UInt8) :
    List Delivery → Except String (Option (List UInt8)) × ScanLines
  | [] => (.ok (if line = [] then none else some (stripReturn line)), ⟨[], none⟩)
  | .fail error :: reader =>
    if line ≠ [] then (.ok (some (stripReturn line)), ⟨reader, some error⟩)
    else (.error error, ⟨reader, none⟩)
  | .data first rest :: reader =>
    match (first :: rest).findIdx? (· = 10) with
    | some newline =>
      if maxScanTokenSize < line.length + (newline + 1) then
        (.error tokenTooLong, ⟨.data first rest :: reader, none⟩)
      else
        (.ok (some (stripReturn (line ++ (first :: rest).take newline))),
          ⟨consume (first :: rest) reader (newline + 1), none⟩)
    | none =>
      if maxScanTokenSize ≤ line.length + (first :: rest).length then
        (.error tokenTooLong, ⟨.data first rest :: reader, none⟩)
      else scan (line ++ first :: rest) reader

def ScanLines.nextLine (self : ScanLines) : Except String (Option (List UInt8)) × ScanLines :=
  match self.pendingError with
  | some error => (.error error, ⟨self.reader, none⟩)
  | none => scan [] self.reader

/-- `EntryReader`. -/
structure EntryReader where
  lines : ScanLines
  finished : Bool := false

def EntryReader.next (self : EntryReader) : Option LogEntry × EntryReader :=
  if self.finished then (none, self)
  else
    match self.lines.nextLine with
    | (.ok (some line), lines) => (some (entry line), ⟨lines, false⟩)
    | (.ok none, lines) => (none, ⟨lines, true⟩)
    | (.error error, lines) => (some (failure error), ⟨lines, true⟩)

end Ployz.Journal
