import Ployz.Api.Time
import Ployz.Base.Panic

/-!
# Timestamps with everything that may fail

The functions on instants once more, with the texts of their errors and with every operation that
may panic: arithmetic of fixed width and slices of a text by byte positions, which have to lie
between characters. Beside them stand the two functions that write the current time.
-/

namespace Ployz.Docker

namespace Checked

open Exec

variable {ε : Type}

/-- An operation of `i32`. -/
def i32 (value : Int) : Exec ε Int := signed 2147483648 value

/-- An operation of `i64`. -/
def i64 (value : Int) : Exec ε Int := signed 9223372036854775808 value

/-- `as i32`, from `u32`. -/
def asI32 (value : Nat) : Int := Int.bmod value (2 ^ 32)

/-- The numerator of an era, which makes truncating division round down. -/
def lower (operation : Int → Exec ε Int) (value excess : Int) : Exec ε Int :=
  if 0 ≤ value then .ok value else operation (value - excess)

def daysFromCivil (year : Int) (month day : Nat) : Exec ε Int := do
  let adjustedYear ← i32 (year - if month ≤ 2 then 1 else 0)
  let era := (← lower i32 adjustedYear 399).tdiv 400
  let yearOfEra ← i32 (adjustedYear - (← i32 (era * 400)))
  let shiftedMonth ← i32 (asI32 month + if month > 2 then -3 else 9)
  let scaled ← i32 ((← i32 (153 * shiftedMonth)) + 2)
  let dayOfYear ← i32 ((← i32 (scaled.tdiv 5 + asI32 day)) - 1)
  let wholeYears ← i32 ((← i32 (yearOfEra * 365)) + yearOfEra.tdiv 4)
  let dayOfEra ← i32 ((← i32 (wholeYears - yearOfEra.tdiv 100)) + dayOfYear)
  i32 ((← i32 ((← i32 (era * 146097)) + dayOfEra)) - 719468)

def civilFromDays (days : Int) : Exec ε (Int × Int × Int) := do
  let days ← i64 (days + 719468)
  let era := (← lower i64 days 146096).tdiv 146097
  let dayOfEra ← i64 (days - (← i64 (era * 146097)))
  let withoutDays ← i64 ((← i64 (dayOfEra - dayOfEra.tdiv 1460)) + dayOfEra.tdiv 36524)
  let yearOfEra := (← i64 (withoutDays - dayOfEra.tdiv 146096)).tdiv 365
  let year ← i64 (yearOfEra + (← i64 (era * 400)))
  let wholeYears ← i64 ((← i64 (365 * yearOfEra)) + yearOfEra.tdiv 4)
  let dayOfYear ← i64 (dayOfEra - (← i64 (wholeYears - yearOfEra.tdiv 100)))
  let monthPrime := (← i64 ((← i64 (5 * dayOfYear)) + 2)).tdiv 153
  let scaled ← i64 ((← i64 (153 * monthPrime)) + 2)
  let day ← i64 ((← i64 (dayOfYear - scaled.tdiv 5)) + 1)
  let month ← i64 (monthPrime + if monthPrime < 10 then 3 else -9)
  let year ← i64 (year + if month ≤ 2 then 1 else 0)
  return (year, month, day)

/-- `str::is_char_boundary`, on the bytes of a text. -/
def isCharBoundary (text : List Char) (index : Nat) : Bool :=
  index = 0 || index = text.length ||
    text[index]?.any fun byte => byte.toNat < 128 || 192 ≤ byte.toNat

/-- `str::get` of a range. -/
def getRange (text : List Char) (start stop : Nat) : Option (List Char) :=
  if start ≤ stop ∧ isCharBoundary text start ∧ isCharBoundary text stop then
    some (slice text start stop)
  else none

/-- A field of a timestamp that is cut out and read. -/
def field {α : Type} (parse : List Char → Option α) (text : List Char) (start stop : Nat)
    (message : String) : Exec String α :=
  match (getRange text start stop).bind parse with
  | some value => .ok value
  | none => fail message

/-- The fraction of the second, without its point, and what is left of the tail. -/
def cutFraction : List Char → Exec String (List Char × List Char)
  | '.' :: rest => do
    let stop := (rest.takeWhile fun c => c ≠ 'Z' ∧ c ≠ '+' ∧ c ≠ '-').length
    if stop = rest.length then fail "missing timezone"
    else do
      let fraction ← expect (getRange rest 0 stop)
      let zone ← expect (getRange rest stop rest.length)
      return (fraction, zone)
  | tail => return ([], tail)

/-- The nanoseconds of a fraction. -/
def fractionNanos (fraction : List Char) : Exec String Nat :=
  if fraction = [] then return 0
  else
    match parseUnsigned (2 ^ 32) fraction with
    | .error _ => fail "invalid fractional second"
    | .ok value => do
      let power ← unsigned (2 ^ 32) (10 ^ (9 - fraction.length))
      unsigned (2 ^ 32) (value * power)

/-- The part of `parse_rfc3339` that reads the fraction of the second; returns the nanoseconds
and what is left. -/
def parseFraction (tail : List Char) : Exec String (Nat × List Char) := do
  let (fraction, zone) ← cutFraction tail
  if fraction.length > 9 ∨ (tail.head? = some '.' ∧ fraction = []) ∨
      !fraction.all fun c => (toDigit 10 c).isSome then
    fail "invalid fractional second"
  else do
    let nanos ← fractionNanos fraction
    return (nanos, zone)

/-- The sign of a zone. -/
def zoneSign : List Char → Exec String Int
  | '+' :: _ => return 1
  | '-' :: _ => return -1
  | _ => fail "invalid timezone"

/-- A number of a zone. -/
def zoneField (zone : List Char) (start stop : Nat) : Exec String Int := do
  let digits ← expect (getRange zone start stop)
  match readSigned (2 ^ 63) digits with
  | some value => return value
  | none => fail "invalid timezone"

/-- The offset of a zone in seconds, with its sign. -/
def zoneOffset (zone : List Char) (sign : Int) : Exec String Int :=
  if zone.length ≠ 6 ∨ zone[3]? ≠ some ':' then fail "invalid timezone"
  else do
    let hours ← zoneField zone 1 3
    let minutes ← zoneField zone 4 6
    if hours > 24 ∨ minutes > 59 then fail "invalid timezone"
    else i64 (sign * (← i64 ((← i64 (hours * 3600)) + (← i64 (minutes * 60)))))

/-- The part of `parse_rfc3339` that reads the zone. -/
def parseZone (zone : List Char) : Exec String Int :=
  if zone = ['Z'] then return 0 else do zoneOffset zone (← zoneSign zone)

def parseRfc3339 (value : String) : Exec String Rfc3339Time := do
  let text := byteChars value
  if text.length < 20 then fail "cannot parse as RFC3339Nano"
  else do
    let year ← field (readSigned (2 ^ 31)) text 0 4 "invalid year"
    let month ← field (fun part => (parseUnsigned (2 ^ 32) part).toOption) text 5 7 "invalid month"
    let day ← field (fun part => (parseUnsigned (2 ^ 32) part).toOption) text 8 10 "invalid day"
    let hour ← field (readSigned (2 ^ 63)) text 11 13 "invalid hour"
    let minute ← field (readSigned (2 ^ 63)) text 14 16 "invalid minute"
    let second ← field (readSigned (2 ^ 63)) text 17 19 "invalid second"
    if text[4]? ≠ some '-' ∨ text[7]? ≠ some '-' ∨ text[10]? ≠ some 'T' ∨ text[13]? ≠ some ':' ∨
        text[16]? ≠ some ':' then
      fail "cannot parse as RFC3339Nano"
    else if ¬(1 ≤ month ∧ month ≤ 12) ∨ day = 0 ∨ day > daysInMonth year month ∨
        ¬(0 ≤ hour ∧ hour ≤ 23) ∨ ¬(0 ≤ minute ∧ minute ≤ 59) ∨
        ¬(0 ≤ second ∧ second ≤ 59) then
      fail "cannot parse as RFC3339Nano"
    else do
      let tail ← expect (getRange text 19 text.length)
      let (nanos, zone) ← parseFraction tail
      let offset ← parseZone zone
      let days ← daysFromCivil year month day
      let upToHour ← i64 ((← i64 (days * 86400)) + (← i64 (hour * 3600)))
      let upToSecond ← i64 ((← i64 (upToHour + (← i64 (minute * 60)))) + second)
      return ⟨← i64 (upToSecond - offset), nanos, year⟩

/-- The whole seconds of a time, given in nanoseconds since the epoch, as `rfc3339_utc` takes
them from the distance to the epoch. -/
def wholeSeconds (time : Int) : Exec ε Int :=
  if 0 ≤ time then .ok (Int.bmod (time / 1000000000) (2 ^ 64))
  else do
    let distance := -time
    let negated ← i64 (-(Int.bmod (distance / 1000000000) (2 ^ 64)))
    i64 (negated - if distance % 1000000000 ≠ 0 then 1 else 0)

def rfc3339Utc (time : Int) : Exec ε (List Char) := do
  let seconds ← wholeSeconds time
  let (year, month, day) ← civilFromDays (seconds / 86400)
  let secondsOfDay := seconds % 86400
  return padded 4 year ++ '-' :: padded 2 month ++ '-' :: padded 2 day ++
    'T' :: padded 2 (secondsOfDay / 3600) ++ ':' :: padded 2 (secondsOfDay % 3600 / 60) ++
    ':' :: padded 2 (secondsOfDay % 60) ++ ['Z']

end Checked

end Ployz.Docker

namespace Ployz.Cluster

open Docker (padded)

/-- `civil_date`: the same steps as `civil_from_days`, with month and day as naturals. -/
def civilDate (days : Int) : Exec String (Int × Nat × Nat) := do
  let (year, month, day) ← Docker.Checked.civilFromDays days
  if 0 ≤ month ∧ 0 ≤ day then return (year, month.toNat, day.toNat) else .error .panic

/-- The whole seconds of a time, in `i128`. -/
def wholeSeconds (time : Int) : Int :=
  if 0 ≤ time then time / 1000000000
  else
    let distance := -time
    let rounded := if distance % 1000000000 ≠ 0 then 1 else 0
    Int.neg (distance / 1000000000) - rounded

def rfc3339Utc (time : Int) : Exec String (List Char) := do
  let seconds := wholeSeconds time
  let days ← Docker.Checked.i64 (seconds / 86400)
  let secondsOfDay := seconds % 86400
  let (year, month, day) ← civilDate days
  return padded 4 year ++ '-' :: padded 2 month ++ '-' :: padded 2 day ++
    'T' :: padded 2 (secondsOfDay / 3600) ++ ':' :: padded 2 (secondsOfDay % 3600 / 60) ++
    ':' :: padded 2 (secondsOfDay % 60) ++ ['Z']

end Ployz.Cluster
