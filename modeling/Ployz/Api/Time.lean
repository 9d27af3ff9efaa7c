import Ployz.Api.Container

/-!
# Instants of RFC 3339

The creation time of a container is read from the text Docker reports, and the header of the
Caddyfile holds the current time. The parser works on bytes: every byte above 127 is taken as
the character with that code, which is no digit and no separator, so a slice that would cut a
character in two fails here as it does in the source.
-/

namespace Ployz.Docker

/-- `Rfc3339Time`, whose derived order compares the fields in turn. -/
structure Rfc3339Time where
  unixSeconds : Int
  nanos : Nat
  year : Int
deriving DecidableEq, Repr

namespace Rfc3339Time

def fields (self : Rfc3339Time) : ℤ ×ₗ ℕ ×ₗ ℤ :=
  toLex (self.unixSeconds, toLex (self.nanos, self.year))

theorem fields_injective : Function.Injective fields := by
  intro left right same
  have apart := congrArg ofLex same
  simp only [fields, ofLex_toLex, Prod.mk.injEq, EmbeddingLike.apply_eq_iff_eq] at apart
  cases left
  cases right
  simp_all

instance : LinearOrder Rfc3339Time := LinearOrder.lift' fields fields_injective

end Rfc3339Time

/-- The bytes of a text as characters. -/
def byteChars (value : String) : List Char :=
  value.toUTF8.data.toList.map fun byte => Char.ofNat byte.toNat

/-- `FromStr` of a signed integer type, whose complaint is not read. -/
def readSigned (limit : Nat) (text : List Char) : Option Int := (parseSigned limit text).toOption

def daysInMonth (year : Int) (month : Nat) : Nat :=
  if month ∈ [1, 3, 5, 7, 8, 10, 12] then 31
  else if month ∈ [4, 6, 9, 11] then 30
  else if month = 2 then if year % 4 = 0 ∧ (year % 100 ≠ 0 ∨ year % 400 = 0) then 29 else 28
  else 0

def daysFromCivil (year : Int) (month day : Nat) : Int :=
  let adjustedYear := year - if month ≤ 2 then 1 else 0
  let era := (if 0 ≤ adjustedYear then adjustedYear else adjustedYear - 399).tdiv 400
  let yearOfEra := adjustedYear - era * 400
  let shiftedMonth : Int := month + if month > 2 then -3 else 9
  let dayOfYear := (153 * shiftedMonth + 2).tdiv 5 + day - 1
  let dayOfEra := yearOfEra * 365 + yearOfEra.tdiv 4 - yearOfEra.tdiv 100 + dayOfYear
  era * 146097 + dayOfEra - 719468

/-- The bytes of a text from one position up to another. -/
def slice (text : List Char) (start stop : Nat) : List Char := (text.drop start).take (stop - start)

/-- The part of `parse_rfc3339` that reads the fraction of the second; returns the nanoseconds
and what is left. -/
def parseFraction : List Char → Option (Nat × List Char)
  | '.' :: rest => do
    let fraction := rest.takeWhile fun c => c ≠ 'Z' ∧ c ≠ '+' ∧ c ≠ '-'
    let zone := rest.drop fraction.length
    guard (zone ≠ [])
    guard (fraction.length ≤ 9 ∧ fraction ≠ [] ∧ fraction.all fun c => (toDigit 10 c).isSome)
    let value ← (parseUnsigned (2 ^ 32) fraction).toOption
    return (value * 10 ^ (9 - fraction.length), zone)
  | tail => some (0, tail)

/-- The offset of a zone in seconds, with its sign. -/
def zoneOffset (zone : List Char) (sign : Int) : Option Int := do
  guard (zone.length = 6 ∧ zone[3]? = some ':')
  let hours ← readSigned (2 ^ 63) (slice zone 1 3)
  let minutes ← readSigned (2 ^ 63) (slice zone 4 6)
  guard (hours ≤ 24 ∧ minutes ≤ 59)
  return sign * (hours * 3600 + minutes * 60)

/-- The part of `parse_rfc3339` that reads the zone. -/
def parseZone (zone : List Char) : Option Int :=
  if zone = ['Z'] then some 0
  else
    match zone with
    | '+' :: _ => zoneOffset zone 1
    | '-' :: _ => zoneOffset zone (-1)
    | _ => none

/-- `parse_rfc3339`, without the texts of its errors, which no caller reads. -/
def parseRfc3339 (value : String) : Option Rfc3339Time := do
  let text := byteChars value
  guard (20 ≤ text.length)
  let year ← readSigned (2 ^ 31) (slice text 0 4)
  let month ← (parseUnsigned (2 ^ 32) (slice text 5 7)).toOption
  let day ← (parseUnsigned (2 ^ 32) (slice text 8 10)).toOption
  let hour ← readSigned (2 ^ 63) (slice text 11 13)
  let minute ← readSigned (2 ^ 63) (slice text 14 16)
  let second ← readSigned (2 ^ 63) (slice text 17 19)
  guard (text[4]? = some '-' ∧ text[7]? = some '-' ∧ text[10]? = some 'T' ∧
    text[13]? = some ':' ∧ text[16]? = some ':')
  guard ((1 ≤ month ∧ month ≤ 12) ∧ day ≠ 0 ∧ day ≤ daysInMonth year month ∧
    (0 ≤ hour ∧ hour ≤ 23) ∧ (0 ≤ minute ∧ minute ≤ 59) ∧ (0 ≤ second ∧ second ≤ 59))
  let (nanos, zone) ← parseFraction (text.drop 19)
  let offset ← parseZone zone
  let days := daysFromCivil year month day
  return ⟨days * 86400 + hour * 3600 + minute * 60 + second - offset, nanos, year⟩

/-- `Container::created_time`; no creation time is below every other. -/
def Container.createdTime (self : Container) : WithBot Rfc3339Time :=
  if self.created = "" then none else parseRfc3339 self.created

def civilFromDays (days : Int) : Int × Int × Int :=
  let days := days + 719468
  let era := (if 0 ≤ days then days else days - 146096).tdiv 146097
  let dayOfEra := days - era * 146097
  let yearOfEra :=
    (dayOfEra - dayOfEra.tdiv 1460 + dayOfEra.tdiv 36524 - dayOfEra.tdiv 146096).tdiv 365
  let dayOfYear := dayOfEra - (365 * yearOfEra + yearOfEra.tdiv 4 - yearOfEra.tdiv 100)
  let monthPrime := (5 * dayOfYear + 2).tdiv 153
  let day := dayOfYear - (153 * monthPrime + 2).tdiv 5 + 1
  let month := monthPrime + if monthPrime < 10 then 3 else -9
  (yearOfEra + era * 400 + (if month ≤ 2 then 1 else 0), month, day)

/-- An integer with zeros up to a width, after its sign. -/
def padded (width : Nat) (value : Int) : List Char :=
  let sign := if value < 0 then ['-'] else []
  let digits := Nat.toDigits 10 value.natAbs
  sign ++ List.replicate (width - sign.length - digits.length) '0' ++ digits

/-- `rfc3339_utc`, from the whole seconds since the epoch. -/
def rfc3339Utc (seconds : Int) : List Char :=
  let (year, month, day) := civilFromDays (seconds / 86400)
  let secondsOfDay := seconds % 86400
  padded 4 year ++ '-' :: padded 2 month ++ '-' :: padded 2 day ++
    'T' :: padded 2 (secondsOfDay / 3600) ++ ':' :: padded 2 (secondsOfDay % 3600 / 60) ++
    ':' :: padded 2 (secondsOfDay % 60) ++ ['Z']

theorem newline_notMem_padded (width : Nat) (value : Int) : '\n' ∉ padded width value := by
  have digits : '\n' ∉ Nat.toDigits 10 value.natAbs := notMem_toDigits (by decide) _
  unfold padded
  split <;> simp [digits, List.mem_replicate]

theorem newline_notMem_rfc3339Utc (seconds : Int) : '\n' ∉ rfc3339Utc seconds := by
  simp [rfc3339Utc, newline_notMem_padded]

example : parseRfc3339 "2026-08-12T00:00:01.5+01:00" = some ⟨1786489201, 500000000, 2026⟩ := by
  decide +kernel

example : rfc3339Utc 1786489201 = "2026-08-11T23:00:01Z".toList := by decide +kernel

end Ployz.Docker
