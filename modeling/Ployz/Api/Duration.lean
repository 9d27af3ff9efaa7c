import Ployz.Base.Text

/-!
# Durations in Go's notation

A duration is a number of nanoseconds, written as a sign and decimal numbers with their units. The
parser works in 128-bit integers with checked operations. It adds the digits of a fraction one by
one, each times a tenth of the unit of the digit before, rounded down.
-/

namespace Ployz.Api

/-- The result of a checked operation of `i128`. -/
def checkedI128 (value : Int) : Option Int :=
  if -2 ^ 127 ≤ value ∧ value < 2 ^ 127 then some value else none

/-- `i64::try_from`. -/
def tryI64 (value : Int) : Option Int :=
  if -2 ^ 63 ≤ value ∧ value < 2 ^ 63 then some value else none

/-- The characters of a number. -/
def isNumeric (c : Char) : Bool := (toDigit 10 c).isSome || c == '.'

/-- The unit at the front of the text, in nanoseconds, and what follows it. Microseconds may be
written with either of the two letters of Unicode. -/
def readUnit : List Char → Option (Int × List Char)
  | 'n' :: 's' :: rest => some (1, rest)
  | 'u' :: 's' :: rest => some (1000, rest)
  | 'µ' :: 's' :: rest => some (1000, rest)
  | 'μ' :: 's' :: rest => some (1000, rest)
  | 'm' :: 's' :: rest => some (1000000, rest)
  | 's' :: rest => some (1000000000, rest)
  | 'm' :: rest => some (60000000000, rest)
  | 'h' :: rest => some (3600000000000, rest)
  | _ => none

/-- The loop over the digits of a fraction. -/
def addFraction : List Char → Int → Int → Option Int
  | [], _, total => some total
  | digit :: digits, decimalPlace, total =>
    let decimalPlace := decimalPlace.tdiv 10
    if decimalPlace = 0 then some total
    else do
      let amount ← checkedI128 ((toDigit 10 digit).getD 0 * decimalPlace)
      let total ← checkedI128 (total + amount)
      addFraction digits decimalPlace total

/-- The number before the point, which may be missing. It has no sign, so that `i128` is read like an
unsigned type. -/
def readWhole (whole : List Char) : Option Int :=
  if whole = [] then some 0 else (parseUnsigned (2 ^ 127) whole).toOption.map Int.ofNat

/-- A round of the loop: a number and its unit are added to the total. -/
def addComponent (rest : List Char) (total : Int) : Option (Int × List Char) :=
  let number := rest.takeWhile isNumeric
  let (whole, fraction) := (splitOnce '.' number).getD (number, [])
  if number = [] then none
  else if 1 < number.count '.' ∨ whole = [] ∧ fraction = [] then none
  else do
    let whole ← readWhole whole
    if fraction.all fun c => (toDigit 10 c).isSome then
      let (unit, rest) ← readUnit (rest.dropWhile isNumeric)
      let amount ← checkedI128 (whole * unit)
      let total ← checkedI128 (total + amount)
      let total ← addFraction fraction unit total
      some (total, rest)
    else none

/-- The loop, for at most as many rounds as the text has characters. -/
def addComponents : Nat → List Char → Int → Option Int
  | _, [], total => some total
  | 0, _ :: _, _ => none
  | rounds + 1, rest, total => do
    let (total, rest) ← addComponent rest total
    addComponents rounds rest total

/-- The sign at the front of the text. -/
def readSign : List Char → Int × List Char
  | '-' :: rest => (-1, rest)
  | '+' :: rest => (1, rest)
  | rest => (1, rest)

def parseGoDuration (value : String) : Option Int :=
  if value = "0" then some 0
  else
    let (sign, rest) := readSign value.toList
    if rest = [] then none
    else do
      let total ← addComponents rest.length rest 0
      let total ← checkedI128 (total * sign)
      tryI64 total

end Ployz.Api
