import Ployz.Base.Text

/-!
# Protocol versions

A version keeps its text in the form in which it is sent, with up to three numbers, a pre-release
part and build metadata. The numbers that are compared are those the `semver` crate reads off a
normalized text; pre-release parts are compared identifier by identifier as they were written.
-/

namespace Ployz.Grpc

/-- `semver::Version`, of which the numbers are looked at. -/
structure Version where
  major : Nat
  minor : Nat
  patch : Nat
deriving DecidableEq

/-- A version as it is compared and as it is sent. -/
structure ProtocolVersion where
  semantic : Version
  wire : List Char
  prerelease : List Char
deriving DecidableEq

def identifiersValid (value : List Char) : Bool :=
  !value.isEmpty && (value.splitOn '.').all fun part =>
    !part.isEmpty && part.all fun byte => byte.isAlphanum || byte = '-'

/-- The identifiers are given up where one starts to be compared: at the first that differ. -/
def compareIdentifiers : List (List Char) → List (List Char) → Ordering
  | [], [] => .eq
  | [], _ :: _ => .lt
  | _ :: _, [] => .gt
  | left :: lefts, right :: rights =>
    if left = right then compareIdentifiers lefts rights
    else
      match parseUnsigned (2 ^ 64) left, parseUnsigned (2 ^ 64) right with
      | .ok leftNumber, .ok rightNumber => if leftNumber > rightNumber then .gt else .lt
      | .ok _, .error _ => .lt
      | .error _, .ok _ => .gt
      | .error _, .error _ => cmp left right

def comparePrerelease (left right : List Char) : Ordering :=
  if left = [] ∧ right = [] then .eq
  else if left = [] then .gt
  else if right = [] then .lt
  else compareIdentifiers (left.splitOn '.') (right.splitOn '.')

namespace ProtocolVersion

/-- The text of the numbers with a pre-release part, if it is not empty, and build metadata. -/
def text (numbers : Nat × Nat × Nat) (prerelease : List Char) (build : Option (List Char)) :
    List Char :=
  Nat.toDigits 10 numbers.1 ++ '.' :: Nat.toDigits 10 numbers.2.1 ++
    '.' :: Nat.toDigits 10 numbers.2.2 ++ (if prerelease = [] then [] else '-' :: prerelease) ++
    (build.map ('+' :: ·)).getD []

/-- The text before the build metadata, and the metadata. -/
def splitBuild (value : List Char) : Option (List Char × Option (List Char)) :=
  match splitOnce '+' value with
  | some (left, right) =>
    if '+' ∉ right ∧ identifiersValid right then some (left, some right) else none
  | none => some (value, none)

/-- The text before the pre-release part, and that part. -/
def splitPrerelease (withoutBuild : List Char) : Option (List Char × List Char) :=
  match splitOnce '-' withoutBuild with
  | some (left, right) => if identifiersValid right then some (left, right) else none
  | none => some (withoutBuild, [])

/-- A number of the core, an `i64` without a sign. -/
def coreNumber (part : List Char) : Option Nat :=
  if part = [] ∨ ¬ part.all Char.isDigit then none else (parseUnsigned (2 ^ 63) part).toOption

/-- The numbers of the core; those that are left out are zero. -/
def coreNumbers (core : List Char) : Option (Nat × Nat × Nat) :=
  let core := if core.head? = some 'v' then core.tail else core
  if core = [] ∨ core.head? = some 'V' then none
  else
    match core.splitOn '.' with
    | [major] => do some (← coreNumber major, 0, 0)
    | [major, minor] => do some (← coreNumber major, ← coreNumber minor, 0)
    | [major, minor, patch] => do
      some (← coreNumber major, ← coreNumber minor, ← coreNumber patch)
    | _ => none

/-- A numeric identifier loses its leading zeros. -/
def normalizedIdentifier (part : List Char) : List Char :=
  if part.all Char.isDigit then
    let trimmed := part.dropWhile (· = '0')
    if trimmed = [] then ['0'] else trimmed
  else part

def normalizedPrerelease (prerelease : List Char) : List Char :=
  if prerelease = [] then []
  else ['.'].intercalate ((prerelease.splitOn '.').map normalizedIdentifier)

/-- `ProtocolVersion::parse`, with `Version::parse` of the `semver` crate. -/
def parse (library : List Char → Option Version) (value : List Char) : Option ProtocolVersion := do
  let (withoutBuild, build) ← splitBuild value
  let (core, prerelease) ← splitPrerelease withoutBuild
  let numbers ← coreNumbers core
  let semantic ← library (text numbers (normalizedPrerelease prerelease) build)
  some ⟨semantic, text numbers prerelease build, prerelease⟩

variable (self other : ProtocolVersion)

/-- The numbers of a version, which are compared one after another. -/
def core : ℕ ×ₗ ℕ ×ₗ ℕ :=
  toLex (self.semantic.major, toLex (self.semantic.minor, self.semantic.patch))

def lessThan : Bool :=
  let core := cmp self.core other.core
  core == .lt || (core == .eq && comparePrerelease self.prerelease other.prerelease == .lt)

end ProtocolVersion

end Ployz.Grpc
