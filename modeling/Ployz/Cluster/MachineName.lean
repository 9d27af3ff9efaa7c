import Ployz.Base.Fresh
import Ployz.Base.Text
import Ployz.Cluster.Service

/-!
# Default machine names

A machine that joins without a name is named after its host, or at random if nothing of the
host name is left, and gets a number behind the name if another machine has it.
-/

namespace Ployz.Cluster

/-- The characters of a machine name. -/
def nameChar (character : Char) : Bool :=
  ('a' ≤ character && character ≤ 'z') || ('0' ≤ character && character ≤ '9') ||
    character = '-' || character = '_'

/-- `str::trim_matches` of a character. -/
def trimMatches (character : Char) (text : List Char) : List Char :=
  ((text.dropWhile (· = character)).reverse.dropWhile (· = character)).reverse

section Hostname

variable (lowercase : Char → Char)

/-- The character that stands for one of the host name; `lowercase` is the first character of
`char::to_lowercase`. -/
def sanitizeChar (character : Char) : Char :=
  if nameChar (lowercase character) then lowercase character else '-'

def machineNameFromHostname (hostname : String) : String :=
  let firstLabel := ((splitOnce '.' hostname.toList).map Prod.fst).getD hostname.toList
  String.ofList (trimMatches '-' ((trim firstLabel).map (sanitizeChar lowercase)))

end Hostname

/-- `format!("{name}-{suffix}")`. -/
def numberedName (name : String) (suffix : Nat) : String :=
  String.ofList (name.toList ++ '-' :: Nat.toDigits 10 suffix)

theorem numberedName_injective (name : String) : Function.Injective (numberedName name) := by
  intro left right same
  have texts := String.ofList_inj.mp same
  have digits : Nat.toDigits 10 left = Nat.toDigits 10 right := by
    simpa using texts
  have values := congrArg (digitsValue 10) digits
  rwa [digitsValue_toDigits (by decide) (by decide),
    digitsValue_toDigits (by decide) (by decide)] at values

/-- The name before it is compared with the existing ones, from the outcome of
`random_alphanumeric(4)`. -/
def baseName (lowercase : Char → Char) (suffix : Except String String) (hostname : String) :
    Except String String :=
  let name := machineNameFromHostname lowercase hostname
  if name = "" then newRandomMachineName suffix else .ok name

/-- The name, with the first suffix that makes it a new one if it exists. The source counts the
suffix in a `u64`; it never exceeds the number of existing names by more than one. -/
def unusedName (existing : List String) (name : String) : String :=
  if name ∈ existing then
    numberedName name (firstFree existing (numberedName_injective name) 1)
  else name

def defaultMachineName (lowercase : Char → Char) (suffix : Except String String)
    (hostname : String) (existing : List String) : Except String String :=
  (baseName lowercase suffix hostname).map (unusedName existing)

end Ployz.Cluster
