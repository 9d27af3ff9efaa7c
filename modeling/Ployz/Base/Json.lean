import Ployz.Base.Numeral

/-!
# JSON values

A JSON value as a tree. The members of an object keep their order and may repeat, and a number
keeps its literal, so that a reader of the tree decides what it accepts. The readers are those
a deserialiser offers for the plain types; a reader that refuses a value returns nothing.
-/

namespace Ployz

/-- A JSON value. -/
inductive Json where
  | null
  | bool (value : Bool)
  | num (literal : String)
  | str (value : String)
  | arr (items : List Json)
  | obj (members : List (String × Json))
deriving Inhabited

/-- A decimal numeral below a limit, with nothing around it. -/
def decimal (limit : Nat) (text : List Char) : Option Nat :=
  if text ≠ [] ∧ text.all (fun c => (toDigit 10 c).isSome) ∧ digitsValue 10 text < limit then
    some (digitsValue 10 text)
  else none

theorem decimal_toDigits {limit value : Nat} (below : value < limit) :
    decimal limit (Nat.toDigits 10 value) = some value := by
  have digits : (Nat.toDigits 10 value).all (fun c => (toDigit 10 c).isSome) := by
    rw [List.all_eq_true]
    intro c member
    obtain ⟨digit, digitBelow, rfl⟩ := exists_of_mem_toDigits (by decide) member
    rw [toDigit_digitChar (by decide) digitBelow]
    rfl
  have whole : digitsValue 10 (Nat.toDigits 10 value) = value :=
    digitsValue_toDigits (by decide) (by decide) value
  rw [decimal, whole]
  exact if_pos ⟨Nat.toDigits_ne_nil, digits, below⟩

namespace Json

/-- The literal of a natural number. -/
def nat (value : Nat) : Json := .num (String.ofList (Nat.toDigits 10 value))

def isNull : Json → Bool
  | .null => true
  | _ => false

def string : Json → Option String
  | .str value => some value
  | _ => none

/-- An unsigned number below a limit. -/
def unsigned (limit : Nat) : Json → Option Nat
  | .num literal => decimal limit literal.toList
  | _ => none

def array : Json → Option (List Json)
  | .arr items => some items
  | _ => none

/-- The members of an object; `null` stands for an object without members. -/
def members : Json → Option (List (String × Json))
  | .obj members => some members
  | .null => some []
  | _ => none

/-- A value that may be `null`. -/
def nullable {α : Type} (read : Json → Option α) : Json → Option (Option α)
  | .null => some none
  | json => (read json).map some

/-- An array of values of one kind. -/
def listOf {α : Type} (read : Json → Option α) (json : Json) : Option (List α) :=
  json.array.bind fun items => items.mapM read

@[simp] theorem unsigned_nat {limit value : Nat} (below : value < limit) :
    (nat value).unsigned limit = some value := by
  rw [nat, unsigned, String.toList_ofList]
  exact decimal_toDigits below

end Json

end Ployz
