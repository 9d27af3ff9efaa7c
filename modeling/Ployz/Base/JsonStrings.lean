import Ployz.Base.JsonText

/-!
# JSON objects of strings

Writers differ in the characters of a string they escape; a reader takes every escape. The text
of an object whose members are strings is read back whatever escapes its writer used, as long
as the reader of characters undoes them.
-/

namespace Ployz.Json

open List

section Strings

variable (escape : Char → List Char)

/-- A string with the given escapes. -/
def quote (value : String) : List Char := '"' :: value.toList.flatMap escape ++ ['"']

def stringMembers : Bool → List (String × String) → List Char
  | _, [] => []
  | first, (name, value) :: members =>
    comma first ++ quote escape name ++ ':' :: quote escape value ++ stringMembers false members

/-- The text of an object of strings. -/
def stringObject (members : List (String × String)) : List Char :=
  '\x7b' :: stringMembers escape true members ++ ['\x7d']

/-- The value of an object of strings. -/
def ofStrings (members : List (String × String)) : Json :=
  .obj (members.map fun (name, value) => (name, .str value))

/-- The text without the given first character. -/
def expect (c : Char) : List Char → Option (List Char)
  | [] => none
  | head :: rest => if head = c then some rest else none

/-- The rest of a string up to its closing quote. -/
def readQuoted : Nat → List Char → Option (List Char × List Char)
  | 0, _ => none
  | fuel + 1, text =>
    match readChar text with
    | none => (expect '"' text).map fun rest => ([], rest)
    | some (c, rest) => (readQuoted fuel rest).map fun (chars, rest) => (c :: chars, rest)

/-- A string with both its quotes. -/
def readString (text : List Char) : Option (String × List Char) := do
  let inner ← expect '"' text
  let (chars, rest) ← readQuoted text.length inner
  some (String.ofList chars, rest)

/-- The members of an object of strings up to its closing brace. -/
def readStringMembers : Nat → Bool → List Char → Option (List (String × String))
  | 0, _, _ => none
  | fuel + 1, first, text =>
    if text = ['\x7d'] then some []
    else do
      let text ← if first then some text else expect ',' text
      let (name, text) ← readString text
      let text ← expect ':' text
      let (value, text) ← readString text
      let members ← readStringMembers fuel false text
      some ((name, value) :: members)

/-- An object of strings. -/
def readStringObject (text : List Char) : Option (List (String × String)) :=
  (expect '\x7b' text).bind (readStringMembers text.length true)

variable {escape} (reads : ∀ c rest, readChar (escape c ++ rest) = some (c, rest))
include reads

theorem escape_ne_nil (c : Char) : escape c ≠ [] := by
  intro empty
  have read := reads c []
  rw [empty] at read
  exact nomatch read

theorem readQuoted_escaped (chars rest : List Char) {fuel : Nat} (enough : chars.length < fuel) :
    readQuoted fuel (chars.flatMap escape ++ '"' :: rest) = some (chars, rest) := by
  induction fuel generalizing chars with
  | zero => omega
  | succ fuel ih =>
    cases chars with
    | nil => rfl
    | cons c chars =>
      have shorter : chars.length < fuel := by
        rw [length_cons] at enough
        omega
      have read := reads c (chars.flatMap escape ++ '"' :: rest)
      simp only [readQuoted, flatMap_cons, append_assoc, read, ih chars shorter]
      rfl

theorem length_le_length_flatMap (chars : List Char) :
    chars.length ≤ (chars.flatMap escape).length := by
  induction chars with
  | nil => simp
  | cons c chars ih =>
    have some := length_pos_iff.mpr (escape_ne_nil reads c)
    simp only [flatMap_cons, length_append, length_cons]
    omega

theorem readString_quote (value : String) (rest : List Char) :
    readString (quote escape value ++ rest) = some (value, rest) := by
  have enough : value.toList.length < (quote escape value ++ rest).length := by
    have longer := length_le_length_flatMap reads value.toList
    simp only [quote, cons_append, length_cons, length_append]
    omega
  have read := readQuoted_escaped reads value.toList rest enough
  simp only [quote, cons_append, append_assoc, nil_append] at read ⊢
  simp only [readString, expect, ↓reduceIte, bind, Option.bind, read, String.ofList_toList]

theorem readStringMembers_stringMembers (members : List (String × String)) (first : Bool)
    {fuel : Nat} (enough : members.length < fuel) :
    readStringMembers fuel first (stringMembers escape first members ++ ['\x7d']) =
      some members := by
  induction fuel generalizing members first with
  | zero => omega
  | succ fuel ih =>
    cases members with
    | nil => simp [readStringMembers, stringMembers]
    | cons member members =>
      have shorter : members.length < fuel := by
        rw [length_cons] at enough
        omega
      have later := ih members false shorter
      have unclosed : stringMembers escape first (member :: members) ++ ['\x7d'] ≠ ['\x7d'] := by
        intro same
        have lengths := congrArg List.length same
        simp only [stringMembers, quote, length_append, length_cons] at lengths
        omega
      rw [readStringMembers, if_neg unclosed]
      cases first <;>
        simp [stringMembers, comma, expect, readString_quote reads, later]

theorem readStringObject_stringObject (members : List (String × String)) :
    readStringObject (stringObject escape members) = some members := by
  have many : members.length ≤ (stringMembers escape true members).length := by
    generalize true = first
    induction members generalizing first with
    | nil => simp
    | cons member members ih =>
      have later := ih false
      simp only [stringMembers, quote, length_append, length_cons]
      omega
  have enough : members.length < (stringObject escape members).length := by
    simp only [stringObject, cons_append, length_cons, length_append]
    omega
  exact readStringMembers_stringMembers reads members true enough

end Strings

end Ployz.Json
