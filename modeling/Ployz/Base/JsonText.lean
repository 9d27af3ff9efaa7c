import Ployz.Base.Json

/-!
# JSON text

The compact text of a JSON value, as a serialiser writes it: members and items are separated by
commas without blanks, and strings escape quotes, backslashes and control characters. The text of a
value stands as it is within that of every value that contains it, and no two values have the same
text: the characters of a string are read back one by one, and the first character of a value tells
its kind.
-/

namespace Ployz.Json

open List

/-- The literal of an integer. -/
def int (value : Int) : Json := .num (toString value)

def optional {α : Type} (write : α → Json) : Option α → Json
  | none => .null
  | some value => write value

/-- A character in a string. -/
def escapeChar (c : Char) : List Char :=
  if c = '"' then ['\\', '"']
  else if c = '\\' then ['\\', '\\']
  else if c = '\x08' then ['\\', 'b']
  else if c = '\x09' then ['\\', 't']
  else if c = '\x0a' then ['\\', 'n']
  else if c = '\x0c' then ['\\', 'f']
  else if c = '\x0d' then ['\\', 'r']
  else if c.toNat < 0x20 then
    ['\\', 'u', '0', '0', Nat.digitChar (c.toNat / 16), Nat.digitChar (c.toNat % 16)]
  else [c]

def writeString (value : String) : List Char :=
  '"' :: value.toList.flatMap escapeChar ++ ['"']

/-- The comma before every item but the first. -/
def comma (first : Bool) : List Char := if first then [] else [',']

mutual

/-- The text of a value. -/
def write : Json → List Char
  | .null => ['n', 'u', 'l', 'l']
  | .bool true => ['t', 'r', 'u', 'e']
  | .bool false => ['f', 'a', 'l', 's', 'e']
  | .num literal => literal.toList
  | .str value => writeString value
  | .arr items => '[' :: writeItems true items ++ [']']
  | .obj members => '\x7b' :: writeMembers true members ++ ['\x7d']

def writeItems : Bool → List Json → List Char
  | _, [] => []
  | first, item :: items => comma first ++ write item ++ writeItems false items

def writeMembers : Bool → List (String × Json) → List Char
  | _, [] => []
  | first, (name, value) :: members =>
    comma first ++ writeString name ++ ':' :: write value ++ writeMembers false members

end

theorem writeMembers_append (first : Bool) (front back : List (String × Json)) :
    writeMembers first (front ++ back) =
      writeMembers first front ++ writeMembers (first && front.isEmpty) back := by
  induction front generalizing first with
  | nil => simp [writeMembers]
  | cons member front ih => simp [writeMembers, ih, append_assoc]

/-- A value that contains another at a fixed place. -/
def Contains (outer : Json → Json) : Prop :=
  ∃ before after, ∀ inner, (outer inner).write = before ++ inner.write ++ after

theorem contains_self : Contains fun inner => inner :=
  ⟨[], [], fun inner => by simp⟩

theorem Contains.member {outer : Json → Json} (contains : Contains outer)
    (front back : List (String × Json)) (name : String) :
    Contains fun inner => .obj (front ++ (name, outer inner) :: back) := by
  obtain ⟨before, after, text⟩ := contains
  refine ⟨'\x7b' :: writeMembers true front ++ comma front.isEmpty ++ writeString name ++
    ':' :: before, after ++ writeMembers false back ++ ['\x7d'], fun inner => ?_⟩
  simp only [write, writeMembers_append, writeMembers, text, Bool.true_and]
  simp [append_assoc]

variable {rest rest' : List Char}

section Reading

/-- A character off the front of the rest of a string; none at its closing quote. -/
def readChar : List Char → Option (Char × List Char)
  | [] => none
  | '"' :: _ => none
  | '\\' :: '"' :: rest => some ('"', rest)
  | '\\' :: '\\' :: rest => some ('\\', rest)
  | '\\' :: 'b' :: rest => some ('\x08', rest)
  | '\\' :: 't' :: rest => some ('\x09', rest)
  | '\\' :: 'n' :: rest => some ('\x0a', rest)
  | '\\' :: 'f' :: rest => some ('\x0c', rest)
  | '\\' :: 'r' :: rest => some ('\x0d', rest)
  | '\\' :: 'u' :: a :: b :: c :: d :: rest =>
    some (Char.ofNat (digitsValue 16 [a, b, c, d]), rest)
  | c :: rest => some (c, rest)

theorem readChar_control {code : Nat} (control : code < 0x20) (rest : List Char) :
    readChar (escapeChar (Char.ofNat code) ++ rest) = some (Char.ofNat code, rest) := by
  interval_cases code <;> rfl

theorem escapeChar_printable {c : Char} (printable : ¬ c.toNat < 0x20) (quote : c ≠ '"')
    (backslash : c ≠ '\\') : escapeChar c = [c] := by
  have other {code : Nat} (control : code < 0x20) : c ≠ Char.ofNat code := by
    rintro rfl
    interval_cases code <;> exact printable (by decide)
  rw [escapeChar, if_neg quote, if_neg backslash, if_neg (other (by decide : 8 < 0x20)),
    if_neg (other (by decide : 9 < 0x20)), if_neg (other (by decide : 10 < 0x20)),
    if_neg (other (by decide : 12 < 0x20)), if_neg (other (by decide : 13 < 0x20)),
    if_neg printable]

theorem readChar_escapeChar (c : Char) (rest : List Char) :
    readChar (escapeChar c ++ rest) = some (c, rest) := by
  by_cases control : c.toNat < 0x20
  · have read := readChar_control control rest
    rwa [Char.ofNat_toNat] at read
  by_cases quote : c = '"'
  · rw [quote]
    rfl
  by_cases backslash : c = '\\'
  · rw [backslash]
    rfl
  rw [escapeChar_printable control quote backslash]
  simp [readChar, backslash]

/-- Two strings that start the same text are one string, whatever escapes are used. -/
theorem escaped_inj {escape : Char → List Char}
    (reads : ∀ c rest, readChar (escape c ++ rest) = some (c, rest)) {chars chars' : List Char}
    (same : chars.flatMap escape ++ '"' :: rest = chars'.flatMap escape ++ '"' :: rest') :
    chars = chars' ∧ rest = rest' := by
  have read := congrArg readChar same
  induction chars generalizing chars' with
  | nil =>
    cases chars' with
    | nil => simpa using same
    | cons c' chars' =>
      simp only [flatMap_cons, append_assoc, reads] at read
      exact nomatch read
  | cons c chars ih =>
    cases chars' with
    | nil =>
      simp only [flatMap_cons, append_assoc, reads] at read
      exact nomatch read
    | cons c' chars' =>
      simp only [flatMap_cons, append_assoc, reads, Option.some.injEq,
        Prod.mk.injEq] at read
      obtain ⟨rfl, tail⟩ := ih read.2 (congrArg readChar read.2)
      exact ⟨by rw [read.1], tail⟩

theorem writeString_inj {value value' : String}
    (same : writeString value ++ rest = writeString value' ++ rest') :
    value = value' ∧ rest = rest' := by
  simp only [writeString, cons_append, append_assoc, nil_append, List.cons.injEq,
    true_and] at same
  obtain ⟨chars, tail⟩ := escaped_inj readChar_escapeChar same
  exact ⟨String.toList_inj.mp chars, tail⟩

end Reading

mutual

/-- Every number in a value is the literal of a natural number. -/
def Plain : Json → Prop
  | .num literal => ∃ value, literal = String.ofList (Nat.toDigits 10 value)
  | .arr items => PlainItems items
  | .obj members => PlainMembers members
  | .null | .bool _ | .str _ => True

def PlainItems : List Json → Prop
  | [] => True
  | item :: items => Plain item ∧ PlainItems items

def PlainMembers : List (String × Json) → Prop
  | [] => True
  | (_, value) :: members => Plain value ∧ PlainMembers members

end

section Injective

/-- A text that does not go on with a digit. -/
def Stops (rest : List Char) : Prop := ∀ c ∈ rest.head?, toDigit 10 c = none

theorem takeWhile_toDigits (stops : Stops rest) (value : Nat) :
    (Nat.toDigits 10 value ++ rest).takeWhile (fun c => (toDigit 10 c).isSome) =
      Nat.toDigits 10 value := by
  have digits : ∀ c ∈ Nat.toDigits 10 value, (toDigit 10 c).isSome = true := by
    intro c member
    obtain ⟨digit, below, rfl⟩ := exists_of_mem_toDigits (by decide) member
    rw [toDigit_digitChar (by decide) below]
    rfl
  rw [takeWhile_append_of_pos digits]
  cases rest with
  | nil => simp
  | cons c rest => simp [stops c rfl]

theorem toDigits_inj (stops : Stops rest) (stops' : Stops rest') {value value' : Nat}
    (same : Nat.toDigits 10 value ++ rest = Nat.toDigits 10 value' ++ rest') :
    Nat.toDigits 10 value = Nat.toDigits 10 value' ∧ rest = rest' := by
  have digits := congrArg (List.takeWhile fun c => (toDigit 10 c).isSome) same
  rw [takeWhile_toDigits stops, takeWhile_toDigits stops'] at digits
  rw [digits, append_cancel_left_eq] at same
  exact ⟨digits, same⟩

/-- The kind of a value. -/
def kind : Json → Nat
  | .null => 0
  | .bool true => 1
  | .bool false => 2
  | .num _ => 3
  | .str _ => 4
  | .arr _ => 5
  | .obj _ => 6

/-- The kind of the values whose text starts with a character. -/
def kindOf (c : Char) : Nat :=
  if c = 'n' then 0 else if c = 't' then 1 else if c = 'f' then 2 else if c = '"' then 4
  else if c = '[' then 5 else if c = '\x7b' then 6 else 3

theorem write_head {json : Json} (plain : json.Plain) :
    ∃ c tail, json.write = c :: tail ∧ kindOf c = json.kind ∧ c ≠ ']' := by
  match json, plain with
  | .null, _ => exact ⟨_, _, rfl, rfl, by decide⟩
  | .bool true, _ => exact ⟨_, _, rfl, rfl, by decide⟩
  | .bool false, _ => exact ⟨_, _, rfl, rfl, by decide⟩
  | .num _, ⟨value, rfl⟩ =>
    rw [write, String.toList_ofList]
    obtain ⟨c, tail, digits⟩ := exists_cons_of_ne_nil (@Nat.toDigits_ne_nil value 10)
    have member : c ∈ Nat.toDigits 10 value := by simp [digits]
    obtain ⟨digit, below, rfl⟩ := exists_of_mem_toDigits (by decide) member
    refine ⟨_, tail, digits, ?_⟩
    interval_cases digit <;> exact ⟨rfl, by decide⟩
  | .str _, _ => exact ⟨_, _, rfl, rfl, by decide⟩
  | .arr _, _ => exact ⟨_, _, rfl, rfl, by decide⟩
  | .obj _, _ => exact ⟨_, _, rfl, rfl, by decide⟩

theorem kind_eq {json json' : Json} (plain : json.Plain) (plain' : json'.Plain)
    (same : json.write ++ rest = json'.write ++ rest') : json.kind = json'.kind := by
  obtain ⟨c, tail, text, kind, _⟩ := write_head plain
  obtain ⟨c', tail', text', kind', _⟩ := write_head plain'
  rw [text, text', cons_append, cons_append] at same
  rw [← kind, ← kind', (List.cons.inj same).1]

theorem stops_items (items : List Json) (rest : List Char) :
    Stops (writeItems false items ++ ']' :: rest) := by
  cases items with
  | nil => rintro _ ⟨⟩; rfl
  | cons item items => rintro _ ⟨⟩; rfl

theorem stops_members (members : List (String × Json)) (rest : List Char) :
    Stops (writeMembers false members ++ '\x7d' :: rest) := by
  cases members with
  | nil => rintro _ ⟨⟩; rfl
  | cons member members => rintro _ ⟨⟩; rfl

theorem writeItems_ne (first : Bool) {item : Json} (plain : item.Plain) (items : List Json)
    (rest rest' : List Char) :
    writeItems first (item :: items) ++ rest ≠ ']' :: rest' := by
  obtain ⟨c, tail, text, _, other⟩ := write_head plain
  cases first with
  | true => simp [writeItems, comma, text, other]
  | false => simp [writeItems, comma]

theorem writeMembers_ne (first : Bool) (member : String × Json) (members : List (String × Json))
    (rest rest' : List Char) :
    writeMembers first (member :: members) ++ rest ≠ '\x7d' :: rest' := by
  cases first <;> simp [writeMembers, comma, writeString]

mutual

/-- No two plain values have the same text. -/
theorem write_inj : ∀ {json json' : Json}, json.Plain → json'.Plain → ∀ {rest rest' : List Char},
    Stops rest → Stops rest' → json.write ++ rest = json'.write ++ rest' →
      json = json' ∧ rest = rest'
  | .null, json', plain, plain', rest, rest', stops, stops', same => by
    match json', kind_eq plain plain' same with
    | .null, _ => simpa [write] using same
    | .bool true, kinds => exact nomatch kinds
    | .bool false, kinds => exact nomatch kinds
  | .bool value, json', plain, plain', rest, rest', stops, stops', same => by
    match value, json', kind_eq plain plain' same with
    | true, .bool true, _ => simpa [write] using same
    | false, .bool false, _ => simpa [write] using same
    | true, .bool false, kinds => exact nomatch kinds
    | false, .bool true, kinds => exact nomatch kinds
  | .num _, json', plain, plain', rest, rest', stops, stops', same => by
    match json', plain', kind_eq plain plain' same with
    | .num _, ⟨value', literal'⟩, _ =>
      obtain ⟨value, literal⟩ := plain
      rw [write, write, literal, literal', String.toList_ofList, String.toList_ofList] at same
      obtain ⟨digits, tail⟩ := toDigits_inj stops stops' same
      exact ⟨by rw [literal, literal', digits], tail⟩
    | .bool true, _, kinds => exact nomatch kinds
    | .bool false, _, kinds => exact nomatch kinds
  | .str value, json', plain, plain', rest, rest', stops, stops', same => by
    match json', kind_eq plain plain' same with
    | .str value', _ =>
      rw [write, write] at same
      obtain ⟨rfl, tail⟩ := writeString_inj same
      exact ⟨rfl, tail⟩
    | .bool true, kinds => exact nomatch kinds
    | .bool false, kinds => exact nomatch kinds
  | .arr items, json', plain, plain', rest, rest', stops, stops', same => by
    match json', plain', kind_eq plain plain' same with
    | .arr items', plain', _ =>
      simp only [write, cons_append, append_assoc, List.cons.injEq, true_and,
        nil_append] at same
      obtain ⟨rfl, tail⟩ := writeItems_inj true plain plain' same
      exact ⟨rfl, tail⟩
    | .bool true, _, kinds => exact nomatch kinds
    | .bool false, _, kinds => exact nomatch kinds
  | .obj members, json', plain, plain', rest, rest', stops, stops', same => by
    match json', plain', kind_eq plain plain' same with
    | .obj members', plain', _ =>
      simp only [write, cons_append, append_assoc, List.cons.injEq, true_and,
        nil_append] at same
      obtain ⟨rfl, tail⟩ := writeMembers_inj true plain plain' same
      exact ⟨rfl, tail⟩
    | .bool true, _, kinds => exact nomatch kinds
    | .bool false, _, kinds => exact nomatch kinds

theorem writeItems_inj (first : Bool) : ∀ {items items' : List Json},
    PlainItems items → PlainItems items' → ∀ {rest rest' : List Char},
      writeItems first items ++ ']' :: rest = writeItems first items' ++ ']' :: rest' →
        items = items' ∧ rest = rest'
  | [], [], _, _, _, _, same => ⟨rfl, (List.cons.inj same).2⟩
  | [], item' :: items', _, plain', rest, rest', same =>
    absurd same.symm (writeItems_ne first plain'.1 items' _ _)
  | item :: items, [], plain, _, rest, rest', same =>
    absurd same (writeItems_ne first plain.1 items _ _)
  | item :: items, item' :: items', plain, plain', rest, rest', same => by
    simp only [writeItems, append_assoc, append_cancel_left_eq] at same
    obtain ⟨rfl, tail⟩ := write_inj plain.1 plain'.1 (stops_items items rest)
      (stops_items items' rest') same
    obtain ⟨rfl, last⟩ := writeItems_inj false plain.2 plain'.2 tail
    exact ⟨rfl, last⟩

theorem writeMembers_inj (first : Bool) : ∀ {members members' : List (String × Json)},
    PlainMembers members → PlainMembers members' → ∀ {rest rest' : List Char},
      writeMembers first members ++ '\x7d' :: rest = writeMembers first members' ++ '\x7d' :: rest' →
        members = members' ∧ rest = rest'
  | [], [], _, _, _, _, same => ⟨rfl, (List.cons.inj same).2⟩
  | [], member' :: members', _, _, rest, rest', same =>
    absurd same.symm (writeMembers_ne first member' members' _ _)
  | member :: members, [], _, _, rest, rest', same =>
    absurd same (writeMembers_ne first member members _ _)
  | (name, value) :: members, (name', value') :: members', plain, plain', rest, rest', same => by
    simp only [writeMembers, append_assoc, append_cancel_left_eq, cons_append] at same
    obtain ⟨rfl, after⟩ := writeString_inj same
    obtain ⟨rfl, tail⟩ := write_inj plain.1 plain'.1 (stops_members members rest)
      (stops_members members' rest') (List.cons.inj after).2
    obtain ⟨rfl, last⟩ := writeMembers_inj false plain.2 plain'.2 tail
    exact ⟨rfl, last⟩

end

end Injective

end Ployz.Json
