import Ployz.Base.Numeral
import Ployz.Base.Utf8

/-!
# The grammar of JSON

The texts of JSON values with white space anywhere the grammar allows it, and where the text of an
object ends in a stream of bytes. A scanner that counts the open brackets outside of strings comes
back to zero at the end of an object and not before. So an object is found at the front of any
stream, and no part of its text is taken for an object.
-/

namespace Ployz.JsonGrammar

open List

/-- White space. -/
def Blank (gap : List Char) : Prop := ∀ c ∈ gap, c ∈ [' ', '\t', '\n', '\r']

/-- What stands between the quotes of a string. -/
inductive Quoted : List Char → Prop where
  | nil : Quoted []
  | plain {c : Char} {text : List Char} (ordinary : c ≠ '"' ∧ c ≠ '\\' ∧ 0x20 ≤ c.toNat)
      (rest : Quoted text) : Quoted (c :: text)
  | escape {c : Char} {text : List Char} (known : c ∈ ['"', '\\', '/', 'b', 'f', 'n', 'r', 't'])
      (rest : Quoted text) : Quoted ('\\' :: c :: text)
  | code {digits text : List Char} (four : digits.length = 4)
      (hex : ∀ c ∈ digits, (toDigit 16 c).isSome = true) (rest : Quoted text) :
      Quoted ('\\' :: 'u' :: (digits ++ text))

/-- The text of a string. -/
def IsString (text : List Char) : Prop := ∃ inner, Quoted inner ∧ text = '"' :: (inner ++ ['"'])

/-- One digit or more. -/
def IsDigits (text : List Char) : Prop := text ≠ [] ∧ ∀ c ∈ text, (toDigit 10 c).isSome = true

/-- The text of a number. -/
def IsNumber (text : List Char) : Prop :=
  ∃ sign whole fraction exponent, text = sign ++ (whole ++ (fraction ++ exponent)) ∧
    (sign = [] ∨ sign = ['-']) ∧
    (IsDigits whole ∧ (whole.head? = some '0' → whole = ['0'])) ∧
    (fraction = [] ∨ ∃ digits, IsDigits digits ∧ fraction = '.' :: digits) ∧
    (exponent = [] ∨ ∃ mark ∈ ['e', 'E'], ∃ sign ∈ [[], ['+'], ['-']], ∃ digits, IsDigits digits ∧
      exponent = mark :: (sign ++ digits))

/-- The kinds of texts of the grammar: a value, one with white space around it, what stands
between the brackets of an array and of an object. -/
inductive Kind where
  | value
  | item
  | items
  | member
  | members

/-- The texts of the grammar. -/
inductive IsText : Kind → List Char → Prop where
  | word {text : List Char} (known : text ∈ ["null".toList, "true".toList, "false".toList]) :
      IsText .value text
  | number {text : List Char} (number : IsNumber text) : IsText .value text
  | string {text : List Char} (string : IsString text) : IsText .value text
  | emptyArray {gap : List Char} (blank : Blank gap) : IsText .value ('[' :: (gap ++ [']']))
  | array {inner : List Char} (items : IsText .items inner) :
      IsText .value ('[' :: (inner ++ [']']))
  | emptyObject {gap : List Char} (blank : Blank gap) :
      IsText .value ('\x7b' :: (gap ++ ['\x7d']))
  | object {inner : List Char} (members : IsText .members inner) :
      IsText .value ('\x7b' :: (inner ++ ['\x7d']))
  | item {before text after : List Char} (front : Blank before) (value : IsText .value text)
      (back : Blank after) : IsText .item (before ++ (text ++ after))
  | lastItem {text : List Char} (item : IsText .item text) : IsText .items text
  | nextItem {text rest : List Char} (item : IsText .item text) (items : IsText .items rest) :
      IsText .items (text ++ ',' :: rest)
  | member {before name after text : List Char} (front : Blank before) (string : IsString name)
      (back : Blank after) (item : IsText .item text) :
      IsText .member (before ++ (name ++ (after ++ ':' :: text)))
  | lastMember {text : List Char} (member : IsText .member text) : IsText .members text
  | nextMember {text rest : List Char} (member : IsText .member text)
      (members : IsText .members rest) : IsText .members (text ++ ',' :: rest)

/-- The text of an object. -/
def IsObject (text : List Char) : Prop :=
  ∃ inner, (Blank inner ∨ IsText .members inner) ∧ text = '\x7b' :: (inner ++ ['\x7d'])

variable {byte : UInt8}

section Scanner

/-- Whether a byte stands in a string, behind a backslash or outside. -/
inductive Mode where
  | outside
  | quoted
  | escaped
deriving DecidableEq

/-- The brackets open after a byte. -/
def step : Nat × Mode → UInt8 → Nat × Mode
  | (depth, .outside), byte =>
    if byte = 0x22 then (depth, .quoted)
    else if byte = 0x5b ∨ byte = 0x7b then (depth + 1, .outside)
    else if byte = 0x5d ∨ byte = 0x7d then (depth - 1, .outside)
    else (depth, .outside)
  | (depth, .quoted), byte =>
    if byte = 0x5c then (depth, .escaped)
    else if byte = 0x22 then (depth, .outside)
    else (depth, .quoted)
  | (depth, .escaped), _ => (depth, .quoted)

/-- The bytes up to the one that closes the last bracket. -/
def closes : Nat × Mode → List UInt8 → Option Nat
  | _, [] => none
  | state, byte :: rest =>
    if (step state byte).1 = 0 then some 1 else (closes (step state byte) rest).map (· + 1)

variable {state : Nat × Mode} {bytes : List UInt8}

/-- What follows does not matter once the last bracket is closed. -/
theorem closes_append {count : Nat} (closed : closes state bytes = some count) (rest : List UInt8) :
    closes state (bytes ++ rest) = some count := by
  induction bytes generalizing state count with
  | nil => exact nomatch closed
  | cons byte bytes ih =>
    rw [cons_append]
    rw [closes] at closed ⊢
    split
    case isTrue last =>
      rw [if_pos last] at closed
      exact closed
    case isFalse more =>
      rw [if_neg more] at closed
      have ⟨fewer, later, same⟩ := Option.map_eq_some_iff.mp closed
      rw [ih later, ← same]
      rfl

theorem closes_le {count : Nat} (closed : closes state bytes = some count) :
    count ≤ bytes.length := by
  induction bytes generalizing state count with
  | nil => exact nomatch closed
  | cons byte bytes ih =>
    rw [closes] at closed
    split at closed
    · rw [← Option.some.inj closed, length_cons]
      omega
    · have ⟨fewer, later, same⟩ := Option.map_eq_some_iff.mp closed
      have bound := ih later
      rw [← same, length_cons]
      omega

/-- Bytes from one state to another with a bracket open all the while. -/
def Passes (mode : Mode) (bytes : List UInt8) (last : Mode) : Prop :=
  ∀ depth rest, closes (depth + 1, mode) (bytes ++ rest) =
    (closes (depth + 1, last) rest).map (· + bytes.length)

theorem Passes.nil (mode : Mode) : Passes mode [] mode := by
  intro depth rest
  simp

theorem Passes.append {first middle last : Mode} {left right : List UInt8}
    (front : Passes first left middle) (back : Passes middle right last) :
    Passes first (left ++ right) last := by
  intro depth rest
  rw [append_assoc, front, back, Option.map_map, length_append]
  congr 1
  funext count
  show count + right.length + left.length = _
  omega

theorem Passes.cons {first middle last : Mode}
    (moves : ∀ depth, step (depth + 1, first) byte = (depth + 1, middle))
    (back : Passes middle bytes last) : Passes first (byte :: bytes) last := by
  intro depth rest
  rw [cons_append, closes, moves, if_neg (Nat.succ_ne_zero depth), back, Option.map_map]
  congr 1

theorem Passes.brackets {left right : UInt8}
    (opens : ∀ depth, step (depth, .outside) left = (depth + 1, .outside))
    (shuts : ∀ depth, step (depth + 1, .outside) right = (depth, .outside))
    (inner : Passes .outside bytes .outside) :
    Passes .outside (left :: (bytes ++ [right])) .outside := by
  intro depth rest
  rw [cons_append, closes, opens, if_neg (Nat.succ_ne_zero _), append_assoc, inner,
    singleton_append, closes, shuts, if_neg (Nat.succ_ne_zero depth), Option.map_map,
    Option.map_map]
  congr 1
  funext count
  show count + 1 + bytes.length + 1 = count + (left :: (bytes ++ [right])).length
  simp
  omega

theorem passes_of_still {mode : Mode}
    (still : ∀ byte ∈ bytes, ∀ depth, step (depth + 1, mode) byte = (depth + 1, mode)) :
    Passes mode bytes mode := by
  induction bytes with
  | nil => exact .nil mode
  | cons byte bytes ih =>
    have ⟨first, later⟩ := forall_mem_cons.mp still
    exact .cons first (ih later)

end Scanner

section Bytes

/-- The bytes of a text. -/
def encode (text : List Char) : List UInt8 := text.flatMap String.utf8EncodeChar

theorem encode_append (left right : List Char) :
    encode (left ++ right) = encode left ++ encode right := flatMap_append

theorem encode_cons (c : Char) (text : List Char) :
    encode (c :: text) = String.utf8EncodeChar c ++ encode text := flatMap_cons

variable {c : Char}

theorem toNat_of_mem_encode (member : byte ∈ String.utf8EncodeChar c) (ascii : byte.toNat < 128) :
    c.toNat = byte.toNat := by
  by_cases small : c.toNat < 128
  · rw [Utf8.utf8EncodeChar_of_lt small, mem_singleton] at member
    rw [member, UInt8.toNat_ofNat', Nat.mod_eq_of_lt (by omega)]
  · have ⟨first, rest, shape, _, large⟩ := Utf8.utf8EncodeChar_of_le (Nat.le_of_not_lt small)
    rw [shape] at member
    have high := large byte member
    omega

theorem ne_of_mem_encode {other : Char} (member : byte ∈ String.utf8EncodeChar c)
    (ascii : other.toNat < 128) (different : c ≠ other) : byte ≠ UInt8.ofNat other.toNat := by
  intro same
  have code : byte.toNat = other.toNat := by
    rw [same, UInt8.toNat_ofNat', Nat.mod_eq_of_lt (by omega)]
  exact different (Char.toNat_inj.mp ((toNat_of_mem_encode member (by omega)).trans code))

/-- The characters that the scanner does not heed outside of a string. -/
def Inert (c : Char) : Prop := c ∉ ['"', '[', ']', '\x7b', '\x7d']

instance : DecidablePred Inert := fun c => inferInstanceAs (Decidable (c ∉ _))

variable {text : List Char}

theorem passes_inert (inert : ∀ c ∈ text, Inert c) : Passes .outside (encode text) .outside := by
  apply passes_of_still
  intro byte member depth
  have ⟨c, inText, here⟩ := mem_flatMap.mp member
  have other := inert c inText
  simp only [Inert, mem_cons, not_mem_nil, or_false, not_or] at other
  have ⟨quote, square, squareEnd, curly, curlyEnd⟩ := other
  have noQuote : byte ≠ 0x22 := ne_of_mem_encode here (by decide) quote
  have noSquare : byte ≠ 0x5b := ne_of_mem_encode here (by decide) square
  have noSquareEnd : byte ≠ 0x5d := ne_of_mem_encode here (by decide) squareEnd
  have noCurly : byte ≠ 0x7b := ne_of_mem_encode here (by decide) curly
  have noCurlyEnd : byte ≠ 0x7d := ne_of_mem_encode here (by decide) curlyEnd
  simp [step, noQuote, noSquare, noSquareEnd, noCurly, noCurlyEnd]

theorem passes_ordinary (ordinary : ∀ c ∈ text, c ≠ '"' ∧ c ≠ '\\') :
    Passes .quoted (encode text) .quoted := by
  apply passes_of_still
  intro byte member depth
  have ⟨c, inText, here⟩ := mem_flatMap.mp member
  have ⟨quote, slash⟩ := ordinary c inText
  have noQuote : byte ≠ 0x22 := ne_of_mem_encode here (by decide) quote
  have noSlash : byte ≠ 0x5c := ne_of_mem_encode here (by decide) slash
  simp [step, noQuote, noSlash]

theorem passes_quoted (quoted : Quoted text) : Passes .quoted (encode text) .quoted := by
  have slash : String.utf8EncodeChar '\\' = [0x5c] := by decide
  have backslash : ∀ depth, step (depth + 1, .quoted) 0x5c = (depth + 1, .escaped) :=
    fun _ => rfl
  induction quoted with
  | nil => exact .nil _
  | @plain c text ordinary _ ih =>
    have first := @passes_ordinary [c] (by simpa using ⟨ordinary.1, ordinary.2.1⟩)
    rw [← singleton_append, encode_append]
    exact first.append ih
  | @escape c text known _ ih =>
    have ascii : c.toNat < 128 := by
      simp only [mem_cons, not_mem_nil, or_false] at known
      rcases known with same | same | same | same | same | same | same | same <;> rw [same] <;>
        decide
    rw [encode_cons, encode_cons, slash, Utf8.utf8EncodeChar_of_lt ascii]
    exact .cons backslash (.cons (fun _ => rfl) ih)
  | @code digits text _ hex _ ih =>
    have plain := @passes_ordinary digits (by
      intro c member
      have digit := hex c member
      constructor <;> intro same <;> rw [same] at digit <;> exact absurd digit (by decide))
    have letter : String.utf8EncodeChar 'u' = [0x75] := by decide
    rw [encode_cons, encode_cons, encode_append, slash, letter]
    exact .cons backslash (.cons (fun _ => rfl) (plain.append ih))

theorem passes_string (string : IsString text) : Passes .outside (encode text) .outside := by
  have ⟨inner, quoted, same⟩ := string
  have quote : String.utf8EncodeChar '"' = [0x22] := by decide
  have last : Passes .quoted (encode ['"']) .outside := by
    rw [encode, flatMap_singleton, quote]
    exact .cons (fun _ => rfl) (.nil _)
  rw [same, encode_cons, encode_append, quote]
  exact .cons (fun _ => rfl) ((passes_quoted quoted).append last)

theorem inert_of_digit (digit : (toDigit 10 c).isSome = true) : Inert c := by
  intro member
  simp only [mem_cons, not_mem_nil, or_false] at member
  rcases member with same | same | same | same | same <;> rw [same] at digit <;>
    exact absurd digit (by decide)

theorem inert_of_number (number : IsNumber text) : ∀ c ∈ text, Inert c := by
  have ⟨sign, whole, fraction, exponent, shape, signs, wholes, fractions, exponents⟩ := number
  have digits : ∀ {part : List Char}, IsDigits part → ∀ c ∈ part, Inert c :=
    fun part c member => inert_of_digit (part.2 c member)
  have minus : Inert '-' := by decide
  have plus : Inert '+' := by decide
  rw [shape]
  simp only [forall_mem_append]
  refine ⟨?_, digits wholes.1, ?_, ?_⟩
  · rcases signs with same | same <;> rw [same]
    · exact nofun
    · exact forall_mem_singleton.mpr minus
  · rcases fractions with same | ⟨part, filled, same⟩ <;> rw [same]
    · exact nofun
    · exact forall_mem_cons.mpr ⟨by decide, digits filled⟩
  · rcases exponents with same | ⟨mark, marks, sign, signs, part, filled, same⟩ <;> rw [same]
    · exact nofun
    · simp only [mem_cons, not_mem_nil, or_false] at marks signs
      refine forall_mem_cons.mpr ⟨?_, forall_mem_append.mpr ⟨?_, digits filled⟩⟩
      · rcases marks with same | same <;> rw [same] <;> decide
      · rcases signs with same | same | same <;> rw [same]
        · exact nofun
        · exact forall_mem_singleton.mpr plus
        · exact forall_mem_singleton.mpr minus

theorem passes_blank {gap : List Char} (blank : Blank gap) :
    Passes .outside (encode gap) .outside := by
  apply passes_inert
  intro c member
  have white := blank c member
  simp only [mem_cons, not_mem_nil, or_false] at white
  rcases white with same | same | same | same <;> rw [same] <;> decide

theorem passes_brackets {left right : Char} {first last : UInt8} {inner : List Char}
    (opening : String.utf8EncodeChar left = [first]) (closing : String.utf8EncodeChar right = [last])
    (opens : ∀ depth, step (depth, .outside) first = (depth + 1, .outside))
    (shuts : ∀ depth, step (depth + 1, .outside) last = (depth, .outside))
    (passes : Passes .outside (encode inner) .outside) :
    Passes .outside (encode (left :: (inner ++ [right]))) .outside := by
  have end' : encode [right] = [last] := by rw [encode, flatMap_singleton, closing]
  rw [encode_cons, encode_append, opening, end']
  exact passes.brackets opens shuts

/-- The scanner goes over every text of the grammar within brackets. -/
theorem passes_text {kind : Kind} (isText : IsText kind text) :
    Passes .outside (encode text) .outside := by
  have mark : ∀ c, Inert c → Passes .outside (encode [c]) .outside := fun c inert =>
    passes_inert (forall_mem_singleton.mpr inert)
  have square {inner : List Char} : Passes .outside (encode inner) .outside →
      Passes .outside (encode ('[' :: (inner ++ [']']))) .outside :=
    passes_brackets (show _ = [0x5b] by decide) (show _ = [0x5d] by decide) (fun _ => rfl)
      (fun _ => rfl)
  have curly {inner : List Char} : Passes .outside (encode inner) .outside →
      Passes .outside (encode ('\x7b' :: (inner ++ ['\x7d']))) .outside :=
    passes_brackets (show _ = [0x7b] by decide) (show _ = [0x7d] by decide) (fun _ => rfl)
      (fun _ => rfl)
  induction isText with
  | word known =>
    apply passes_inert
    simp only [mem_cons, not_mem_nil, or_false] at known
    rcases known with same | same | same <;> rw [same] <;> simp [Inert]
  | number number => exact passes_inert (inert_of_number number)
  | string string => exact passes_string string
  | emptyArray blank => exact square (passes_blank blank)
  | array _ ih => exact square ih
  | emptyObject blank => exact curly (passes_blank blank)
  | object _ ih => exact curly ih
  | item front _ back ih =>
    rw [encode_append, encode_append]
    exact (passes_blank front).append (ih.append (passes_blank back))
  | lastItem _ ih => exact ih
  | nextItem _ _ first rest | nextMember _ _ first rest =>
    rw [← singleton_append, encode_append, encode_append]
    exact first.append ((mark ',' (by decide)).append rest)
  | member front string back _ ih =>
    rw [← singleton_append (x := ':'), encode_append, encode_append, encode_append,
      encode_append]
    exact (passes_blank front).append ((passes_string string).append
      ((passes_blank back).append ((mark ':' (by decide)).append ih)))
  | lastMember _ ih => exact ih

end Bytes

section Objects

variable {text : List Char}

theorem IsObject.bytes (object : IsObject text) :
    ∃ inner, encode text = 0x7b :: (inner ++ [0x7d]) ∧ Passes .outside inner .outside := by
  have ⟨inner, blank, same⟩ := object
  have opening : String.utf8EncodeChar '\x7b' = [0x7b] := by decide
  have closing : encode ['\x7d'] = [0x7d] := by decide
  refine ⟨encode inner, ?_, ?_⟩
  · rw [same, encode_cons, encode_append, opening, closing]
    rfl
  · rcases blank with white | members
    · exact passes_blank white
    · exact passes_text members

theorem closes_object (object : IsObject text) (rest : List UInt8) :
    closes (0, .outside) (encode text ++ rest) = some (encode text).length := by
  have ⟨inner, shape, passes⟩ := object.bytes
  have ended : closes (1, .outside) (0x7d :: rest) = some 1 := rfl
  have opened : step (0, .outside) 0x7b = (1, .outside) := rfl
  rw [shape, cons_append, closes, opened, if_neg Nat.one_ne_zero, append_assoc,
    singleton_append, passes 0, ended]
  simp
  omega

theorem closes_part (object : IsObject text) {part : List UInt8} (starts : part <+: encode text)
    (shorter : part ≠ encode text) : closes (0, .outside) part = none := by
  cases closed : closes (0, .outside) part with
  | none => rfl
  | some count =>
    have ⟨rest, whole⟩ := starts
    have early := closes_append closed rest
    have late := closes_object object []
    rw [append_nil, ← whole, early, length_append] at late
    have inside := closes_le closed
    have none : rest = [] := length_eq_zero_iff.mp (by
      have same := Option.some.inj late
      omega)
    rw [none, append_nil] at whole
    exact absurd whole shorter

end Objects

end Ployz.JsonGrammar
