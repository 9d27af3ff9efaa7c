import Ployz.Base.Numeral

/-!
# Cutting text and reading numbers

`str::split_once`, `str::split` and the integer parser of the standard library, on lists of
characters. A text that was put together with a separator is cut at the same places, as long as
the separator does not occur where it would be taken for one.
-/

namespace Ployz

open List

/-- `str::split_once` at a character. -/
def splitOnce (separator : Char) : List Char → Option (List Char × List Char)
  | [] => none
  | c :: text =>
    if c = separator then some ([], text)
    else (splitOnce separator text).map fun (before, after) => (c :: before, after)

section SplitOnce

variable {separator : Char}

theorem splitOnce_eq_none {text : List Char} (absent : separator ∉ text) :
    splitOnce separator text = none := by
  induction text with
  | nil => rfl
  | cons c text ih =>
    rw [mem_cons, not_or] at absent
    rw [splitOnce, if_neg fun same => absent.1 same.symm, ih absent.2]
    rfl

variable {before : List Char}

theorem splitOnce_append (absent : separator ∉ before) (after : List Char) :
    splitOnce separator (before ++ separator :: after) = some (before, after) := by
  induction before with
  | nil => exact if_pos rfl
  | cons c before ih =>
    rw [mem_cons, not_or] at absent
    rw [cons_append, splitOnce, if_neg fun same => absent.1 same.symm, ih absent.2]
    rfl

theorem splitOnce_eq_some {text after : List Char}
    (split : splitOnce separator text = some (before, after)) :
    text = before ++ separator :: after ∧ separator ∉ before := by
  by_cases present : separator ∈ text
  · obtain ⟨front, back, rfl, absent⟩ := eq_append_cons_of_mem present
    rw [splitOnce_append absent, Option.some.injEq, Prod.mk.injEq] at split
    obtain ⟨rfl, rfl⟩ := split
    exact ⟨rfl, absent⟩
  · rw [splitOnce_eq_none present] at split
    exact nomatch split

theorem notMem_of_splitOnce {text : List Char} (split : splitOnce separator text = none) :
    separator ∉ text := by
  intro present
  obtain ⟨front, back, rfl, absent⟩ := eq_append_cons_of_mem present
  rw [splitOnce_append absent] at split
  exact nomatch split

end SplitOnce

section SplitOn

variable {α : Type} [BEq α] [LawfulBEq α] {separator : α} {text : List α}

theorem splitOn_eq_singleton (absent : separator ∉ text) : text.splitOn separator = [text] := by
  apply splitOnP_eq_singleton
  intro c member
  rw [beq_eq_false_iff_ne]
  exact fun same => absent (same ▸ member)

theorem splitOn_append_cons (front back : List α) :
    (front ++ separator :: back).splitOn separator =
      front.splitOn separator ++ back.splitOn separator :=
  splitOnP_append_cons front back (beq_self_eq_true separator)

omit [LawfulBEq α] in
theorem length_splitOn (separator : α) (text : List α) :
    (text.splitOn separator).length = text.count separator + 1 := by
  induction text with
  | nil => rfl
  | cons c text ih =>
    rw [List.splitOn, splitOnP_cons_eq_if_modifyHead, count_cons]
    split_ifs with same
    · rw [length_cons]
      exact congrArg (· + 1) ih
    · rw [length_modifyHead]
      exact ih

theorem one_lt_length_splitOn (present : separator ∈ text) :
    1 < (text.splitOn separator).length := by
  have counted := count_pos_iff.mpr present
  rw [length_splitOn]
  omega

theorem exists_piece_of_mem {c : α} (other : c ≠ separator) (member : c ∈ text) :
    ∃ piece ∈ text.splitOn separator, c ∈ piece := by
  induction text with
  | nil => exact absurd member not_mem_nil
  | cons d text ih =>
    rw [List.splitOn, splitOnP_cons_eq_if_modifyHead]
    split_ifs with same
    · have later := (mem_cons.mp member).resolve_left fun equal =>
        other (equal.trans (beq_iff_eq.mp same))
      have ⟨piece, inside, found⟩ := ih later
      exact ⟨piece, mem_cons_of_mem _ inside, found⟩
    · have ⟨first, rest, pieces⟩ := exists_cons_of_ne_nil
        (splitOnP_ne_nil (· == separator) text)
      rw [pieces, modifyHead_cons]
      rcases mem_cons.mp member with equal | later
      · exact ⟨d :: first, mem_cons_self, equal ▸ mem_cons_self⟩
      · have ⟨piece, inside, found⟩ := ih later
        rw [List.splitOn, pieces] at inside
        rcases mem_cons.mp inside with head | tail
        · exact ⟨d :: first, mem_cons_self, mem_cons_of_mem _ (head ▸ found)⟩
        · exact ⟨piece, mem_cons_of_mem _ tail, found⟩

omit [BEq α] [LawfulBEq α] in
theorem exists_last_piece (present : separator ∈ text) :
    ∃ front last, text = front ++ separator :: last ∧ separator ∉ last := by
  induction text with
  | nil => exact absurd present not_mem_nil
  | cons c text ih =>
    by_cases later : separator ∈ text
    · obtain ⟨front, last, rfl, absent⟩ := ih later
      exact ⟨c :: front, last, rfl, absent⟩
    · obtain same | later' := mem_cons.mp present
      · exact ⟨[], text, by rw [same, nil_append], later⟩
      · exact absurd later' later

end SplitOn

def isWhitespace (c : Char) : Bool :=
  (0x09 ≤ c.toNat && c.toNat ≤ 0x0d) || c.toNat = 0x20 || c.toNat = 0x85 || c.toNat = 0xa0 ||
    c.toNat = 0x1680 || (0x2000 ≤ c.toNat && c.toNat ≤ 0x200a) || c.toNat = 0x2028 ||
    c.toNat = 0x2029 || c.toNat = 0x202f || c.toNat = 0x205f || c.toNat = 0x3000

def trim (text : List Char) : List Char :=
  ((text.dropWhile isWhitespace).reverse.dropWhile isWhitespace).reverse

/-- The digits of an integer from `total` on, with the value checked at every digit. -/
def parseDigits (limit : Nat) : Nat → List Char → Except String Nat
  | total, [] => .ok total
  | total, c :: rest =>
    match toDigit 10 c with
    | none => .error "invalid digit found in string"
    | some digit =>
      if total * 10 + digit < limit then parseDigits limit (total * 10 + digit) rest
      else .error "number too large to fit in target type"

/-- `FromStr` of an unsigned integer type with values below the limit, with the texts of
`ParseIntError`. -/
def parseUnsigned (limit : Nat) : List Char → Except String Nat
  | [] => .error "cannot parse integer from empty string"
  | ['+'] | ['-'] => .error "invalid digit found in string"
  | '+' :: digits => parseDigits limit 0 digits
  | digits => parseDigits limit 0 digits

/-- `FromStr` of a signed integer type with values from `-limit` to `limit - 1`, with the texts of
`ParseIntError`. -/
def parseSigned (limit : Nat) : List Char → Except String Int
  | '-' :: digit :: digits =>
    match parseDigits (limit + 1) 0 (digit :: digits) with
    | .ok value => .ok (-value)
    | .error "number too large to fit in target type" =>
      .error "number too small to fit in target type"
    | .error reason => .error reason
  | text => (parseUnsigned limit text).map Int.ofNat

section Unsigned

variable {limit : Nat} {text : List Char} {total : Nat}

theorem isSome_of_parseDigits {value : Nat} (read : parseDigits limit total text = .ok value) :
    ∀ c ∈ text, (toDigit 10 c).isSome = true := by
  induction text generalizing total with
  | nil => exact fun c member => absurd member not_mem_nil
  | cons c text ih =>
    rw [parseDigits] at read
    split at read
    case h_1 => exact nomatch read
    case h_2 digit found =>
      split_ifs at read
      exact forall_mem_cons.mpr ⟨by rw [found]; rfl, ih read⟩

variable {value : Nat}

theorem digits_of_parseUnsigned (read : parseUnsigned limit text = .ok value) :
    ∀ c ∈ text, c = '+' ∨ (toDigit 10 c).isSome = true := by
  rw [parseUnsigned.eq_def] at read
  split at read
  case h_1 | h_2 | h_3 => exact nomatch read
  case h_4 digits _ =>
    exact forall_mem_cons.mpr ⟨.inl rfl,
      fun c member => .inr (isSome_of_parseDigits read c member)⟩
  case h_5 => exact fun c member => .inr (isSome_of_parseDigits read c member)

theorem parseDigits_append {digit : Nat} {c : Char} (found : toDigit 10 c = some digit)
    (read : parseDigits limit total text = .ok value) (below : value * 10 + digit < limit) :
    parseDigits limit total (text ++ [c]) = .ok (value * 10 + digit) := by
  induction text generalizing total with
  | nil =>
    obtain rfl := Except.ok.inj read
    simp only [nil_append, parseDigits, found, if_pos below]
  | cons d text ih =>
    rw [cons_append, parseDigits]
    rw [parseDigits] at read
    split at read
    case h_1 => exact nomatch read
    case h_2 next other =>
      split_ifs at read with fits
      simp only [if_pos fits]
      exact ih read

theorem parseDigits_toDigits (below : value < limit) :
    parseDigits limit 0 (Nat.toDigits 10 value) = .ok value := by
  induction value using Nat.base_induction 10 (by decide) with
  | single low small =>
    rw [Nat.toDigits_of_lt_base small]
    simp only [parseDigits, toDigit_digitChar (by decide : 10 ≤ 16) small, Nat.zero_mul,
      Nat.zero_add, if_pos below]
  | digit high low small positive ih =>
    rw [← Nat.toDigits_append_toDigits (by decide) positive small, Nat.toDigits_of_lt_base small,
      Nat.mul_comm]
    exact parseDigits_append (toDigit_digitChar (by decide) small) (ih (by omega)) (by omega)

theorem le_digits (digits : List Char) (total : Nat) :
    total ≤ digits.foldl (fun total c => total * 10 + (toDigit 10 c).getD 0) total := by
  induction digits generalizing total with
  | nil => exact Nat.le_refl total
  | cons c digits ih =>
    have later := ih (total * 10 + (toDigit 10 c).getD 0)
    rw [foldl_cons]
    omega

theorem parseDigits_eq_ok_iff :
    parseDigits limit total text = .ok value ↔
      (∀ c ∈ text, (toDigit 10 c).isSome = true) ∧
        value = text.foldl (fun total c => total * 10 + (toDigit 10 c).getD 0) total ∧
        (text = [] ∨ value < limit) := by
  induction text generalizing total with
  | nil =>
    rw [parseDigits, foldl_nil, Except.ok.injEq]
    constructor
    · exact fun same => ⟨nofun, same.symm, .inl rfl⟩
    · exact fun ⟨_, same, _⟩ => same.symm
  | cons c text ih =>
    rw [parseDigits, forall_mem_cons, foldl_cons]
    cases found : toDigit 10 c with
    | none => simp
    | some digit =>
      have least := le_digits text (total * 10 + digit)
      simp only [Option.isSome_some, true_and, Option.getD_some, reduceCtorEq, false_or]
      split
      case isTrue fits =>
        rw [ih]
        constructor
        · rintro ⟨digits, same, empty | below⟩
          · rw [empty, foldl_nil] at same
            exact ⟨digits, by rw [empty, foldl_nil, same], by omega⟩
          · exact ⟨digits, same, below⟩
        · exact fun ⟨digits, same, below⟩ => ⟨digits, same, .inr below⟩
      case isFalse large =>
        constructor
        · exact nofun
        · intro ⟨_, same, below⟩
          omega

/-- A number is read off digits, maybe after a sign, whose value fits. -/
theorem parseUnsigned_eq_ok_iff :
    parseUnsigned limit text = .ok value ↔
      ∃ digits, (text = digits ∨ text = '+' :: digits) ∧ digits ≠ [] ∧
        (∀ c ∈ digits, (toDigit 10 c).isSome = true) ∧ value = digitsValue 10 digits ∧
        value < limit := by
  have plus : (toDigit 10 '+').isSome = false := by decide
  have minus : (toDigit 10 '-').isSome = false := by decide
  have read : ∀ digits, digits ≠ [] → (parseDigits limit 0 digits = .ok value ↔
      (∀ c ∈ digits, (toDigit 10 c).isSome = true) ∧ value = digitsValue 10 digits ∧
        value < limit) := by
    intro digits some
    rw [parseDigits_eq_ok_iff, digitsValue]
    simp [some]
  rw [parseUnsigned.eq_def]
  split
  case h_1 => simp
  case h_2 => simp [plus]
  case h_3 => simp [minus]
  case h_4 digits nonempty =>
    have some : digits ≠ [] := fun empty => nonempty (by rw [empty])
    rw [read digits some]
    constructor
    · exact fun rest => ⟨digits, .inr rfl, some, rest⟩
    · rintro ⟨digits', same | same, some', all, rest⟩
      · rw [← same] at all
        exact absurd (all '+' mem_cons_self) (by rw [plus]; decide)
      · rw [(List.cons.inj same).2]
        exact ⟨all, rest⟩
  case h_5 nonempty _ _ unsigned =>
    rw [read text nonempty]
    constructor
    · exact fun rest => ⟨text, .inl rfl, nonempty, rest⟩
    · rintro ⟨digits', same | same, _, rest⟩
      · rw [same]
        exact rest
      · exact absurd same (unsigned digits')

theorem notMem_toDigits {c : Char} (strange : toDigit 10 c = none) (value : Nat) :
    c ∉ Nat.toDigits 10 value := by
  intro member
  obtain ⟨digit, small, rfl⟩ := exists_of_mem_toDigits (by decide) member
  rw [toDigit_digitChar (by decide) small] at strange
  exact nomatch strange

theorem parseUnsigned_toDigits (below : value < limit) :
    parseUnsigned limit (Nat.toDigits 10 value) = .ok value := by
  have plus : '+' ∉ Nat.toDigits 10 value := notMem_toDigits (by decide) value
  have minus : '-' ∉ Nat.toDigits 10 value := notMem_toDigits (by decide) value
  have some : Nat.toDigits 10 value ≠ [] := Nat.toDigits_ne_nil
  rw [parseUnsigned.eq_def]
  split
  case h_1 empty => exact absurd empty some
  case h_2 only => exact absurd (only ▸ mem_cons_self) plus
  case h_3 only => exact absurd (only ▸ mem_cons_self) minus
  case h_4 signed => exact absurd (signed ▸ mem_cons_self) plus
  case h_5 => exact parseDigits_toDigits below

end Unsigned

/-- An integer is read off digits, maybe after a sign, whose value fits. -/
theorem parseSigned_eq_ok_iff {limit : Nat} {text : List Char} {value : Int} :
    parseSigned limit text = .ok value ↔
      ∃ digits, digits ≠ [] ∧ (∀ c ∈ digits, (toDigit 10 c).isSome = true) ∧
        ((text = digits ∨ text = '+' :: digits) ∧ value = digitsValue 10 digits ∧
            digitsValue 10 digits < limit ∨
          text = '-' :: digits ∧ value = -(digitsValue 10 digits : Int) ∧
            digitsValue 10 digits ≤ limit) := by
  have minus : (toDigit 10 '-').isSome = false := by decide
  unfold parseSigned
  split
  case h_1 digit digits =>
    have total : ∀ number, parseDigits (limit + 1) 0 (digit :: digits) = .ok number ↔
        (∀ c ∈ digit :: digits, (toDigit 10 c).isSome = true) ∧
          number = digitsValue 10 (digit :: digits) ∧ number ≤ limit := by
      intro number
      rw [parseDigits_eq_ok_iff, digitsValue]
      simp
    constructor
    · intro read
      split at read
      case h_1 number found =>
        obtain ⟨all, same, fits⟩ := (total number).mp found
        refine ⟨digit :: digits, cons_ne_nil _ _, all, .inr ⟨rfl, ?_, same ▸ fits⟩⟩
        rw [← Except.ok.inj read, same]
      case h_2 | h_3 => cases read
    · rintro ⟨other, _, all, ⟨same | same, _⟩ | ⟨same, negated, fits⟩⟩
      · rw [← same] at all
        exact absurd (all '-' mem_cons_self) (by rw [minus]; exact Bool.false_ne_true)
      · exact absurd (List.cons.inj same).1 (by decide)
      · have rest := (List.cons.inj same).2
        rw [(total (digitsValue 10 other)).mpr ⟨rest ▸ all, by rw [rest], fits⟩, negated]
  case h_2 unsigned =>
    constructor
    · intro read
      cases found : parseUnsigned limit text with
      | error reason =>
        rw [found] at read
        cases read
      | ok number =>
        obtain ⟨digits, shape, filled, all, same, fits⟩ := parseUnsigned_eq_ok_iff.mp found
        rw [found] at read
        exact ⟨digits, filled, all, .inl ⟨shape, by rw [← Except.ok.inj read, same]; rfl,
          same ▸ fits⟩⟩
    · rintro ⟨digits, filled, all, ⟨shape, same, fits⟩ | ⟨same, _⟩⟩
      · rw [parseUnsigned_eq_ok_iff.mpr ⟨digits, shape, filled, all, rfl, fits⟩, same]
        rfl
      · cases digits with
        | nil => exact absurd rfl filled
        | cons digit digits => exact absurd same (unsigned digit digits)

end Ployz
