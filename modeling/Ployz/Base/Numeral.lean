import Mathlib

/-!
# Numerals in text

Reading a numeral off the front of a text, as the parsers of a standard library do: the
longest run of digits is taken, its length and its value are bounded, and leading zeros may
be refused. A numeral that was written is read back, with whatever follows it.
-/

namespace Ployz

open List

/-- The value of an alphanumeric digit. -/
def digitValue (c : Char) : Option Nat :=
  if '0' ≤ c ∧ c ≤ '9' then some (c.toNat - '0'.toNat)
  else if 'a' ≤ c ∧ c ≤ 'z' then some (c.toNat - 'a'.toNat + 10)
  else if 'A' ≤ c ∧ c ≤ 'Z' then some (c.toNat - 'A'.toNat + 10)
  else none

def toDigit (radix : Nat) (c : Char) : Option Nat := (digitValue c).filter (· < radix)

/-- The value of a run of digits, most significant first. -/
def digitsValue (radix : Nat) (digits : List Char) : Nat :=
  digits.foldl (fun total c => total * radix + (toDigit radix c).getD 0) 0

theorem digitsValue_lt (digits : List Char) : digitsValue 10 digits < 10 ^ digits.length := by
  induction digits using List.reverseRecOn with
  | nil => decide
  | append_singleton digits c ih =>
    have digit : (toDigit 10 c).getD 0 < 10 := by
      cases found : toDigit 10 c with
      | none => decide
      | some digit => simpa using (Option.filter_eq_some_iff.mp found).2
    rw [digitsValue] at ih ⊢
    rw [foldl_append, foldl_cons, foldl_nil, length_append,
      length_singleton, Nat.pow_succ]
    omega

variable {digit : Nat} {c : Char}

theorem lt_of_toDigit {radix : Nat} (found : toDigit radix c = some digit) : digit < radix := by
  simpa using (Option.filter_eq_some_iff.mp found).2

theorem digitChar_of_toDigit (found : toDigit 10 c = some digit) : Nat.digitChar digit = c := by
  have chars : ∀ digit < 10, Nat.digitChar digit = Char.ofNat (48 + digit) := by decide
  have small := lt_of_toDigit found
  have value := (Option.filter_eq_some_iff.mp found).1
  unfold digitValue at value
  split_ifs at value with low
  · have bound : '0'.toNat ≤ c.toNat := low.1
    have same := Option.some.inj value
    have zero : '0'.toNat = 48 := rfl
    rw [chars digit small, show 48 + digit = c.toNat by omega, Char.ofNat_toNat]
  all_goals
    have same := Option.some.inj value
    omega

/-- Digits without a leading zero are those of their value. -/
theorem toDigits_digitsValue {digits : List Char} (some : digits ≠ [])
    (all : ∀ c ∈ digits, (toDigit 10 c).isSome = true)
    (canonical : digits.head? = Option.some '0' → digits = ['0']) :
    Nat.toDigits 10 (digitsValue 10 digits) = digits := by
  induction digits using List.reverseRecOn with
  | nil => exact absurd rfl some
  | append_singleton front c ih =>
    have ⟨digit, found⟩ := Option.isSome_iff_exists.mp (all c (by simp))
    have small := lt_of_toDigit found
    have value : digitsValue 10 (front ++ [c]) = 10 * digitsValue 10 front + digit := by
      rw [digitsValue, foldl_append, foldl_cons, foldl_nil, found, Option.getD_some,
        Nat.mul_comm]
      rfl
    rw [value]
    cases front with
    | nil =>
      show Nat.toDigits 10 (10 * 0 + digit) = _
      rw [Nat.mul_zero, Nat.zero_add, Nat.toDigits_of_lt_base small, digitChar_of_toDigit found]
      rfl
    | cons first rest =>
      have leads : (first :: rest).head? ≠ Option.some '0' := by
        intro zero
        have short := congrArg List.length (canonical zero)
        simp at short
      have earlier := ih (cons_ne_nil _ _) (fun c member => all c (mem_append_left _ member))
        fun zero => absurd zero leads
      have positive : 0 < digitsValue 10 (first :: rest) := by
        rw [Nat.pos_iff_ne_zero]
        intro zero
        rw [zero] at earlier
        exact leads (by rw [← earlier]; rfl)
      rw [← Nat.toDigits_append_toDigits (by decide) positive small, earlier,
        Nat.toDigits_of_lt_base small, digitChar_of_toDigit found]

/-- A numeral off the front of the input: at most `maxDigits` digits, a value below `limit`, and no
leading zero unless allowed. -/
def readNumber (radix limit maxDigits : Nat) (zeroFirst : Bool) (input : List Char) :
    Option (Nat × List Char) :=
  let digits := input.takeWhile fun c => (toDigit radix c).isSome
  if digits = [] ∨ maxDigits < digits.length then none
  else if zeroFirst = false ∧ digits.head? = some '0' ∧ 1 < digits.length then none
  else if digitsValue radix digits < limit then
    some (digitsValue radix digits, input.dropWhile fun c => (toDigit radix c).isSome)
  else none

variable {limit maxDigits value : Nat} {zeroFirst : Bool} {input rest : List Char}

theorem rest_of_readNumber {radix : Nat}
    (read : readNumber radix limit maxDigits zeroFirst input = some (value, rest)) :
    rest = input.dropWhile fun c => (toDigit radix c).isSome := by
  simp only [readNumber] at read
  split_ifs at read
  exact (Prod.mk.inj (Option.some.inj read)).2.symm

theorem readNumber_eq_none {radix : Nat} (stops : ∀ c ∈ input.head?, toDigit radix c = none) :
    readNumber radix limit maxDigits zeroFirst input = none := by
  have empty : input.takeWhile (fun c => (toDigit radix c).isSome) = [] := by
    cases input with
    | nil => rfl
    | cons c input => simp [stops c rfl]
  simp only [readNumber, empty, true_or, ↓reduceIte]

section Written

variable {radix : Nat}

theorem toDigit_digitChar (small : radix ≤ 16) (below : digit < radix) :
    toDigit radix (Nat.digitChar digit) = some digit := by
  have values : ∀ digit < 16, digitValue (Nat.digitChar digit) = some digit := by decide
  rw [toDigit, values digit (by omega)]
  simp [below]

theorem exists_of_mem_toDigits (large : 1 < radix) (member : c ∈ Nat.toDigits radix value) :
    ∃ digit < radix, c = Nat.digitChar digit := by
  induction value using Nat.base_induction radix large with
  | single low below =>
    rw [Nat.toDigits_of_lt_base below, mem_singleton] at member
    exact ⟨low, below, member⟩
  | digit high low below positive ih =>
    rw [← Nat.toDigits_append_toDigits large positive below, mem_append] at member
    rcases member with earlier | last
    · exact ih earlier
    · rw [Nat.toDigits_of_lt_base below, mem_singleton] at last
      exact ⟨low, below, last⟩

theorem digitsValue_toDigits (large : 1 < radix) (small : radix ≤ 16) (value : Nat) :
    digitsValue radix (Nat.toDigits radix value) = value := by
  induction value using Nat.base_induction radix large with
  | single low below =>
    rw [Nat.toDigits_of_lt_base below]
    simp [digitsValue, toDigit_digitChar small below]
  | digit high low below positive ih =>
    rw [← Nat.toDigits_append_toDigits large positive below, Nat.toDigits_of_lt_base below]
    unfold digitsValue at ih ⊢
    rw [foldl_append, ih, foldl_cons, foldl_nil, toDigit_digitChar small below,
      Option.getD_some, Nat.mul_comm]

theorem head?_toDigits (large : 1 < radix) (positive : 0 < value) :
    (Nat.toDigits radix value).head? ≠ some '0' := by
  induction value using Nat.base_induction radix large with
  | single low below =>
    rw [Nat.toDigits_of_lt_base below]
    simp only [head?_cons, ne_eq, Option.some.injEq, Nat.digitChar_eq_zero]
    omega
  | digit high low below higher ih =>
    rw [← Nat.toDigits_append_toDigits large higher below,
      head?_append_of_ne_nil _ Nat.toDigits_ne_nil]
    exact ih higher

/-- A written numeral is read back, together with what follows it. -/
theorem readNumber_toDigits (large : 1 < radix) (small : radix ≤ 16) (zeroFirst : Bool)
    (room : 0 < maxDigits) (below : value < limit) (short : value < radix ^ maxDigits)
    (stops : ∀ c ∈ rest.head?, toDigit radix c = none) :
    readNumber radix limit maxDigits zeroFirst (Nat.toDigits radix value ++ rest) =
      some (value, rest) := by
  have every : ∀ c ∈ Nat.toDigits radix value, (toDigit radix c).isSome = true := by
    intro c member
    obtain ⟨digit, digitBelow, rfl⟩ := exists_of_mem_toDigits large member
    rw [toDigit_digitChar small digitBelow]
    rfl
  have digits : (Nat.toDigits radix value ++ rest).takeWhile
      (fun c => (toDigit radix c).isSome) = Nat.toDigits radix value := by
    rw [takeWhile_append_of_pos every]
    cases rest with
    | nil => simp
    | cons c rest => simp [stops c rfl]
  have left : (Nat.toDigits radix value ++ rest).dropWhile
      (fun c => (toDigit radix c).isSome) = rest := by
    rw [dropWhile_append_of_pos every]
    cases rest with
    | nil => rfl
    | cons c rest => simp [stops c rfl]
  have length : ¬ (Nat.toDigits radix value = [] ∨
      maxDigits < (Nat.toDigits radix value).length) := by
    have bound := (Nat.length_toDigits_le_iff large room).mpr short
    have some : Nat.toDigits radix value ≠ [] := Nat.toDigits_ne_nil
    rintro (none | long)
    · exact some none
    · omega
  have zero : ¬ (zeroFirst = false ∧ (Nat.toDigits radix value).head? = some '0' ∧
      1 < (Nat.toDigits radix value).length) := by
    rintro ⟨_, first, long⟩
    rcases Nat.eq_zero_or_pos value with rfl | positive
    · simp at long
    · exact head?_toDigits large positive first
  unfold readNumber
  simp only [digits, if_neg length, if_neg zero, digitsValue_toDigits large small, if_pos below,
    left]

end Written

/-- `str::rsplit_once` at a character. -/
def rsplitOnce (separator : Char) : List Char → Option (List Char × List Char)
  | [] => none
  | c :: text =>
    match rsplitOnce separator text with
    | some (before, after) => some (c :: before, after)
    | none => if c = separator then some ([], text) else none

variable {separator : Char}

theorem rsplitOnce_eq_none {text : List Char} (absent : separator ∉ text) :
    rsplitOnce separator text = none := by
  induction text with
  | nil => rfl
  | cons c text ih =>
    rw [mem_cons, not_or] at absent
    rw [rsplitOnce, ih absent.2]
    exact if_neg fun same => absent.1 same.symm

theorem rsplitOnce_append (before : List Char) {after : List Char} (absent : separator ∉ after) :
    rsplitOnce separator (before ++ separator :: after) = some (before, after) := by
  induction before with
  | nil =>
    rw [nil_append, rsplitOnce, rsplitOnce_eq_none absent]
    exact if_pos rfl
  | cons c before ih => rw [cons_append, rsplitOnce, ih]

end Ployz
