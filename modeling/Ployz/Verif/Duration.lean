import Ployz.Api.Duration

/-!
# Durations are exact up to minutes

A well-formed duration is a sign and a list of components, each a decimal number with a unit. The
parser accepts no other text but `0`. For a component it adds what the digits of the fraction are
worth one by one, which loses nothing while the unit is a power of ten; for minutes and hours the
digits behind the last whole nanosecond are lost, even where together they are worth one.
-/

namespace Ployz.Api

open List

/-- The units, with the three ways to write microseconds. -/
inductive DurationUnit where
  | nanosecond
  | microsecond
  | microSign
  | mu
  | millisecond
  | second
  | minute
  | hour
deriving DecidableEq, Repr

namespace DurationUnit

def text : DurationUnit → List Char
  | .nanosecond => ['n', 's']
  | .microsecond => ['u', 's']
  | .microSign => ['µ', 's']
  | .mu => ['μ', 's']
  | .millisecond => ['m', 's']
  | .second => ['s']
  | .minute => ['m']
  | .hour => ['h']

/-- The unit is a small number times a power of ten. -/
def factor : DurationUnit → Nat
  | .minute => 6
  | .hour => 36
  | _ => 1

def exponent : DurationUnit → Nat
  | .nanosecond => 0
  | .microsecond | .microSign | .mu => 3
  | .millisecond => 6
  | .second => 9
  | .minute => 10
  | .hour => 11

/-- The unit in nanoseconds. -/
def length (unit : DurationUnit) : Nat := unit.factor * 10 ^ unit.exponent

end DurationUnit

/-- A number with its unit. -/
structure Component where
  whole : List Char
  fraction : List Char
  pointed : Bool
  unit : DurationUnit
  digits : ∀ c ∈ whole ++ fraction, (toDigit 10 c).isSome = true
  some : whole ++ fraction ≠ []
  plain : pointed = false → fraction = []

namespace Component

variable (self : Component)

def number : List Char := self.whole ++ if self.pointed then '.' :: self.fraction else []

def text : List Char := self.number ++ self.unit.text

/-- The number as a rational. -/
def decimal : ℚ := digitsValue 10 self.whole + digitsValue 10 self.fraction / 10 ^ self.fraction.length

/-- The integer part of the number times its unit. -/
def exact : Nat := ⌊self.decimal * self.unit.length⌋₊

end Component

/-- The sign that is written. -/
inductive DurationSign where
  | none
  | plus
  | minus
deriving DecidableEq, Repr

namespace DurationSign

def text : DurationSign → List Char
  | .none => []
  | .plus => ['+']
  | .minus => ['-']

def factor : DurationSign → Int
  | .minus => -1
  | _ => 1

end DurationSign

/-- A well-formed duration. -/
structure Duration where
  sign : DurationSign
  components : List Component
  nonempty : components ≠ []

namespace Duration

variable (self : Duration)

def text : String := String.ofList (self.sign.text ++ self.components.flatMap Component.text)

/-- The exact value. -/
def exact : Int := self.sign.factor * (self.components.map Component.exact).sum

end Duration

section Counting

/-- What the loop over the digits of a fraction adds. -/
def fractionSum : Nat → List Char → Nat
  | _, [] => 0
  | place, digit :: digits =>
    (toDigit 10 digit).getD 0 * (place / 10) + fractionSum (place / 10) digits

/-- What the parser counts for a component. -/
def Component.counted (self : Component) : Nat :=
  digitsValue 10 self.whole * self.unit.length + fractionSum self.unit.length self.fraction

/-- A digit of a unit that is a multiple of ten counts exactly. -/
theorem fractionSum_mul_ten (unit : Nat) (digit : Char) (digits : List Char) :
    fractionSum (unit * 10) (digit :: digits) =
      (toDigit 10 digit).getD 0 * unit + fractionSum unit digits := by
  rw [fractionSum, Nat.mul_div_cancel unit (by decide)]

theorem fractionSum_zero (digits : List Char) : fractionSum 0 digits = 0 := by
  induction digits with
  | nil => rfl
  | cons digit digits ih =>
    rw [fractionSum, Nat.zero_div, Nat.mul_zero, ih]

/-- The integer part of a fraction times a unit. -/
def exactFraction (unit : Nat) (digits : List Char) : Nat :=
  unit * digitsValue 10 digits / 10 ^ digits.length

/-- The first digit of a number is worth the most. -/
theorem digitsValue_cons (digit : Char) (digits : List Char) :
    digitsValue 10 (digit :: digits) =
      (toDigit 10 digit).getD 0 * 10 ^ digits.length + digitsValue 10 digits := by
  induction digits using List.reverseRecOn with
  | nil => simp [digitsValue]
  | append_singleton digits last ih =>
    unfold digitsValue at ih ⊢
    rw [← cons_append, foldl_append, foldl_append, ih, length_append,
      length_singleton, pow_succ]
    simp only [foldl_cons, foldl_nil]
    ring

/-- The exact value loses its first digit as the sum does. -/
theorem exactFraction_mul_ten (unit : Nat) (digit : Char) (digits : List Char) :
    exactFraction (unit * 10) (digit :: digits) =
      (toDigit 10 digit).getD 0 * unit + exactFraction unit digits := by
  unfold exactFraction
  have positive : 0 < 10 ^ digits.length := Nat.pow_pos (by decide)
  have split : unit * 10 * digitsValue 10 (digit :: digits) =
      (unit * digitsValue 10 digits + (toDigit 10 digit).getD 0 * unit * 10 ^ digits.length) * 10 := by
    rw [digitsValue_cons]
    ring
  rw [split, length_cons, pow_succ, Nat.mul_div_mul_right _ _ (by decide),
    Nat.add_mul_div_right _ _ positive, Nat.add_comm]

/-- While the unit is a multiple of ten, a digit is counted exactly. -/
theorem exactFraction_add (factor exponent : Nat) (digits : List Char) :
    exactFraction (factor * 10 ^ exponent) digits + fractionSum factor (digits.drop exponent) =
      fractionSum (factor * 10 ^ exponent) digits +
        exactFraction factor (digits.drop exponent) := by
  induction exponent generalizing digits with
  | zero =>
    rw [pow_zero, Nat.mul_one, drop_zero, Nat.add_comm]
  | succ exponent ih =>
    cases digits with
    | nil => simp [exactFraction, fractionSum, digitsValue]
    | cons digit digits =>
      have step := ih digits
      rw [pow_succ, ← Nat.mul_assoc, exactFraction_mul_ten, fractionSum_mul_ten,
        drop_succ_cons]
      omega

/-- The digits behind the last whole nanosecond are worth no nanosecond more than what the parser
counts for them. -/
def Component.Kept (self : Component) : Prop :=
  let rest := self.fraction.drop self.unit.exponent
  match self.unit with
  | .minute => 6 * digitsValue 10 rest < 10 ^ rest.length
  | .hour => 36 * digitsValue 10 rest < (3 * digitsValue 10 (rest.take 1) + 1) * 10 ^ rest.length
  | _ => True

/-- The exact value as a natural number. -/
theorem Component.exact_eq (self : Component) : self.exact =
    digitsValue 10 self.whole * self.unit.length + exactFraction self.unit.length self.fraction := by
  have positive : 0 < 10 ^ self.fraction.length := Nat.pow_pos (by decide)
  have ratio : self.decimal * self.unit.length =
      ((self.unit.length * digitsValue 10 self.fraction +
        digitsValue 10 self.whole * self.unit.length * 10 ^ self.fraction.length : ℕ) : ℚ) /
        ((10 ^ self.fraction.length : ℕ) : ℚ) := by
    unfold Component.decimal
    push_cast
    field_simp
    ring
  unfold Component.exact exactFraction
  rw [ratio, Nat.floor_div_eq_div, Nat.add_mul_div_right _ _ positive, Nat.add_comm]

/-- Less than a nanosecond is worth none. -/
theorem exactFraction_one (digits : List Char) : exactFraction 1 digits = 0 := by
  unfold exactFraction
  rw [Nat.one_mul]
  exact Nat.div_eq_of_lt (digitsValue_lt digits)

/-- No digit counts below ten nanoseconds. -/
theorem fractionSum_of_lt_ten {unit : Nat} (small : unit < 10) (digits : List Char) :
    fractionSum unit digits = 0 := by
  cases digits with
  | nil => rfl
  | cons digit digits =>
    rw [fractionSum, Nat.div_eq_of_lt small, fractionSum_zero, Nat.mul_zero]

/-- Six nanoseconds lose what their digits are worth. -/
theorem exactFraction_six (digits : List Char) :
    exactFraction 6 digits = fractionSum 6 digits ↔
      6 * digitsValue 10 digits < 10 ^ digits.length := by
  rw [fractionSum_of_lt_ten (by decide)]
  unfold exactFraction
  rw [Nat.div_eq_zero_iff_lt (Nat.pow_pos (by decide))]

theorem fractionSum_thirtySix (digits : List Char) :
    fractionSum 36 digits = 3 * digitsValue 10 (digits.take 1) := by
  cases digits with
  | nil => rfl
  | cons digit digits =>
    rw [fractionSum, fractionSum_of_lt_ten (by decide), take_succ_cons, take_zero,
      digitsValue_cons]
    simp [digitsValue, Nat.mul_comm]

/-- Of 36 nanoseconds, only the first digit counts. -/
theorem exactFraction_thirtySix (digits : List Char) :
    fractionSum 36 digits ≤ exactFraction 36 digits ∧
      (exactFraction 36 digits = fractionSum 36 digits ↔ 36 * digitsValue 10 digits <
        (3 * digitsValue 10 (digits.take 1) + 1) * 10 ^ digits.length) := by
  have positive : 0 < 10 ^ digits.length := Nat.pow_pos (by decide)
  have least : fractionSum 36 digits ≤ exactFraction 36 digits := by
    rw [fractionSum_thirtySix]
    unfold exactFraction
    rw [Nat.le_div_iff_mul_le positive]
    cases digits with
    | nil => exact Nat.zero_le _
    | cons digit digits =>
      rw [take_succ_cons, take_zero, digitsValue_cons, digitsValue_cons,
        length_cons, pow_succ]
      simp only [digitsValue, foldl_nil, length_nil, pow_zero, Nat.mul_one, Nat.add_zero]
      generalize (toDigit 10 digit).getD 0 = value
      generalize 10 ^ digits.length = scale
      have expand : 3 * value * (scale * 10) = 30 * (value * scale) := by ring
      have expand' : 36 * (value * scale + digits.foldl
          (fun total c => total * 10 + (toDigit 10 c).getD 0) 0) = 36 * (value * scale) +
          36 * digits.foldl (fun total c => total * 10 + (toDigit 10 c).getD 0) 0 := by ring
      omega
  refine ⟨least, ?_⟩
  rw [← fractionSum_thirtySix, ← Nat.div_lt_iff_lt_mul positive]
  show _ ↔ exactFraction 36 digits < _
  omega

/-- What is left of the digits when the unit is no multiple of ten any more. -/
theorem Component.rest_le (self : Component) :
    fractionSum self.unit.factor (self.fraction.drop self.unit.exponent) ≤
        exactFraction self.unit.factor (self.fraction.drop self.unit.exponent) ∧
      (exactFraction self.unit.factor (self.fraction.drop self.unit.exponent) =
        fractionSum self.unit.factor (self.fraction.drop self.unit.exponent) ↔ self.Kept) := by
  unfold Kept
  generalize self.fraction.drop self.unit.exponent = digits
  have power : fractionSum 1 digits = 0 := fractionSum_of_lt_ten (by decide) digits
  cases self.unit with
  | minute =>
    refine ⟨?_, exactFraction_six digits⟩
    rw [DurationUnit.factor, fractionSum_of_lt_ten (by decide)]
    exact Nat.zero_le _
  | hour => exact exactFraction_thirtySix digits
  | _ =>
    show fractionSum 1 digits ≤ exactFraction 1 digits ∧
      (exactFraction 1 digits = fractionSum 1 digits ↔ True)
    rw [power, exactFraction_one]
    exact ⟨le_rfl, iff_of_true rfl trivial⟩

/-- The parser counts at most the exact value of a component, and all of it if no digit is lost. -/
theorem Component.counted_le (self : Component) :
    self.counted ≤ self.exact ∧ (self.exact = self.counted ↔ self.Kept) := by
  have whole := exactFraction_add self.unit.factor self.unit.exponent self.fraction
  have ⟨least, kept⟩ := self.rest_le
  rw [← kept, self.exact_eq]
  unfold counted DurationUnit.length
  omega

end Counting

variable {tail rest : List Char}

section Reading

theorem checkedI128_ofNat (value : Nat) :
    checkedI128 value = if value < 2 ^ 127 then some (value : Int) else none := by
  unfold checkedI128
  split_ifs <;> first | rfl | omega

/-- Checked arithmetic fails just when the total does not fit. -/
theorem checkedI128_add {α : Type} (total amount : Nat) (next : Int → Option α) :
    ((checkedI128 amount).bind fun amount => (checkedI128 (total + amount)).bind next) =
      if total + amount < 2 ^ 127 then next ((total + amount : Nat) : Int) else none := by
  rw [checkedI128_ofNat]
  split_ifs with small fits fits
  · rw [Option.bind_some, ← Nat.cast_add, checkedI128_ofNat, if_pos fits, Option.bind_some]
  · rw [Option.bind_some, ← Nat.cast_add, checkedI128_ofNat, if_neg fits, Option.bind_none]
  · omega
  · rfl

/-- The loop over the digits adds their sum, if that fits. -/
theorem addFraction_eq (digits : List Char) (place total : Nat) (fits : total < 2 ^ 127) :
    addFraction digits place total = checkedI128 ((total + fractionSum place digits : Nat) : Int) := by
  induction digits generalizing place total with
  | nil =>
    rw [addFraction, fractionSum, Nat.add_zero, checkedI128_ofNat, if_pos fits]
  | cons digit digits ih =>
    have quotient : (place : Int).tdiv 10 = ((place / 10 : Nat) : Int) := rfl
    rw [addFraction, fractionSum, quotient]
    generalize place / 10 = place
    generalize (toDigit 10 digit).getD 0 = value
    by_cases small : place = 0
    · rw [if_pos (by rw [small]; rfl), small, Nat.mul_zero, fractionSum_zero, Nat.add_zero,
        checkedI128_ofNat, if_pos fits]
    · rw [if_neg (by omega)]
      show ((checkedI128 ((value : Int) * place)).bind fun amount =>
        (checkedI128 (total + amount)).bind (addFraction digits place)) = _
      rw [← Nat.cast_mul, checkedI128_add]
      split_ifs with below
      · rw [ih _ _ below, Nat.add_assoc]
      · rw [checkedI128_ofNat, if_neg]
        omega

/-- A whole number is read if it fits. -/
theorem readWhole_eq {whole : List Char} (digits : ∀ c ∈ whole, (toDigit 10 c).isSome = true) :
    readWhole whole = if digitsValue 10 whole < 2 ^ 127 then some (digitsValue 10 whole : Int)
      else none := by
  unfold readWhole
  by_cases empty : whole = []
  · rw [if_pos empty, empty]
    rfl
  · rw [if_neg empty]
    split_ifs with below
    · rw [parseUnsigned_eq_ok_iff.mpr ⟨whole, .inl rfl, empty, digits, rfl, below⟩]
      rfl
    · cases read : parseUnsigned (2 ^ 127) whole with
      | error reason => rfl
      | ok value =>
        have ⟨digits', same, _, _, value', below'⟩ := parseUnsigned_eq_ok_iff.mp read
        rcases same with same | same
        · rw [same, ← value'] at below
          exact absurd below' below
        · rw [same] at digits
          exact absurd (digits '+' mem_cons_self) (by decide)

theorem isNumeric_of_digit {c : Char} (digit : (toDigit 10 c).isSome = true) :
    isNumeric c = true := by
  unfold isNumeric
  rw [digit, Bool.true_or]

theorem ne_point_of_digit {c : Char} (digit : (toDigit 10 c).isSome = true) : c ≠ '.' := by
  intro same
  rw [same] at digit
  exact absurd digit (by decide)

namespace Component

variable (self : Component) {c : Char}

theorem whole_digits (member : c ∈ self.whole) : (toDigit 10 c).isSome = true :=
  self.digits c (mem_append_left _ member)

theorem fraction_digits (member : c ∈ self.fraction) : (toDigit 10 c).isSome = true :=
  self.digits c (mem_append_right _ member)

/-- A number is made of digits and points. -/
theorem isNumeric_number (member : c ∈ self.number) : isNumeric c = true := by
  unfold number at member
  rcases mem_append.mp member with whole | point
  · exact isNumeric_of_digit (self.whole_digits whole)
  · split_ifs at point
    · rcases mem_cons.mp point with same | fraction
      · rw [same]
        rfl
      · exact isNumeric_of_digit (self.fraction_digits fraction)
    · exact nomatch point

theorem number_ne_nil : self.number ≠ [] := by
  unfold number
  intro empty
  have ⟨whole, point⟩ := append_eq_nil_iff.mp empty
  split_ifs at point with pointed
  have plain := self.plain (eq_false_of_ne_true pointed)
  exact self.some (by rw [whole, plain]; rfl)

/-- A number is cut at its point. -/
theorem splitOnce_number : (splitOnce '.' self.number).getD (self.number, []) =
    (self.whole, self.fraction) := by
  have absent : '.' ∉ self.whole :=
    fun member => ne_point_of_digit (self.whole_digits member) rfl
  unfold number
  split_ifs with pointed
  · rw [splitOnce_append absent]
    rfl
  · rw [append_nil, splitOnce_eq_none absent, self.plain (eq_false_of_ne_true pointed)]
    rfl

theorem count_number : self.number.count '.' ≤ 1 := by
  have whole : self.whole.count '.' = 0 := count_eq_zero.mpr
    fun member => ne_point_of_digit (self.whole_digits member) rfl
  have fraction : self.fraction.count '.' = 0 := count_eq_zero.mpr
    fun member => ne_point_of_digit (self.fraction_digits member) rfl
  unfold number
  rw [count_append, whole]
  split_ifs
  · rw [count_cons_self, fraction]
  · exact Nat.zero_le _

end Component

/-- A unit is read back unless an `s` follows the minutes. -/
theorem readUnit_text (unit : DurationUnit) (clear : tail.head? ≠ some 's') :
    readUnit (unit.text ++ tail) = some ((unit.length : Int), tail) := by
  cases unit with
  | minute =>
    cases tail with
    | nil => rfl
    | cons c tail =>
      have other : c ≠ 's' := fun same => clear (by rw [same]; rfl)
      simp [readUnit, DurationUnit.text, DurationUnit.length, DurationUnit.factor,
        DurationUnit.exponent, other]
  | _ => rfl

theorem takeWhile_unit (unit : DurationUnit) (tail : List Char) :
    (unit.text ++ tail).takeWhile isNumeric = [] ∧
      (unit.text ++ tail).dropWhile isNumeric = unit.text ++ tail := by
  cases unit <;> exact ⟨rfl, rfl⟩

/-- A component is counted, if the total fits. -/
theorem addComponent_text (self : Component) (clear : tail.head? ≠ some 's') (total : Nat)
    (fits : total < 2 ^ 127) :
    addComponent (self.text ++ tail) total =
      (checkedI128 ((total + self.counted : Nat) : Int)).map fun total => (total, tail) := by
  have numeric : ∀ c ∈ self.number, isNumeric c = true := fun c => self.isNumeric_number
  have ⟨taken, dropped⟩ := takeWhile_unit self.unit tail
  have fraction : self.fraction.all (fun c => (toDigit 10 c).isSome) = true :=
    all_eq_true.mpr fun c => self.fraction_digits
  have accepted : ¬ (1 < self.number.count '.' ∨ self.whole = [] ∧ self.fraction = []) := by
    rintro (twice | ⟨whole, fraction⟩)
    · exact absurd self.count_number (Nat.not_le_of_gt twice)
    · exact self.some (by rw [whole, fraction]; rfl)
  unfold addComponent Component.text
  rw [append_assoc, takeWhile_append_of_pos numeric, dropWhile_append_of_pos numeric,
    taken, dropped, append_nil]
  dsimp only
  rw [self.splitOnce_number]
  dsimp only
  rw [if_neg self.number_ne_nil, if_neg accepted, readWhole_eq fun c => self.whole_digits]
  unfold Component.counted
  have positive : 0 < self.unit.length := by cases self.unit <;> decide
  by_cases below : digitsValue 10 self.whole < 2 ^ 127
  · rw [if_pos below, Option.bind_eq_bind, Option.bind_some, if_pos fraction,
      readUnit_text self.unit clear, Option.bind_eq_bind, Option.bind_some]
    dsimp only
    rw [← Nat.cast_mul, checkedI128_add, ← Nat.add_assoc]
    split_ifs with more
    · rw [addFraction_eq _ _ _ more]
      cases checkedI128 _ <;> rfl
    · rw [checkedI128_ofNat, if_neg (by omega)]
      rfl
  · have large : digitsValue 10 self.whole ≤ digitsValue 10 self.whole * self.unit.length :=
      Nat.le_mul_of_pos_right _ positive
    rw [if_neg below, checkedI128_ofNat, if_neg (by omega)]
    rfl

/-- A component starts with a digit or a point, and is longer than that. -/
theorem exists_text_cons (self : Component) :
    ∃ c text, self.text = c :: text ∧ isNumeric c = true ∧ text ≠ [] := by
  have ⟨c, number, same⟩ := exists_cons_of_ne_nil self.number_ne_nil
  have unit : self.unit.text ≠ [] := by cases self.unit <;> exact nofun
  refine ⟨c, number ++ self.unit.text, ?_, ?_, ?_⟩
  · unfold Component.text
    rw [same]
    rfl
  · apply self.isNumeric_number
    rw [same]
    exact mem_cons_self
  · exact fun empty => unit (append_eq_nil_iff.mp empty).2

theorem ne_of_isNumeric {c other : Char} (numeric : isNumeric c = true)
    (plain : isNumeric other = false) : c ≠ other := by
  intro same
  rw [same, plain] at numeric
  cases numeric

theorem head_text (self : Component) (tail : List Char) :
    (self.text ++ tail).head? ≠ some 's' := by
  have ⟨c, text, same, numeric, _⟩ := exists_text_cons self
  rw [same]
  exact fun head => ne_of_isNumeric numeric (by decide) (Option.some.inj head)

/-- No component starts with an `s`. -/
theorem head_components (components : List Component) :
    (components.flatMap Component.text).head? ≠ some 's' := by
  cases components with
  | nil => exact nofun
  | cons component components =>
    rw [flatMap_cons]
    exact head_text component _

theorem addComponents_succ (some : rest ≠ []) (rounds : Nat) (total : Int) :
    addComponents (rounds + 1) rest total =
      (addComponent rest total).bind fun (total, rest) => addComponents rounds rest total := by
  cases rest with
  | nil => exact absurd rfl some
  | cons c rest => rfl

/-- Components are counted one after the other, if the total fits. -/
theorem addComponents_text (components : List Component) (total rounds : Nat)
    (fits : total < 2 ^ 127) (enough : (components.flatMap Component.text).length ≤ rounds) :
    addComponents rounds (components.flatMap Component.text) total =
      checkedI128 ((total + (components.map Component.counted).sum : Nat) : Int) := by
  induction components generalizing total rounds with
  | nil =>
    rw [map_nil, sum_nil, Nat.add_zero, checkedI128_ofNat, if_pos fits]
    cases rounds <;> rfl
  | cons component components ih =>
    have some : component.text ≠ [] := append_ne_nil_of_left_ne_nil component.number_ne_nil _
    have long := length_pos_of_ne_nil some
    rw [flatMap_cons] at enough ⊢
    rw [length_append] at enough
    have ⟨left, same⟩ := Nat.exists_eq_succ_of_ne_zero (by omega : rounds ≠ 0)
    rw [same, addComponents_succ (append_ne_nil_of_left_ne_nil some _), addComponent_text component (head_components _) total fits,
      map_cons, sum_cons, ← Nat.add_assoc, checkedI128_ofNat]
    split_ifs with below
    · exact ih _ left below (by omega)
    · rw [checkedI128_ofNat, if_neg (by omega)]
      rfl

end Reading

section Accepting

/-- What is read as a unit is the text of one. -/
theorem readUnit_eq_some {text : List Char} {length : Int}
    (read : readUnit text = some (length, rest)) :
    ∃ unit : DurationUnit, text = unit.text ++ rest := by
  unfold readUnit at read
  split at read
  case h_9 => exact nomatch read
  case h_1 => exact ⟨.nanosecond, by cases read; rfl⟩
  case h_2 => exact ⟨.microsecond, by cases read; rfl⟩
  case h_3 => exact ⟨.microSign, by cases read; rfl⟩
  case h_4 => exact ⟨.mu, by cases read; rfl⟩
  case h_5 => exact ⟨.millisecond, by cases read; rfl⟩
  case h_6 => exact ⟨.second, by cases read; rfl⟩
  case h_7 => exact ⟨.minute, by cases read; rfl⟩
  case h_8 => exact ⟨.hour, by cases read; rfl⟩

theorem digit_of_isNumeric {c : Char} (numeric : isNumeric c = true) (other : c ≠ '.') :
    (toDigit 10 c).isSome = true := by
  unfold isNumeric at numeric
  rcases Bool.or_eq_true_iff.mp numeric with digit | point
  · exact digit
  · exact absurd (beq_iff_eq.mp point) other

variable {total next : Int}

/-- What the parser has found in a component it accepts. -/
theorem addComponent_eq_some (added : addComponent rest total = some (next, tail)) :
    ∃ whole fraction length,
      (splitOnce '.' (rest.takeWhile isNumeric)).getD (rest.takeWhile isNumeric, []) =
        (whole, fraction) ∧
      ¬ (whole = [] ∧ fraction = []) ∧ (∀ c ∈ fraction, (toDigit 10 c).isSome = true) ∧
      readUnit (rest.dropWhile isNumeric) = some (length, tail) := by
  unfold addComponent at added
  dsimp only at added
  generalize parts : (splitOnce '.' (rest.takeWhile isNumeric)).getD
    (rest.takeWhile isNumeric, []) = pair at added
  have ⟨whole, fraction⟩ := pair
  dsimp only at added
  split_ifs at added with _ refused digits
  · have ⟨_, _, added⟩ := Option.bind_eq_some_iff.mp added
    have ⟨⟨length, left⟩, read, added⟩ := Option.bind_eq_some_iff.mp added
    have ⟨_, _, added⟩ := Option.bind_eq_some_iff.mp added
    have ⟨_, _, added⟩ := Option.bind_eq_some_iff.mp added
    have ⟨_, _, added⟩ := Option.bind_eq_some_iff.mp added
    cases added
    exact ⟨whole, fraction, length, rfl, fun empty => refused (.inr empty),
      all_eq_true.mp digits, read⟩
  · have ⟨_, _, fails⟩ := Option.bind_eq_some_iff.mp added
    exact nomatch fails

/-- What is counted is the text of a component. -/
theorem exists_component (added : addComponent rest total = some (next, tail)) :
    ∃ component : Component, rest = component.text ++ tail := by
  have ⟨whole, fraction, length, parts, present, digits, read⟩ := addComponent_eq_some added
  have ⟨unit, behind⟩ := readUnit_eq_some read
  have joined : rest.takeWhile isNumeric ++ (unit.text ++ tail) = rest := by
    rw [← behind]
    exact takeWhile_append_dropWhile
  have numeric : ∀ c ∈ rest.takeWhile isNumeric, isNumeric c = true :=
    fun c member => mem_takeWhile_imp member
  have filled : whole ++ fraction ≠ [] := fun empty => present (append_eq_nil_iff.mp empty)
  generalize rest.takeWhile isNumeric = number at *
  cases split : splitOnce '.' number with
  | none =>
    rw [split] at parts
    cases parts
    have all : ∀ c ∈ whole ++ [], (toDigit 10 c).isSome = true := by
      intro c member
      rw [append_nil] at member
      apply digit_of_isNumeric (numeric c member)
      intro same
      rw [same] at member
      exact notMem_of_splitOnce split member
    refine ⟨⟨whole, [], false, unit, all, filled, fun _ => rfl⟩, ?_⟩
    rw [← joined]
    unfold Component.text Component.number
    simp
  | some pair =>
    rw [split] at parts
    cases parts
    have ⟨same, absent⟩ := splitOnce_eq_some split
    rw [same] at joined numeric
    have all : ∀ c ∈ whole ++ fraction, (toDigit 10 c).isSome = true := by
      intro c member
      rcases mem_append.mp member with front | back
      · apply digit_of_isNumeric (numeric c (mem_append_left _ front))
        intro point
        rw [point] at front
        exact absent front
      · exact digits c back
    refine ⟨⟨whole, fraction, true, unit, all, filled, nofun⟩, ?_⟩
    rw [← joined]
    unfold Component.text Component.number
    simp

/-- What is counted is the text of components. -/
theorem exists_components {rounds : Nat} (added : addComponents rounds rest total = some next) :
    ∃ components : List Component, rest = components.flatMap Component.text := by
  induction rounds generalizing rest total with
  | zero =>
    cases rest with
    | nil => exact ⟨[], rfl⟩
    | cons c rest => exact nomatch added
  | succ rounds ih =>
    by_cases empty : rest = []
    · exact ⟨[], empty⟩
    · rw [addComponents_succ empty] at added
      have ⟨⟨more, tail⟩, first, later⟩ := Option.bind_eq_some_iff.mp added
      have ⟨component, front⟩ := exists_component first
      have ⟨components, back⟩ := ih later
      refine ⟨component :: components, ?_⟩
      rw [front, back, flatMap_cons]

end Accepting

/-- A sign is read off, if there is one. -/
theorem readSign_eq (value : List Char) : ∃ sign : DurationSign,
    value = sign.text ++ (readSign value).2 ∧ (readSign value).1 = sign.factor := by
  unfold readSign
  split
  · exact ⟨.minus, rfl, rfl⟩
  · exact ⟨.plus, rfl, rfl⟩
  · exact ⟨.none, rfl, rfl⟩

/-- Only `0` and well-formed durations are accepted. -/
theorem exists_duration {value : String} {result : Int}
    (parsed : parseGoDuration value = some result) :
    value = "0" ∧ result = 0 ∨ ∃ duration : Duration, duration.text = value := by
  unfold parseGoDuration at parsed
  split_ifs at parsed with zero
  · cases parsed
    exact .inl ⟨zero, rfl⟩
  · right
    have ⟨sign, front, _⟩ := readSign_eq value.toList
    dsimp only at parsed
    split_ifs at parsed with empty
    have ⟨total, added, _⟩ := Option.bind_eq_some_iff.mp parsed
    have ⟨components, same⟩ := exists_components added
    have some : components ≠ [] := by
      intro none
      rw [none] at same
      exact empty same
    refine ⟨⟨sign, components, some⟩, ?_⟩
    unfold Duration.text
    rw [← same, ← front]
    exact String.ofList_toList

/-- The sign of a duration is read back. -/
theorem readSign_text (sign : DurationSign) {c : Char} (numeric : isNumeric c = true)
    (text : List Char) : readSign (sign.text ++ c :: text) = (sign.factor, c :: text) := by
  have minus : c ≠ '-' := ne_of_isNumeric numeric (by decide)
  have plus : c ≠ '+' := ne_of_isNumeric numeric (by decide)
  cases sign with
  | none => simp [readSign, DurationSign.text, DurationSign.factor, minus, plus]
  | plus => rfl
  | minus => rfl

/-- A well-formed duration is counted with its sign, and refused if that does not fit. -/
theorem parseGoDuration_text (self : Duration) : parseGoDuration self.text =
    tryI64 (self.sign.factor * (self.components.map Component.counted).sum) := by
  have ⟨component, components, parts⟩ := exists_cons_of_ne_nil self.nonempty
  have ⟨c, text, front, numeric, long⟩ := exists_text_cons component
  have flat : self.components.flatMap Component.text =
      c :: (text ++ components.flatMap Component.text) := by
    rw [parts, flatMap_cons, front]
    rfl
  have other : self.text ≠ "0" := by
    intro same
    have chars := congrArg String.toList same
    unfold Duration.text at chars
    rw [String.toList_ofList, flat] at chars
    have lengths := congrArg List.length chars
    have some : 0 < text.length := length_pos_of_ne_nil long
    have zero : "0".toList.length = 1 := by decide
    rw [zero, length_append, length_cons, length_append] at lengths
    omega
  have counted := addComponents_text self.components 0 _ (by decide) le_rfl
  rw [Nat.zero_add, checkedI128_ofNat] at counted
  generalize (self.components.map Component.counted).sum = total at *
  unfold parseGoDuration
  rw [if_neg other]
  unfold Duration.text
  rw [String.toList_ofList, flat, readSign_text self.sign numeric]
  dsimp only
  rw [if_neg (cons_ne_nil _ _), ← flat]
  have sign : self.sign.factor = 1 ∨ self.sign.factor = -1 := by
    cases self.sign <;> decide
  generalize self.sign.factor = sign' at *
  show (addComponents _ _ ((0 : Nat) : Int)).bind _ = _
  rw [counted]
  split_ifs with fits
  · have bounds : -2 ^ 127 ≤ sign' * (total : Int) ∧ sign' * (total : Int) < 2 ^ 127 := by
      rcases sign with plus | minus
      · rw [plus]
        omega
      · rw [minus]
        omega
    rw [Option.bind_some, Int.mul_comm, checkedI128, if_pos bounds]
    rfl
  · rw [tryI64, if_neg]
    · rfl
    · rcases sign with plus | minus
      · rw [plus]
        omega
      · rw [minus]
        omega

theorem tryI64_eq_some {value result : Int} :
    tryI64 value = some result ↔ (-2 ^ 63 ≤ value ∧ value < 2 ^ 63) ∧ value = result := by
  unfold tryI64
  split_ifs with fits
  · rw [Option.some.injEq]
    exact ⟨fun same => ⟨fits, same⟩, fun ⟨_, same⟩ => same⟩
  · exact ⟨nofun, fun ⟨fits', _⟩ => absurd fits' fits⟩

/-- The total is at most the exact one, and exact if every component keeps its digits. -/
theorem sum_counted (components : List Component) :
    (components.map Component.counted).sum ≤ (components.map Component.exact).sum ∧
      ((components.map Component.exact).sum = (components.map Component.counted).sum ↔
        ∀ component ∈ components, component.Kept) := by
  induction components with
  | nil => exact ⟨le_rfl, iff_of_true rfl nofun⟩
  | cons component components ih =>
    have ⟨first, kept⟩ := component.counted_le
    have ⟨rest, all⟩ := ih
    rw [forall_mem_cons, ← kept, ← all]
    simp only [map_cons, sum_cons]
    omega

/-- Only `0` and well-formed durations are accepted. An accepted duration is read exactly, with an
exact value that fits, precisely if it keeps all its digits: behind the tenth digit of minutes and
the eleventh of hours, the digits are worth no nanosecond more than the parser counts for them. -/
theorem parseGoDuration_exact_iff (value : String) :
    (∀ result, parseGoDuration value = some result →
      value = "0" ∧ result = 0 ∨ ∃ duration : Duration, duration.text = value) ∧
    ∀ duration : Duration, duration.text = value → ∀ result, parseGoDuration value = some result →
      (result = duration.exact ∧ -2 ^ 63 ≤ duration.exact ∧ duration.exact < 2 ^ 63 ↔
        ∀ component ∈ duration.components, component.Kept) := by
  refine ⟨fun result => exists_duration, fun duration same result read => ?_⟩
  have ⟨least, kept⟩ := sum_counted duration.components
  have sign : duration.sign.factor = 1 ∨ duration.sign.factor = -1 := by
    cases duration.sign <;> decide
  rw [← same, parseGoDuration_text] at read
  have ⟨fits, total⟩ := tryI64_eq_some.mp read
  rw [← kept]
  unfold Duration.exact
  generalize (duration.components.map Component.counted).sum = counted at *
  generalize (duration.components.map Component.exact).sum = exact at *
  generalize duration.sign.factor = factor at *
  constructor
  · intro ⟨right, _⟩
    have equal := total.trans right
    rcases sign with plus | minus
    · rw [plus] at equal
      omega
    · rw [minus] at equal
      omega
  · intro equal
    rw [equal]
    exact ⟨total.symm, fits⟩

/-- The duration of one number with a fraction. -/
def pointedDuration (whole fraction : List Char) (unit : DurationUnit)
    (digits : (whole ++ fraction).all (fun c => (toDigit 10 c).isSome) = true)
    (some : whole ++ fraction ≠ []) : Duration :=
  ⟨.none, [⟨whole, fraction, true, unit, all_eq_true.mp digits, some, nofun⟩], nofun⟩

theorem exact_pointedDuration {whole fraction : List Char} {unit : DurationUnit} {digits some} :
    (pointedDuration whole fraction unit digits some).exact =
      (digitsValue 10 whole * unit.length + exactFraction unit.length fraction : Nat) := by
  simp [pointedDuration, Duration.exact, DurationSign.factor, Component.exact_eq]

/-- Nine times ten to the minus eleven minutes are more than five nanoseconds, and are read as
nothing. A number of minutes that is too large is accepted. -/
theorem parseGoDuration_lossy :
    (∃ duration : Duration, duration.text = "0.00000000009m" ∧ duration.exact = 5 ∧
      parseGoDuration "0.00000000009m" = some 0) ∧
    ∃ duration : Duration, duration.text = "153722867.28091293014m" ∧ duration.exact = 2 ^ 63 ∧
      parseGoDuration "153722867.28091293014m" = some 9223372036854775806 := by
  constructor
  · exact ⟨pointedDuration "0".toList "00000000009".toList .minute (by decide +kernel)
      (by decide +kernel), rfl, exact_pointedDuration.trans (by decide +kernel), by decide +kernel⟩
  · exact ⟨pointedDuration "153722867".toList "28091293014".toList .minute (by decide +kernel)
      (by decide +kernel), rfl, exact_pointedDuration.trans (by decide +kernel), by decide +kernel⟩

theorem parseGoDuration_exact_sample :
    ∃ duration : Duration, duration.text = "1.5h" ∧
      parseGoDuration "1.5h" = some 5400000000000 ∧ duration.exact = 5400000000000 := by
  refine ⟨pointedDuration "1".toList "5".toList .hour (by decide +kernel)
      (by decide +kernel), rfl, by decide +kernel, ?_⟩
  refine (((parseGoDuration_exact_iff "1.5h").2 _ rfl _ (by decide +kernel)).mpr ?_).1.symm
  intro component member
  rw [mem_singleton.mp member]
  show 36 * 0 < (3 * 0 + 1) * 10 ^ 0
  decide

end Ployz.Api
