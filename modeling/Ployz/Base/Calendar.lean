import Mathlib

/-!
# The proleptic Gregorian calendar

A date is a year, a month and a day of the month, where every fourth year has a leap day except in
centuries that 400 does not divide. The day number of a date counts the days since the first of
January 1970. Conversion algorithms shift the year to start in March, so that the leap day is its
last day and the lengths of the months follow one formula; by the lemmas here the shifted count is
the same number.
-/

namespace Ployz.Calendar

/-- The years with a leap day. -/
def IsLeap (year : Int) : Prop := year % 4 = 0 ∧ (year % 100 ≠ 0 ∨ year % 400 = 0)

instance (year : Int) : Decidable (IsLeap year) := inferInstanceAs (Decidable (_ ∧ _))

/-- The days of a month. -/
def monthLength (year : Int) : Nat → Nat
  | 2 => if IsLeap year then 29 else 28
  | 4 | 6 | 9 | 11 => 30
  | _ => 31

theorem monthLength_le (year : Int) (month : Nat) : monthLength year month ≤ 31 := by
  unfold monthLength
  split
  · split <;> omega
  all_goals omega

/-- A date of the calendar. -/
structure Date where
  year : Int
  month : Nat
  day : Nat
  monthRange : 1 ≤ month ∧ month ≤ 12
  dayRange : 1 ≤ day ∧ day ≤ monthLength year month

/-- The days from the first day of year one to the first day of a year. -/
def yearStart (year : Int) : Int :=
  365 * (year - 1) + (year - 1) / 4 - (year - 1) / 100 + (year - 1) / 400

/-- The days of a year before a month. -/
def monthStart (year : Int) (month : Nat) : Nat :=
  ((List.range (month - 1)).map fun before => monthLength year (before + 1)).sum

/-- The days of the calendar since the first of January 1970. -/
def dayNumber (year : Int) (month day : Nat) : Int :=
  yearStart year - yearStart 1970 + monthStart year month + (day - 1)

example : dayNumber 1970 1 1 = 0 := by decide

example : dayNumber 2000 3 1 = dayNumber 2000 2 29 + 1 := by decide

/-- The day of a year that starts in March, from its month, counted from zero. -/
def marchDay (month : Int) : Int := (153 * month + 2) / 5

/-- The first day of a year that starts in March, counted from the one of year zero. -/
def marchYear (year : Int) : Int := 365 * year + year / 4 - year / 100 + year / 400

theorem leapDay (year : Int) :
    ((if IsLeap year then 1 else 0 : Nat) : Int) = year / 4 - year / 100 + year / 400 -
      ((year - 1) / 4 - (year - 1) / 100 + (year - 1) / 400) := by
  by_cases leap : IsLeap year
  · rw [if_pos leap]
    unfold IsLeap at leap
    omega
  · rw [if_neg leap]
    unfold IsLeap at leap
    omega

variable {year : Int} {month : Nat}

theorem monthStart_eq (range : 1 ≤ month ∧ month ≤ 12) :
    (monthStart year month : Int) =
      if month ≤ 2 then 31 * ((month : Int) - 1)
      else marchDay (month - 3) + 59 + (if IsLeap year then 1 else 0 : Nat) := by
  have ⟨low, high⟩ := range
  unfold marchDay
  interval_cases month <;> by_cases leap : IsLeap year <;>
    simp [monthStart, List.range_succ, monthLength, leap]

theorem dayNumber_eq_march (range : 1 ≤ month ∧ month ≤ 12) (day : Nat) :
    dayNumber year month day =
      marchYear (year - if month ≤ 2 then 1 else 0) +
        marchDay (month + if month > 2 then -3 else 9) + day - 1 - 719468 := by
  have start : yearStart 1970 = 719162 := by decide
  have leap := leapDay year
  unfold dayNumber
  rw [monthStart_eq range, start]
  unfold yearStart marchYear
  by_cases early : month ≤ 2
  · have two : month = 1 ∨ month = 2 := by omega
    have before : ¬month > 2 := by omega
    simp only [if_pos early, if_neg before]
    unfold marchDay
    omega
  · have after : month > 2 := by omega
    have shift : (month : Int) + -3 = month - 3 := by omega
    simp only [if_neg early, if_pos after, leap, shift]
    omega

section Order

theorem monthStart_succ (year : Int) (positive : 1 ≤ month) :
    monthStart year (month + 1) = monthStart year month + monthLength year month := by
  have ⟨before, same⟩ : ∃ before, month = before + 1 := ⟨month - 1, by omega⟩
  rw [same]
  simp [monthStart, List.range_succ]

theorem monthStart_add_le (year : Int) {later : Nat} (positive : 1 ≤ month) (before : month < later) :
    monthStart year month + monthLength year month ≤ monthStart year later := by
  induction later, before using Nat.le_induction with
  | base => rw [monthStart_succ year positive]
  | succ later past ih =>
    have next := monthStart_succ year (show 1 ≤ later by omega)
    omega

theorem yearStart_succ (year : Int) :
    yearStart (year + 1) = yearStart year + monthStart year 13 := by
  have leap := leapDay year
  have days : (monthStart year 13 : Int) = 365 + ((if IsLeap year then 1 else 0 : Nat) : Int) := by
    by_cases isLeap : IsLeap year <;>
      simp [monthStart, List.range_succ, monthLength, isLeap]
  unfold yearStart
  omega

theorem yearStart_mono {later : Int} (before : year ≤ later) :
    yearStart year ≤ yearStart later := by
  unfold yearStart
  omega

theorem dayNumber_injective {left right : Date}
    (same : dayNumber left.year left.month left.day = dayNumber right.year right.month right.day) :
    left = right := by
  have year : ∀ {left right : Date}, left.year < right.year →
      dayNumber left.year left.month left.day < dayNumber right.year right.month right.day := by
    intro left right before
    have ends := monthStart_add_le left.year left.monthRange.1
      (show left.month < 13 by have := left.monthRange.2; omega)
    have next := yearStart_succ left.year
    have later := yearStart_mono (show left.year + 1 ≤ right.year by omega)
    have day := left.dayRange.2
    have first := right.dayRange.1
    unfold dayNumber
    omega
  have month : ∀ {left right : Date}, left.year = right.year → left.month < right.month →
      dayNumber left.year left.month left.day < dayNumber right.year right.month right.day := by
    intro left right sameYear before
    have ends := monthStart_add_le left.year left.monthRange.1 before
    have day := left.dayRange.2
    have first := right.dayRange.1
    rw [← sameYear]
    unfold dayNumber
    omega
  have years : left.year = right.year := by
    rcases lt_trichotomy left.year right.year with before | equal | after
    · exact absurd same (year before).ne
    · exact equal
    · exact absurd same.symm (year after).ne
  have months : left.month = right.month := by
    rcases lt_trichotomy left.month right.month with before | equal | after
    · exact absurd same (month years before).ne
    · exact equal
    · exact absurd same.symm (month years.symm after).ne
  have days : left.day = right.day := by
    have low := left.dayRange.1
    have lowToo := right.dayRange.1
    rw [← years, ← months] at same
    unfold dayNumber at same
    omega
  cases left
  cases right
  cases years
  cases months
  cases days
  rfl

end Order

end Ployz.Calendar
