import Ployz.Api.Timestamp
import Ployz.Base.Calendar

/-!
# Dates and day numbers

The conversions between dates and day numbers compute in eras of 400 years that start in March,
by truncating division. Both agree with the calendar: the day number of a date is the count of its
days, and the date of a day number is the one with that count.
-/

namespace Ployz.Docker

open Calendar

variable {year : Int} {month : Nat}

section Conversions

theorem tdiv_of_nonpos {value : Int} (nonpos : value ≤ 0) (divisor : Int) :
    value.tdiv divisor = -(-value / divisor) := by
  have flip : value.tdiv divisor = -(-value).tdiv divisor := by rw [Int.neg_tdiv, Int.neg_neg]
  rw [flip, Int.tdiv_eq_ediv_of_nonneg (by omega)]

theorem era_of_year (year : Int) :
    (if 0 ≤ year then year else year - 399).tdiv 400 = year / 400 := by
  split
  case isTrue nonneg => rw [Int.tdiv_eq_ediv_of_nonneg nonneg]
  case isFalse negative =>
    rw [tdiv_of_nonpos (by omega)]
    omega

theorem era_of_day (day : Int) :
    (if 0 ≤ day then day else day - 146096).tdiv 146097 = day / 146097 := by
  split
  case isTrue nonneg => rw [Int.tdiv_eq_ediv_of_nonneg nonneg]
  case isFalse negative =>
    rw [tdiv_of_nonpos (by omega)]
    omega

variable {yearOfEra : Int}

theorem marchYear_of_era (era : Int) (range : 0 ≤ yearOfEra ∧ yearOfEra ≤ 399) :
    marchYear (yearOfEra + era * 400) =
      era * 146097 + (365 * yearOfEra + yearOfEra / 4 - yearOfEra / 100) := by
  unfold marchYear
  omega

theorem daysFromCivil_eq (range : 1 ≤ month ∧ month ≤ 12) (day : Nat) :
    daysFromCivil year month day = dayNumber year month day := by
  rw [dayNumber_eq_march range]
  unfold daysFromCivil
  simp only [era_of_year]
  generalize (year - if month ≤ 2 then 1 else 0 : Int) = adjusted
  have yearOfEra : 0 ≤ adjusted - adjusted / 400 * 400 ∧
      adjusted - adjusted / 400 * 400 ≤ 399 := by omega
  have split : adjusted = adjusted - adjusted / 400 * 400 + adjusted / 400 * 400 := by omega
  have months : 0 ≤ (month : Int) + if month > 2 then -3 else 9 := by
    split <;> omega
  have whole := marchYear_of_era (adjusted / 400) yearOfEra
  rw [← split] at whole
  rw [whole, marchDay, Int.tdiv_eq_ediv_of_nonneg (by omega), Int.tdiv_eq_ediv_of_nonneg (by omega),
    Int.tdiv_eq_ediv_of_nonneg (by omega)]
  omega

variable {dayOfYear : Int}

/-- The year of a day of an era, and the day of that year; the last day of a year is there only
before a leap day. -/
theorem year_of_dayOfEra {dayOfEra : Int} (range : 0 ≤ dayOfEra ∧ dayOfEra ≤ 146096)
    (year : yearOfEra = (dayOfEra - dayOfEra / 1460 + dayOfEra / 36524 - dayOfEra / 146096) / 365)
    (day : dayOfYear = dayOfEra - (365 * yearOfEra + yearOfEra / 4 - yearOfEra / 100)) :
    (0 ≤ yearOfEra ∧ yearOfEra ≤ 399) ∧ (0 ≤ dayOfYear ∧ dayOfYear ≤ 365) ∧
      (dayOfYear = 365 → IsLeap (yearOfEra + 1)) := by
  have years : 0 ≤ yearOfEra ∧ yearOfEra ≤ 399 := by omega
  have last : dayOfEra / 146096 = 0 ∨ dayOfEra / 146096 = 1 := by omega
  -- the century is split by hand, omega does not find it
  have century : yearOfEra / 100 = dayOfEra / 36524 - dayOfEra / 146096 := by
    have days : dayOfEra / 36524 = 0 ∨ dayOfEra / 36524 = 1 ∨ dayOfEra / 36524 = 2 ∨
        dayOfEra / 36524 = 3 ∨ dayOfEra / 36524 = 4 := by omega
    have hundreds : yearOfEra / 100 = 0 ∨ yearOfEra / 100 = 1 ∨ yearOfEra / 100 = 2 ∨
        yearOfEra / 100 = 3 := by omega
    rcases days with known | known | known | known | known <;>
      rcases hundreds with hundred | hundred | hundred | hundred <;> omega
  refine ⟨years, ?_, ?_⟩
  · omega
  · intro full
    have fourth : yearOfEra = 4 * (yearOfEra / 4) + 3 := by omega
    unfold IsLeap
    omega

variable {monthPrime : Int}

theorem month_of_dayOfYear (range : 0 ≤ dayOfYear ∧ dayOfYear ≤ 365)
    (prime : monthPrime = (5 * dayOfYear + 2) / 153) :
    (0 ≤ monthPrime ∧ monthPrime ≤ 11) ∧ marchDay monthPrime ≤ dayOfYear ∧
      dayOfYear < marchDay (monthPrime + 1) := by
  unfold marchDay
  omega

/-- A day number in its parts: the day of an era, its year, the day of that year and its month. -/
structure DayParts (days era dayOfEra yearOfEra dayOfYear monthPrime : Int) : Prop where
  whole : days + 719468 = era * 146097 + dayOfEra
  inEra : 0 ≤ dayOfEra ∧ dayOfEra ≤ 146096
  ofYear : yearOfEra =
    (dayOfEra - dayOfEra / 1460 + dayOfEra / 36524 - dayOfEra / 146096) / 365
  ofDay : dayOfYear = dayOfEra - (365 * yearOfEra + yearOfEra / 4 - yearOfEra / 100)
  ofMonth : monthPrime = (5 * dayOfYear + 2) / 153
  computed : civilFromDays days = (yearOfEra + era * 400 +
      (if monthPrime + (if monthPrime < 10 then 3 else -9) ≤ 2 then 1 else 0),
    monthPrime + (if monthPrime < 10 then 3 else -9), dayOfYear - marchDay monthPrime + 1)

/-- On a day of an era the truncating divisions are those of the calendar. -/
theorem exists_dayParts (days : Int) :
    ∃ era dayOfEra yearOfEra dayOfYear monthPrime,
      DayParts days era dayOfEra yearOfEra dayOfYear monthPrime := by
  have inEra : 0 ≤ days + 719468 - (days + 719468) / 146097 * 146097 ∧
      days + 719468 - (days + 719468) / 146097 * 146097 ≤ 146096 := by omega
  have computed := civilFromDays.eq_def days
  simp only [era_of_day] at computed
  generalize ofEra : days + 719468 - (days + 719468) / 146097 * 146097 = dayOfEra at inEra computed
  have ⟨years, daysRange, _⟩ := year_of_dayOfEra inEra rfl rfl
  have ⟨months, _, _⟩ := month_of_dayOfYear daysRange rfl
  have numerator :
      0 ≤ dayOfEra - dayOfEra / 1460 + dayOfEra / 36524 - dayOfEra / 146096 := by omega
  simp only [Int.tdiv_eq_ediv_of_nonneg inEra.1, Int.tdiv_eq_ediv_of_nonneg numerator,
    Int.tdiv_eq_ediv_of_nonneg years.1] at computed
  rw [Int.tdiv_eq_ediv_of_nonneg (by omega), Int.tdiv_eq_ediv_of_nonneg (by omega)] at computed
  exact ⟨(days + 719468) / 146097, dayOfEra, _, _, _, by omega, inEra, rfl, rfl, rfl, computed⟩

theorem day_le_monthLength {day : Nat} (months : 0 ≤ monthPrime ∧ monthPrime ≤ 11)
    (ends : dayOfYear ≤ 365) (leap : dayOfYear = 365 → monthPrime = 11 → IsLeap year)
    (last : dayOfYear < marchDay (monthPrime + 1))
    (isMonth : (month : Int) = monthPrime + (if monthPrime < 10 then 3 else -9))
    (isDay : (day : Int) = dayOfYear - marchDay monthPrime + 1) : day ≤ monthLength year month := by
  unfold marchDay at last isDay
  by_cases february : monthPrime = 11
  · have second : month = 2 := by
      rw [if_neg (by omega)] at isMonth
      omega
    rw [second, monthLength]
    by_cases leapYear : IsLeap year
    · rw [if_pos leapYear]
      omega
    · have shorter : dayOfYear ≠ 365 := fun full => leapYear (leap full february)
      rw [if_neg leapYear]
      omega
  · obtain ⟨low, _⟩ := months
    have high : monthPrime ≤ 10 := by omega
    interval_cases monthPrime <;> simp at isMonth <;> norm_cast at isMonth <;>
      simp only [isMonth, monthLength] <;> omega

/-- Every day has its date. -/
theorem exists_date (days : Int) :
    ∃ date : Date, civilFromDays days = (date.year, (date.month : Int), (date.day : Int)) ∧
      dayNumber date.year date.month date.day = days := by
  have ⟨era, dayOfEra, yearOfEra, dayOfYear, monthPrime, parts⟩ := exists_dayParts days
  have whole := parts.whole
  have ⟨years, daysRange, leap⟩ := year_of_dayOfEra parts.inEra parts.ofYear parts.ofDay
  have ⟨months, first, last⟩ := month_of_dayOfYear daysRange parts.ofMonth
  have ofDay := parts.ofDay
  have ⟨month, isMonth⟩ : ∃ month : Nat,
      (month : Int) = monthPrime + (if monthPrime < 10 then 3 else -9) :=
    ⟨(monthPrime + (if monthPrime < 10 then 3 else -9)).toNat, by split <;> omega⟩
  have ⟨day, isDay⟩ : ∃ day : Nat, (day : Int) = dayOfYear - marchDay monthPrime + 1 :=
    ⟨(dayOfYear - marchDay monthPrime + 1).toNat, by omega⟩
  have computed := parts.computed
  rw [← isMonth, ← isDay] at computed
  have monthRange : 1 ≤ month ∧ month ≤ 12 := by
    split at isMonth <;> omega
  have shifted : (month : Int) + (if month > 2 then -3 else 9) = monthPrime := by
    split <;> split at isMonth <;> omega
  have long : day ≤ monthLength
      (yearOfEra + era * 400 + if (month : Int) ≤ 2 then 1 else 0) month := by
    apply day_le_monthLength months daysRange.2 _ last isMonth isDay
    intro full february
    have second : (month : Int) ≤ 2 := by
      split at isMonth <;> omega
    have leapYear := leap full
    rw [if_pos second]
    unfold IsLeap at leapYear ⊢
    omega
  have marchOf : yearOfEra + era * 400 + (if (month : Int) ≤ 2 then 1 else 0) -
      (if month ≤ 2 then 1 else 0) = yearOfEra + era * 400 := by
    split <;> split <;> omega
  refine ⟨⟨_, month, day, monthRange, by omega, long⟩, computed, ?_⟩
  rw [dayNumber_eq_march monthRange, shifted, marchOf, marchYear_of_era era years, isDay]
  omega

theorem daysFromCivil_civilFromDays (days : Int) :
    ∃ date : Date, civilFromDays days = (date.year, (date.month : Int), (date.day : Int)) ∧
      daysFromCivil date.year date.month date.day = days := by
  have ⟨date, computed, number⟩ := exists_date days
  exact ⟨date, computed, (daysFromCivil_eq date.monthRange date.day).trans number⟩

end Conversions

section Overflow

open Exec

variable {ε : Type}

theorem asI32_of_lt {value : Nat} (small : value < 2147483648) : Checked.asI32 value = value := by
  unfold Checked.asI32
  rw [Int.bmod_eq_of_le (by omega) (by omega)]

theorem settles_lower {limit : Int} (value excess : Int) :
    Settles (Checked.lower (signed limit) value excess : Exec ε Int)
      (if 0 ≤ value then value else value - excess) := by
  unfold Checked.lower
  split
  · exact .ok _
  · exact .signed _ _

theorem settles_daysFromCivil {month day : Nat} (year : Int) (months : month < 2147483648)
    (days : day < 2147483648) :
    Settles (Checked.daysFromCivil year month day : Exec ε Int) (daysFromCivil year month day) := by
  unfold Checked.daysFromCivil Checked.i32
  rw [asI32_of_lt months, asI32_of_lt days]
  refine .bind (.signed _ _) (.bind (settles_lower _ _) ?_)
  repeat refine .bind (.signed _ _) ?_
  exact .signed _ _

theorem settles_civilFromDays (days : Int) :
    Settles (Checked.civilFromDays days : Exec ε (Int × Int × Int)) (civilFromDays days) := by
  unfold Checked.civilFromDays Checked.i64
  refine .bind (.signed _ _) (.bind (settles_lower _ _) ?_)
  repeat refine .bind (.signed _ _) ?_
  exact .ok _

theorem lower_bind {β : Type} {limit value excess : Int}
    (fits : -limit ≤ value - excess ∧ value - excess < limit) (next : Int → Exec ε β) :
    (Checked.lower (signed limit) value excess >>= next) =
      next (if 0 ≤ value then value else value - excess) := by
  unfold Checked.lower
  split
  · rfl
  · exact signed_bind fits next

theorem civilFromDays_ne_panic {days : Int} (low : -4294967296 ≤ days)
    (high : days ≤ 4294967296) :
    (Checked.civilFromDays days : Exec ε (Int × Int × Int)) ≠ .error .panic := by
  unfold Checked.civilFromDays Checked.i64
  rw [signed_bind (by omega), lower_bind (by omega)]
  simp only [era_of_day]
  generalize sum : days + 719468 = shifted
  generalize ofEra : shifted / 146097 = era
  repeat rw [signed_bind (by omega)]
  generalize ofDay : shifted - era * 146097 = dayOfEra
  have inEra : 0 ≤ dayOfEra ∧ dayOfEra ≤ 146096 := by omega
  have ⟨years, daysRange, _⟩ := year_of_dayOfEra inEra rfl rfl
  simp only [Int.tdiv_eq_ediv_of_nonneg inEra.1]
  repeat rw [signed_bind (by omega)]
  rw [Int.tdiv_eq_ediv_of_nonneg (by omega)]
  generalize (dayOfEra - dayOfEra / 1460 + dayOfEra / 36524 - dayOfEra / 146096) / 365 =
    yearOfEra at years daysRange ⊢
  simp only [Int.tdiv_eq_ediv_of_nonneg years.1]
  repeat rw [signed_bind (by omega)]
  generalize dayOfEra - (365 * yearOfEra + yearOfEra / 4 - yearOfEra / 100) = dayOfYear
    at daysRange ⊢
  rw [Int.tdiv_eq_ediv_of_nonneg (by omega)]
  generalize ofMonth : (5 * dayOfYear + 2) / 153 = monthPrime
  repeat rw [signed_bind (by omega)]
  rw [Int.tdiv_eq_ediv_of_nonneg (by omega)]
  repeat rw [signed_bind (by omega)]
  exact nofun

/-- A date does not overflow if neither its day number nor that number counted from year zero
does. -/
theorem daysFromCivil_ne_panic {day : Nat} (months : 1 ≤ month ∧ month ≤ 12)
    (days : 1 ≤ day ∧ day ≤ 31) (low : -2147483648 ≤ daysFromCivil year month day)
    (high : daysFromCivil year month day + 719468 < 2147483648) :
    (Checked.daysFromCivil year month day : Exec ε Int) ≠ .error .panic := by
  rw [daysFromCivil_eq months, dayNumber_eq_march months] at low high
  have shift : 0 ≤ (month : Int) + (if month > 2 then -3 else 9) ∧
      (month : Int) + (if month > 2 then -3 else 9) ≤ 11 := by split <;> omega
  have early : 0 ≤ (if month ≤ 2 then 1 else 0 : Int) ∧ (if month ≤ 2 then 1 else 0 : Int) ≤ 1 := by
    split <;> omega
  unfold Checked.daysFromCivil Checked.i32
  rw [asI32_of_lt (by omega), asI32_of_lt (by omega)]
  generalize (month : Int) + (if month > 2 then -3 else 9) = monthPrime at *
  generalize ofYear : year - (if month ≤ 2 then 1 else 0 : Int) = adjusted at *
  have ⟨era, yearOfEra, years, split⟩ : ∃ era yearOfEra : Int,
      (0 ≤ yearOfEra ∧ yearOfEra ≤ 399) ∧ adjusted = yearOfEra + era * 400 :=
    ⟨adjusted / 400, adjusted % 400, by omega, by omega⟩
  rw [split, marchYear_of_era era years, marchDay] at low high
  have ofEra : adjusted / 400 = era := by omega
  have inEra : adjusted - era * 400 = yearOfEra := by omega
  rw [signed_bind (by omega), lower_bind (by omega)]
  simp only [era_of_year, ofEra]
  rw [signed_bind (by omega), signed_bind (by omega), inEra, signed_bind (by omega),
    signed_bind (by omega), signed_bind (by omega), Int.tdiv_eq_ediv_of_nonneg (by omega)]
  simp only [Int.tdiv_eq_ediv_of_nonneg years.1]
  repeat rw [signed_bind (by omega)]
  rw [signed_eq_ok (by omega)]
  exact nofun

/-- Both conversions one after the other, with the year in the type of the second. -/
def roundTrip (days : Int) : Exec String Int := do
  let (year, month, day) ← Checked.civilFromDays days
  Checked.daysFromCivil (← Checked.i32 year) month.toNat day.toNat

theorem settles_roundTrip (days : Int) : Settles (roundTrip days) days := by
  have ⟨date, computed, back⟩ := daysFromCivil_civilFromDays days
  have short := monthLength_le date.year date.month
  have day := date.dayRange.2
  have months := date.monthRange.2
  unfold roundTrip
  refine .bind (settles_civilFromDays days) ?_
  rw [computed]
  refine .bind (.signed _ _) ?_
  have settled := @settles_daysFromCivil String date.month date.day date.year (by omega) (by omega)
  rw [back] at settled
  exact settled

/-- The conversions are inverse over the whole range of `i32` that leaves room for the era. -/
theorem roundTrip_eq_ok {days : Int} (low : -2147483648 ≤ days)
    (high : days + 719468 < 2147483648) : roundTrip days = .ok days := by
  have ⟨date, computed, back⟩ := daysFromCivil_civilFromDays days
  have short := monthLength_le date.year date.month
  have day := date.dayRange
  have civil : (Checked.civilFromDays days : Exec String _) = .ok (civilFromDays days) :=
    (settles_civilFromDays days).eq_ok (civilFromDays_ne_panic (by omega) (by omega))
  have year : -2147483648 ≤ date.year ∧ date.year < 2147483648 := by
    have count := back
    have months := date.monthRange
    rw [daysFromCivil_eq months, dayNumber_eq_march months] at count
    unfold marchYear marchDay at count
    split at count <;> split at count <;> omega
  have number := daysFromCivil_ne_panic (ε := String) date.monthRange (by omega)
    (back ▸ low) (back ▸ high)
  apply (settles_roundTrip days).eq_ok
  unfold roundTrip
  rw [civil, computed]
  show (signed 2147483648 date.year >>= fun year =>
    Checked.daysFromCivil year date.month date.day) ≠ _
  rw [signed_bind year]
  exact number

end Overflow

end Ployz.Docker
