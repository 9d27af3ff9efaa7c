import Ployz.Verif.Instant

/-!
# A written time is read back

The functions that write the current time, one for the Caddyfile and one for the cluster, give a
timestamp of the grammar in every year of four digits. The parser of timestamps reads it back as
the second the time lies in.
-/

namespace Ployz.Docker

open Calendar Exec

section Digits

theorem digitsValue_replicate (count : Nat) (digits : List Char) :
    digitsValue 10 (List.replicate count '0' ++ digits) = digitsValue 10 digits := by
  have zero : digitsValue 10 (List.replicate count '0') = 0 := by
    induction count with
    | zero => rfl
    | succ count ih =>
      rw [List.replicate_succ', digitsValue, List.foldl_append, ← digitsValue, ih]
      rfl
  rw [digitsValue, List.foldl_append, ← digitsValue, zero, digitsValue]

theorem exists_digits {width value : Nat} (filled : 0 < width) (fits : value < 10 ^ width) :
    ∃ digits : Digits width, padded width value = digits.1 ∧ digits.value = value := by
  have short := (Nat.length_toDigits_le_iff (by decide) filled).mpr fits
  have shape : padded width value =
      List.replicate (width - (Nat.toDigits 10 value).length) '0' ++ Nat.toDigits 10 value := by
    have positive : ¬(value : Int) < 0 := by omega
    rw [padded, if_neg positive, Int.natAbs_natCast]
    rfl
  refine ⟨⟨padded width value, ?_, ?_⟩, rfl, ?_⟩
  · rw [shape, List.length_append, List.length_replicate]
    omega
  · intro c member
    rw [shape, List.mem_append] at member
    rcases member with zero | digit
    · rw [(List.mem_replicate.mp zero).2]
      decide
    · have ⟨digit, below, same⟩ := exists_of_mem_toDigits (by decide) digit
      rw [same, toDigit_digitChar (by decide) below]
      rfl
  · show digitsValue 10 (padded width value) = value
    rw [shape, digitsValue_replicate, digitsValue_toDigits (by decide) (by decide)]

end Digits

/-- The text of a date and a second of its day. -/
def timestamp (date : Date) (secondsOfDay : Int) : List Char :=
  padded 4 date.year ++ '-' :: padded 2 date.month ++ '-' :: padded 2 date.day ++
    'T' :: padded 2 (secondsOfDay / 3600) ++ ':' :: padded 2 (secondsOfDay % 3600 / 60) ++
    ':' :: padded 2 (secondsOfDay % 60) ++ ['Z']

/-- A formatted time is read back. -/
theorem parseRfc3339_timestamp {date : Date} (first : 0 ≤ date.year) (last : date.year ≤ 9999)
    {secondsOfDay : Int} (low : 0 ≤ secondsOfDay) (high : secondsOfDay < 86400) :
    Checked.parseRfc3339 (String.ofList (timestamp date secondsOfDay)) =
      .ok ⟨dayNumber date.year date.month date.day * 86400 + secondsOfDay, 0, date.year⟩ := by
  have short := monthLength_le date.year date.month
  have months := date.monthRange
  have days := date.dayRange
  have ⟨yearNumber, yearSame⟩ := Int.eq_ofNat_of_zero_le first
  have ⟨number, numberSame⟩ := Int.eq_ofNat_of_zero_le low
  have ⟨year, yearText, yearValue⟩ := @exists_digits 4 yearNumber (by decide) (by omega)
  have ⟨month, monthText, monthValue⟩ := @exists_digits 2 date.month (by decide) (by omega)
  have ⟨day, dayText, dayValue⟩ := @exists_digits 2 date.day (by decide) (by omega)
  have ⟨hour, hourText, hourValue⟩ := @exists_digits 2 (number / 3600) (by decide) (by omega)
  have ⟨minute, minuteText, minuteValue⟩ :=
    @exists_digits 2 (number % 3600 / 60) (by decide) (by omega)
  have ⟨second, secondText, secondValue⟩ := @exists_digits 2 (number % 60) (by decide) (by omega)
  let stamp : Stamp := ⟨year, month, day, hour, minute, second, [], nofun, by decide, .utc⟩
  have hours : (number : Int) / 3600 = (number / 3600 : Nat) := by omega
  have minutes : (number : Int) % 3600 / 60 = (number % 3600 / 60 : Nat) := by omega
  have seconds : (number : Int) % 60 = (number % 60 : Nat) := by omega
  have text : timestamp date secondsOfDay = stamp.text := by
    rw [timestamp, yearSame, numberSame, hours, minutes, seconds, yearText, monthText, dayText,
      hourText, minuteText, secondText]
    simp only [List.append_assoc, List.cons_append]
    rfl
  have range : stamp.InRange := {
    month := by
      show 1 ≤ month.value ∧ month.value ≤ 12
      rwa [monthValue]
    day := by
      show 1 ≤ day.value ∧ day.value ≤ monthLength year.value month.value
      rwa [dayValue, monthValue, yearValue, ← yearSame]
    hour := by
      show hour.value ≤ 23
      omega
    minute := by
      show minute.value ≤ 59
      omega
    second := by
      show second.value ≤ 59
      omega }
  have whole : stamp.seconds =
      dayNumber date.year date.month date.day * 86400 + secondsOfDay := by
    show dayNumber year.value month.value day.value * 86400 + hour.value * 3600 +
      minute.value * 60 + second.value - 0 = _
    rw [yearValue, monthValue, dayValue, hourValue, minuteValue, secondValue, ← yearSame]
    omega
  have none : stamp.nanos = 0 := Nat.zero_mul _
  rw [text, Stamp.parseRfc3339_text range trivial, whole, none]
  show _ = (Except.ok ⟨_, _, _⟩ : Exec String Rfc3339Time)
  rw [yearSame, ← yearValue]

section Writers

theorem civilFromDays_dayNumber (date : Date) :
    civilFromDays (dayNumber date.year date.month date.day) =
      (date.year, (date.month : Int), (date.day : Int)) := by
  have ⟨other, computed, number⟩ := exists_date (dayNumber date.year date.month date.day)
  rw [computed, dayNumber_injective number]

theorem dayNumber_bounds {date : Date} (first : 0 ≤ date.year) (last : date.year ≤ 9999) :
    -1000000 < dayNumber date.year date.month date.day ∧
      dayNumber date.year date.month date.day < 3000000 := by
  have short := monthLength_le date.year date.month
  have months := date.monthRange
  have days := date.dayRange
  rw [dayNumber_eq_march months]
  unfold marchYear marchDay
  split <;> split <;> omega

variable {time : Int} {date : Date}

theorem checked_civilFromDays {ε : Type} (first : 0 ≤ date.year) (last : date.year ≤ 9999) :
    (Checked.civilFromDays (dayNumber date.year date.month date.day) : Exec ε _) =
      .ok (date.year, (date.month : Int), (date.day : Int)) := by
  have bounds := dayNumber_bounds first last
  rw [← civilFromDays_dayNumber date]
  exact (settles_civilFromDays _).eq_ok (civilFromDays_ne_panic (by omega) (by omega))

theorem checked_wholeSeconds {ε : Type} (low : -(2 ^ 62) ≤ time / 1000000000)
    (high : time / 1000000000 < 2 ^ 62) :
    (Checked.wholeSeconds time : Exec ε Int) = .ok (time / 1000000000) := by
  unfold Checked.wholeSeconds Checked.i64
  split
  · rw [Int.bmod_eq_of_le (by omega) (by omega)]
  · have distance : Int.bmod (-time / 1000000000) (2 ^ 64) = -time / 1000000000 :=
      Int.bmod_eq_of_le (by omega) (by omega)
    dsimp only
    rw [distance, signed_bind (by omega), signed_eq_ok (by split <;> omega)]
    congr 1
    split <;> omega

theorem cluster_wholeSeconds (time : Int) : Cluster.wholeSeconds time = time / 1000000000 := by
  unfold Cluster.wholeSeconds
  split
  · rfl
  · show -(-time / 1000000000) - (if -time % 1000000000 ≠ 0 then 1 else 0) = _
    split <;> omega

theorem writers_eq_ok (first : 0 ≤ date.year) (last : date.year ≤ 9999)
    (on : dayNumber date.year date.month date.day = time / 1000000000 / 86400) :
    (Checked.rfc3339Utc time : Exec String (List Char)) =
        .ok (timestamp date (time / 1000000000 % 86400)) ∧
      Cluster.rfc3339Utc time = .ok (timestamp date (time / 1000000000 % 86400)) := by
  have bounds := dayNumber_bounds first last
  have civil := @checked_civilFromDays date String first last
  rw [on] at bounds civil
  constructor
  · unfold Checked.rfc3339Utc
    rw [checked_wholeSeconds (by omega) (by omega)]
    show (Checked.civilFromDays (time / 1000000000 / 86400) >>= _) = _
    rw [civil]
    rfl
  · have natural : Cluster.civilDate (time / 1000000000 / 86400) =
        .ok (date.year, date.month, date.day) := by
      unfold Cluster.civilDate
      have positive : 0 ≤ (date.month : Int) ∧ 0 ≤ (date.day : Int) :=
        ⟨Int.natCast_nonneg _, Int.natCast_nonneg _⟩
      rw [civil]
      show (if 0 ≤ (date.month : Int) ∧ 0 ≤ (date.day : Int) then
        (Except.ok (date.year, date.month, date.day) : Exec String _) else .error .panic) = _
      rw [if_pos positive]
    unfold Cluster.rfc3339Utc Checked.i64
    rw [cluster_wholeSeconds, signed_bind (by omega), natural]
    rfl

end Writers

/-- The conversions between dates and day numbers are inverse wherever nothing overflows, and
they do not overflow from the lowest `i32` on; a time in a year of four digits is written and
read back as the second it lies in. -/
theorem calendar_conversions_inverse :
    (∀ days : Int, ∃ date : Date,
      civilFromDays days = (date.year, (date.month : Int), (date.day : Int)) ∧
      dayNumber date.year date.month date.day = days ∧
      (roundTrip days ≠ .error .panic → roundTrip days = .ok days) ∧
      (-2147483648 ≤ days → days + 719468 < 2147483648 → roundTrip days ≠ .error .panic)) ∧
    ∀ (time : Int) (date : Date), 0 ≤ date.year → date.year ≤ 9999 →
      dayNumber date.year date.month date.day = time / 1000000000 / 86400 →
      ∃ text, Checked.rfc3339Utc time = (.ok text : Exec String (List Char)) ∧
        Cluster.rfc3339Utc time = .ok text ∧
        Checked.parseRfc3339 (String.ofList text) = .ok ⟨time / 1000000000, 0, date.year⟩ := by
  constructor
  · intro days
    have ⟨date, computed, number⟩ := exists_date days
    refine ⟨date, computed, number, (settles_roundTrip days).eq_ok, fun low high => ?_⟩
    rw [roundTrip_eq_ok low high]
    exact nofun
  · intro time date first last on
    have ⟨written, cluster⟩ := writers_eq_ok first last on
    refine ⟨_, written, cluster, ?_⟩
    rw [parseRfc3339_timestamp first last (by omega) (by omega), on]
    congr 2
    omega

/-- Half a second before the epoch, in the last second of 1969. -/
theorem calendar_conversions_inverse_sample :
    ∃ text, Checked.rfc3339Utc (-500000000) = (.ok text : Exec String (List Char)) ∧
      Cluster.rfc3339Utc (-500000000) = .ok text ∧
      Checked.parseRfc3339 (String.ofList text) = .ok ⟨-1, 0, 1969⟩ :=
  calendar_conversions_inverse.2 (-500000000) ⟨1969, 12, 31, by decide, by decide⟩ (by decide)
    (by decide) (by decide)

end Ployz.Docker
