import Ployz.Verif.Timestamp

/-!
# The instant of a timestamp

The grammar of RFC 3339 with the instant each text of it denotes, counted by the calendar. The
parser is compared with it in both directions: what it accepts without a sign in a field is of
the grammar and denotes what it returns, and a text of the grammar whose fields are in range is
accepted.
-/

namespace Ployz.Docker

open Calendar List

/-- A text of so many digits. -/
def Digits (length : Nat) : Type :=
  { text : List Char // text.length = length ∧ ∀ c ∈ text, (toDigit 10 c).isSome = true }

/-- The number that the digits denote. -/
def Digits.value {length : Nat} (self : Digits length) : Nat := digitsValue 10 self.1

/-- The zone of a timestamp. -/
inductive Zone where
  | utc
  | offset (negative : Bool) (hours minutes : Digits 2)

namespace Zone

def text : Zone → List Char
  | utc => ['Z']
  | offset negative hours minutes =>
    (if negative then '-' else '+') :: (hours.1 ++ ':' :: minutes.1)

/-- The seconds the local time is ahead. -/
def seconds : Zone → Int
  | utc => 0
  | offset negative hours minutes =>
    (if negative then -1 else 1) * (hours.value * 3600 + minutes.value * 60)

end Zone

/-- A timestamp of the grammar. -/
structure Stamp where
  year : Digits 4
  month : Digits 2
  day : Digits 2
  hour : Digits 2
  minute : Digits 2
  second : Digits 2
  fraction : List Char
  fractionDigits : ∀ c ∈ fraction, (toDigit 10 c).isSome = true
  fractionLength : fraction.length ≤ 9
  zone : Zone

namespace Stamp

variable (self : Stamp)

/-- What follows the seconds. -/
def tail : List Char :=
  (if self.fraction = [] then [] else '.' :: self.fraction) ++ self.zone.text

def text : List Char :=
  self.year.1 ++ '-' :: (self.month.1 ++ '-' :: (self.day.1 ++ 'T' :: (self.hour.1 ++
    ':' :: (self.minute.1 ++ ':' :: (self.second.1 ++ self.tail)))))

/-- A date of the calendar and a time of the day. -/
structure InRange (stamp : Stamp) : Prop where
  month : 1 ≤ stamp.month.value ∧ stamp.month.value ≤ 12
  day : 1 ≤ stamp.day.value ∧ stamp.day.value ≤ monthLength stamp.year.value stamp.month.value
  hour : stamp.hour.value ≤ 23
  minute : stamp.minute.value ≤ 59
  second : stamp.second.value ≤ 59

/-- The whole seconds since the epoch. -/
def seconds : Int :=
  dayNumber self.year.value self.month.value self.day.value * 86400 + self.hour.value * 3600 +
    self.minute.value * 60 + self.second.value - self.zone.seconds

/-- The fraction in nanoseconds. -/
def nanos : Nat := digitsValue 10 self.fraction * 10 ^ (9 - self.fraction.length)

end Stamp

/-- The text is a timestamp of this instant. -/
def Denotes (value : String) (seconds : Int) (nanos : Nat) : Prop :=
  ∃ stamp : Stamp, value.toList = stamp.text ∧ stamp.InRange ∧ stamp.seconds = seconds ∧
    stamp.nanos = nanos

/-- The numbers of a zone of six bytes. -/
def zoneFields (zone : List Char) : List (List Char) :=
  if zone.getLast? = some 'Z' then [] else [slice zone 1 3, slice zone 4 6]

/-- The fields of a text that the parser reads as numbers. -/
def fields (text : List Char) : List (List Char) :=
  [slice text 0 4, slice text 5 7, slice text 8 10, slice text 11 13, slice text 14 16,
    slice text 17 19] ++ zoneFields (text.drop (text.length - 6))

/-- No field has a sign. -/
def Unsigned (text : List Char) : Prop := ∀ part ∈ fields text, '+' ∉ part ∧ '-' ∉ part

instance (text : List Char) : Decidable (Unsigned text) :=
  inferInstanceAs (Decidable (∀ part ∈ fields text, _))

variable {value : String} {time : Rfc3339Time}

section Parts

variable {text : List Char}

theorem slice_append_drop {start stop : Nat} (order : start ≤ stop) (rest : List Char)
    (same : text.drop stop = rest) : text.drop start = slice text start stop ++ rest := by
  rw [← same, slice, show stop = start + (stop - start) by omega, ← drop_drop,
    Nat.add_sub_cancel_left, take_append_drop]

theorem drop_of_getElem? {index : Nat} {c : Char} (found : text[index]? = some c)
    (rest : List Char) (same : text.drop (index + 1) = rest) : text.drop index = c :: rest := by
  have ⟨inside, here⟩ := List.getElem?_eq_some_iff.mp found
  rw [drop_eq_getElem_cons inside, here, same]

theorem length_slice {start stop : Nat} (inside : stop ≤ text.length) :
    (slice text start stop).length = stop - start := by
  rw [slice, length_take, length_drop]
  omega

variable {limit : Nat} {part : List Char}

/-- A signed number without a sign is made of digits. -/
theorem digits_of_signed {value : Int} (read : readSigned limit part = some value)
    (unsigned : '+' ∉ part ∧ '-' ∉ part) :
    (∀ c ∈ part, (toDigit 10 c).isSome = true) ∧ value = digitsValue 10 part := by
  have ⟨digits, _, all, shape⟩ := parseSigned_eq_ok_iff.mp (readSigned_eq_some_iff.mp read)
  rcases shape with ⟨same | same, total, _⟩ | ⟨same, _⟩
  · rw [same]
    exact ⟨all, total⟩
  · exact absurd (same ▸ mem_cons_self) unsigned.1
  · exact absurd (same ▸ mem_cons_self) unsigned.2

/-- An unsigned number without a sign is made of digits. -/
theorem digits_of_unsigned {value : Nat} (read : (parseUnsigned limit part).toOption = some value)
    (unsigned : '+' ∉ part ∧ '-' ∉ part) :
    (∀ c ∈ part, (toDigit 10 c).isSome = true) ∧ value = digitsValue 10 part := by
  have ⟨digits, shape, _, all, total, _⟩ := parseUnsigned_eq_ok_iff.mp (eq_ok_of_toOption read)
  rcases shape with same | same
  · rw [same]
    exact ⟨all, total⟩
  · exact absurd (same ▸ mem_cons_self) unsigned.1

/-- What the parser has found in a text it accepts. -/
structure Parsed (text : List Char) (time : Rfc3339Time) (month day : Nat)
    (hour minute second : Int) (zone : List Char) (offset : Int) : Prop where
  long : 20 ≤ text.length
  ofYear : readSigned (2 ^ 31) (slice text 0 4) = some time.year
  ofMonth : (parseUnsigned (2 ^ 32) (slice text 5 7)).toOption = some month
  ofDay : (parseUnsigned (2 ^ 32) (slice text 8 10)).toOption = some day
  ofHour : readSigned (2 ^ 63) (slice text 11 13) = some hour
  ofMinute : readSigned (2 ^ 63) (slice text 14 16) = some minute
  ofSecond : readSigned (2 ^ 63) (slice text 17 19) = some second
  separators : text[4]? = some '-' ∧ text[7]? = some '-' ∧ text[10]? = some 'T' ∧
    text[13]? = some ':' ∧ text[16]? = some ':'
  ranges : (1 ≤ month ∧ month ≤ 12) ∧ day ≠ 0 ∧ day ≤ daysInMonth time.year month ∧
    (0 ≤ hour ∧ hour ≤ 23) ∧ (0 ≤ minute ∧ minute ≤ 59) ∧ (0 ≤ second ∧ second ≤ 59)
  ofFraction : parseFraction (text.drop 19) = some (time.nanos, zone)
  ofZone : parseZone zone = some offset
  seconds : time.unixSeconds = daysFromCivil time.year month day * 86400 + hour * 3600 +
    minute * 60 + second - offset

/-- What the parser finds in a text, field by field. -/
theorem parseRfc3339_eq_some_iff :
    parseRfc3339 value = some time ↔ ∃ month day hour minute second zone offset,
      Parsed (byteChars value) time month day hour minute second zone offset := by
  unfold parseRfc3339
  generalize byteChars value = text
  constructor
  · intro read
    have ⟨long, read⟩ := guard_bind_eq_some_iff.mp read
    have ⟨year, ofYear, read⟩ := Option.bind_eq_some_iff.mp read
    have ⟨month, ofMonth, read⟩ := Option.bind_eq_some_iff.mp read
    have ⟨day, ofDay, read⟩ := Option.bind_eq_some_iff.mp read
    have ⟨hour, ofHour, read⟩ := Option.bind_eq_some_iff.mp read
    have ⟨minute, ofMinute, read⟩ := Option.bind_eq_some_iff.mp read
    have ⟨second, ofSecond, read⟩ := Option.bind_eq_some_iff.mp read
    have ⟨separators, read⟩ := guard_bind_eq_some_iff.mp read
    have ⟨ranges, read⟩ := guard_bind_eq_some_iff.mp read
    have ⟨⟨nanos, zone⟩, ofFraction, read⟩ := Option.bind_eq_some_iff.mp read
    have ⟨offset, ofZone, read⟩ := Option.bind_eq_some_iff.mp read
    have same := Option.some.inj read
    rw [← same]
    exact ⟨month, day, hour, minute, second, zone, offset, long, ofYear, ofMonth, ofDay, ofHour,
      ofMinute, ofSecond, separators, ranges, ofFraction, ofZone, rfl⟩
  · intro ⟨month, day, hour, minute, second, zone, offset, parsed⟩
    have same : time = ⟨daysFromCivil time.year month day * 86400 + hour * 3600 +
        minute * 60 + second - offset, time.nanos, time.year⟩ := by
      rw [← parsed.seconds]
    refine guard_bind_eq_some_iff.mpr ⟨parsed.long, ?_⟩
    rw [parsed.ofYear, parsed.ofMonth, parsed.ofDay, parsed.ofHour, parsed.ofMinute,
      parsed.ofSecond]
    refine guard_bind_eq_some_iff.mpr ⟨parsed.separators, ?_⟩
    refine guard_bind_eq_some_iff.mpr ⟨parsed.ranges, ?_⟩
    rw [parsed.ofFraction]
    show (parseZone zone >>= _) = _
    rw [parsed.ofZone]
    exact congrArg some same.symm

theorem drop_length_takeWhile (test : Char → Bool) (rest : List Char) :
    rest.drop (rest.takeWhile test).length = rest.dropWhile test := by
  conv_lhs => rw [← takeWhile_append_dropWhile (p := test) (l := rest)]
  rw [drop_left' (by rw [takeWhile_append_dropWhile])]

variable {zone : List Char}

/-- The fraction ends where the zone starts. -/
theorem takeWhile_fraction {fraction : List Char}
    (digits : ∀ c ∈ fraction, (toDigit 10 c).isSome = true)
    (stops : ∃ c ∈ zone.head?, c = 'Z' ∨ c = '+' ∨ c = '-') :
    (fraction ++ zone).takeWhile (fun c => c ≠ 'Z' ∧ c ≠ '+' ∧ c ≠ '-') = fraction := by
  have passes : ∀ c ∈ fraction, decide (c ≠ 'Z' ∧ c ≠ '+' ∧ c ≠ '-') = true := by
    intro c member
    have digit := digits c member
    apply decide_eq_true
    refine ⟨?_, ?_, ?_⟩ <;> intro same <;> rw [same] at digit <;> exact absurd digit (by decide)
  have ⟨c, first, stop⟩ := stops
  rw [takeWhile_append_of_pos passes]
  cases zone with
  | nil => exact nomatch first
  | cons d zone =>
    rw [Option.some.inj first, takeWhile_cons_of_neg (by simp; tauto), append_nil]

/-- A fraction is a point and one to nine digits, or missing. -/
theorem parseFraction_eq_some_iff {tail : List Char} {nanos : Nat} :
    parseFraction tail = some (nanos, zone) ↔
      tail.head? ≠ some '.' ∧ zone = tail ∧ nanos = 0 ∨
        ∃ fraction, tail = '.' :: (fraction ++ zone) ∧ fraction ≠ [] ∧ fraction.length ≤ 9 ∧
          (∀ c ∈ fraction, (toDigit 10 c).isSome = true) ∧
          (∃ c ∈ zone.head?, c = 'Z' ∨ c = '+' ∨ c = '-') ∧
          nanos = digitsValue 10 fraction * 10 ^ (9 - fraction.length) := by
  unfold parseFraction
  split
  case h_1 rest =>
    constructor
    · intro read
      obtain ⟨left, read⟩ := guard_bind_eq_some_iff.mp read
      obtain ⟨⟨short, filled, all⟩, read⟩ := guard_bind_eq_some_iff.mp read
      obtain ⟨number, ofNumber, read⟩ := Option.bind_eq_some_iff.mp read
      have digits := all_eq_true.mp all
      obtain ⟨_, total⟩ := fractionNanos_eq_ok short filled digits
      rw [total] at ofNumber
      obtain ⟨ofNanos, ofZone⟩ := Prod.mk.inj (Option.some.inj read)
      refine .inr ⟨_, ?_, filled, short, digits, ?_, ?_⟩
      · rw [← ofZone, drop_length_takeWhile, takeWhile_append_dropWhile]
      · rw [ofZone] at left
        rw [← ofZone, drop_length_takeWhile]
        rw [← ofZone, drop_length_takeWhile] at left
        have ends := head_dropWhile_not (fun c => decide (c ≠ 'Z' ∧ c ≠ '+' ∧ c ≠ '-')) left
        refine ⟨_, head_mem_head? left, ?_⟩
        by_contra other
        push Not at other
        rw [decide_eq_true other] at ends
        cases ends
      · rw [← ofNanos, ← Option.some.inj ofNumber]
    · rintro (⟨other, _⟩ | ⟨fraction, same, filled, short, digits, stops, total⟩)
      · exact absurd rfl other
      · have shape := (List.cons.inj same).2
        obtain ⟨_, read⟩ := fractionNanos_eq_ok short filled digits
        have cut : (fraction ++ zone).drop fraction.length = zone := drop_left
        have left : zone ≠ [] := by
          intro none
          obtain ⟨c, first, _⟩ := stops
          rw [none] at first
          cases first
        rw [shape, takeWhile_fraction digits stops]
        dsimp only
        rw [cut]
        refine guard_bind_eq_some_iff.mpr ⟨left, ?_⟩
        refine guard_bind_eq_some_iff.mpr ⟨⟨short, filled, all_eq_true.mpr digits⟩, ?_⟩
        rw [read, total]
        rfl
  case h_2 other =>
    constructor
    · intro read
      obtain ⟨zero, same⟩ := Prod.mk.inj (Option.some.inj read)
      refine .inl ⟨?_, same.symm, zero.symm⟩
      cases tail with
      | nil => rintro ⟨⟩
      | cons c rest =>
        intro point
        exact other rest (by rw [Option.some.inj point])
    · rintro (⟨_, same, zero⟩ | ⟨fraction, same, _⟩)
      · rw [same, zero]
      · exact absurd same (other _)

theorem not_mem_of_signed {value : Int} (read : readSigned limit part = some value) :
    'Z' ∉ part := by
  have ⟨digits, _, all, shape⟩ := parseSigned_eq_ok_iff.mp (readSigned_eq_some_iff.mp read)
  have absent : 'Z' ∉ digits := fun member => absurd (all _ member) (by decide)
  rcases shape with ⟨same | same, _⟩ | ⟨same, _⟩ <;> rw [same]
  · exact absent
  · exact not_mem_cons_of_ne_of_not_mem (by decide) absent
  · exact not_mem_cons_of_ne_of_not_mem (by decide) absent

/-- A zone without a sign in its fields is one of the grammar. -/
theorem exists_zone {offset : Int} (read : parseZone zone = some offset)
    (unsigned : zone.length = 6 → ∀ part ∈ zoneFields zone, '+' ∉ part ∧ '-' ∉ part) :
    ∃ stamped : Zone, zone = stamped.text ∧ offset = stamped.seconds := by
  rcases parseZone_eq_some_iff.mp read with
    ⟨utc, zero⟩ | ⟨sign, unit, found⟩
  · exact ⟨.utc, utc, zero⟩
  · obtain ⟨six, colon, hours, minutes, ofHours, ofMinutes, _, _, same⟩ :=
      zoneOffset_eq_some_iff.mp found
    have open' : zone.getLast? ≠ some 'Z' := by
      intro last
      rw [getLast?_eq_getElem?, six] at last
      exact not_mem_of_signed ofMinutes (mem_slice last (by omega) (by omega))
    have fields : zoneFields zone = [slice zone 1 3, slice zone 4 6] := if_neg open'
    have plain := unsigned six
    rw [fields] at plain
    have ⟨hourDigits, hourValue⟩ := digits_of_signed ofHours (plain _ (by simp))
    have ⟨minuteDigits, minuteValue⟩ := digits_of_signed ofMinutes (plain _ (by simp))
    have tail : zone.drop 1 = slice zone 1 3 ++ ':' :: slice zone 4 6 := by
      apply slice_append_drop (by omega)
      apply drop_of_getElem? colon
      rw [slice_append_drop (show 4 ≤ 6 by omega) _ rfl, drop_eq_nil_of_le (by omega),
        append_nil]
    refine ⟨.offset (sign = -1) ⟨slice zone 1 3, length_slice (by omega), hourDigits⟩
      ⟨slice zone 4 6, length_slice (by omega), minuteDigits⟩, ?_, ?_⟩
    · rcases unit with ⟨first, one⟩ | ⟨first, one⟩ <;> rw [one]
      · exact drop_of_getElem? first _ tail
      · exact drop_of_getElem? first _ tail
    · rw [same, hourValue, minuteValue]
      rcases unit with ⟨_, one⟩ | ⟨_, one⟩ <;> rw [one] <;> rfl

/-- An accepted text without a sign in its fields is a timestamp of the instant returned. -/
theorem exists_stamp {month day : Nat} {hour minute second : Int} {offset : Int}
    (parsed : Parsed text time month day hour minute second zone offset) (unsigned : Unsigned text) :
    ∃ stamp : Stamp, text = stamp.text ∧ stamp.InRange ∧ stamp.seconds = time.unixSeconds ∧
      stamp.nanos = time.nanos := by
  have long := parsed.long
  have ⟨dash, secondDash, letter, colon, secondColon⟩ := parsed.separators
  have ⟨months, someDay, days, hours, minutes, seconds⟩ := parsed.ranges
  have plain : ∀ part ∈ [slice text 0 4, slice text 5 7, slice text 8 10, slice text 11 13,
      slice text 14 16, slice text 17 19], '+' ∉ part ∧ '-' ∉ part :=
    fun part member => unsigned part (mem_append_left _ member)
  have ⟨yearDigits, yearValue⟩ := digits_of_signed parsed.ofYear (plain _ (by simp))
  have ⟨monthDigits, monthValue⟩ := digits_of_unsigned parsed.ofMonth (plain _ (by simp))
  have ⟨dayDigits, dayValue⟩ := digits_of_unsigned parsed.ofDay (plain _ (by simp))
  have ⟨hourDigits, hourValue⟩ := digits_of_signed parsed.ofHour (plain _ (by simp))
  have ⟨minuteDigits, minuteValue⟩ := digits_of_signed parsed.ofMinute (plain _ (by simp))
  have ⟨secondDigits, secondValue⟩ := digits_of_signed parsed.ofSecond (plain _ (by simp))
  have within := (suffix_of_parseFraction parsed.ofFraction).trans (drop_suffix 19 text)
  have ⟨stamped, zoneText, zoneSeconds⟩ := exists_zone parsed.ofZone (by
    intro six part member
    apply unsigned part
    apply mem_append_right
    rwa [suffix_iff_eq_drop.mp within, six] at member)
  have ⟨fraction, fractionDigits, short, tail, nanos⟩ : ∃ fraction : List Char,
      (∀ c ∈ fraction, (toDigit 10 c).isSome = true) ∧ fraction.length ≤ 9 ∧
        text.drop 19 = (if fraction = [] then [] else '.' :: fraction) ++ stamped.text ∧
        time.nanos = digitsValue 10 fraction * 10 ^ (9 - fraction.length) := by
    rcases parseFraction_eq_some_iff.mp parsed.ofFraction with
      ⟨_, same, zero⟩ | ⟨fraction, same, filled, short, digits, _, total⟩
    · exact ⟨[], nofun, by simp, same.symm.trans zoneText, zero⟩
    · refine ⟨fraction, digits, short, ?_, total⟩
      rw [same, if_neg filled, zoneText, cons_append]
  refine ⟨{
      year := ⟨slice text 0 4, length_slice (by omega), yearDigits⟩
      month := ⟨slice text 5 7, length_slice (by omega), monthDigits⟩
      day := ⟨slice text 8 10, length_slice (by omega), dayDigits⟩
      hour := ⟨slice text 11 13, length_slice (by omega), hourDigits⟩
      minute := ⟨slice text 14 16, length_slice (by omega), minuteDigits⟩
      second := ⟨slice text 17 19, length_slice (by omega), secondDigits⟩
      fraction := fraction
      fractionDigits := fractionDigits
      fractionLength := short
      zone := stamped }, ?_, ?_, ?_, nanos.symm⟩
  · refine slice_append_drop (show 0 ≤ 4 by omega) _ (drop_of_getElem? dash _ ?_)
    refine slice_append_drop (show 5 ≤ 7 by omega) _ (drop_of_getElem? secondDash _ ?_)
    refine slice_append_drop (show 8 ≤ 10 by omega) _ (drop_of_getElem? letter _ ?_)
    refine slice_append_drop (show 11 ≤ 13 by omega) _ (drop_of_getElem? colon _ ?_)
    refine slice_append_drop (show 14 ≤ 16 by omega) _ (drop_of_getElem? secondColon _ ?_)
    exact slice_append_drop (show 17 ≤ 19 by omega) _ tail
  · rw [daysInMonth_eq months, yearValue, monthValue, dayValue] at days
    rw [monthValue] at months
    rw [dayValue] at someDay
    rw [hourValue] at hours
    rw [minuteValue] at minutes
    rw [secondValue] at seconds
    exact {
      month := months
      day := ⟨Nat.one_le_iff_ne_zero.mpr someDay, days⟩
      hour := Int.ofNat_le.mp hours.2
      minute := Int.ofNat_le.mp minutes.2
      second := Int.ofNat_le.mp seconds.2 }
  · rw [parsed.seconds, daysFromCivil_eq months, zoneSeconds, yearValue, monthValue, dayValue,
      hourValue, minuteValue, secondValue]
    rfl

end Parts

section Written

variable {text part rest : List Char} {start size : Nat} {c : Char}

theorem slice_of_drop (length : part.length = size) (same : text.drop start = part ++ rest) :
    slice text start (start + size) = part := by
  rw [slice, same, Nat.add_sub_cancel_left]
  exact take_left' length

/-- Behind a part comes its separator. -/
theorem next_of_drop (length : part.length = size) (same : text.drop start = part ++ c :: rest) :
    text[start + size]? = some c ∧ text.drop (start + size + 1) = rest := by
  have from' : text.drop (start + size) = c :: rest := by
    rw [← drop_drop, same]
    exact drop_left' length
  constructor
  · rw [← head?_drop, from']
    rfl
  · rw [← drop_drop, from']
    rfl

variable {length : Nat}

/-- Digits are read as a signed number. -/
theorem Digits.readSigned {limit : Nat} (self : Digits length) (filled : length ≠ 0)
    (fits : 10 ^ length ≤ limit) : Docker.readSigned limit self.1 = some (self.value : Int) := by
  apply readSigned_eq_some_iff.mpr
  apply parseSigned_eq_ok_iff.mpr
  refine ⟨self.1, ?_, self.2.2, .inl ⟨.inl rfl, rfl, ?_⟩⟩
  · intro none
    exact filled (self.2.1.symm.trans (congrArg List.length none))
  · have small := digitsValue_lt self.1
    rw [self.2.1] at small
    omega

/-- Digits are read as an unsigned number. -/
theorem Digits.parseUnsigned {limit : Nat} (self : Digits length) (filled : length ≠ 0)
    (fits : 10 ^ length ≤ limit) :
    (Ployz.parseUnsigned limit self.1).toOption = some self.value := by
  have small := digitsValue_lt self.1
  rw [self.2.1] at small
  have read : Ployz.parseUnsigned limit self.1 = .ok self.value := by
    apply parseUnsigned_eq_ok_iff.mpr
    refine ⟨self.1, .inl rfl, ?_, self.2.2, rfl, by rw [Digits.value]; omega⟩
    intro none
    exact filled (self.2.1.symm.trans (congrArg List.length none))
  rw [read]
  rfl

theorem Digits.unsigned (self : Digits length) : '+' ∉ self.1 ∧ '-' ∉ self.1 :=
  ⟨fun member => absurd (self.2.2 _ member) (by decide),
    fun member => absurd (self.2.2 _ member) (by decide)⟩

/-- The parts of a text are those of the timestamp. -/
structure Written (stamp : Stamp) (text : List Char) : Prop where
  year : slice text 0 4 = stamp.year.1
  month : slice text 5 7 = stamp.month.1
  day : slice text 8 10 = stamp.day.1
  hour : slice text 11 13 = stamp.hour.1
  minute : slice text 14 16 = stamp.minute.1
  second : slice text 17 19 = stamp.second.1
  separators : text[4]? = some '-' ∧ text[7]? = some '-' ∧ text[10]? = some 'T' ∧
    text[13]? = some ':' ∧ text[16]? = some ':'
  tail : text.drop 19 = stamp.tail

/-- The text of a timestamp has its parts in their places. -/
theorem written_text (stamp : Stamp) : Written stamp stamp.text := by
  have year : stamp.text.drop 0 = stamp.year.1 ++ _ := rfl
  have ⟨dash, month⟩ := next_of_drop stamp.year.2.1 year
  have ⟨secondDash, day⟩ := next_of_drop stamp.month.2.1 month
  have ⟨letter, hour⟩ := next_of_drop stamp.day.2.1 day
  have ⟨colon, minute⟩ := next_of_drop stamp.hour.2.1 hour
  have ⟨secondColon, second⟩ := next_of_drop stamp.minute.2.1 minute
  exact {
    year := slice_of_drop stamp.year.2.1 year
    month := slice_of_drop stamp.month.2.1 month
    day := slice_of_drop stamp.day.2.1 day
    hour := slice_of_drop stamp.hour.2.1 hour
    minute := slice_of_drop stamp.minute.2.1 minute
    second := slice_of_drop stamp.second.2.1 second
    separators := ⟨dash, secondDash, letter, colon, secondColon⟩
    tail := by
      show stamp.text.drop (17 + 2) = _
      rw [← drop_drop, second]
      exact drop_left' stamp.second.2.1 }

namespace Zone

/-- The text of an offset has its parts in their places. -/
theorem slices_offset (negative : Bool) (hours minutes : Digits 2) :
    slice (offset negative hours minutes).text 1 3 = hours.1 ∧
      slice (offset negative hours minutes).text 4 6 = minutes.1 ∧
      (offset negative hours minutes).text[3]? = some ':' ∧
      (offset negative hours minutes).text.length = 6 := by
  have tail : (offset negative hours minutes).text.drop 1 = hours.1 ++ ':' :: minutes.1 := rfl
  have ⟨colon, last⟩ := next_of_drop hours.2.1 tail
  refine ⟨slice_of_drop hours.2.1 tail, ?_, colon, ?_⟩
  · exact slice_of_drop minutes.2.1 (last.trans (append_nil _).symm)
  · rw [text, length_cons, length_append, length_cons, hours.2.1, minutes.2.1]

theorem ascii (self : Zone) : ∀ c ∈ self.text, c.toNat < 128 := by
  intro c member
  cases self with
  | utc => rw [mem_singleton.mp member]; decide
  | offset negative hours minutes =>
    rw [text, mem_cons, mem_append, mem_cons] at member
    rcases member with same | inHours | same | inMinutes
    · cases negative <;> rw [same] <;> decide
    · exact lt_of_isSome_toDigit (hours.2.2 c inHours)
    · rw [same]; decide
    · exact lt_of_isSome_toDigit (minutes.2.2 c inMinutes)

theorem starts (self : Zone) : ∃ c ∈ self.text.head?, c = 'Z' ∨ c = '+' ∨ c = '-' := by
  cases self with
  | utc => exact ⟨'Z', rfl, .inl rfl⟩
  | offset negative hours minutes =>
    cases negative with
    | false => exact ⟨'+', rfl, .inr (.inl rfl)⟩
    | true => exact ⟨'-', rfl, .inr (.inr rfl)⟩

/-- An offset of at most a day. -/
def InRange : Zone → Prop
  | utc => True
  | offset _ hours minutes => hours.value ≤ 24 ∧ minutes.value ≤ 59

/-- A zone in range is read back. -/
theorem parseZone_text {self : Zone} (range : self.InRange) :
    parseZone self.text = some self.seconds := by
  cases self with
  | utc => rfl
  | offset negative hours minutes =>
    have ⟨ofHours, ofMinutes, colon, six⟩ := slices_offset negative hours minutes
    apply parseZone_eq_some_iff.mpr
    refine .inr ⟨if negative then -1 else 1, ?_, zoneOffset_eq_some_iff.mpr ⟨six, colon, hours.value,
      minutes.value, ?_, ?_, Int.ofNat_le.mpr range.1, Int.ofNat_le.mpr range.2, rfl⟩⟩
    · cases negative with
      | false => exact .inl ⟨rfl, rfl⟩
      | true => exact .inr ⟨rfl, rfl⟩
    · rw [ofHours]
      exact hours.readSigned (by decide) (by decide)
    · rw [ofMinutes]
      exact minutes.readSigned (by decide) (by decide)

end Zone

namespace Stamp

variable (self : Stamp)

/-- A timestamp ends with its zone. -/
theorem suffix_text : self.zone.text <:+ self.text := by
  have whole : self.tail <:+ self.text := by
    rw [← (written_text self).tail]
    exact drop_suffix 19 _
  exact (suffix_append _ _).trans whole

theorem twenty_le_length : 20 ≤ self.text.length := by
  have ⟨c, first, _⟩ := self.zone.starts
  have tail := congrArg List.length (written_text self).tail
  rw [length_drop, Stamp.tail, length_append] at tail
  have filled : self.zone.text.length ≠ 0 := by
    intro none
    rw [length_eq_zero_iff.mp none] at first
    exact nomatch first
  omega

/-- No field of a timestamp has a sign. -/
theorem unsigned_text : Unsigned self.text := by
  have written := written_text self
  intro part member
  rcases mem_append.mp member with front | zone
  · rw [written.year, written.month, written.day, written.hour, written.minute,
      written.second] at front
    simp only [mem_cons, not_mem_nil, or_false] at front
    rcases front with same | same | same | same | same | same <;> rw [same] <;>
      exact Digits.unsigned _
  · have long := self.twenty_le_length
    have suffix := self.suffix_text
    cases shape : self.zone with
    | utc =>
      rw [shape] at suffix
      have last : self.text.getLast? = some 'Z' := by
        have ⟨front, whole⟩ := suffix
        rw [← whole]
        exact getLast?_concat
      have none : zoneFields (self.text.drop (self.text.length - 6)) = [] := by
        apply if_pos
        rw [getLast?_drop, if_neg (by omega), last]
      rw [none] at zone
      exact nomatch zone
    | offset negative hours minutes =>
      rw [shape] at suffix
      have ⟨ofHours, ofMinutes, _, six⟩ := Zone.slices_offset negative hours minutes
      have cut := suffix_iff_eq_drop.mp suffix
      rw [six] at cut
      rw [← cut, zoneFields, ofHours, ofMinutes] at zone
      split at zone
      · exact nomatch zone
      · simp only [mem_cons, not_mem_nil, or_false] at zone
        rcases zone with same | same <;> rw [same] <;> exact Digits.unsigned _

theorem ascii : ∀ c ∈ self.text, c.toNat < 128 := by
  have digits : ∀ {length : Nat} (part : Digits length), ∀ c ∈ part.1, c.toNat < 128 :=
    fun part c member => lt_of_isSome_toDigit (part.2.2 c member)
  have tail : ∀ c ∈ self.tail, c.toNat < 128 := by
    intro c member
    rcases mem_append.mp member with inFraction | inZone
    · split at inFraction
      · exact nomatch inFraction
      · rcases mem_cons.mp inFraction with same | inDigits
        · rw [same]; decide
        · exact lt_of_isSome_toDigit (self.fractionDigits c inDigits)
    · exact self.zone.ascii c inZone
  simp only [text, forall_mem_append, forall_mem_cons]
  exact ⟨digits _, by decide, digits _, by decide, digits _, by decide, digits _, by decide,
    digits _, by decide, digits _, tail⟩

/-- The fraction of a timestamp is read back. -/
theorem parseFraction_tail : parseFraction self.tail = some (self.nanos, self.zone.text) := by
  apply parseFraction_eq_some_iff.mpr
  by_cases none : self.fraction = []
  · have whole : self.tail = self.zone.text := by rw [tail, if_pos none, nil_append]
    have ⟨c, first, start⟩ := self.zone.starts
    refine .inl ⟨?_, whole.symm, ?_⟩
    · rw [whole, first]
      rcases start with same | same | same <;> rw [same] <;> decide
    · rw [nanos, none]
      rfl
  · refine .inr ⟨self.fraction, ?_, none, self.fractionLength, self.fractionDigits,
      self.zone.starts, rfl⟩
    rw [tail, if_neg none, cons_append]

/-- The parser finds the fields of a timestamp in range. -/
theorem parsed_text {self : Stamp} (range : self.InRange) (zone : self.zone.InRange) :
    Parsed self.text ⟨self.seconds, self.nanos, self.year.value⟩ self.month.value self.day.value
      self.hour.value self.minute.value self.second.value self.zone.text self.zone.seconds := by
  have written := written_text self
  refine ⟨self.twenty_le_length, ?_, ?_, ?_, ?_, ?_, ?_, written.separators, ?_, ?_,
    Zone.parseZone_text zone, ?_⟩
  · rw [written.year]
    exact self.year.readSigned (by decide) (by decide)
  · rw [written.month]
    exact self.month.parseUnsigned (by decide) (by decide)
  · rw [written.day]
    exact self.day.parseUnsigned (by decide) (by decide)
  · rw [written.hour]
    exact self.hour.readSigned (by decide) (by decide)
  · rw [written.minute]
    exact self.minute.readSigned (by decide) (by decide)
  · rw [written.second]
    exact self.second.readSigned (by decide) (by decide)
  · have ⟨low, high⟩ := range.day
    have hour := range.hour
    have minute := range.minute
    have second := range.second
    rw [daysInMonth_eq range.month]
    exact ⟨range.month, Nat.one_le_iff_ne_zero.mp low, high, by omega, by omega, by omega⟩
  · rw [written.tail]
    exact self.parseFraction_tail
  · rw [daysFromCivil_eq range.month]
    rfl

/-- A timestamp in range is accepted with its instant. -/
theorem parseRfc3339_text {self : Stamp} (range : self.InRange) (zone : self.zone.InRange) :
    Checked.parseRfc3339 (String.ofList self.text) =
      .ok ⟨self.seconds, self.nanos, self.year.value⟩ := by
  apply (reads_parseRfc3339 _).eq_ok_iff.mpr
  apply parseRfc3339_eq_some_iff.mpr
  rw [byteChars_ofList self.ascii]
  exact ⟨_, _, _, _, _, _, _, parsed_text range zone⟩

end Stamp

/-- An accepted text denotes what the parser returns exactly when no field has a sign. -/
theorem denotes_iff_unsigned (read : Checked.parseRfc3339 value = .ok time) :
    Denotes value time.unixSeconds time.nanos ↔ Unsigned (byteChars value) := by
  have parsed := (reads_parseRfc3339 value).eq_ok_iff.mp read
  have ⟨_, _, _, _, _, _, _, parts⟩ := parseRfc3339_eq_some_iff.mp parsed
  constructor
  · intro ⟨stamp, same, _⟩
    have whole : byteChars value = stamp.text := by
      rw [← byteChars_ofList stamp.ascii, ← same, String.ofList_toList]
    rw [whole]
    exact stamp.unsigned_text
  · intro unsigned
    have ⟨stamp, same, range, seconds, nanos⟩ := exists_stamp parts unsigned
    refine ⟨stamp, ?_, range, seconds, nanos⟩
    rw [← same]
    exact toList_eq_byteChars (same ▸ stamp.ascii)

/-- The parser never panics, and it is right about a text it accepts exactly when no field of
the text has a sign. -/
theorem parse_rfc3339_sound_iff (value : String) :
    Checked.parseRfc3339 value ≠ .error .panic ∧
      ((∀ time, Checked.parseRfc3339 value = .ok time →
          Denotes value time.unixSeconds time.nanos) ↔
        ((∃ time, Checked.parseRfc3339 value = .ok time) → Unsigned (byteChars value))) := by
  refine ⟨(reads_parseRfc3339 value).ne_panic, ?_⟩
  constructor
  · intro sound ⟨time, read⟩
    exact (denotes_iff_unsigned read).mp (sound time read)
  · intro unsigned time read
    exact (denotes_iff_unsigned read).mpr (unsigned ⟨time, read⟩)

theorem parse_rfc3339_sound_sample :
    Denotes "2026-08-12T00:00:01.5+01:00" 1786489201 500000000 :=
  (parse_rfc3339_sound_iff "2026-08-12T00:00:01.5+01:00").2.mpr (fun _ => by decide +kernel)
    ⟨1786489201, 500000000, 2026⟩ (by decide +kernel)

/-- A sign stands in place of a digit of the zone. -/
theorem parse_rfc3339_accepts_sign :
    Checked.parseRfc3339 "2026-08-11T10:00:00+-1:30" = .ok ⟨1786444200, 0, 2026⟩ ∧
      ¬ Denotes "2026-08-11T10:00:00+-1:30" 1786444200 0 := by
  have read : Checked.parseRfc3339 "2026-08-11T10:00:00+-1:30" = .ok ⟨1786444200, 0, 2026⟩ := by
    decide +kernel
  refine ⟨read, fun denotes => ?_⟩
  exact absurd ((denotes_iff_unsigned read).mp denotes) (by decide +kernel)

end Written

end Ployz.Docker
