import Ployz.Base.Utf8
import Ployz.Verif.Calendar

/-!
# What a timestamp denotes

The parser of timestamps never panics: a slice at a byte position is taken only where the bytes
around it are characters of their own. A text that it accepts denotes the instant it returns as
long as no field of the text holds a sign, which the parsers of the fields also accept.
-/

namespace Ployz.Docker

open Calendar List

section Bytes

theorem byteChars_eq (value : String) :
    byteChars value = (Utf8.bytes value).map fun byte => Char.ofNat byte.toNat := rfl

theorem toNat_ofByte (byte : UInt8) : (Char.ofNat byte.toNat).toNat = byte.toNat := by
  have small := byte.toNat_lt
  have valid : byte.toNat.isValidChar := .inl (by omega)
  rw [Char.toNat_ofNat, if_pos valid]

/-- The bytes of a text, where what follows a byte below 128 starts a character. -/
def Joined (text : List Char) : Prop :=
  text.IsChain fun c next => c.toNat < 128 → next.toNat < 128 ∨ 192 ≤ next.toNat

theorem joined_byteChars (value : String) : Joined (byteChars value) := by
  rw [Joined, byteChars_eq, isChain_map]
  simp only [toNat_ofByte]
  exact Utf8.isChain_bytes value

theorem byteChars_ofList {text : List Char} (ascii : ∀ c ∈ text, c.toNat < 128) :
    byteChars (String.ofList text) = text := by
  rw [byteChars_eq, Utf8.bytes_ofList ascii, map_map]
  have same : ∀ c ∈ text, ((fun byte : UInt8 => Char.ofNat byte.toNat) ∘ fun c =>
      UInt8.ofNat c.toNat) c = c := by
    intro c member
    have small := ascii c member
    rw [Function.comp, UInt8.toNat_ofNat', Nat.mod_eq_of_lt (by omega), Char.ofNat_toNat]
  rw [map_congr_left same, map_id']

theorem toList_eq_byteChars {value : String} (ascii : ∀ c ∈ byteChars value, c.toNat < 128) :
    value.toList = byteChars value := by
  have small : ∀ c ∈ value.toList, c.toNat < 128 := by
    apply Utf8.toList_of_bytes
    intro byte member
    have char := ascii (Char.ofNat byte.toNat) (mem_map_of_mem member)
    rwa [toNat_ofByte] at char
  rw [← byteChars_ofList small, String.ofList_toList]

end Bytes

section Numbers

theorem lt_of_isSome_toDigit {c : Char} (digit : (toDigit 10 c).isSome = true) :
    c.toNat < 128 := by
  by_contra large
  have none : toDigit 10 c = none := by
    have bounds : ∀ last : Char, last.toNat < 128 → ¬c ≤ last := by
      intro last small below
      have codes : c.toNat ≤ last.toNat := below
      omega
    simp [toDigit, digitValue, bounds '9' (by decide), bounds 'z' (by decide),
      bounds 'Z' (by decide)]
  rw [none] at digit
  cases digit

theorem readSigned_eq_some_iff {limit : Nat} {text : List Char} {value : Int} :
    readSigned limit text = some value ↔ parseSigned limit text = .ok value := by
  constructor
  · exact eq_ok_of_toOption
  · intro read
    rw [readSigned, read]
    rfl

/-- A parser of numbers reads no byte from 128 on. -/
def Plain {α : Type} (parse : List Char → Option α) : Prop :=
  ∀ part value, parse part = some value → ∀ c ∈ part, c.toNat < 128

theorem plain_readSigned (limit : Nat) : Plain (readSigned limit) := by
  intro part value read c member
  have ⟨digits, _, all, shape⟩ := parseSigned_eq_ok_iff.mp (readSigned_eq_some_iff.mp read)
  have signs : c = '+' ∨ c = '-' ∨ c ∈ digits := by
    rcases shape with ⟨same | same, _⟩ | ⟨same, _⟩ <;> rw [same] at member
    · exact .inr (.inr member)
    · exact (mem_cons.mp member).imp_right .inr
    · exact .inr (mem_cons.mp member)
  rcases signs with plus | minus | digit
  · rw [plus]
    decide
  · rw [minus]
    decide
  · exact lt_of_isSome_toDigit (all c digit)

theorem plain_parseUnsigned (limit : Nat) :
    Plain fun part => (parseUnsigned limit part).toOption := by
  intro part value read c member
  have ⟨digits, shape, _, all, _⟩ := parseUnsigned_eq_ok_iff.mp (eq_ok_of_toOption read)
  have signs : c = '+' ∨ c ∈ digits := by
    rcases shape with same | same <;> rw [same] at member
    · exact .inr member
    · exact mem_cons.mp member
  rcases signs with plus | digit
  · rw [plus]
    decide
  · exact lt_of_isSome_toDigit (all c digit)

end Numbers

section Slices

open Checked

variable {text : List Char} {c : Char} {index : Nat}

theorem isCharBoundary_self (found : text[index]? = some c) (ascii : c.toNat < 128) :
    isCharBoundary text index = true := by
  simp [isCharBoundary, found, ascii]

theorem isCharBoundary_succ (joined : Joined text) (found : text[index]? = some c)
    (ascii : c.toNat < 128) : isCharBoundary text (index + 1) = true := by
  have ⟨inside, same⟩ := List.getElem?_eq_some_iff.mp found
  by_cases last : index + 1 < text.length
  · have starts := isChain_iff_getElem.mp joined index last
    rw [same] at starts
    simp [isCharBoundary, getElem?_eq_getElem last, starts ascii]
  · have ends : index + 1 = text.length := by omega
    simp [isCharBoundary, ends]

variable {start stop : Nat}

theorem mem_slice (found : text[index]? = some c) (low : start ≤ index) (high : index < stop) :
    c ∈ slice text start stop := by
  apply mem_of_getElem? (i := index - start)
  rw [slice, getElem?_take_of_lt (by omega), getElem?_drop]
  rw [show start + (index - start) = index by omega]
  exact found

/-- A field is read as its parser reads the slice: a slice that cuts a character holds a byte
from 128 on. -/
theorem reads_field {α : Type} {parse : List Char → Option α} (plain : Plain parse)
    (joined : Joined text) (order : start < stop) (inside : stop ≤ text.length) (message : String) :
    (field parse text start stop message).Reads (parse (slice text start stop)) := by
  unfold field getRange
  cases read : parse (slice text start stop) with
  | none =>
    split
    · rename_i some
      split at some
      · rw [Option.bind_some, read] at some
        exact nomatch some
      · exact nomatch some
    · exact .fail message
  | some value =>
    have ascii := plain _ _ read
    have first := getElem?_eq_getElem (show start < text.length by omega)
    have last := getElem?_eq_getElem (show stop - 1 < text.length by omega)
    have begins := isCharBoundary_self first (ascii _ (mem_slice first (by omega) order))
    have ends := isCharBoundary_succ joined last (ascii _ (mem_slice last (by omega) (by omega)))
    rw [show stop - 1 + 1 = stop by omega] at ends
    rw [if_pos ⟨by omega, begins, ends⟩, Option.bind_some, read]
    exact .ok value

theorem getRange_zero (ends : isCharBoundary text stop = true) :
    getRange text 0 stop = some (text.take stop) := by
  have begins : isCharBoundary text 0 = true := by simp [isCharBoundary]
  rw [getRange, if_pos ⟨Nat.zero_le _, begins, ends⟩]
  rfl

theorem getRange_length (inside : start ≤ text.length) (begins : isCharBoundary text start = true) :
    getRange text start text.length = some (text.drop start) := by
  have ends : isCharBoundary text text.length = true := by simp [isCharBoundary]
  rw [getRange, if_pos ⟨inside, begins, ends⟩, slice, take_of_length_le]
  rw [length_drop]

variable {part : List Char}

theorem Joined.suffix (joined : Joined text) (suffix : part <:+ text) :
    Joined part := List.IsChain.suffix joined suffix

theorem take_length_takeWhile (test : Char → Bool) (rest : List Char) :
    rest.take (rest.takeWhile test).length = rest.takeWhile test := by
  conv_lhs => rw [← takeWhile_append_dropWhile (p := test) (l := rest)]
  rw [take_left' (by rw [takeWhile_append_dropWhile])]

theorem boundary_of_zone {rest : List Char}
    (inside : (rest.takeWhile fun c => c ≠ 'Z' ∧ c ≠ '+' ∧ c ≠ '-').length ≠ rest.length) :
    isCharBoundary rest
      (rest.takeWhile fun c => c ≠ 'Z' ∧ c ≠ '+' ∧ c ≠ '-').length = true := by
  have split := takeWhile_append_dropWhile
    (p := fun c => decide (c ≠ 'Z' ∧ c ≠ '+' ∧ c ≠ '-')) (l := rest)
  cases zone : rest.dropWhile fun c => c ≠ 'Z' ∧ c ≠ '+' ∧ c ≠ '-' with
  | nil =>
    rw [zone, append_nil] at split
    exact absurd (congrArg List.length split) inside
  | cons c later =>
    have stops := head?_dropWhile_not (fun c => decide (c ≠ 'Z' ∧ c ≠ '+' ∧ c ≠ '-')) rest
    rw [zone] at stops
    simp only [head?_cons, decide_eq_false_iff_not] at stops
    have ascii : c.toNat < 128 := by
      by_contra large
      apply stops
      refine ⟨?_, ?_, ?_⟩ <;> intro same <;> rw [same] at large <;> exact large (by decide)
    apply isCharBoundary_self _ ascii
    rw [zone] at split
    generalize rest.takeWhile _ = front at split
    rw [← split]
    simp

theorem fractionNanos_eq_ok {fraction : List Char} (short : fraction.length ≤ 9)
    (filled : fraction ≠ []) (digits : ∀ c ∈ fraction, (toDigit 10 c).isSome = true) :
    fractionNanos fraction =
      .ok (digitsValue 10 fraction * 10 ^ (9 - fraction.length)) ∧
    parseUnsigned (2 ^ 32) fraction = .ok (digitsValue 10 fraction) := by
  have length : 0 < fraction.length := length_pos_iff.mpr filled
  have below := digitsValue_lt fraction
  have fits : digitsValue 10 fraction < 2 ^ 32 := by
    calc digitsValue 10 fraction < 10 ^ fraction.length := below
      _ ≤ 10 ^ 9 := Nat.pow_le_pow_right (by decide) short
      _ < 2 ^ 32 := by decide
  have power : 10 ^ (9 - fraction.length) < 2 ^ 32 := by
    calc 10 ^ (9 - fraction.length) ≤ 10 ^ 9 := Nat.pow_le_pow_right (by decide) (by omega)
      _ < 2 ^ 32 := by decide
  have product : digitsValue 10 fraction * 10 ^ (9 - fraction.length) < 2 ^ 32 := by
    calc digitsValue 10 fraction * 10 ^ (9 - fraction.length)
        ≤ 10 ^ fraction.length * 10 ^ (9 - fraction.length) := Nat.mul_le_mul_right _ below.le
      _ = 10 ^ 9 := by rw [← Nat.pow_add]; congr 1; omega
      _ < 2 ^ 32 := by decide
  have read : parseUnsigned (2 ^ 32) fraction = .ok (digitsValue 10 fraction) :=
    parseUnsigned_eq_ok_iff.mpr ⟨fraction, .inl rfl, filled, digits, rfl, fits⟩
  refine ⟨?_, read⟩
  rw [fractionNanos, if_neg filled]
  simp only [read, Exec.unsigned_eq_ok power]
  exact Exec.unsigned_eq_ok product

/-- The fraction is cut in front of a byte of its own and its nanoseconds fit. -/
theorem reads_parseFraction (tail : List Char) :
    (Checked.parseFraction tail).Reads (Docker.parseFraction tail) := by
  unfold Docker.parseFraction
  split
  case h_2 other =>
    have cut : cutFraction tail = .ok ([], tail) := by
      unfold cutFraction
      split
      · exact absurd rfl (other _)
      · rfl
    have plain : ¬(([] : List Char).length > 9 ∨ (tail.head? = some '.' ∧ ([] : List Char) = []) ∨
        (!([] : List Char).all fun c => (toDigit 10 c).isSome) = true) := by
      cases tail with
      | nil => simp
      | cons c rest =>
        have point : c ≠ '.' := fun same => other rest (by rw [same])
        simp [point]
    unfold Checked.parseFraction
    rw [cut]
    show Exec.Reads (if _ then _ else _) _
    rw [if_neg plain]
    exact .ok _
  case h_1 rest =>
    have taken := take_length_takeWhile (fun c => decide (c ≠ 'Z' ∧ c ≠ '+' ∧ c ≠ '-')) rest
    have boundary := @boundary_of_zone rest
    have cut : cutFraction ('.' :: rest) =
        if (rest.takeWhile fun c => c ≠ 'Z' ∧ c ≠ '+' ∧ c ≠ '-').length = rest.length then
          .fail "missing timezone"
        else do
          let fraction ← Exec.expect (getRange rest 0
            (rest.takeWhile fun c => c ≠ 'Z' ∧ c ≠ '+' ∧ c ≠ '-').length)
          let zone ← Exec.expect (getRange rest
            (rest.takeWhile fun c => c ≠ 'Z' ∧ c ≠ '+' ∧ c ≠ '-').length rest.length)
          return (fraction, zone) := rfl
    have short := (takeWhile_sublist
      (fun c => decide (c ≠ 'Z' ∧ c ≠ '+' ∧ c ≠ '-')) (l := rest)).length_le
    unfold Checked.parseFraction
    generalize rest.takeWhile (fun c => decide (c ≠ 'Z' ∧ c ≠ '+' ∧ c ≠ '-')) = fraction
      at taken boundary cut short ⊢
    dsimp only
    by_cases missing : fraction.length = rest.length
    · have gone : ¬rest.drop fraction.length ≠ [] := by simp [missing]
      rw [cut, if_pos missing, guard, if_neg gone]
      exact .fail _
    · have left : rest.drop fraction.length ≠ [] := by
        rw [ne_eq, drop_eq_nil_iff]
        omega
      rw [if_neg missing, getRange_zero (boundary missing), getRange_length short (boundary missing),
        taken] at cut
      rw [cut]
      refine .pass left ?_
      refine .check ?_ _ ?_
      · simp only [head?_cons, true_and, gt_iff_lt, ← Nat.not_le, Bool.not_eq_true',
          ← Bool.not_eq_true]
        tauto
      · rintro ⟨digits, filled, all⟩
        obtain ⟨nanos, read⟩ := fractionNanos_eq_ok digits filled (all_eq_true.mp all)
        simp only [nanos, read]
        exact .ok _

variable {zone : List Char}

theorem reads_zoneField (order : start ≤ stop) (begins : isCharBoundary zone start = true)
    (ends : isCharBoundary zone stop = true) :
    (zoneField zone start stop).Reads (readSigned (2 ^ 63) (slice zone start stop)) := by
  unfold zoneField
  rw [getRange, if_pos ⟨order, begins, ends⟩]
  simp only [Exec.expect, bind, Except.bind]
  cases readSigned (2 ^ 63) (slice zone start stop) with
  | some value => exact .ok value
  | none => exact .fail _

theorem readSigned_bound {limit length : Nat} {value : Int}
    (read : readSigned limit part = some value) (short : part.length ≤ length) :
    -(10 ^ length : Nat) < value ∧ value < (10 ^ length : Nat) := by
  have ⟨digits, _, _, shape⟩ := parseSigned_eq_ok_iff.mp (readSigned_eq_some_iff.mp read)
  have fewer : digits.length ≤ length := by
    rcases shape with ⟨same | same, _⟩ | ⟨same, _⟩ <;> rw [same] at short
    · exact short
    · exact Nat.le_of_succ_le short
    · exact Nat.le_of_succ_le short
  have below := lt_of_lt_of_le (digitsValue_lt digits)
    (Nat.pow_le_pow_right (by decide : 0 < 10) fewer)
  rcases shape with ⟨_, same, _⟩ | ⟨_, same, _⟩ <;> omega

theorem length_slice_le (start stop : Nat) : (slice text start stop).length ≤ stop - start :=
  length_take_le _ _

/-- The checks of the offset are those of the model without panics. -/
theorem reads_zoneOffset (joined : Joined zone) {first : Char} (starts : zone[0]? = some first)
    (ascii : first.toNat < 128) {sign : Int} (unit : sign = 1 ∨ sign = -1) :
    (Checked.zoneOffset zone sign).Reads (Docker.zoneOffset zone sign) := by
  refine .check (by tauto) _ fun ⟨length, colon⟩ => ?_
  have atOne := isCharBoundary_succ joined starts ascii
  have atThree := isCharBoundary_self colon (by decide)
  have atFour := isCharBoundary_succ joined colon (by decide)
  have atSix : isCharBoundary zone 6 = true := by simp [isCharBoundary, length]
  refine .bind (reads_zoneField (by decide) atOne atThree) fun hours ofHours => ?_
  refine .bind (reads_zoneField (by decide) atFour atSix) fun minutes ofMinutes => ?_
  refine .check (by omega) _ fun _ => ?_
  have hourBound := readSigned_bound ofHours (length_slice_le 1 3)
  have minuteBound := readSigned_bound ofMinutes (length_slice_le 4 6)
  unfold i64
  repeat rw [Exec.signed_bind (by omega)]
  rw [Exec.signed_eq_ok (by rcases unit with one | one <;> rw [one] <;> omega)]
  exact .ok _

/-- The zone is read as in the model without panics. -/
theorem reads_parseZone (joined : Joined zone) :
    (Checked.parseZone zone).Reads (Docker.parseZone zone) := by
  unfold Checked.parseZone Docker.parseZone
  split_ifs with utc
  · exact .ok 0
  · split
    · exact reads_zoneOffset joined rfl (by decide) (.inl rfl)
    · exact reads_zoneOffset joined rfl (by decide) (.inr rfl)
    case h_3 plus minus =>
      have unsigned : zoneSign zone = .fail "invalid timezone" := by
        unfold zoneSign
        split
        case h_1 rest => exact absurd rfl (plus rest)
        case h_2 rest => exact absurd rfl (minus rest)
        case h_3 => rfl
      rw [unsigned]
      exact .fail _

theorem suffix_of_parseFraction {tail : List Char} {nanos : Nat}
    (read : Docker.parseFraction tail = some (nanos, zone)) : zone <:+ tail := by
  unfold Docker.parseFraction at read
  split at read
  · rename_i rest
    simp only [Option.bind_eq_bind, Option.bind_eq_some_iff] at read
    have ⟨_, _, _, _, _, _, same⟩ := read
    rw [← (Prod.mk.inj (Option.some.inj same)).2]
    exact (drop_suffix _ rest).trans (suffix_cons _ _)
  · rw [← (Prod.mk.inj (Option.some.inj read)).2]

variable {offset : Int}

theorem zoneOffset_eq_some_iff {sign : Int} :
    Docker.zoneOffset zone sign = some offset ↔ zone.length = 6 ∧ zone[3]? = some ':' ∧
      ∃ hours minutes, readSigned (2 ^ 63) (slice zone 1 3) = some hours ∧
        readSigned (2 ^ 63) (slice zone 4 6) = some minutes ∧ hours ≤ 24 ∧ minutes ≤ 59 ∧
        offset = sign * (hours * 3600 + minutes * 60) := by
  rw [Docker.zoneOffset, guard_bind_eq_some_iff, and_assoc]
  refine and_congr_right fun _ => and_congr_right fun _ => ?_
  constructor
  · intro read
    have ⟨hours, ofHours, later⟩ := Option.bind_eq_some_iff.mp read
    have ⟨minutes, ofMinutes, last⟩ := Option.bind_eq_some_iff.mp later
    have ⟨⟨fewHours, fewMinutes⟩, same⟩ := guard_bind_eq_some_iff.mp last
    exact ⟨hours, minutes, ofHours, ofMinutes, fewHours, fewMinutes, (Option.some.inj same).symm⟩
  · intro ⟨hours, minutes, ofHours, ofMinutes, fewHours, fewMinutes, same⟩
    rw [ofHours, ofMinutes, same]
    exact guard_bind_eq_some_iff.mpr ⟨⟨fewHours, fewMinutes⟩, rfl⟩

/-- A zone is `Z` or an offset behind its sign. -/
theorem parseZone_eq_some_iff :
    Docker.parseZone zone = some offset ↔ zone = ['Z'] ∧ offset = 0 ∨
      ∃ sign : Int, (zone[0]? = some '+' ∧ sign = 1 ∨ zone[0]? = some '-' ∧ sign = -1) ∧
        Docker.zoneOffset zone sign = some offset := by
  by_cases utc : zone = ['Z']
  · rw [utc]
    simp [Docker.parseZone, eq_comm]
  unfold Docker.parseZone
  rw [if_neg utc]
  simp only [utc, false_and, false_or]
  split
  · simp
  · simp
  case h_3 plus minus =>
    cases zone with
    | nil => simp
    | cons c rest =>
      have unsigned : c ≠ '+' ∧ c ≠ '-' :=
        ⟨fun same => plus rest (by rw [same]), fun same => minus rest (by rw [same])⟩
      simp [unsigned]

theorem parseZone_bound (read : Docker.parseZone zone = some offset) :
    -1000000 < offset ∧ offset < 1000000 := by
  rcases parseZone_eq_some_iff.mp read with ⟨_, zero⟩ | ⟨sign, unit, found⟩
  · omega
  · obtain ⟨_, _, hours, minutes, ofHours, ofMinutes, _, _, same⟩ :=
      zoneOffset_eq_some_iff.mp found
    have hourBound := readSigned_bound ofHours (length_slice_le 1 3)
    have minuteBound := readSigned_bound ofMinutes (length_slice_le 4 6)
    rcases unit with ⟨_, one⟩ | ⟨_, one⟩ <;> rw [one] at same <;> omega

theorem daysInMonth_eq {month : Nat} (range : 1 ≤ month ∧ month ≤ 12) (year : Int) :
    daysInMonth year month = monthLength year month := by
  have ⟨low, high⟩ := range
  interval_cases month <;> simp [daysInMonth, monthLength, IsLeap]

theorem checked_date {year : Int} {month day : Nat} (years : -10000 < year ∧ year < 10000)
    (months : 1 ≤ month ∧ month ≤ 12) (days : day ≠ 0 ∧ day ≤ daysInMonth year month) :
    Checked.daysFromCivil year month day = (.ok (Docker.daysFromCivil year month day) :
      Exec String Int) ∧ -5000000 < Docker.daysFromCivil year month day ∧
        Docker.daysFromCivil year month day < 5000000 := by
  have short := monthLength_le year month
  rw [daysInMonth_eq months] at days
  have bounds : -5000000 < Docker.daysFromCivil year month day ∧
      Docker.daysFromCivil year month day < 5000000 := by
    rw [daysFromCivil_eq months, dayNumber_eq_march months]
    unfold marchYear marchDay
    split <;> split <;> omega
  refine ⟨?_, bounds⟩
  apply (settles_daysFromCivil year (by omega) (by omega)).eq_ok
  exact daysFromCivil_ne_panic months (by omega) (by omega) (by omega)

/-- The checked parser reads what the plain one does. -/
theorem reads_parseRfc3339 (value : String) :
    (Checked.parseRfc3339 value).Reads (Docker.parseRfc3339 value) := by
  have joined := joined_byteChars value
  unfold Checked.parseRfc3339 Docker.parseRfc3339
  generalize byteChars value = text at joined
  refine .check (by omega) _ fun long => ?_
  refine .bind (reads_field (plain_readSigned _) joined (by omega) (by omega) _) ?_
  intro year ofYear
  refine .bind (reads_field (plain_parseUnsigned _) joined (by omega) (by omega) _) ?_
  intro month ofMonth
  refine .bind (reads_field (plain_parseUnsigned _) joined (by omega) (by omega) _) ?_
  intro day ofDay
  refine .bind (reads_field (plain_readSigned _) joined (by omega) (by omega) _) ?_
  intro hour ofHour
  refine .bind (reads_field (plain_readSigned _) joined (by omega) (by omega) _) ?_
  intro minute ofMinute
  refine .bind (reads_field (plain_readSigned _) joined (by omega) (by omega) _) ?_
  intro second ofSecond
  refine .check (by tauto) _ fun separators => ?_
  refine .check (by simp only [gt_iff_lt, ← Nat.not_le]; tauto) _
    fun ⟨months, filled, days, hours, minutes, seconds⟩ => ?_
  have before := getElem?_eq_getElem (show 18 < text.length by omega)
  have ascii := plain_readSigned _ _ _ ofSecond _ (mem_slice before (by decide) (by decide))
  rw [getRange_length (by omega) (isCharBoundary_succ joined before ascii)]
  refine .bind (reads_parseFraction _) fun ⟨nanos, zone⟩ ofFraction => ?_
  have rest : Joined zone :=
    joined.suffix ((suffix_of_parseFraction ofFraction).trans (drop_suffix 19 text))
  refine .bind (reads_parseZone rest) fun offset ofZone => ?_
  have ⟨date, low, high⟩ :=
    checked_date (readSigned_bound ofYear (length_slice_le 0 4)) months ⟨filled, days⟩
  have zoneBound := parseZone_bound ofZone
  rw [date]
  show Exec.Reads (i64 _ >>= _) _
  unfold i64
  repeat rw [Exec.signed_bind (by omega)]
  exact .ok _

end Slices

end Ployz.Docker
