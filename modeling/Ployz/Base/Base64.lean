import Mathlib.Data.List.DropRight
import Mathlib.Tactic.IntervalCases

/-!
# Base64

Bytes are written as digits of six bits, four for every three bytes, and a shorter group at the
end is padded. The decoder takes padded and unpadded texts and ignores bits that are left over.
-/

namespace Ployz.Base64

open List

/-- The digits of bytes. -/
def toDigits : List UInt8 → List Nat
  | [] => []
  | [a] => [a.toNat / 4, a.toNat % 4 * 16]
  | [a, b] => [a.toNat / 4, a.toNat % 4 * 16 + b.toNat / 16, b.toNat % 16 * 4]
  | a :: b :: c :: bytes =>
    [a.toNat / 4, a.toNat % 4 * 16 + b.toNat / 16, b.toNat % 16 * 4 + c.toNat / 64,
      c.toNat % 64] ++ toDigits bytes

/-- The bytes of digits; a single digit is too short for a byte. -/
def ofDigits : List Nat → Option (List UInt8)
  | [] => some []
  | [_] => none
  | [p, q] => some [UInt8.ofNat (p * 4 + q / 16)]
  | [p, q, r] => some [UInt8.ofNat (p * 4 + q / 16), UInt8.ofNat (q % 16 * 16 + r / 4)]
  | p :: q :: r :: s :: digits =>
    (ofDigits digits).map
      ([UInt8.ofNat (p * 4 + q / 16), UInt8.ofNat (q % 16 * 16 + r / 4),
        UInt8.ofNat (r % 4 * 64 + s)] ++ ·)

theorem ofDigits_toDigits (bytes : List UInt8) : ofDigits (toDigits bytes) = some bytes := by
  have byte (n : Nat) (a : UInt8) (same : n = a.toNat) : UInt8.ofNat n = a := by
    rw [same, UInt8.ofNat_toNat]
  induction bytes using toDigits.induct with
  | case1 => rfl
  | case2 a =>
    have first : a.toNat / 4 * 4 + a.toNat % 4 * 16 / 16 = a.toNat := by omega
    simp only [toDigits, ofDigits, byte _ a first]
  | case3 a b =>
    have below : b.toNat < 256 := b.toNat_lt
    have first : a.toNat / 4 * 4 + (a.toNat % 4 * 16 + b.toNat / 16) / 16 = a.toNat := by omega
    have second : (a.toNat % 4 * 16 + b.toNat / 16) % 16 * 16 + b.toNat % 16 * 4 / 4 =
        b.toNat := by omega
    simp only [toDigits, ofDigits, byte _ a first, byte _ b second]
  | case4 a b c bytes ih =>
    have below : b.toNat < 256 := b.toNat_lt
    have below' : c.toNat < 256 := c.toNat_lt
    have first : a.toNat / 4 * 4 + (a.toNat % 4 * 16 + b.toNat / 16) / 16 = a.toNat := by omega
    have second : (a.toNat % 4 * 16 + b.toNat / 16) % 16 * 16 +
        (b.toNat % 16 * 4 + c.toNat / 64) / 4 = b.toNat := by omega
    have third : (b.toNat % 16 * 4 + c.toNat / 64) % 4 * 64 + c.toNat % 64 = c.toNat := by omega
    simp only [toDigits, cons_append, nil_append, ofDigits, ih, Option.map_some,
      byte _ a first, byte _ b second, byte _ c third]

theorem toDigits_lt (bytes : List UInt8) : ∀ digit ∈ toDigits bytes, digit < 64 := by
  induction bytes using toDigits.induct with
  | case1 => simp [toDigits]
  | case2 a =>
    have below : a.toNat < 256 := a.toNat_lt
    simp only [toDigits, forall_mem_cons]
    exact ⟨by omega, by omega, by simp⟩
  | case3 a b =>
    have below : a.toNat < 256 := a.toNat_lt
    have below' : b.toNat < 256 := b.toNat_lt
    simp only [toDigits, forall_mem_cons]
    exact ⟨by omega, by omega, by omega, by simp⟩
  | case4 a b c bytes ih =>
    have below : a.toNat < 256 := a.toNat_lt
    have below' : b.toNat < 256 := b.toNat_lt
    have below'' : c.toNat < 256 := c.toNat_lt
    simp only [toDigits, cons_append, nil_append, forall_mem_cons]
    exact ⟨by omega, by omega, by omega, by omega, ih⟩

/-- The letters and digits that the alphabets begin with. -/
def alphanumeric : List Char :=
  "ABCDEFGHIJKLMNOPQRSTUVWXYZabcdefghijklmnopqrstuvwxyz0123456789".toList

def standard : List Char := alphanumeric ++ ['+', '/']

def urlSafe : List Char := alphanumeric ++ ['-', '_']

/-- The text of bytes. -/
def encode (alphabet : List Char) (bytes : List UInt8) : List Char :=
  (toDigits bytes).map (alphabet.getD · '=') ++ List.replicate ((3 - bytes.length % 3) % 3) '='

/-- The bytes of a text. -/
def decode (alphabet : List Char) (text : List Char) : Option (List UInt8) :=
  ((text.rdropWhile (· == '=')).mapM fun c => alphabet.idxOf? c).bind ofDigits

theorem standard_digit : ∀ digit < 64, standard.idxOf? (standard.getD digit '=') = some digit := by
  decide +kernel

theorem standard_plain : ∀ digit < 64, standard.getD digit '=' ∉ ['=', '\r', '\n'] := by
  decide +kernel

theorem encode_plain {bytes : List UInt8} {c : Char} (member : c ∈ encode standard bytes) :
    c ≠ '\r' ∧ c ≠ '\n' := by
  rcases mem_append.mp member with digit | padding
  · obtain ⟨value, inside, rfl⟩ := mem_map.mp digit
    have plain := standard_plain value (toDigits_lt bytes value inside)
    simp only [mem_cons, not_mem_nil, or_false, not_or] at plain
    exact plain.2
  · rw [(mem_replicate.mp padding).2]
    decide

theorem rdropWhile_padding {text : List Char} (plain : ∀ c ∈ text, c ≠ '=') (count : Nat) :
    (text ++ List.replicate count '=').rdropWhile (· == '=') = text := by
  induction count with
  | zero =>
    rw [replicate_zero, append_nil, rdropWhile_eq_self_iff]
    intro nonempty
    simpa using plain _ (getLast_mem nonempty)
  | succ count ih =>
    rw [replicate_succ', ← append_assoc, rdropWhile_concat_pos _ _ _ (by rfl)]
    exact ih

theorem mapM_digits {digits : List Nat} (small : ∀ digit ∈ digits, digit < 64) :
    (digits.map (standard.getD · '=')).mapM (fun c => standard.idxOf? c) = some digits := by
  induction digits with
  | nil => rfl
  | cons digit digits ih =>
    have first := standard_digit digit (small digit mem_cons_self)
    have rest := ih fun other member => small other (mem_cons_of_mem _ member)
    rw [map_cons, mapM_cons, first, rest]
    rfl

theorem decode_encode (bytes : List UInt8) :
    decode standard (encode standard bytes) = some bytes := by
  have plain : ∀ c ∈ (toDigits bytes).map (standard.getD · '='), c ≠ '=' := by
    intro c member
    obtain ⟨digit, inside, rfl⟩ := mem_map.mp member
    have other := standard_plain digit (toDigits_lt bytes digit inside)
    exact fun same => other (mem_cons.mpr (.inl same))
  rw [decode, encode, rdropWhile_padding plain, mapM_digits (toDigits_lt bytes)]
  exact ofDigits_toDigits bytes

end Ployz.Base64
