import Mathlib

/-!
# Big-endian bytes

A natural below `256 ^ count` and its `count` bytes, most significant first, determine each
other.
-/

namespace Ployz

/-- The `count` low bytes of a natural, most significant first. -/
def toBytes : Nat → Nat → List UInt8
  | 0, _ => []
  | count + 1, value => UInt8.ofNat (value / 256 ^ count) :: toBytes count (value % 256 ^ count)

/-- The natural with the given bytes, most significant first. -/
def ofBytes (bytes : List UInt8) : Nat := bytes.foldl (fun total byte => total * 256 + byte.toNat) 0

@[simp] theorem length_toBytes (count value : Nat) : (toBytes count value).length = count := by
  induction count generalizing value with
  | zero => rfl
  | succ count ih => simp [toBytes, ih]

/-- Reading bytes after an accumulator shifts the accumulator past them. -/
theorem foldl_bytes (bytes : List UInt8) (total : Nat) :
    bytes.foldl (fun total byte => total * 256 + byte.toNat) total =
      total * 256 ^ bytes.length + ofBytes bytes := by
  induction bytes generalizing total with
  | nil => simp [ofBytes]
  | cons byte bytes ih =>
    have tail := ih (0 * 256 + byte.toNat)
    simp only [ofBytes, List.foldl_cons, List.length_cons, Nat.zero_mul, Nat.zero_add] at tail ⊢
    rw [ih (total * 256 + byte.toNat), tail]
    simp only [ofBytes]
    ring

theorem ofBytes_cons (byte : UInt8) (bytes : List UInt8) :
    ofBytes (byte :: bytes) = byte.toNat * 256 ^ bytes.length + ofBytes bytes := by
  conv_lhs => rw [ofBytes, List.foldl_cons, Nat.zero_mul, Nat.zero_add, foldl_bytes]

theorem ofBytes_toBytes (count value : Nat) (fits : value < 256 ^ count) :
    ofBytes (toBytes count value) = value := by
  induction count generalizing value with
  | zero =>
    have zero : value = 0 := by simpa using fits
    rw [zero]
    rfl
  | succ count ih =>
    have positive : 0 < 256 ^ count := Nat.pow_pos (by decide)
    have high : value / 256 ^ count < 256 := by
      rw [Nat.div_lt_iff_lt_mul positive, Nat.mul_comm, ← Nat.pow_succ]
      exact fits
    have byte : (UInt8.ofNat (value / 256 ^ count)).toNat = value / 256 ^ count := by
      simp only [UInt8.toNat_ofNat']
      exact Nat.mod_eq_of_lt high
    rw [toBytes, ofBytes_cons, byte, length_toBytes, ih _ (Nat.mod_lt _ positive)]
    exact Nat.div_add_mod' value (256 ^ count)

end Ployz
