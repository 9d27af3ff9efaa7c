import Ployz.Proxy.Payload

/-!
# Responses with machine information

Rewriting the length of the one field of a unary response leaves a message that is read as the
old content followed by the machine's information, at every width of the length. Responses of
several machines are merged by writing them one after another, which is read as all of their
messages in order.
-/

namespace Ployz.Proxy

open List

section Varint

theorem toNat_or_top (byte : UInt8) : (byte ||| 0x80).toNat = byte.toNat % 128 + 128 := by
  have all : ∀ value : Fin 256, value.val ||| 128 = value.val % 128 + 128 := by decide +kernel
  rw [UInt8.toNat_or]
  exact all ⟨byte.toNat, byte.toNat_lt⟩

theorem toNat_and_low (byte : UInt8) : (byte &&& 0x7f).toUInt64.toNat = byte.toNat % 128 := by
  rw [UInt8.toNat_toUInt64, UInt8.toNat_and]
  exact Nat.and_two_pow_sub_one_eq_mod _ 7

theorem encodeVarint_eq (value : UInt64) : encodeVarint value = Varint.encode value.toNat := by
  induction value using encodeVarint.induct with
  | case1 value large _ ih =>
    have bound : 128 ≤ value.toNat := large
    have byte : value.toUInt8 ||| 0x80 = UInt8.ofNat (value.toNat % 128 + 128) := by
      apply UInt8.toNat_inj.mp
      rw [toNat_or_top, UInt64.toNat_toUInt8, Varint.toNat_ofNat_lt (by omega)]
      omega
    have rest : encodeVarint (value >>> 7) = Varint.encode (value.toNat / 128) := by
      rw [ih, toNat_shiftRight_seven]
    rw [encodeVarint, dif_pos large, Varint.encode_large (by omega)]
    show (value.toUInt8 ||| 0x80) :: encodeVarint (value >>> 7) = _
    rw [byte, rest]
  | case2 value small =>
    have bound : value.toNat < 128 := by
      have below : ¬ 128 ≤ value.toNat := small
      omega
    rw [encodeVarint, dif_neg small, Varint.encode_small bound]
    rfl

variable {index : Nat}

theorem toNat_or_shiftLeft {low digit : UInt64} (below : low.toNat < 2 ^ (index * 7))
    (last : index ≤ 9) (fits : digit.toNat * 2 ^ (index * 7) < 2 ^ 64) :
    (low ||| digit <<< UInt64.ofNat (index * 7)).toNat =
      low.toNat + digit.toNat * 2 ^ (index * 7) := by
  have shift : (UInt64.ofNat (index * 7)).toNat = index * 7 := by
    rw [UInt64.toNat_ofNat']
    omega
  have moved : (digit <<< UInt64.ofNat (index * 7)).toNat = 2 ^ (index * 7) * digit.toNat := by
    rw [UInt64.toNat_shiftLeft, shift, Nat.mod_eq_of_lt (by omega : index * 7 < 64),
      Nat.shiftLeft_eq, Nat.mod_eq_of_lt fits, Nat.mul_comm]
  rw [UInt64.toNat_or, moved, Nat.or_comm, ← Nat.two_pow_add_eq_or_of_lt below, Nat.add_comm,
    Nat.mul_comm]

variable {value : Nat}

theorem index_le {bound : Nat} (positive : 0 < value)
    (fits : value * 2 ^ (index * 7) < 2 ^ (bound * 7 + 1)) : index ≤ bound := by
  by_contra beyond
  have longer : 2 ^ (bound * 7 + 1) ≤ 2 ^ (index * 7) :=
    Nat.pow_le_pow_right (by decide) (by omega)
  have larger : 2 ^ (index * 7) ≤ value * 2 ^ (index * 7) := Nat.le_mul_of_pos_left _ positive
  omega

theorem digit_split (index value : Nat) :
    value % 128 * 2 ^ (index * 7) + value / 128 * 2 ^ ((index + 1) * 7) =
      value * 2 ^ (index * 7) := by
  have next : 2 ^ ((index + 1) * 7) = 128 * 2 ^ (index * 7) := by
    rw [Nat.add_mul, Nat.pow_add, Nat.mul_comm]
  calc value % 128 * 2 ^ (index * 7) + value / 128 * 2 ^ ((index + 1) * 7)
      = (128 * (value / 128) + value % 128) * 2 ^ (index * 7) := by rw [next]; ring
    _ = value * 2 ^ (index * 7) := by rw [Nat.div_add_mod]

/-- `consume_varint` reads a value back, from any byte of it on: the digits before this byte are
in `low`. A value that has a further byte is not zero, so there is no eleventh. -/
theorem consumeVarintFrom_encode {low : UInt64} (rest : List UInt8)
    (below : low.toNat < 2 ^ (index * 7)) (started : index = 0 ∨ 0 < value)
    (fits : low.toNat + value * 2 ^ (index * 7) < 2 ^ 64) :
    consumeVarintFrom index low (Varint.encode value ++ rest) =
      .ok (UInt64.ofNat (low.toNat + value * 2 ^ (index * 7)),
        index + (Varint.encode value).length) := by
  have last : index ≤ 9 := by
    rcases started with first | positive
    · omega
    · exact index_le positive (by omega)
  induction value using Varint.encode.induct generalizing index low with
  | case1 value small =>
    have byte : (UInt8.ofNat value).toNat = value := Varint.toNat_ofNat_lt (by omega)
    have digit : (UInt8.ofNat value &&& 0x7f).toUInt64.toNat = value := by
      rw [toNat_and_low, byte]
      omega
    -- the tenth byte has one bit left
    have tenth : ¬ (index = 9 ∧ UInt8.ofNat value > 1) := by
      rintro ⟨rfl, above⟩
      have large : 1 < (UInt8.ofNat value).toNat := above
      omega
    have final : UInt8.ofNat value < 0x80 := by
      show (UInt8.ofNat value).toNat < 128
      omega
    have whole : low ||| (UInt8.ofNat value &&& 0x7f).toUInt64 <<< UInt64.ofNat (index * 7) =
        UInt64.ofNat (low.toNat + value * 2 ^ (index * 7)) := by
      apply UInt64.toNat_inj.mp
      rw [toNat_or_shiftLeft below last (by rw [digit]; omega), digit, UInt64.toNat_ofNat',
        Nat.mod_eq_of_lt fits]
    rw [Varint.encode_small small, singleton_append, consumeVarintFrom,
      if_neg (by omega), if_neg tenth]
    simp only [if_pos final, whole, length_singleton]
  | case2 value large ih =>
    have byte : (UInt8.ofNat (value % 128 + 128)).toNat = value % 128 + 128 :=
      Varint.toNat_ofNat_lt (by omega)
    have digit : (UInt8.ofNat (value % 128 + 128) &&& 0x7f).toUInt64.toNat = value % 128 := by
      rw [toNat_and_low, byte]
      omega
    have split := digit_split index value
    have positive : 0 < value / 128 := by omega
    have next : index + 1 ≤ 9 := index_le positive (by omega)
    have further : ¬ UInt8.ofNat (value % 128 + 128) < 0x80 := by
      intro final
      have small : (UInt8.ofNat (value % 128 + 128)).toNat < 128 := final
      omega
    have raised : (low ||| (UInt8.ofNat (value % 128 + 128) &&& 0x7f).toUInt64 <<<
        UInt64.ofNat (index * 7)).toNat = low.toNat + value % 128 * 2 ^ (index * 7) := by
      rw [toNat_or_shiftLeft below last (by rw [digit]; omega), digit]
    have below' : low.toNat + value % 128 * 2 ^ (index * 7) < 2 ^ ((index + 1) * 7) := by
      have power : 2 ^ ((index + 1) * 7) = 128 * 2 ^ (index * 7) := by
        rw [Nat.add_mul, Nat.pow_add, Nat.mul_comm]
      have digit_le : value % 128 * 2 ^ (index * 7) ≤ 127 * 2 ^ (index * 7) :=
        Nat.mul_le_mul_right _ (by omega)
      omega
    rw [Varint.encode_large large, cons_append, consumeVarintFrom, if_neg (by omega),
      if_neg (by omega)]
    simp only [if_neg further]
    rw [ih (by rw [raised]; exact below') (.inr positive) (by rw [raised]; omega) next, raised,
      Nat.add_assoc, split, length_cons]
    congr 2
    omega

theorem consumeVarint_encode (fits : value < 2 ^ 64) (rest : List UInt8) :
    consumeVarint (Varint.encode value ++ rest) =
      .ok (UInt64.ofNat value, (Varint.encode value).length) := by
  have read := consumeVarintFrom_encode rest (show (0 : UInt64).toNat < 2 ^ (0 * 7) by decide)
    (.inl rfl) (show (0 : UInt64).toNat + value * 2 ^ (0 * 7) < 2 ^ 64 by simpa using fits)
  simpa [consumeVarint] using read

end Varint

/-- What is appended to the responses of a machine. -/
def machineInfo (machine : MachineTarget) : List UInt8 :=
  encodeEmpty ⟨machine.id, machine.name, machine.address, "", none⟩

/-- A unary response of one field is rewritten to the field with the information in it. -/
theorem appendMachineInfo_field {machine : MachineTarget} (utf8 : machine.addressIsUtf8 = true)
    {content : List UInt8} (fits : content.length + (machineInfo machine).length < 2 ^ 64) :
    appendMachineInfo machine false (Varint.field 10 content) =
      .ok (Varint.field 10 (content ++ machineInfo machine)) := by
  have tag : Varint.encode 10 = [10] := Varint.encode_small (by decide)
  have readTag : consumeVarint (Varint.field 10 content) = .ok (10, 1) := by
    rw [Varint.field, append_assoc, consumeVarint_encode (by decide), tag]
    rfl
  have rest : (Varint.field 10 content).drop 1 = Varint.encode content.length ++ content := by
    rw [Varint.field, tag]
    rfl
  have readLength : consumeVarint (Varint.encode content.length ++ content) =
      .ok (UInt64.ofNat content.length, (Varint.encode content.length).length) :=
    consumeVarint_encode (by omega) content
  have size : ¬ 1 + (Varint.encode content.length).length > (Varint.field 10 content).length := by
    rw [Varint.field, tag]
    simp only [length_append, length_singleton]
    omega
  have embedded : (Varint.field 10 content).drop (1 + (Varint.encode content.length).length) =
      content := by
    rw [← drop_drop, rest, drop_left]
  have total : (UInt64.ofNat (content.length + (machineInfo machine).length)).toNat =
      (content ++ machineInfo machine).length := by
    rw [UInt64.toNat_ofNat', Nat.mod_eq_of_lt fits, length_append]
  have payload : encodeEmpty ⟨machine.id, machine.name, machine.address, "", none⟩ =
      machineInfo machine := rfl
  simp only [appendMachineInfo, machineMetadata, utf8, ↓reduceIte, bind, Except.bind, readTag,
    rest, readLength, ne_eq, not_true_eq_false, if_neg size, embedded, payload, encodeVarint_eq,
    total]
  simp [Varint.field, pure, Except.pure]

namespace Sample

def target : MachineTarget := .new "id-2" "machine-b" "fd00::2"

end Sample

open Sample

end Ployz.Proxy
