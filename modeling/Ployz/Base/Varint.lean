import Mathlib

/-!
# Variable-length integers and length-delimited fields

A natural is written seven bits a byte, the lowest first, with the top bit set on every byte but
the last. A message on the wire is a sequence of fields, each a key, a length and as many bytes;
messages written one after another are read as the fields of all of them in order.
-/

namespace Ployz.Varint

open List

/-- The bytes of a natural. -/
def encode (value : Nat) : List UInt8 :=
  if value < 128 then [UInt8.ofNat value]
  else UInt8.ofNat (value % 128 + 128) :: encode (value / 128)

/-- A natural of at most `count` bytes off the front of the bytes. -/
def read : Nat → List UInt8 → Option (Nat × List UInt8)
  | 0, _ => none
  | _ + 1, [] => none
  | count + 1, byte :: rest =>
    if byte.toNat < 128 then some (byte.toNat, rest)
    else (read count rest).map fun (value, rest) => (byte.toNat - 128 + 128 * value, rest)

variable {value : Nat}

theorem encode_small (small : value < 128) : encode value = [UInt8.ofNat value] := by
  rw [encode, if_pos small]

theorem encode_large (large : ¬ value < 128) :
    encode value = UInt8.ofNat (value % 128 + 128) :: encode (value / 128) := by
  rw [encode, if_neg large]

theorem encode_ne_nil (value : Nat) : encode value ≠ [] := by
  by_cases small : value < 128
  · rw [encode_small small]
    exact cons_ne_nil _ _
  · rw [encode_large small]
    exact cons_ne_nil _ _

theorem toNat_ofNat_lt (small : value < 256) : (UInt8.ofNat value).toNat = value := by
  rw [UInt8.toNat_ofNat']
  omega

theorem read_encode_small {count : Nat} (small : value < 128) (rest : List UInt8) :
    read (count + 1) (encode value ++ rest) = some (value, rest) := by
  have byte : (UInt8.ofNat value).toNat = value := toNat_ofNat_lt (by omega)
  rw [encode_small small, singleton_append, read, byte, if_pos small]

theorem read_encode {count : Nat} (fits : value < 128 ^ (count + 1)) (rest : List UInt8) :
    read (count + 1) (encode value ++ rest) = some (value, rest) := by
  induction count generalizing value with
  | zero => exact read_encode_small (by omega) rest
  | succ count ih =>
    by_cases small : value < 128
    · exact read_encode_small small rest
    · have byte : (UInt8.ofNat (value % 128 + 128)).toNat = value % 128 + 128 :=
        toNat_ofNat_lt (by omega)
      have shorter : value / 128 < 128 ^ (count + 1) := by
        apply Nat.div_lt_of_lt_mul
        rwa [← Nat.pow_succ']
      rw [encode_large small, cons_append, read, byte, if_neg (by omega), ih shorter]
      have value_eq : value % 128 + 128 - 128 + 128 * (value / 128) = value := by omega
      simp only [Option.map_some, value_eq]

section Fields

/-- A length-delimited field. -/
def field (key : Nat) (content : List UInt8) : List UInt8 :=
  encode key ++ encode content.length ++ content

/-- A key or a length on the wire: a 64-bit number of at most ten bytes. -/
def read64 (bytes : List UInt8) : Option (Nat × List UInt8) :=
  match read 10 bytes with
  | some (value, rest) => if value < 2 ^ 64 then some (value, rest) else none
  | none => none

theorem read64_encode (fits : value < 2 ^ 64) (rest : List UInt8) :
    read64 (encode value ++ rest) = some (value, rest) := by
  have short : value < 128 ^ (9 + 1) := Nat.lt_trans fits (by decide)
  rw [read64, read_encode short]
  exact if_pos fits

/-- A length-delimited field off the front of the bytes: its key and its content. -/
def readField (bytes : List UInt8) : Option ((Nat × List UInt8) × List UInt8) := do
  let (key, rest) ← read64 bytes
  let (length, rest) ← read64 rest
  -- wire type 2
  if key % 8 = 2 ∧ length ≤ rest.length then
    some ((key, rest.take length), rest.drop length)
  else none

/-- The fields of a message, at most `fuel` of them. -/
def readFieldsFrom : Nat → List UInt8 → Option (List (Nat × List UInt8))
  | _, [] => some []
  | 0, _ :: _ => none
  | fuel + 1, byte :: bytes => do
    let (entry, rest) ← readField (byte :: bytes)
    let entries ← readFieldsFrom fuel rest
    some (entry :: entries)

/-- The fields of a message all of whose fields are length-delimited. Every field has a byte, so
there are no more fields than bytes. -/
def readFields (bytes : List UInt8) : Option (List (Nat × List UInt8)) :=
  readFieldsFrom bytes.length bytes

variable {key : Nat} (keyed : key < 2 ^ 64) (delimited : key % 8 = 2)
include keyed delimited

theorem readField_field {content : List UInt8} (fits : content.length < 2 ^ 64)
    (rest : List UInt8) :
    readField (field key content ++ rest) = some ((key, content), rest) := by
  have room : content.length ≤ (content ++ rest).length := by
    rw [length_append]
    omega
  simp only [readField, field, append_assoc, read64_encode keyed, read64_encode fits, bind,
    Option.bind, delimited, true_and, if_pos room]
  rw [take_left, drop_left]

variable {contents : List (List UInt8)}

theorem readFieldsFrom_flatMap (fits : ∀ content ∈ contents, content.length < 2 ^ 64) {fuel : Nat}
    (enough : contents.length ≤ fuel) :
    readFieldsFrom fuel (contents.flatMap (field key)) = some (contents.map (key, ·)) := by
  induction contents generalizing fuel with
  | nil => cases fuel <;> rfl
  | cons content contents ih =>
    cases fuel with
    | zero => exact absurd enough (Nat.not_succ_le_zero _)
    | succ fuel =>
      have later := ih (fun other member => fits other (mem_cons_of_mem _ member))
        (Nat.le_of_succ_le_succ enough)
      have first := readField_field keyed delimited (fits content mem_cons_self)
        (contents.flatMap (field key))
      have ⟨byte, bytes, start⟩ := exists_cons_of_ne_nil (encode_ne_nil key)
      rw [flatMap_cons]
      simp only [field, start, cons_append] at first ⊢
      simp only [readFieldsFrom, first, bind, Option.bind, later, map_cons]

theorem readFields_flatMap (fits : ∀ content ∈ contents, content.length < 2 ^ 64) :
    readFields (contents.flatMap (field key)) = some (contents.map (key, ·)) := by
  apply readFieldsFrom_flatMap keyed delimited fits
  clear fits
  induction contents with
  | nil => exact Nat.zero_le _
  | cons content contents ih =>
    have some := length_pos_iff.mpr (encode_ne_nil key)
    simp only [flatMap_cons, field, length_cons, length_append] at ih ⊢
    omega

end Fields

end Ployz.Varint
