import Mathlib

/-!
# The bytes of a text

A character below 128 is one byte, any other one is a first byte from 192 on and further bytes
that are all from 128 on. So a byte below 128 is a character of its own, and the byte that follows
it starts a character.
-/

namespace Ployz.Utf8

open List

/-- The bytes of a text. -/
def bytes (value : String) : List UInt8 := value.toUTF8.data.toList

theorem bytes_eq (value : String) : bytes value = value.toList.flatMap String.utf8EncodeChar := by
  have encoded : (String.ofList value.toList).toUTF8 = value.toList.utf8Encode :=
    String.toByteArray_ofList
  rw [String.ofList_toList] at encoded
  rw [bytes, encoded, List.utf8Encode]
  simp

/-- A byte that starts a character. -/
def Starts (byte : UInt8) : Prop := byte.toNat < 128 ∨ 192 ≤ byte.toNat

variable {c : Char}

theorem utf8EncodeChar_of_lt (ascii : c.toNat < 128) :
    String.utf8EncodeChar c = [UInt8.ofNat c.toNat] := by
  unfold String.utf8EncodeChar
  exact if_pos (Nat.le_of_lt_succ ascii)

theorem utf8EncodeChar_of_le (large : 128 ≤ c.toNat) :
    ∃ first rest, String.utf8EncodeChar c = first :: rest ∧ 192 ≤ first.toNat ∧
      ∀ byte ∈ first :: rest, 128 ≤ byte.toNat := by
  have small : ¬c.val.toNat ≤ 127 := Nat.not_le_of_lt large
  unfold String.utf8EncodeChar
  simp only [if_neg small]
  split
  · refine ⟨_, _, rfl, ?_, ?_⟩ <;> simp <;> omega
  · split
    · refine ⟨_, _, rfl, ?_, ?_⟩ <;> simp <;> omega
    · refine ⟨_, _, rfl, ?_, ?_⟩ <;> simp <;> omega

theorem utf8EncodeChar_head : ∀ byte ∈ (String.utf8EncodeChar c).head?, Starts byte := by
  intro byte first
  by_cases ascii : c.toNat < 128
  · rw [utf8EncodeChar_of_lt ascii] at first
    have small : (UInt8.ofNat c.toNat).toNat < 128 := by simp; omega
    exact .inl (Option.some.inj first ▸ small)
  · have ⟨head, rest, shape, large, _⟩ := utf8EncodeChar_of_le (Nat.le_of_not_lt ascii)
    rw [shape] at first
    exact .inr (Option.some.inj first ▸ large)

theorem utf8EncodeChar_ne_nil (c : Char) : String.utf8EncodeChar c ≠ [] := by
  by_cases ascii : c.toNat < 128
  · rw [utf8EncodeChar_of_lt ascii]
    exact cons_ne_nil _ _
  · have ⟨head, rest, shape, _, _⟩ := utf8EncodeChar_of_le (Nat.le_of_not_lt ascii)
    rw [shape]
    exact cons_ne_nil _ _

variable {text : List Char}

theorem starts_of_head : ∀ byte ∈ (text.flatMap String.utf8EncodeChar).head?, Starts byte := by
  cases text with
  | nil => exact nofun
  | cons c text =>
    rw [flatMap_cons, head?_append_of_ne_nil _ (utf8EncodeChar_ne_nil c)]
    exact utf8EncodeChar_head

theorem isChain_bytes (value : String) :
    (bytes value).IsChain fun byte next => byte.toNat < 128 → Starts next := by
  rw [bytes_eq]
  induction value.toList with
  | nil => exact .nil
  | cons c text ih =>
    rw [flatMap_cons, isChain_append]
    refine ⟨?_, ih, fun _ _ next first _ => starts_of_head next first⟩
    by_cases ascii : c.toNat < 128
    · rw [utf8EncodeChar_of_lt ascii]
      exact .singleton _
    · have ⟨head, rest, shape, _, large⟩ := utf8EncodeChar_of_le (Nat.le_of_not_lt ascii)
      rw [shape]
      apply List.Pairwise.isChain
      apply pairwise_of_forall_mem_list
      intro byte member _ _ small
      exact absurd (large byte member) (Nat.not_le_of_lt small)

theorem bytes_ofList (ascii : ∀ c ∈ text, c.toNat < 128) :
    bytes (String.ofList text) = text.map fun c => UInt8.ofNat c.toNat := by
  rw [bytes_eq, String.toList_ofList]
  induction text with
  | nil => rfl
  | cons c text ih =>
    have ⟨first, later⟩ := forall_mem_cons.mp ascii
    rw [flatMap_cons, map_cons, utf8EncodeChar_of_lt first, ih later]
    rfl

theorem toList_of_bytes {value : String} (ascii : ∀ byte ∈ bytes value, byte.toNat < 128) :
    ∀ c ∈ value.toList, c.toNat < 128 := by
  intro c member
  by_contra large
  have ⟨head, rest, shape, _, every⟩ := utf8EncodeChar_of_le (Nat.le_of_not_lt large)
  have inside : head ∈ bytes value := by
    rw [bytes_eq]
    apply mem_flatMap_of_mem member
    rw [shape]
    exact mem_cons_self
  have small := ascii head inside
  have big := every head mem_cons_self
  omega

end Ployz.Utf8
