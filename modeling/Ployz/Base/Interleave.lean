import Mathlib.Data.List.Basic
import Mathlib.Data.List.OfFn

/-!
# Interleavings of several sequences

A sequence is an interleaving of given ones when every item of it can be attributed to one of
them such that the items attributed to each are that one, in its order. Producers that append
to one queue build up such an attribution one item at a time.
-/

namespace Ployz

variable {α β : Type}

/-- The items attributed to one producer, in order. -/
def partOf (index : Nat) (items : List (Nat × α)) : List α :=
  (items.filter fun item => item.1 = index).map Prod.snd

/-- `whole` is an interleaving of `parts`. -/
def Interleaves (parts : List (List α)) (whole : List α) : Prop :=
  ∃ items : List (Nat × α), items.map Prod.snd = whole ∧
    (∀ item ∈ items, item.1 < parts.length) ∧
    ∀ index part, parts[index]? = some part → partOf index items = part

@[simp] theorem partOf_append (index : Nat) (items more : List (Nat × α)) :
    partOf index (items ++ more) = partOf index items ++ partOf index more := by
  simp [partOf]

theorem partOf_singleton_self (index : Nat) (item : α) : partOf index [(index, item)] = [item] := by
  simp [partOf]

theorem partOf_singleton_of_ne {index other : Nat} (different : index ≠ other) (item : α) :
    partOf other [(index, item)] = [] := by
  simp [partOf, different]

theorem partOf_filterMap (index : Nat) (items : List (Nat × α)) (read : α → Option β) :
    partOf index (items.filterMap fun item => (read item.2).map fun value => (item.1, value)) =
      (partOf index items).filterMap read := by
  induction items with
  | nil => rfl
  | cons item items ih =>
    by_cases mine : item.1 = index
    · cases found : read item.2 <;> simp_all [partOf]
    · cases found : read item.2 <;> simp_all [partOf]

end Ployz
