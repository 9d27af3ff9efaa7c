import Mathlib.Order.Interval.Finset.Nat

/-!
# The first free item of a sequence

A sequence without repetitions is searched for an item that is not in use. The search ends
because every item it passes is one of the finitely many in use, and passes each of them once.
-/

namespace Ployz

variable {α : Type} [DecidableEq α] (used : List α) {item : Nat → α}

/-- The items in use that a search has not passed before an index. -/
def unpassed (item : Nat → α) (index : Nat) : List α :=
  used.filter fun other => ∀ earlier < index, item earlier ≠ other

variable {used}

theorem length_unpassed_succ_lt (injective : Function.Injective item) {index : Nat}
    (taken : item index ∈ used) :
    (unpassed used item (index + 1)).length < (unpassed used item index).length := by
  have ahead : item index ∈ unpassed used item index := by
    simp only [unpassed, List.mem_filter, taken, true_and, decide_eq_true_eq]
    intro earlier before same
    have equal : earlier = index := injective same
    omega
  have fewer : unpassed used item (index + 1) =
      (unpassed used item index).filter fun other => item index ≠ other := by
    rw [unpassed, unpassed, List.filter_filter]
    apply List.filter_congr
    intro other _
    rw [← Bool.decide_and, decide_eq_decide]
    constructor
    · intro passed
      exact ⟨passed index (by omega), fun earlier before => passed earlier (by omega)⟩
    · intro parts earlier before
      by_cases last : earlier = index
      · rw [last]
        exact parts.1
      · exact parts.2 earlier (by omega)
  rw [fewer]
  apply List.length_filter_lt_length_iff_exists.mpr
  exact ⟨item index, ahead, by simp⟩

variable (used)

/-- The first index from the given one on whose item is free. -/
def firstFree (injective : Function.Injective item) (index : Nat) : Nat :=
  if taken : item index ∈ used then
    have _ := length_unpassed_succ_lt injective taken
    firstFree injective (index + 1)
  else index
termination_by (unpassed used item index).length

variable (injective : Function.Injective item)

/-- The first item from an index on that is not in use. -/
theorem firstFree_spec (index : Nat) :
    item (firstFree used injective index) ∉ used ∧ index ≤ firstFree used injective index ∧
      ∀ passed, index ≤ passed → passed < firstFree used injective index → item passed ∈ used := by
  induction index using firstFree.induct used injective with
  | case1 index taken _ ih =>
    have step : firstFree used injective index = firstFree used injective (index + 1) := by
      rw [firstFree, dif_pos taken]
    rw [step]
    have ⟨free, later, before⟩ := ih
    refine ⟨free, by omega, ?_⟩
    intro passed start below
    by_cases first : passed = index
    · rw [first]
      exact taken
    · exact before passed (by omega) below
  | case2 index free =>
    rw [firstFree, dif_neg free]
    exact ⟨free, Nat.le_refl index, fun passed start below => by omega⟩

theorem firstFree_le (index : Nat) : firstFree used injective index ≤ index + used.length := by
  have ⟨_, later, before⟩ := firstFree_spec used injective index
  have passed : (Finset.Ico index (firstFree used injective index)).image item ⊆
      used.toFinset := by
    intro other member
    have ⟨place, between, same⟩ := Finset.mem_image.mp member
    have ⟨low, high⟩ := Finset.mem_Ico.mp between
    rw [List.mem_toFinset, ← same]
    exact before place low high
  have count := Finset.card_le_card passed
  rw [Finset.card_image_of_injective _ injective, Nat.card_Ico] at count
  have bound : used.toFinset.card ≤ used.length := List.toFinset_card_le used
  omega

end Ployz
