import Mathlib

/-!
# Laminar systems of blocks

Blocks stand for sets of points of which any two are nested or disjoint, and every block is a single
point or the union of two siblings. A list of blocks is compact if they are disjoint and no two of
them are siblings. A block inside a compact list then lies in one of its blocks: its halves do, by
induction, and if in two, these are the halves themselves. So a compact list is the smallest list of
blocks with its points, and the only one of its length.
-/

namespace Ployz

variable {ν α : Type}

/-- The points of a list of blocks. -/
def covered (cover : ν → Set α) (blocks : List ν) : Set α := {point | ∃ a ∈ blocks, point ∈ cover a}

/-- The laws of a laminar system. Only valid blocks are determined by their points. -/
structure Laminar (valid : ν → Prop) (cover : ν → Set α) (sibling : ν → ν → Prop)
    (height : ν → Nat) : Prop where
  nonempty : ∀ {a}, valid a → (cover a).Nonempty
  injective : ∀ {a b}, valid a → valid b → cover a = cover b → a = b
  nested : ∀ {a b}, valid a → valid b → (cover a ∩ cover b).Nonempty →
    cover a ⊆ cover b ∨ cover b ⊆ cover a
  split : ∀ {a}, valid a → (∃ point, cover a = {point}) ∨
    ∃ left right, valid left ∧ valid right ∧ sibling left right ∧
      cover a = cover left ∪ cover right ∧ height left < height a ∧ height right < height a

/-- Disjoint valid blocks, no two of them siblings. -/
structure Compact (valid : ν → Prop) (cover : ν → Set α) (sibling : ν → ν → Prop)
    (blocks : List ν) : Prop where
  valid : ∀ a ∈ blocks, valid a
  disjoint : blocks.Pairwise fun a b => Disjoint (cover a) (cover b)
  apart : ∀ a ∈ blocks, ∀ b ∈ blocks, a ≠ b → ¬ sibling a b

section Covered

variable {cover : ν → Set α} {blocks others : List ν}

theorem mem_covered {point : α} : point ∈ covered cover blocks ↔ ∃ a ∈ blocks, point ∈ cover a :=
  Iff.rfl

theorem covered_perm (same : blocks.Perm others) : covered cover blocks = covered cover others := by
  ext point
  simp only [mem_covered, same.mem_iff]

end Covered

namespace Compact

variable {valid : ν → Prop} {cover : ν → Set α} {sibling : ν → ν → Prop} {height : ν → Nat}
  {blocks others : List ν} {a b : ν} (compact : Compact valid cover sibling blocks)

include compact

theorem eq_of_meets (first : a ∈ blocks) (second : b ∈ blocks) {point : α} (left : point ∈ cover a)
    (right : point ∈ cover b) : a = b := by
  by_contra differs
  have symmetric : Std.Symm fun a b => Disjoint (cover a) (cover b) := ⟨fun _ _ apart => apart.symm⟩
  have apart := compact.disjoint.forall first second differs
  exact Set.disjoint_left.mp apart left right

variable (laws : Laminar valid cover sibling height)

include laws

theorem nodup : blocks.Nodup := by
  apply compact.disjoint.imp_of_mem
  intro a b member _ apart same
  have ⟨point, inside⟩ := laws.nonempty (compact.valid a member)
  rw [← same] at apart
  exact Set.disjoint_left.mp apart inside inside

theorem exists_subset (fine : valid b) (inside : cover b ⊆ covered cover blocks) :
    ∃ a ∈ blocks, cover b ⊆ cover a := by
  generalize size : height b = bound
  induction bound using Nat.strong_induction_on generalizing b with
  | _ bound ih =>
    rcases laws.split fine with ⟨point, single⟩ | ⟨left, right, fineLeft, fineRight, siblings, union,
      lower, lower'⟩
    · have ⟨a, member, holds⟩ := inside (single ▸ Set.mem_singleton point)
      refine ⟨a, member, ?_⟩
      rw [single]
      exact Set.singleton_subset_iff.mpr holds
    · have leftInside : cover left ⊆ cover b := union ▸ Set.subset_union_left
      have rightInside : cover right ⊆ cover b := union ▸ Set.subset_union_right
      have ⟨first, member, holds⟩ := ih _ (size ▸ lower) fineLeft (leftInside.trans inside) rfl
      have ⟨second, member', holds'⟩ :=
        ih _ (size ▸ lower') fineRight (rightInside.trans inside) rfl
      by_cases same : first = second
      · refine ⟨first, member, ?_⟩
        rw [union, Set.union_subset_iff]
        exact ⟨holds, same ▸ holds'⟩
      · -- each of the two blocks is `b` or more, or half of it
        have half : ∀ {near far part : ν}, near ∈ blocks → far ∈ blocks → near ≠ far →
            valid part → cover part ⊆ cover near → cover part ⊆ cover b →
            cover b ⊆ cover part ∪ cover far → cover b ⊆ cover near ∨ near = part := by
          intro near far part memberNear memberFar differs finePart covers partInside rest
          have ⟨point, here⟩ := laws.nonempty finePart
          rcases laws.nested (compact.valid near memberNear) fine
            ⟨point, covers here, partInside here⟩ with smaller | larger
          · right
            apply laws.injective (compact.valid near memberNear) finePart
            apply Set.Subset.antisymm _ covers
            intro other here
            rcases rest (smaller here) with there | there
            · exact there
            · exact absurd (compact.eq_of_meets memberNear memberFar here there) differs
          · exact .inl larger
        have restRight : cover b ⊆ cover left ∪ cover second := by
          rw [union]
          exact Set.union_subset_union_right _ holds'
        have restLeft : cover b ⊆ cover right ∪ cover first := by
          rw [union, Set.union_comm]
          exact Set.union_subset_union_right _ holds
        rcases half member member' same fineLeft holds leftInside restRight with whole | isLeft
        · exact ⟨first, member, whole⟩
        rcases half member' member (Ne.symm same) fineRight holds' rightInside restLeft with
          whole | isRight
        · exact ⟨second, member', whole⟩
        rw [isLeft] at member same
        rw [isRight] at member' same
        exact absurd siblings (compact.apart _ member _ member' same)

theorem exists_within (fine : ∀ b ∈ others, valid b)
    (same : covered cover others = covered cover blocks) (member : a ∈ blocks) :
    ∃ b ∈ others, cover b ⊆ cover a := by
  have ⟨point, here⟩ := laws.nonempty (compact.valid a member)
  have covers : point ∈ covered cover others := by
    rw [same]
    exact ⟨a, member, here⟩
  have ⟨b, member', there⟩ := covers
  have inside : cover b ⊆ covered cover blocks := by
    rw [← same]
    exact fun other holds => ⟨b, member', holds⟩
  have ⟨c, member'', holds⟩ := compact.exists_subset laws (fine b member') inside
  rw [compact.eq_of_meets member member'' here (holds there)]
  exact ⟨b, member', holds⟩

/-- A compact list is the smallest list with its points, and the only one of its length. -/
theorem minimal (fine : ∀ b ∈ others, valid b) (same : covered cover others = covered cover blocks) :
    blocks.length ≤ others.length ∧ (others.length = blocks.length → others.Perm blocks) := by
  classical
  have within : ∀ a : ν, ∃ b, a ∈ blocks → b ∈ others ∧ cover b ⊆ cover a := by
    intro a
    by_cases member : a ∈ blocks
    · have ⟨b, member', holds⟩ := compact.exists_within laws fine same member
      exact ⟨b, fun _ => ⟨member', holds⟩⟩
    · exact ⟨a, fun here => absurd here member⟩
  have ⟨chosen, choice⟩ := Classical.skolem.mp within
  -- different blocks choose different blocks, which lie in them
  have distinct : (blocks.map chosen).Nodup := by
    apply List.Nodup.map_on _ (compact.nodup laws)
    intro a member b member' equal
    have ⟨point, here⟩ := laws.nonempty (fine _ (choice a member).1)
    apply compact.eq_of_meets member member' ((choice a member).2 here)
    rw [equal] at here
    exact (choice b member').2 here
  have among : blocks.map chosen ⊆ others := by
    intro b member
    have ⟨a, here, equal⟩ := List.mem_map.mp member
    rw [← equal]
    exact (choice a here).1
  have sub := distinct.subperm among
  constructor
  · have lengths := sub.length_le
    rw [List.length_map] at lengths
    exact lengths
  · intro equal
    have perm : (blocks.map chosen).Perm others := by
      apply sub.perm_of_length_le
      rw [List.length_map]
      exact equal.le
    have fixed : ∀ a ∈ blocks, chosen a = a := by
      intro a member
      apply laws.injective (fine _ (choice a member).1) (compact.valid a member)
      apply Set.Subset.antisymm (choice a member).2
      intro point here
      have covers : point ∈ covered cover others := by
        rw [same]
        exact ⟨a, member, here⟩
      have ⟨b, member', there⟩ := covers
      have ⟨c, member'', equal'⟩ := List.mem_map.mp (perm.mem_iff.mpr member')
      rw [← equal'] at there
      rw [compact.eq_of_meets member member'' here ((choice c member'').2 there)]
      exact there
    rw [List.map_congr_left fixed, List.map_id'] at perm
    exact perm.symm

theorem unique (compact' : Compact valid cover sibling others)
    (same : covered cover others = covered cover blocks) : others.Perm blocks := by
  have first := compact.minimal laws compact'.valid same
  have second := compact'.minimal laws compact.valid same.symm
  exact first.2 (Nat.le_antisymm second.1 first.1)

end Compact

end Ployz
