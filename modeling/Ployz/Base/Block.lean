import Mathlib

/-!
# Aligned blocks of naturals

The naturals fall into blocks of `2 ^ host` neighbours, one partition for each `host`. Two
blocks of any sizes are nested or disjoint, so whether they meet shows at their first
elements. Masks compute with blocks: clearing the low bits gives the first element of a
block, setting them gives the last.
-/

namespace Ployz

/-- The block of a value: the values that agree with it above the low bits. -/
def block (host value : Nat) : Set Nat := {other | other / 2 ^ host = value / 2 ^ host}

/-- The first element of the block. -/
def blockFirst (host value : Nat) : Nat := value / 2 ^ host * 2 ^ host

/-- The last element of the block. -/
def blockLast (host value : Nat) : Nat := blockFirst host value + (2 ^ host - 1)

section Shape

variable {host host' value other : Nat}

theorem mem_block_self (host value : Nat) : value ∈ block host value := rfl

theorem block_eq_of_mem (member : other ∈ block host value) :
    block host other = block host value := by
  ext third
  exact ⟨fun same => same.trans member, fun same => same.trans member.symm⟩

theorem mem_block_iff :
    other ∈ block host value ↔ blockFirst host value ≤ other ∧ other ≤ blockLast host value := by
  have positive : 0 < 2 ^ host := Nat.two_pow_pos host
  have split : other / 2 ^ host * 2 ^ host + other % 2 ^ host = other :=
    Nat.div_add_mod' other (2 ^ host)
  have small : other % 2 ^ host < 2 ^ host := Nat.mod_lt _ positive
  change other / 2 ^ host = value / 2 ^ host ↔ _
  unfold blockLast blockFirst
  constructor
  · intro same
    rw [same] at split
    omega
  · rintro ⟨above, below⟩
    apply Nat.div_eq_of_lt_le above
    rw [Nat.succ_mul]
    omega

theorem blockFirst_le (host value : Nat) : blockFirst host value ≤ value :=
  (mem_block_iff.mp (mem_block_self host value)).1

theorem le_blockLast (host value : Nat) : value ≤ blockLast host value :=
  (mem_block_iff.mp (mem_block_self host value)).2

theorem blockFirst_mem (host value : Nat) : blockFirst host value ∈ block host value := by
  refine mem_block_iff.mpr ⟨le_refl _, ?_⟩
  unfold blockLast
  omega

theorem blockLast_mem (host value : Nat) : blockLast host value ∈ block host value := by
  refine mem_block_iff.mpr ⟨?_, le_refl _⟩
  unfold blockLast
  omega

theorem dvd_blockFirst (host value : Nat) : 2 ^ host ∣ blockFirst host value :=
  Nat.dvd_mul_left _ _

theorem blockFirst_of_dvd (aligned : 2 ^ host ∣ value) : blockFirst host value = value :=
  Nat.div_mul_cancel aligned

theorem block_subset (smaller : host ≤ host') (member : other ∈ block host' value) :
    block host other ⊆ block host' value := by
  intro third inside
  have scale : 2 ^ host' = 2 ^ host * 2 ^ (host' - host) := by
    rw [← Nat.pow_add, Nat.add_sub_cancel' smaller]
  change third / 2 ^ host' = _
  rw [← show other / 2 ^ host' = value / 2 ^ host' from member, scale, ← Nat.div_div_eq_div_mul,
    ← Nat.div_div_eq_div_mul, show third / 2 ^ host = other / 2 ^ host from inside]

theorem block_inter_nonempty_iff : (block host value ∩ block host' other).Nonempty ↔
    blockFirst host' other ∈ block host value ∨ blockFirst host value ∈ block host' other := by
  constructor
  · rintro ⟨third, left, right⟩
    -- the smaller of the two blocks lies in the larger
    rcases Nat.le_total host host' with smaller | smaller
    · right
      have inside := block_subset smaller right
      rw [block_eq_of_mem left] at inside
      exact inside (blockFirst_mem host value)
    · left
      have inside := block_subset smaller left
      rw [block_eq_of_mem right] at inside
      exact inside (blockFirst_mem host' other)
  · rintro (inside | inside)
    · exact ⟨_, inside, blockFirst_mem host' other⟩
    · exact ⟨_, blockFirst_mem host value, inside⟩

theorem block_succ_eq_union (parent : other ∈ block (host + 1) value)
    (differs : other ∉ block host value) :
    block (host + 1) value = block host value ∪ block host other := by
  have halve : ∀ number : Nat, number / 2 ^ (host + 1) = number / 2 ^ host / 2 := by
    intro number
    rw [Nat.div_div_eq_div_mul, pow_succ]
  have same : other / 2 ^ (host + 1) = value / 2 ^ (host + 1) := parent
  have apart : other / 2 ^ host ≠ value / 2 ^ host := differs
  ext third
  show third / 2 ^ (host + 1) = value / 2 ^ (host + 1) ↔
    third / 2 ^ host = value / 2 ^ host ∨ third / 2 ^ host = other / 2 ^ host
  rw [halve, halve] at *
  omega

/-- Between the start of a block and the start of the next no block of the size starts. -/
theorem aligned_step (aligned : 2 ^ host ∣ value) (aligned' : 2 ^ host ∣ other)
    (below : other < value + 2 ^ host) : other ≤ value := by
  obtain ⟨left, rfl⟩ := aligned
  obtain ⟨right, rfl⟩ := aligned'
  have step : 2 ^ host * right < 2 ^ host * (left + 1) := by rw [Nat.mul_add]; omega
  have bound : right < left + 1 := Nat.lt_of_mul_lt_mul_left step
  exact Nat.mul_le_mul_left _ (by omega)

end Shape

section Masks

theorem and_highMask {width host value : Nat} (fits : host ≤ width) (below : value < 2 ^ width) :
    value &&& (2 ^ width - 2 ^ host) = blockFirst host value := by
  have mask : 2 ^ width - 2 ^ host = 2 ^ host * (2 ^ (width - host) - 1) := by
    rw [Nat.mul_sub, ← Nat.pow_add, Nat.add_sub_cancel' fits, Nat.mul_one]
  unfold blockFirst
  rw [mask, Nat.mul_comm (value / 2 ^ host)]
  apply Nat.eq_of_testBit_eq
  intro i
  rw [Nat.testBit_and, Nat.testBit_two_pow_mul, Nat.testBit_two_pow_mul,
    Nat.testBit_two_pow_sub_one, Nat.testBit_div_two_pow]
  by_cases high : host ≤ i
  · have index : i - host + host = i := Nat.sub_add_cancel high
    by_cases inside : i < width
    · have small : i - host < width - host := by omega
      simp [high, small, index]
    · have zero : value.testBit i = false := by
        apply Nat.testBit_lt_two_pow
        exact lt_of_lt_of_le below (Nat.pow_le_pow_right (by decide) (by omega))
      simp [zero, index]
  · simp [high]

theorem or_lowMask (host value : Nat) :
    blockFirst host value ||| (2 ^ host - 1) = blockLast host value := by
  have small : 2 ^ host - 1 < 2 ^ host := by
    have positive : 0 < 2 ^ host := Nat.two_pow_pos host
    omega
  unfold blockLast blockFirst
  rw [Nat.mul_comm, ← Nat.two_pow_add_eq_or_of_lt small]

end Masks

end Ployz
