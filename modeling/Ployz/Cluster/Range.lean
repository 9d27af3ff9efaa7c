import Ployz.Cluster.Prefix

/-!
# What a prefix stands for

A prefix stands for the addresses of its family that agree with its own above the host bits,
whatever host bits its address has. The lemmas read the operations of `IpPrefix` in these
terms: none of them panics, and each computes with the first or the last address of a block.
-/

namespace Ployz.Cluster

open Api

namespace IpPrefix

/-- The number of host bits. -/
def host (self : IpPrefix) : Nat := self.address.bitLen - self.bits

/-- The addresses the prefix stands for. -/
def range (self : IpPrefix) : Set IpAddr :=
  {address | sameFamily self.address address = true ∧
    addressValue address ∈ block self.host (addressValue self.address)}

/-- The first address of the range. -/
def first (self : IpPrefix) : IpAddr :=
  ofValue self.address (blockFirst self.host (addressValue self.address))

/-- The last address of the range. -/
def last (self : IpPrefix) : IpAddr :=
  ofValue self.address (blockLast self.host (addressValue self.address))

/-- The prefix with no host bits set. -/
def base (self : IpPrefix) : IpPrefix := ⟨self.first, self.bits, by simpa [first] using self.fits⟩

variable (self other : IpPrefix)

theorem host_le : self.host ≤ self.address.bitLen := Nat.sub_le _ _

theorem blockLast_lt : blockLast self.host (addressValue self.address) <
    2 ^ self.address.bitLen := by
  have member : blockLast self.host (addressValue self.address) ∈
      block self.address.bitLen (addressValue self.address) := by
    refine block_subset self.host_le (mem_block_self _ _) ?_
    exact blockLast_mem _ _
  have low : addressValue self.address / 2 ^ self.address.bitLen = 0 :=
    Nat.div_eq_of_lt (addressValue_lt self.address)
  have zero : blockLast self.host (addressValue self.address) / 2 ^ self.address.bitLen = 0 :=
    (show _ = _ from member).trans low
  rcases Nat.div_eq_zero_iff.mp zero with empty | below
  · exact absurd empty (Nat.two_pow_pos _).ne'
  · exact below

theorem blockFirst_lt : blockFirst self.host (addressValue self.address) <
    2 ^ self.address.bitLen :=
  lt_of_le_of_lt (blockFirst_le _ _) (addressValue_lt self.address)

@[simp] theorem addressValue_first :
    addressValue self.first = blockFirst self.host (addressValue self.address) :=
  addressValue_ofValue self.blockFirst_lt

@[simp] theorem addressValue_last :
    addressValue self.last = blockLast self.host (addressValue self.address) :=
  addressValue_ofValue self.blockLast_lt

theorem address_mem_range : self.address ∈ self.range :=
  ⟨sameFamily_self _, mem_block_self _ _⟩

theorem first_mem_range : self.first ∈ self.range := by
  refine ⟨sameFamily_ofValue _ _, ?_⟩
  rw [addressValue_first]
  exact blockFirst_mem _ _

theorem last_mem_range : self.last ∈ self.range := by
  refine ⟨sameFamily_ofValue _ _, ?_⟩
  rw [addressValue_last]
  exact blockLast_mem _ _

theorem toNat_networkValue : self.networkValue.toNat =
    blockFirst self.host (addressValue self.address) := by
  rw [networkValue, BitVec.toNat_and, toNat_prefixMask self.fits]
  exact and_highMask self.host_le (addressValue_lt self.address)

theorem masked_eq : self.masked = .ok self.base := by
  have narrowed : (fromU128 self.address self.networkValue : Exec IpPrefixError IpAddr) =
      .ok self.first := by
    rw [fromU128_eq (by rw [toNat_networkValue]; exact self.blockFirst_lt), toNat_networkValue]
    rfl
  unfold masked
  split
  · next address found =>
    rw [narrowed] at found
    cases found
    rfl
  · next fault found =>
    rw [narrowed] at found
    cases found

theorem contains_iff {address : IpAddr} : self.contains address = true ↔ address ∈ self.range := by
  rw [contains, Bool.and_eq_true, beq_iff_eq]
  refine and_congr_right fun family => ?_
  have bound : addressValue address < 2 ^ self.address.bitLen := by
    rw [bitLen_eq_of_sameFamily family]
    exact addressValue_lt address
  have masks : (toU128 address &&& prefixMask self.address self.bits).toNat =
      blockFirst self.host (addressValue address) := by
    rw [BitVec.toNat_and, toNat_prefixMask self.fits]
    exact and_highMask self.host_le bound
  constructor
  · intro same
    have firsts := congrArg BitVec.toNat same
    rw [masks, toNat_networkValue] at firsts
    exact Nat.eq_of_mul_eq_mul_right (Nat.two_pow_pos _) firsts
  · intro member
    apply BitVec.eq_of_toNat_eq
    rw [masks, toNat_networkValue]
    exact congrArg (· * 2 ^ self.host) member

theorem lastAddress_eq : self.lastAddress = .ok self.last := by
  have narrow : 2 ^ self.host ≤ 2 ^ self.address.bitLen :=
    Nat.pow_le_pow_right (by decide) (Nat.sub_le _ _)
  have wide : 2 ^ self.address.bitLen ≤ 2 ^ 128 :=
    Nat.pow_le_pow_right (by decide) (bitLen_le _)
  have divides : 2 ^ self.address.bitLen ∣ 2 ^ 128 := Nat.pow_dvd_pow 2 (bitLen_le _)
  have positive : 0 < 2 ^ self.host := Nat.two_pow_pos _
  have hosts : (~~~(prefixMask self.address self.bits) &&& addressMask self.address).toNat =
      2 ^ self.host - 1 := by
    rw [BitVec.toNat_and, BitVec.toNat_not, toNat_prefixMask self.fits, toNat_addressMask,
      Nat.and_two_pow_sub_one_eq_mod]
    obtain ⟨times, whole⟩ := divides
    have shape : 2 ^ 128 - 1 - (2 ^ self.address.bitLen - 2 ^ (self.address.bitLen - self.bits)) =
        (2 ^ self.host - 1) + 2 ^ self.address.bitLen * (times - 1) := by
      rw [Nat.mul_sub, ← whole, Nat.mul_one]
      change _ - (_ - 2 ^ self.host) = _
      omega
    rw [shape, Nat.add_mul_mod_self_left]
    apply Nat.mod_eq_of_lt
    omega
  have ones : (self.networkValue |||
      (~~~(prefixMask self.address self.bits) &&& addressMask self.address)).toNat =
        blockLast self.host (addressValue self.address) := by
    rw [BitVec.toNat_or, hosts, toNat_networkValue]
    exact or_lowMask _ _
  rw [lastAddress, fromU128_eq (by rw [ones]; exact self.blockLast_lt), ones]
  rfl

theorem range_inter_nonempty_iff : (self.range ∩ other.range).Nonempty ↔
    sameFamily self.address other.address = true ∧
      (other.first ∈ self.range ∨ self.first ∈ other.range) := by
  constructor
  · rintro ⟨address, left, right⟩
    have family : sameFamily self.address other.address = true := by
      refine sameFamily_trans left.1 ?_
      rw [sameFamily_comm]
      exact right.1
    have values : (block self.host (addressValue self.address) ∩
        block other.host (addressValue other.address)).Nonempty := ⟨_, left.2, right.2⟩
    refine ⟨family, ?_⟩
    rcases block_inter_nonempty_iff.mp values with inside | inside
    · left
      refine ⟨sameFamily_trans family (sameFamily_ofValue _ _), ?_⟩
      rw [addressValue_first]
      exact inside
    · right
      refine ⟨sameFamily_trans (sameFamily_comm _ _ ▸ family) (sameFamily_ofValue _ _), ?_⟩
      rw [addressValue_first]
      exact inside
  · rintro ⟨_, inside | inside⟩
    · exact ⟨_, inside, other.first_mem_range⟩
    · exact ⟨_, self.first_mem_range, inside⟩

open Classical in
/-- `overlaps` tells whether some address is in both prefixes. -/
theorem overlaps_eq :
    self.overlaps other = .ok (decide (self.range ∩ other.range).Nonempty) := by
  rw [overlaps, masked_eq, masked_eq]
  by_cases family : sameFamily self.address other.address = true
  · rw [if_pos family]
    by_cases inside : self.contains other.first = true
    · have meets : (self.range ∩ other.range).Nonempty :=
        (range_inter_nonempty_iff _ _).mpr ⟨family, .inl (self.contains_iff.mp inside)⟩
      simp only [bind, Except.bind, base, inside, ↓reduceIte, meets, decide_true]
      rfl
    · have meets : (self.range ∩ other.range).Nonempty ↔ other.contains self.first = true := by
        rw [range_inter_nonempty_iff, contains_iff]
        rw [contains_iff] at inside
        simp [family, inside]
      simp only [bind, Except.bind, base, inside, meets]
      simp
      rfl
  · have apart : ¬ (self.range ∩ other.range).Nonempty := by
      rw [range_inter_nonempty_iff]
      exact fun meets => family meets.1
    rw [if_neg family, decide_eq_false apart]
    rfl

theorem range_subset (longer : self.bits ≤ other.bits) (inside : other.address ∈ self.range) :
    other.range ⊆ self.range := by
  rintro address ⟨family, member⟩
  have smaller : other.host ≤ self.host := by
    have widths := bitLen_eq_of_sameFamily inside.1
    unfold host
    omega
  exact ⟨sameFamily_trans inside.1 family, block_subset smaller inside.2 member⟩

theorem range_subset_of_mem (longer : self.bits ≤ other.bits) (meets : self.address ∈ other.range) :
    other.range ⊆ self.range := by
  have smaller : other.host ≤ self.host := by
    have widths := bitLen_eq_of_sameFamily meets.1
    unfold host
    omega
  refine self.range_subset other longer ⟨sameFamily_comm _ _ ▸ meets.1, ?_⟩
  refine block_subset smaller (mem_block_self _ _) ?_
  rw [block_eq_of_mem meets.2]
  exact mem_block_self _ _

theorem range_eq_of_mem {left right : IpPrefix} (bits : left.bits = right.bits)
    (inside : right.address ∈ left.range) : right.range = left.range :=
  Set.Subset.antisymm (left.range_subset right bits.le inside)
    (right.range_subset_of_mem left bits.ge inside)

@[simp] theorem bits_base : self.base.bits = self.bits := rfl

@[simp] theorem address_base : self.base.address = self.first := rfl

@[simp] theorem range_base : self.base.range = self.range :=
  range_eq_of_mem rfl self.first_mem_range

/-- The host bits of an address are clear. -/
def Aligned (self : IpPrefix) : Prop := 2 ^ self.host ∣ addressValue self.address

instance : Decidable self.Aligned :=
  inferInstanceAs (Decidable (2 ^ self.host ∣ addressValue self.address))

theorem host_base : self.base.host = self.host := by simp [host, first]

theorem aligned_base : self.base.Aligned := by
  rw [Aligned, host_base, address_base, addressValue_first]
  exact dvd_blockFirst _ _

variable {self other}

theorem Aligned.base_eq (aligned : self.Aligned) : self.base = self := by
  have same : self.first = self.address := by
    refine eq_of_addressValue (sameFamily_comm _ _ ▸ sameFamily_ofValue _ _) ?_
    rw [addressValue_first, blockFirst_of_dvd aligned]
  cases self
  simp only [base, IpPrefix.mk.injEq, and_true]
  exact same

theorem aligned_of_masked (returned : self.masked = .ok other) : other.Aligned := by
  rw [masked_eq] at returned
  cases returned
  exact self.aligned_base

theorem bits_of_masked (returned : self.masked = .ok other) : other.bits = self.bits := by
  rw [masked_eq] at returned
  cases returned
  rfl

end IpPrefix

end Ployz.Cluster
