import Ployz.Cluster.Range

/-!
# The subnet allocator

`Ipam`: a first-fit allocator of subnets in one cluster network. Its methods take the
allocator by mutable reference, so they return the allocator they leave next to the result.
-/

namespace Ployz.Cluster

open Api

/-- `Ipam`. The fields are private in the source, and `new` masks the network. -/
structure Ipam where
  network : IpPrefix
  allocated : List IpPrefix
  /-- The address of the network has no host bits. -/
  aligned : network.Aligned
  nonzero : network.bits ≠ 0

/-- What one pass of the search loop comes to. -/
inductive Probe where
  /-- The block at the address is free. -/
  | found (subnet : IpPrefix)
  /-- The loop goes on at the next block. -/
  | next (address : IpAddr)

/-- `last.checked_add(1).filter(|next| *next <= address_mask(address))`. -/
def checkedNext (last : BitVec 128) (address : IpAddr) : Option (BitVec 128) :=
  if last = BitVec.allOnes 128 then none
  else if last + 1 ≤ addressMask address then some (last + 1)
  else none

namespace Ipam

def new (network : IpPrefix) : Exec IpPrefixError Ipam :=
  if zero : network.bits = 0 then Exec.fail .invalidNetwork
  else
    match returned : network.masked with
    | .ok start =>
      .ok ⟨start, [], IpPrefix.aligned_of_masked returned,
        (IpPrefix.bits_of_masked returned).trans_ne zero⟩
    | .error fault => .error fault

/-- `self.allocated.push(subnet)`. -/
def push (self : Ipam) (subnet : IpPrefix) : Ipam :=
  { self with allocated := self.allocated ++ [subnet] }

/-- The checks of `allocate_subnet`. -/
def checkSubnet (self : Ipam) (subnet : IpPrefix) : Exec IpPrefixError Unit :=
  if self.network.contains subnet.address then do
    let last ← subnet.lastAddress
    if self.network.contains last then
      if ← self.allocated.anyM (·.overlaps subnet) then Exec.fail .subnetOverlap
      else pure ()
    else Exec.fail .subnetNotInNetwork
  else Exec.fail .subnetNotInNetwork

def allocateSubnet (self : Ipam) (subnet : IpPrefix) : Exec IpPrefixError Unit × Ipam :=
  match self.checkSubnet subnet with
  | .ok () => (.ok (), self.push subnet)
  | .error fault => (.error fault, self)

def withAllocated (network : IpPrefix) (subnets : List IpPrefix) : Exec IpPrefixError Ipam := do
  let allocator ← new network
  subnets.foldlM (fun allocator subnet =>
    match allocator.allocateSubnet subnet with
    | (.ok (), next) => .ok next
    | (.error fault, _) =>
      Exec.mapErr (IpPrefixError.allocatedSubnet subnet) (.error fault)) allocator

/-- No allocated subnet shares an address with this one. -/
def Free (self : Ipam) (subnet : IpPrefix) : Prop :=
  ∀ used ∈ self.allocated, Disjoint used.range subnet.range

open Classical in
theorem anyM_overlaps (self : Ipam) (subnet : IpPrefix) :
    self.allocated.anyM (·.overlaps subnet) = .ok (decide ¬ self.Free subnet) := by
  rw [anyM_of_ok fun used _ => used.overlaps_eq subnet]
  congr 1
  rw [Bool.eq_iff_iff, List.any_eq_true, decide_eq_true_eq]
  simp only [decide_eq_true_eq, Free, Set.not_disjoint_iff_nonempty_inter, not_forall, exists_prop]

theorem checkedNext_eq (last address : IpAddr) (family : sameFamily last address = true) :
    checkedNext (toU128 last) address =
      if addressValue last + 1 < 2 ^ address.bitLen then some (toU128 last + 1) else none := by
  have below : addressValue last < 2 ^ address.bitLen := by
    rw [← bitLen_eq_of_sameFamily family]
    exact addressValue_lt last
  have narrow : 2 ^ address.bitLen ≤ 2 ^ 128 := Nat.pow_le_pow_right (by decide) (bitLen_le _)
  unfold checkedNext
  by_cases top : toU128 last = BitVec.allOnes 128
  · have value : addressValue last = 2 ^ 128 - 1 := by
      rw [addressValue, top, BitVec.toNat_allOnes]
    rw [if_pos top, if_neg (by omega)]
  · have value : (toU128 last).toNat ≠ 2 ^ 128 - 1 := by
      intro same
      apply top
      apply BitVec.eq_of_toNat_eq
      rw [same, BitVec.toNat_allOnes]
    have sum : (toU128 last + 1).toNat = addressValue last + 1 := by
      have bound := (toU128 last).isLt
      rw [BitVec.toNat_add, addressValue]
      exact Nat.mod_eq_of_lt (by simp; omega)
    have order : toU128 last + 1 ≤ addressMask address ↔
        addressValue last + 1 < 2 ^ address.bitLen := by
      rw [BitVec.le_def, sum, toNat_addressMask]
      omega
    simp only [if_neg top, order]

/-- The body of the loop of `allocate_subnet_len` at one block. -/
def examine (self : Ipam) (subnet : IpPrefix) : Exec IpPrefixError Probe := do
  if ← self.allocated.anyM (·.overlaps subnet) then
    let last ← subnet.lastAddress
    match checkedNext (toU128 last) subnet.address with
    | some next => do
      let address ← fromU128 subnet.address next
      pure (.next address)
    | none => Exec.fail .noAvailableSubnet
  else pure (.found subnet)

variable {subnet : IpPrefix}

theorem examine_of_free {self : Ipam} (free : self.Free subnet) :
    self.examine subnet = .ok (.found subnet) := by
  classical
  rw [examine, anyM_overlaps, decide_eq_false (not_not.mpr free)]
  rfl

/-- Behind a block that is not free the loop goes on, unless the family ends. -/
theorem examine_of_used {self : Ipam} (used : ¬ self.Free subnet) :
    self.examine subnet =
      if addressValue subnet.last + 1 < 2 ^ subnet.address.bitLen then
        .ok (.next (ofValue subnet.address (addressValue subnet.last + 1)))
      else Exec.fail .noAvailableSubnet := by
  classical
  have next := checkedNext_eq subnet.last subnet.address
    (sameFamily_comm _ _ ▸ sameFamily_ofValue _ _)
  rw [examine, anyM_overlaps, decide_eq_true used, IpPrefix.lastAddress_eq]
  simp only [bind, Except.bind, ↓reduceIte, next]
  by_cases room : addressValue subnet.last + 1 < 2 ^ subnet.address.bitLen
  · have narrow : 2 ^ subnet.address.bitLen ≤ 2 ^ 128 :=
      Nat.pow_le_pow_right (by decide) (bitLen_le _)
    have sum : (toU128 subnet.last + 1).toNat = addressValue subnet.last + 1 := by
      have small : addressValue subnet.last + 1 < 2 ^ 128 := by omega
      rw [BitVec.toNat_add]
      exact Nat.mod_eq_of_lt small
    have narrowed : (fromU128 subnet.address (toU128 subnet.last + 1) :
        Exec IpPrefixError IpAddr) =
          .ok (ofValue subnet.address (addressValue subnet.last + 1)) := by
      rw [fromU128_eq (by rw [sum]; exact room), sum]
    simp only [if_pos room, narrowed]
    rfl
  · simp only [if_neg room]

section Search

variable (self : Ipam) (bits : Nat) (valid : bits ≤ self.network.address.bitLen) {address : IpAddr}

theorem bits_le_of_contains (valid : bits ≤ self.network.address.bitLen)
    (inside : self.network.contains address = true) : bits ≤ address.bitLen := by
  have family := (self.network.contains_iff.mp inside).1
  rw [← bitLen_eq_of_sameFamily family]
  exact valid

/-- One pass of the loop of `allocate_subnet_len`, with its condition. -/
def probe (address : IpAddr) : Exec IpPrefixError Probe :=
  if inside : self.network.contains address = true then
    self.examine ⟨address, bits, self.bits_le_of_contains bits valid inside⟩
  else Exec.fail .noAvailableSubnet

variable {self bits} {following : IpAddr}

theorem addressValue_lt_of_probe (step : self.probe bits valid address = .ok (.next following)) :
    addressValue address < addressValue following := by
  unfold probe at step
  split_ifs at step with inside
  · by_cases free : self.Free ⟨address, bits, self.bits_le_of_contains bits valid inside⟩
    · rw [examine_of_free free] at step
      cases step
    · rw [examine_of_used free] at step
      split_ifs at step with room
      · cases step
        rw [addressValue_ofValue room, IpPrefix.addressValue_last]
        exact Nat.lt_succ_of_le (le_blockLast _ _)
      · cases step
  · cases step

variable (self bits)

/-- The loop of `allocate_subnet_len` from an address on. -/
def search (address : IpAddr) : Exec IpPrefixError IpPrefix :=
  match _step : self.probe bits valid address with
  | .ok (.found subnet) => .ok subnet
  | .ok (.next following) => search following
  | .error fault => .error fault
termination_by 2 ^ 128 - addressValue address
decreasing_by
  have higher := addressValue_lt_of_probe valid _step
  have bound : addressValue following < 2 ^ 128 := (toU128 following).isLt
  omega

variable {self bits}

theorem search_of_found (step : self.probe bits valid address = .ok (.found subnet)) :
    self.search bits valid address = .ok subnet := by
  rw [search]
  split <;> simp_all

theorem search_of_next (step : self.probe bits valid address = .ok (.next following)) :
    self.search bits valid address = self.search bits valid following := by
  rw [search]
  split <;> simp_all

theorem search_of_error {fault : Fault IpPrefixError}
    (step : self.probe bits valid address = .error fault) :
    self.search bits valid address = .error fault := by
  rw [search]
  split <;> simp_all

end Search

def allocateSubnetLen (self : Ipam) (bits : Nat) : Exec IpPrefixError IpPrefix × Ipam :=
  if sized : self.network.bits ≤ bits ∧ bits ≤ self.network.address.bitLen then
    match self.search bits sized.2 self.network.address with
    | .ok subnet => (.ok subnet, self.push subnet)
    | .error fault => (.error fault, self)
  else (Exec.fail .invalidSubnetSize, self)

end Ipam

end Ployz.Cluster
