import Ployz.Cluster.Ipam

/-!
# The allocator is exact, and what it keeps apart

`allocate_subnet_len` finds the lowest free block of its length in the network, for either
family and up to the last address of it. Allocated subnets never share an address; that they
lie in the network depends on the prefixes offered to `allocate_subnet`, which only looks at
two addresses of each.
-/

namespace Ployz.Cluster

open Api

namespace Ipam

/-- A block that may be allocated: of the length, without host bits, in the network, and free. -/
structure Candidate (ipam : Ipam) (bits : Nat) (subnet : IpPrefix) : Prop where
  length : subnet.bits = bits
  aligned : subnet.Aligned
  inside : subnet.range ⊆ ipam.network.range
  free : ipam.Free subnet

section FirstFit

variable {self : Ipam} {bits : Nat}

theorem Candidate.eq_of_addressValue {left right : IpPrefix} (candidate : self.Candidate bits left)
    (length : right.bits = bits) (inside : right.address ∈ self.network.range)
    (values : addressValue left.address = addressValue right.address) : left = right := by
  have within := candidate.inside left.address_mem_range
  have family : sameFamily left.address right.address = true :=
    sameFamily_trans (sameFamily_comm _ _ ▸ within.1) inside.1
  have addresses := Cluster.eq_of_addressValue family values
  have lengths : left.bits = right.bits := candidate.length.trans length.symm
  cases left
  cases right
  simp_all

theorem mem_network_range {address : IpAddr} (family : sameFamily self.network.address address) :
    address ∈ self.network.range ↔ addressValue self.network.address ≤ addressValue address ∧
      addressValue address ≤ addressValue self.network.last := by
  have first := blockFirst_of_dvd self.aligned
  rw [IpPrefix.addressValue_last]
  constructor
  · intro inside
    have bounds := mem_block_iff.mp inside.2
    rwa [first] at bounds
  · intro bounds
    refine ⟨family, mem_block_iff.mpr ?_⟩
    rwa [first]

theorem addressValue_last_of_aligned {subnet : IpPrefix} (aligned : subnet.Aligned) :
    addressValue subnet.last = addressValue subnet.address + (2 ^ subnet.host - 1) := by
  rw [IpPrefix.addressValue_last, blockLast, blockFirst_of_dvd aligned]

theorem Candidate.behind {subnet other : IpPrefix} (length : subnet.bits = bits)
    (aligned : subnet.Aligned) (inside : subnet.address ∈ self.network.range)
    (used : ¬ self.Free subnet) (candidate : self.Candidate bits other)
    (above : addressValue subnet.address ≤ addressValue other.address) :
    addressValue subnet.last + 1 ≤ addressValue other.address := by
  have hosts : other.host = subnet.host := by
    have within := candidate.inside other.address_mem_range
    have family : sameFamily other.address subnet.address = true :=
      sameFamily_trans (sameFamily_comm _ _ ▸ within.1) inside.1
    unfold IpPrefix.host
    rw [bitLen_eq_of_sameFamily family, candidate.length, length]
  have positive : 0 < 2 ^ subnet.host := Nat.two_pow_pos _
  have last := addressValue_last_of_aligned aligned
  have distinct : addressValue other.address ≠ addressValue subnet.address := by
    intro same
    apply used
    rw [← candidate.eq_of_addressValue length inside same]
    exact candidate.free
  by_contra near
  have aligned' : 2 ^ subnet.host ∣ addressValue other.address := hosts ▸ candidate.aligned
  have below := aligned_step aligned aligned' (by omega)
  omega

/-- The block behind an aligned one. -/
def following (subnet : IpPrefix) : IpPrefix :=
  ⟨ofValue subnet.address (addressValue subnet.last + 1), subnet.bits, by simpa using subnet.fits⟩

theorem Aligned.following {subnet : IpPrefix} (aligned : subnet.Aligned)
    (room : addressValue subnet.last + 1 < 2 ^ subnet.address.bitLen) :
    (following subnet).Aligned := by
  have positive : 0 < 2 ^ subnet.host := Nat.two_pow_pos _
  have number : addressValue (Ipam.following subnet).address =
      addressValue subnet.address + 2 ^ subnet.host := by
    rw [Ipam.following, addressValue_ofValue room, addressValue_last_of_aligned aligned]
    omega
  have host : (Ipam.following subnet).host = subnet.host := by
    simp [Ipam.following, IpPrefix.host]
  rw [IpPrefix.Aligned, number, host]
  exact Nat.dvd_add aligned (Nat.dvd_refl _)

/-- The search finds the lowest candidate, if there is one. -/
theorem search_spec (longer : self.network.bits ≤ bits)
    (valid : bits ≤ self.network.address.bitLen) (subnet : IpPrefix) (length : subnet.bits = bits)
    (family : sameFamily self.network.address subnet.address = true)
    (start : addressValue self.network.address ≤ addressValue subnet.address)
    (aligned : subnet.Aligned)
    (passed : ∀ other, self.Candidate bits other →
      addressValue subnet.address ≤ addressValue other.address) :
    Ends (self.search bits valid subnet.address)
      (fun found => self.Candidate bits found ∧ ∀ other, self.Candidate bits other →
        addressValue found.address ≤ addressValue other.address)
      (fun fault => fault = .error .noAvailableSubnet ∧ ∀ other, ¬ self.Candidate bits other) := by
  -- the number of addresses above the block falls with every pass
  induction left : 2 ^ 128 - addressValue subnet.address using Nat.strong_induction_on
    generalizing subnet with
  | _ left ih =>
    by_cases inside : subnet.address ∈ self.network.range
    · have probe : self.probe bits valid subnet.address = self.examine subnet := by
        subst length
        exact dif_pos (self.network.contains_iff.mpr inside)
      by_cases free : self.Free subnet
      · rw [search_of_found valid (probe.trans (examine_of_free free))]
        exact ⟨⟨length, aligned, self.network.range_subset _ (length ▸ longer) inside, free⟩,
          passed⟩
      · have behind : ∀ other, self.Candidate bits other →
            addressValue subnet.last + 1 ≤ addressValue other.address :=
          fun other candidate =>
            candidate.behind length aligned inside free (passed other candidate)
        have examined := probe.trans (examine_of_used free)
        have higher : addressValue subnet.address ≤ addressValue subnet.last := by
          rw [addressValue_last_of_aligned aligned]
          omega
        by_cases room : addressValue subnet.last + 1 < 2 ^ subnet.address.bitLen
        · have number : addressValue (following subnet).address = addressValue subnet.last + 1 :=
            addressValue_ofValue room
          have bound : 2 ^ subnet.address.bitLen ≤ 2 ^ 128 :=
            Nat.pow_le_pow_right (by decide) (bitLen_le _)
          rw [if_pos room] at examined
          rw [search_of_next valid examined]
          refine ih _ ?_ (following subnet) length
            (sameFamily_trans family (sameFamily_ofValue _ _)) ?_ (Aligned.following aligned room)
            ?_ rfl
          · rw [number]
            omega
          · rw [number]
            omega
          · rw [number]
            exact behind
        · rw [if_neg room] at examined
          rw [search_of_error valid examined]
          refine ⟨rfl, fun other candidate => room ?_⟩
          -- a candidate behind the last address of the family would not fit it
          have within := candidate.inside other.address_mem_range
          have width : other.address.bitLen = subnet.address.bitLen := by
            rw [← bitLen_eq_of_sameFamily within.1, bitLen_eq_of_sameFamily family]
          have below := addressValue_lt other.address
          rw [width] at below
          exact lt_of_le_of_lt (behind other candidate) below
    · have probe : self.probe bits valid subnet.address = Exec.fail .noAvailableSubnet :=
        dif_neg (by rwa [IpPrefix.contains_iff])
      rw [search_of_error valid probe]
      refine ⟨rfl, fun other candidate => inside ?_⟩
      -- the network is an interval, and the candidate is not below the block
      have within := candidate.inside other.address_mem_range
      have bound := ((mem_network_range within.1).mp within).2
      have above := passed other candidate
      exact (mem_network_range family).mpr ⟨start, by omega⟩

/-- The lowest candidate is allocated, if there is one. -/
theorem allocateSubnetLen_spec (longer : self.network.bits ≤ bits)
    (valid : bits ≤ self.network.address.bitLen) :
    (∃ subnet, self.allocateSubnetLen bits = (.ok subnet, self.push subnet) ∧
      self.Candidate bits subnet ∧ ∀ other, self.Candidate bits other →
        addressValue subnet.address ≤ addressValue other.address) ∨
    (self.allocateSubnetLen bits = (Exec.fail .noAvailableSubnet, self) ∧
      ∀ other, ¬ self.Candidate bits other) := by
  have aligned : IpPrefix.Aligned ⟨self.network.address, bits, valid⟩ := by
    refine Nat.dvd_trans (Nat.pow_dvd_pow 2 ?_) self.aligned
    change self.network.address.bitLen - bits ≤ self.network.address.bitLen - self.network.bits
    omega
  have lowest : ∀ other, self.Candidate bits other →
      addressValue self.network.address ≤ addressValue other.address := by
    intro other candidate
    have within := candidate.inside other.address_mem_range
    exact ((mem_network_range within.1).mp within).1
  have spec := search_spec longer valid ⟨self.network.address, bits, valid⟩ rfl
    (sameFamily_self _) (le_refl _) aligned lowest
  rw [allocateSubnetLen, dif_pos ⟨longer, valid⟩]
  cases searched : self.search bits valid self.network.address with
  | ok subnet =>
    obtain ⟨candidate, least⟩ := spec.of_ok searched
    exact .inl ⟨subnet, rfl, candidate, least⟩
  | error fault =>
    obtain ⟨rfl, none⟩ := spec.of_error searched
    exact .inr ⟨rfl, none⟩

theorem allocateSubnetLen_of_error {fault : Fault IpPrefixError}
    (failed : (self.allocateSubnetLen bits).1 = .error fault) :
    (self.allocateSubnetLen bits).2 = self := by
  unfold allocateSubnetLen at failed ⊢
  split_ifs at failed ⊢ with sized
  · cases searched : self.search bits sized.2 self.network.address with
    | ok subnet =>
      rw [searched] at failed
      cases failed
    | error fault => rfl
  · rfl

end FirstFit

/-- `allocate_subnet_len` allocates the lowest free block of the length in the network, fails
exactly when there is none, and leaves the allocator alone whenever it fails. -/
theorem allocate_subnet_len_first_fit (ipam : Ipam) (bits : Nat) :
    (ipam.network.bits ≤ bits → bits ≤ ipam.network.address.bitLen →
      (∃ subnet, ipam.allocateSubnetLen bits = (.ok subnet, ipam.push subnet) ∧
        ipam.Candidate bits subnet ∧ ∀ other, ipam.Candidate bits other →
          addressValue subnet.address ≤ addressValue other.address) ∨
      (ipam.allocateSubnetLen bits = (Exec.fail .noAvailableSubnet, ipam) ∧
        ∀ other, ¬ ipam.Candidate bits other)) ∧
    ∀ fault, (ipam.allocateSubnetLen bits).1 = .error fault →
      (ipam.allocateSubnetLen bits).2 = ipam :=
  ⟨allocateSubnetLen_spec, fun _ => allocateSubnetLen_of_error⟩

namespace Sample

/-- The network `10.210.0.0/16`. -/
def network : IpPrefix := ⟨.v4 0x0ad20000#32, 16, by decide⟩

/-- An allocator of the network with `10.210.0.0/23` taken, whose address has host bits. -/
def ipam : Ipam := ⟨network, [⟨.v4 0x0ad20103#32, 23, by decide⟩], by decide, by decide⟩

end Sample

/-- Behind the two blocks taken, the third is allocated. -/
theorem allocate_subnet_len_first_fit_sample :
    ∃ subnet, Sample.ipam.allocateSubnetLen 24 = (.ok subnet, Sample.ipam.push subnet) ∧
      subnet.display = "10.210.2.0/24" ∧ Sample.ipam.Candidate 24 subnet ∧
        ∀ other, Sample.ipam.Candidate 24 other →
          addressValue subnet.address ≤ addressValue other.address := by
  have run : (Sample.ipam.allocateSubnetLen 24).1.toOption.map IpPrefix.display =
      some "10.210.2.0/24" := by decide +kernel
  rcases (allocate_subnet_len_first_fit Sample.ipam 24).1 (by decide) (by decide) with
    ⟨subnet, returned, candidate, least⟩ | ⟨failed, _⟩
  · rw [returned] at run
    exact ⟨subnet, returned, Option.some.inj run, candidate, least⟩
  · rw [failed] at run
    cases run

section Containment

/-- A call on the allocator. -/
inductive Op where
  /-- `allocate_subnet`. -/
  | subnet (subnet : IpPrefix)
  /-- `allocate_subnet_len`. -/
  | length (bits : Nat)

/-- The allocator a call leaves. -/
def perform (self : Ipam) : Op → Ipam
  | .subnet subnet => (self.allocateSubnet subnet).2
  | .length bits => (self.allocateSubnetLen bits).2

/-- The calls of a run, each with the allocator it finds. -/
def steps : Ipam → List Op → List (Ipam × Op)
  | _, [] => []
  | self, op :: ops => (self, op) :: steps (self.perform op) ops

/-- The allocators of a run. -/
def states : Ipam → List Op → List Ipam
  | self, [] => [self]
  | self, op :: ops => self :: states (self.perform op) ops

/-- A prefix wider than the network whose address and last address are in the network. -/
def Overhangs (network subnet : IpPrefix) : Prop :=
  subnet.bits < network.bits ∧ subnet.address ∈ network.range ∧ subnet.last ∈ network.range

/-- Allocated subnets share no address. -/
def Apart (self : Ipam) : Prop :=
  self.allocated.Pairwise fun left right => Disjoint left.range right.range

/-- Every allocated subnet lies in the network. -/
def Contained (self : Ipam) : Prop := ∀ subnet ∈ self.allocated, subnet.range ⊆ self.network.range

variable {self : Ipam} {subnet : IpPrefix}

/-- A subnet passes if it is in the network and free. -/
theorem checkSubnet_spec (self : Ipam) (subnet : IpPrefix) :
    Ends (self.checkSubnet subnet)
      (fun _ => subnet.address ∈ self.network.range ∧ subnet.last ∈ self.network.range ∧
        self.Free subnet)
      (fun fault => (fault = .error .subnetNotInNetwork ∧
          ¬ (subnet.address ∈ self.network.range ∧ subnet.last ∈ self.network.range)) ∨
        (fault = .error .subnetOverlap ∧ ¬ self.Free subnet)) := by
  classical
  unfold checkSubnet
  by_cases start : subnet.address ∈ self.network.range
  · rw [if_pos (self.network.contains_iff.mpr start), IpPrefix.lastAddress_eq]
    change Ends (if self.network.contains subnet.last = true then _ else _) _ _
    by_cases rest : subnet.last ∈ self.network.range
    · rw [if_pos (self.network.contains_iff.mpr rest), anyM_overlaps]
      by_cases free : self.Free subnet
      · rw [decide_eq_false (not_not.mpr free)]
        exact ⟨start, rest, free⟩
      · rw [decide_eq_true free]
        exact .inr ⟨rfl, free⟩
    · rw [if_neg (mt self.network.contains_iff.mp rest)]
      exact .inl ⟨rfl, fun both => rest both.2⟩
  · rw [if_neg (mt self.network.contains_iff.mp start)]
    exact .inl ⟨rfl, fun both => start both.1⟩

theorem Overhangs.not_subset {network : IpPrefix} (overhangs : Overhangs network subnet) :
    ¬ subnet.range ⊆ network.range := by
  obtain ⟨wider, start, rest⟩ := overhangs
  intro inside
  have hosts : network.host < subnet.host := by
    have widths := bitLen_eq_of_sameFamily start.1
    have fits := network.fits
    unfold IpPrefix.host
    omega
  have larger : 2 ^ network.host < 2 ^ subnet.host := Nat.pow_lt_pow_right (by decide) hosts
  have positive : 0 < 2 ^ network.host := Nat.two_pow_pos _
  have low := (mem_block_iff.mp (inside subnet.first_mem_range).2).1
  have high := (mem_block_iff.mp rest.2).2
  rw [IpPrefix.addressValue_first] at low
  rw [IpPrefix.addressValue_last] at high
  unfold blockLast at high
  omega

theorem subset_or_overhangs {network : IpPrefix} (start : subnet.address ∈ network.range)
    (rest : subnet.last ∈ network.range) :
    subnet.range ⊆ network.range ∨ Overhangs network subnet := by
  by_cases wider : subnet.bits < network.bits
  · exact .inr ⟨wider, start, rest⟩
  · exact .inl (network.range_subset subnet (by omega) start)

theorem Overhangs.allocated_eq_nil (overhangs : Overhangs self.network subnet)
    (contained : self.Contained) (free : self.Free subnet) : self.allocated = [] := by
  rw [List.eq_nil_iff_forall_not_mem]
  intro used member
  have covered := subnet.range_subset_of_mem self.network overhangs.1.le overhangs.2.1
  have shared := covered (contained used member used.address_mem_range)
  exact Set.disjoint_left.mp (free used member) used.address_mem_range shared

theorem contained_push_iff (start : subnet.address ∈ self.network.range)
    (rest : subnet.last ∈ self.network.range) (free : self.Free subnet) :
    (self.push subnet).Contained ↔
      self.Contained ∧ (self.allocated = [] → ¬ Overhangs self.network subnet) := by
  constructor
  · intro contained
    have inside : subnet.range ⊆ self.network.range := contained subnet (by simp [push])
    refine ⟨fun used member => contained used (by simp [push, member]), fun _ overhangs => ?_⟩
    exact overhangs.not_subset inside
  · rintro ⟨contained, first⟩ used member
    rcases List.mem_append.mp member with old | new
    · exact contained used old
    · rw [List.mem_singleton.mp new]
      rcases subset_or_overhangs start rest with inside | overhangs
      · exact inside
      · exact absurd overhangs (first (overhangs.allocated_eq_nil contained free))

theorem Apart.push (apart : self.Apart) (free : self.Free subnet) : (self.push subnet).Apart := by
  unfold Apart Ipam.push
  rw [List.pairwise_append]
  refine ⟨apart, List.pairwise_singleton _ _, fun used member other new => ?_⟩
  rw [List.mem_singleton.mp new]
  exact free used member

@[simp] theorem network_perform (op : Op) : (self.perform op).network = self.network := by
  cases op with
  | subnet subnet =>
    rw [perform, allocateSubnet]
    cases self.checkSubnet subnet <;> rfl
  | length bits =>
    rw [perform, allocateSubnetLen]
    split_ifs with sized
    · cases self.search bits sized.2 self.network.address <;> rfl
    · rfl

theorem Apart.perform (apart : self.Apart) (op : Op) : (self.perform op).Apart := by
  cases op with
  | subnet subnet =>
    rw [Ipam.perform, allocateSubnet]
    cases admitted : self.checkSubnet subnet with
    | error fault => exact apart
    | ok done => exact apart.push ((self.checkSubnet_spec subnet).of_ok admitted).2.2
  | length bits =>
    rw [Ipam.perform]
    by_cases sized : self.network.bits ≤ bits ∧ bits ≤ self.network.address.bitLen
    · rcases allocateSubnetLen_spec sized.1 sized.2 with
        ⟨found, returned, candidate, _⟩ | ⟨failed, _⟩
      · rw [returned]
        exact apart.push candidate.free
      · rw [failed]
        exact apart
    · rw [allocateSubnetLen, dif_neg sized]
      exact apart

/-- The call offers an overhanging subnet while nothing is allocated. -/
def Spills (network : IpPrefix) (step : Ipam × Op) : Prop :=
  step.1.allocated = [] ∧ ∃ subnet, step.2 = .subnet subnet ∧ Overhangs network subnet

/-- One call keeps the allocated subnets in the network, unless it spills. -/
theorem contained_perform_iff (op : Op) (contained : self.Contained) :
    (self.perform op).Contained ↔ ¬ Spills self.network (self, op) := by
  cases op with
  | subnet subnet =>
    have spills : Spills self.network (self, .subnet subnet) ↔
        self.allocated = [] ∧ Overhangs self.network subnet := by
      simp [Spills]
    rw [spills, perform, allocateSubnet]
    cases admitted : self.checkSubnet subnet with
    | ok done =>
      obtain ⟨start, rest, free⟩ := (self.checkSubnet_spec subnet).of_ok admitted
      change (self.push subnet).Contained ↔ _
      rw [contained_push_iff start rest free, not_and]
      exact ⟨And.right, fun first => ⟨contained, first⟩⟩
    | error fault =>
      refine ⟨fun _ => ?_, fun _ => contained⟩
      rintro ⟨empty, overhangs⟩
      rcases (self.checkSubnet_spec subnet).of_error admitted with ⟨_, outside⟩ | ⟨_, used⟩
      · exact outside overhangs.2
      · apply used
        rw [Free, empty]
        exact fun used member => absurd member List.not_mem_nil
  | length bits =>
    have dry : ¬ Spills self.network (self, .length bits) := by
      rintro ⟨_, subnet, offered, _⟩
      cases offered
    refine ⟨fun _ => dry, fun _ => ?_⟩
    rw [perform]
    by_cases sized : self.network.bits ≤ bits ∧ bits ≤ self.network.address.bitLen
    · rcases allocateSubnetLen_spec sized.1 sized.2 with
        ⟨found, returned, candidate, _⟩ | ⟨failed, _⟩
      · rw [returned]
        intro used member
        rcases List.mem_append.mp member with old | new
        · exact contained used old
        · rw [List.mem_singleton.mp new]
          exact candidate.inside
      · rw [failed]
        exact contained
    · rw [allocateSubnetLen, dif_neg sized]
      exact contained

theorem apart_states (ops : List Op) (apart : self.Apart) : ∀ state ∈ self.states ops,
    state.Apart := by
  induction ops generalizing self with
  | nil =>
    intro state member
    rw [List.mem_singleton.mp member]
    exact apart
  | cons op ops ih =>
    intro state member
    rcases List.mem_cons.mp member with rfl | later
    · exact apart
    · exact ih (apart.perform op) state later

theorem network_of_mem_states (ops : List Op) : ∀ state ∈ self.states ops,
    state.network = self.network := by
  induction ops generalizing self with
  | nil =>
    intro state member
    rw [List.mem_singleton.mp member]
  | cons op ops ih =>
    intro state member
    rcases List.mem_cons.mp member with rfl | later
    · rfl
    · rw [ih state later, network_perform]

/-- A run keeps the allocated subnets in the network exactly when none of its calls spills. -/
theorem contained_states_iff (ops : List Op) : (∀ state ∈ self.states ops, state.Contained) ↔
    self.Contained ∧ ∀ step ∈ self.steps ops, ¬ Spills self.network step := by
  induction ops generalizing self with
  | nil => simp [states, steps]
  | cons op ops ih =>
    rw [states, steps, List.forall_mem_cons, List.forall_mem_cons, ih, network_perform]
    constructor
    · rintro ⟨contained, after, later⟩
      exact ⟨contained, (contained_perform_iff op contained).mp after, later⟩
    · rintro ⟨contained, dry, later⟩
      exact ⟨contained, (contained_perform_iff op contained).mpr dry, later⟩

theorem new_spec (network : IpPrefix) : Ends (Ipam.new network)
    (fun ipam => ipam.network = network.base ∧ ipam.allocated = [])
    (fun fault => fault = .error .invalidNetwork ∧ network.bits = 0) := by
  unfold Ipam.new
  split_ifs with zero
  · exact ⟨rfl, zero⟩
  · split
    · next start returned =>
      rw [IpPrefix.masked_eq] at returned
      cases returned
      exact ⟨rfl, rfl⟩
    · next fault returned =>
      rw [IpPrefix.masked_eq] at returned
      cases returned

/-- The allocator `with_allocated` makes of subnets it accepts. -/
structure Started (network : IpPrefix) (subnets : List IpPrefix) (ipam : Ipam) : Prop where
  network_eq : ipam.network = network.base
  allocated_eq : ipam.allocated = subnets
  apart : ipam.Apart
  contained_iff : ipam.Contained ↔ ∀ subnet ∈ subnets.head?, ¬ Overhangs network subnet

/-- An allocator starts with disjoint subnets of its network. -/
theorem withAllocated_spec (network : IpPrefix) (subnets : List IpPrefix) :
    Ends (Ipam.withAllocated network subnets) (Started network subnets)
      (fun _ => network.bits = 0 ∨ ∃ before subnet after, subnets = before ++ subnet :: after ∧
        (¬ (subnet.address ∈ network.range ∧ subnet.last ∈ network.range) ∨
          ∃ used ∈ before, ¬ Disjoint used.range subnet.range)) := by
  refine (new_spec network).seq (fun _ zero => .inl zero.2) fun start ⟨named, empty⟩ => ?_
  refine Ends.foldlM (Started network) ?_ ?_
  · refine ⟨named, empty, ?_, ?_⟩
    · rw [Apart, empty]
      exact List.Pairwise.nil
    · simp [Contained, empty]
  · rintro done subnet rest ipam split ⟨same, listed, apart, contained⟩
    have range : ipam.network.range = network.range := by rw [same, IpPrefix.range_base]
    have overhangs : Overhangs ipam.network subnet ↔ Overhangs network subnet := by
      rw [Overhangs, range, same]
      rfl
    have spec := ipam.checkSubnet_spec subnet
    unfold allocateSubnet
    cases admitted : ipam.checkSubnet subnet with
    | ok finished =>
      obtain ⟨inside, last, free⟩ := spec.of_ok admitted
      refine ⟨same, by simp [Ipam.push, listed], apart.push free, ?_⟩
      rw [contained_push_iff inside last free, overhangs, contained, listed]
      cases done with
      | nil => simp
      | cons first done => simp
    | error fault =>
      have refused := spec.of_error admitted
      rw [range] at refused
      have reason : ¬ (subnet.address ∈ network.range ∧ subnet.last ∈ network.range) ∨
          ∃ used ∈ done, ¬ Disjoint used.range subnet.range := by
        rcases refused with ⟨_, outside⟩ | ⟨_, used⟩
        · exact .inl outside
        · right
          simpa [Free, listed] using used
      cases fault <;> exact .inr ⟨done, subnet, rest, split, reason⟩

end Containment

/-- Whatever is called, allocated subnets share no address. They lie in the network exactly when no
prefix wider than it, with its address and its last address in it, is offered to an empty
allocator. -/
theorem allocated_contained_iff (network : IpPrefix) (subnets : List IpPrefix) (ipam : Ipam)
    (ops : List Op) (started : Ipam.withAllocated network subnets = .ok ipam) :
    (∀ state ∈ ipam.states ops,
      state.allocated.Pairwise fun left right => Disjoint left.range right.range) ∧
    ((∀ state ∈ ipam.states ops, ∀ subnet ∈ state.allocated, subnet.range ⊆ network.range) ↔
      (∀ subnet ∈ subnets.head?, ¬ Overhangs network subnet) ∧
        ∀ step ∈ ipam.steps ops, ¬ Spills network step) := by
  have start := (withAllocated_spec network subnets).of_ok started
  have range : ipam.network.range = network.range := by
    rw [start.network_eq, IpPrefix.range_base]
  have spills : ∀ step, Spills ipam.network step ↔ Spills network step := by
    intro step
    simp only [Spills, Overhangs, start.network_eq, IpPrefix.bits_base, IpPrefix.range_base]
  have networks : ∀ state ∈ ipam.states ops, state.network = ipam.network :=
    network_of_mem_states ops
  have contained : (∀ state ∈ ipam.states ops, state.Contained) ↔ _ := contained_states_iff ops
  refine ⟨apart_states ops start.apart, ?_⟩
  rw [start.contained_iff] at contained
  simp only [spills] at contained
  rw [← contained]
  refine forall₂_congr fun state member => ?_
  rw [Contained, networks state member, range]

theorem allocated_contained_iff_sample : ∃ ipam,
    Ipam.withAllocated Sample.network Sample.ipam.allocated = .ok ipam ∧
      ∀ state ∈ ipam.states [.length 24, .subnet Sample.network],
        (state.allocated.Pairwise fun left right => Disjoint left.range right.range) ∧
          ∀ subnet ∈ state.allocated, subnet.range ⊆ Sample.network.range := by
  have run : (Ipam.withAllocated Sample.network Sample.ipam.allocated).toOption.map
      (fun ipam => (ipam.steps [.length 24, .subnet Sample.network]).all
        (fun step => step.1.allocated ≠ [])) = some true := by decide +kernel
  obtain ⟨ipam, started, busy⟩ := exists_ok_of_toOption run
  obtain ⟨apart, contained⟩ := allocated_contained_iff Sample.network _ ipam
    [.length 24, .subnet Sample.network] started
  refine ⟨ipam, started, fun state member => ⟨apart state member, contained.mpr ⟨?_, ?_⟩ state
    member⟩⟩
  · intro subnet first overhangs
    cases first
    exact absurd overhangs.1 (by decide)
  · intro step member spills
    have some := List.all_eq_true.mp busy step member
    simp [spills.1] at some

namespace Sample

/-- The network `10.255.0.0/16`, at the upper end of `10.0.0.0/8`. -/
def upperNetwork : IpPrefix := ⟨.v4 0x0aff0000#32, 16, by decide⟩

/-- The prefix `10.255.0.1/8`, whose address and last address are in the network. -/
def wide : IpPrefix := ⟨.v4 0x0aff0001#32, 8, by decide⟩

end Sample

/-- A subnet wider than the network is allocated in it. -/
theorem allocated_not_contained : ∃ ipam,
    Ipam.withAllocated Sample.upperNetwork [Sample.wide] = .ok ipam ∧
      Sample.wide ∈ ipam.allocated ∧ ¬ Sample.wide.range ⊆ Sample.upperNetwork.range := by
  have run : (Ipam.withAllocated Sample.upperNetwork [Sample.wide]).toOption.map
      Ipam.allocated = some [Sample.wide] := by decide +kernel
  obtain ⟨ipam, started, allocated⟩ := exists_ok_of_toOption run
  refine ⟨ipam, started, by simp [allocated], fun inside => ?_⟩
  -- the address `10.0.0.0` is in one and not in the other
  have member : IpAddr.v4 0x0a000000#32 ∈ Sample.wide.range :=
    Sample.wide.contains_iff.mp (by decide)
  have outside : Sample.upperNetwork.contains (.v4 0x0a000000#32) ≠ true := by decide
  exact outside (Sample.upperNetwork.contains_iff.mpr (inside member))

end Ipam

end Ployz.Cluster
