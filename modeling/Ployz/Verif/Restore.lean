import Ployz.Verif.Ipam

/-!
# Restoring the allocator

After a restart the allocator is rebuilt from the machines' subnets, in whatever order the store
lists them. The order leaves no trace: whether the subnets are accepted is a property of the
collection, and the search only asks whether a block meets some allocated subnet.
-/

namespace Ployz.Cluster.Ipam

open Api

/-- The subnets `with_allocated` can take: inside the network by their ends, and apart. -/
structure Restorable (network : IpPrefix) (subnets : List IpPrefix) : Prop where
  nonzero : network.bits ≠ 0
  inside : ∀ subnet ∈ subnets, subnet.address ∈ network.range ∧ subnet.last ∈ network.range
  apart : subnets.Pairwise fun left right => Disjoint left.range right.range

variable {network : IpPrefix}

theorem Restorable.perm {subnets shuffled : List IpPrefix} (restorable : Restorable network subnets)
    (perm : subnets.Perm shuffled) :
    Restorable network shuffled where
  nonzero := restorable.nonzero
  inside subnet member := restorable.inside subnet (perm.mem_iff.mpr member)
  apart := (perm.pairwise_iff fun disjoint => disjoint.symm).mp restorable.apart

/-- The allocator when `with_allocated` has taken the subnets of `done`. -/
structure Restored (network : IpPrefix) (done : List IpPrefix) (ipam : Ipam) : Prop where
  network_eq : ipam.network = network.base
  allocated_eq : ipam.allocated = done
  restorable : Restorable network done

/-- The refusal of `with_allocated`. -/
def Refuses (network : IpPrefix) (subnets : List IpPrefix) (fault : Fault IpPrefixError) : Prop :=
  (∃ error, fault = .error error) ∧ ¬ Restorable network subnets

/-- The allocated subnets are restored, or refused. -/
theorem withAllocated_restores (network : IpPrefix) (subnets : List IpPrefix) :
    Ends (withAllocated network subnets) (Restored network subnets)
      (Refuses network subnets) := by
  apply (new_spec network).seq
  · rintro _ ⟨rfl, zero⟩
    exact ⟨⟨_, rfl⟩, fun restorable => restorable.nonzero zero⟩
  · intro start created
    have named : start.network = network.base := created.1
    have sized : network.bits ≠ 0 := by
      have nonzero := start.nonzero
      rwa [named] at nonzero
    apply Ends.foldlM (Restored network)
    · exact ⟨named, created.2, sized, fun _ member => absurd member List.not_mem_nil, .nil⟩
    · intro done subnet rest ipam split restored
      have range : ipam.network.range = network.range := by
        rw [restored.network_eq, IpPrefix.range_base]
      have spec := ipam.checkSubnet_spec subnet
      rw [range] at spec
      unfold allocateSubnet
      cases admitted : ipam.checkSubnet subnet with
      | ok finished =>
        have ⟨first, last, free⟩ := spec.of_ok admitted
        rw [Free, restored.allocated_eq] at free
        have listed : (ipam.push subnet).allocated = done ++ [subnet] := by
          rw [push, restored.allocated_eq]
        refine ⟨restored.network_eq, listed, sized, ?_, ?_⟩
        · intro other member
          rcases List.mem_append.mp member with old | new
          · exact restored.restorable.inside other old
          · rw [List.mem_singleton.mp new]
            exact ⟨first, last⟩
        · apply List.pairwise_append.mpr
          refine ⟨restored.restorable.apart, List.pairwise_singleton _ _, ?_⟩
          intro used member other new
          rw [List.mem_singleton.mp new]
          exact free used member
      | error fault =>
        -- whichever check failed, the whole list is refused
        have member : subnet ∈ subnets := by simp [split]
        have blocked : ¬ Restorable network subnets := by
          intro restorable
          rcases spec.of_error admitted with ⟨_, outside⟩ | ⟨_, used⟩
          · exact outside (restorable.inside subnet member)
          · apply used
            rw [Free, restored.allocated_eq]
            intro other before
            have apart := restorable.apart
            rw [split] at apart
            exact (List.pairwise_append.mp apart).2.2 other before subnet (by simp)
        rcases spec.of_error admitted with ⟨rfl, _⟩ | ⟨rfl, _⟩ <;>
          exact ⟨⟨_, rfl⟩, blocked⟩

/-- Two allocators of one network with the same subnets, in any order. -/
structure Alike (left right : Ipam) : Prop where
  network_eq : left.network = right.network
  perm : left.allocated.Perm right.allocated

namespace Alike

variable {left right : Ipam} (alike : Alike left right)

include alike

theorem free_iff (subnet : IpPrefix) : left.Free subnet ↔ right.Free subnet := by
  simp only [Free, alike.perm.mem_iff]

theorem push (subnet : IpPrefix) : Alike (left.push subnet) (right.push subnet) :=
  ⟨alike.network_eq, alike.perm.append_right [subnet]⟩

theorem examine_eq (subnet : IpPrefix) : left.examine subnet = right.examine subnet := by
  by_cases free : left.Free subnet
  · have free' := (alike.free_iff subnet).mp free
    rw [examine_of_free free, examine_of_free free']
  · have used' : ¬ right.Free subnet := fun free' => free ((alike.free_iff subnet).mpr free')
    rw [examine_of_used free, examine_of_used used']

theorem probe_eq (bits : Nat) (valid : bits ≤ left.network.address.bitLen)
    (valid' : bits ≤ right.network.address.bitLen) (address : IpAddr) :
    left.probe bits valid address = right.probe bits valid' address := by
  unfold probe
  by_cases inside : left.network.contains address = true
  · have inside' : right.network.contains address = true := alike.network_eq ▸ inside
    rw [dif_pos inside, dif_pos inside']
    exact alike.examine_eq _
  · have outside' : ¬ right.network.contains address = true := alike.network_eq ▸ inside
    rw [dif_neg inside, dif_neg outside']

theorem search_eq (bits : Nat) (valid : bits ≤ left.network.address.bitLen)
    (valid' : bits ≤ right.network.address.bitLen) (address : IpAddr) :
    left.search bits valid address = right.search bits valid' address := by
  have same := alike.probe_eq bits valid valid'
  -- along the loop of the left allocator
  induction address using search.induct left bits valid with
  | case1 address subnet step =>
    rw [search_of_found valid step, search_of_found valid' (same address ▸ step)]
  | case2 address following step ih =>
    rw [search_of_next valid step, search_of_next valid' (same address ▸ step), ih]
  | case3 address fault step =>
    rw [search_of_error valid step, search_of_error valid' (same address ▸ step)]

theorem checkSubnet_eq (subnet : IpPrefix) :
    left.checkSubnet subnet = right.checkSubnet subnet := by
  have meets : left.allocated.anyM (·.overlaps subnet) =
      right.allocated.anyM (·.overlaps subnet) := by
    rw [anyM_overlaps, anyM_overlaps, decide_eq_decide.mpr (not_congr (alike.free_iff subnet))]
  unfold checkSubnet
  rw [meets, alike.network_eq]

end Alike

/-- What a call returns: `allocate_subnet_len` the subnet it found, `allocate_subnet` nothing. -/
def reply (self : Ipam) : Op → Exec IpPrefixError (Option IpPrefix)
  | .subnet subnet => (self.allocateSubnet subnet).1.map fun _ => none
  | .length bits => (self.allocateSubnetLen bits).1.map some

/-- What the calls of a run return. -/
def replies : Ipam → List Op → List (Exec IpPrefixError (Option IpPrefix))
  | _, [] => []
  | self, op :: ops => self.reply op :: replies (self.perform op) ops

namespace Alike

variable {left right : Ipam}

/-- A call returns the same, and leaves allocators that are alike. -/
theorem step (alike : Alike left right) (op : Op) :
    left.reply op = right.reply op ∧ Alike (left.perform op) (right.perform op) := by
  cases op with
  | subnet subnet =>
    simp only [reply, perform, allocateSubnet, alike.checkSubnet_eq subnet]
    cases right.checkSubnet subnet with
    | ok finished => exact ⟨rfl, alike.push subnet⟩
    | error fault => exact ⟨rfl, alike⟩
  | length bits =>
    simp only [reply, perform, allocateSubnetLen]
    by_cases sized : left.network.bits ≤ bits ∧ bits ≤ left.network.address.bitLen
    · have sized' : right.network.bits ≤ bits ∧ bits ≤ right.network.address.bitLen :=
        alike.network_eq ▸ sized
      have start : left.network.address = right.network.address := by rw [alike.network_eq]
      rw [dif_pos sized, dif_pos sized', alike.search_eq bits sized.2 sized'.2, start]
      cases right.search bits sized'.2 right.network.address with
      | ok subnet => exact ⟨rfl, alike.push subnet⟩
      | error fault => exact ⟨rfl, alike⟩
    · have sized' : ¬ (right.network.bits ≤ bits ∧ bits ≤ right.network.address.bitLen) :=
        alike.network_eq ▸ sized
      rw [dif_neg sized, dif_neg sized']
      exact ⟨rfl, alike⟩

theorem replies_eq (alike : Alike left right) (ops : List Op) :
    left.replies ops = right.replies ops := by
  induction ops generalizing left right with
  | nil => rfl
  | cons op ops ih =>
    have ⟨same, after⟩ := alike.step op
    rw [replies, replies, same, ih after]

end Alike

/-- Restoring the allocator does not depend on the order of the subnets: both orders are accepted
or both refused, always with an error, and the allocators answer every later run of calls, of
`allocate_subnet_len` with any lengths among them, the same. -/
theorem with_allocated_order_free (network : IpPrefix) (subnets shuffled : List IpPrefix)
    (perm : subnets.Perm shuffled) :
    ((∃ ipam, withAllocated network subnets = .ok ipam) ↔
      ∃ ipam, withAllocated network shuffled = .ok ipam) ∧
    ((∃ error, withAllocated network subnets = .error (.error error)) ↔
      ∃ error, withAllocated network shuffled = .error (.error error)) ∧
    ∀ left right, withAllocated network subnets = .ok left →
      withAllocated network shuffled = .ok right →
      ∀ ops, left.replies ops = right.replies ops := by
  have one := withAllocated_restores network subnets
  have two := withAllocated_restores network shuffled
  cases first : withAllocated network subnets with
  | ok left =>
    have restored := one.of_ok first
    cases second : withAllocated network shuffled with
    | ok right =>
      have restored' := two.of_ok second
      have alike : Alike left right := by
        constructor
        · rw [restored.network_eq, restored'.network_eq]
        · rw [restored.allocated_eq, restored'.allocated_eq]
          exact perm
      refine ⟨by simp, by simp, ?_⟩
      rintro _ _ ⟨⟩ ⟨⟩
      exact alike.replies_eq
    | error fault =>
      exact absurd (restored.restorable.perm perm) (two.of_error second).2
  | error fault =>
    have ⟨⟨error, shape⟩, refused⟩ := one.of_error first
    cases second : withAllocated network shuffled with
    | ok right =>
      exact absurd ((two.of_ok second).restorable.perm perm.symm) refused
    | error fault' =>
      have ⟨⟨error', shape'⟩, _⟩ := two.of_error second
      simp [shape, shape']

namespace Sample

/-- Subnets of three lengths. -/
def mixed : List IpPrefix :=
  ipam.allocated ++ [⟨.v4 0x0ad20400#32, 24, by decide⟩, ⟨.v4 0x0ad20380#32, 25, by decide⟩]

end Sample

theorem with_allocated_order_free_sample : ∃ left right,
    withAllocated Sample.network Sample.mixed = .ok left ∧
    withAllocated Sample.network Sample.mixed.reverse = .ok right ∧
    ∀ ops, left.replies ops = right.replies ops := by
  have started : (withAllocated Sample.network Sample.mixed).toOption.map
      (·.allocated.length) = some 3 := by decide +kernel
  have ⟨left, first, _⟩ := exists_ok_of_toOption started
  have free := with_allocated_order_free Sample.network Sample.mixed Sample.mixed.reverse
    (List.reverse_perm _).symm
  have ⟨right, second⟩ := free.1.mp ⟨left, first⟩
  exact ⟨left, right, first, second, free.2.2 left right first second⟩

theorem Restored.perform {self : Ipam} (restored : Restored network self.allocated self) (op : Op) :
    Restored network (self.perform op).allocated (self.perform op) := by
  have range : self.network.range = network.range := by
    rw [restored.network_eq, IpPrefix.range_base]
  have old := restored.restorable.inside
  refine ⟨(network_perform op).trans restored.network_eq, rfl, restored.restorable.nonzero, ?_,
    Apart.perform restored.restorable.apart op⟩
  cases op with
  | subnet subnet =>
    rw [Ipam.perform, allocateSubnet]
    cases admitted : self.checkSubnet subnet with
    | error fault => exact old
    | ok done =>
      obtain ⟨first, last, _⟩ := (self.checkSubnet_spec subnet).of_ok admitted
      rw [range] at first last
      exact List.forall_mem_append.mpr ⟨old, List.forall_mem_singleton.mpr ⟨first, last⟩⟩
  | length bits =>
    rw [Ipam.perform]
    by_cases sized : self.network.bits ≤ bits ∧ bits ≤ self.network.address.bitLen
    · rcases allocateSubnetLen_spec sized.1 sized.2 with
        ⟨found, returned, candidate, _⟩ | ⟨failed, _⟩
      · have inside := range ▸ candidate.inside
        rw [returned]
        exact List.forall_mem_append.mpr ⟨old, List.forall_mem_singleton.mpr
          ⟨inside found.address_mem_range, inside found.last_mem_range⟩⟩
      · rw [failed]
        exact old
    · rw [allocateSubnetLen, dif_neg sized]
      exact old

theorem restored_states {self : Ipam} (ops : List Op)
    (restored : Restored network self.allocated self) :
    ∀ state ∈ self.states ops, Restored network state.allocated state := by
  induction ops generalizing self with
  | nil => exact List.forall_mem_singleton.mpr restored
  | cons op ops ih => exact List.forall_mem_cons.mpr ⟨restored, ih (restored.perform op)⟩

/-- A restart goes unnoticed: after any run of calls the allocator can be rebuilt from its subnets,
listed in any order, and answers every later run of calls as the old one would have. -/
theorem restart_unnoticed (network : IpPrefix) (subnets : List IpPrefix) (ipam : Ipam)
    (ops : List Op) (started : withAllocated network subnets = .ok ipam) :
    ∀ state ∈ ipam.states ops, ∀ listed, listed.Perm state.allocated →
      ∃ rebuilt, withAllocated network listed = .ok rebuilt ∧
        ∀ later, rebuilt.replies later = state.replies later := by
  intro state member listed perm
  have start := (withAllocated_restores network subnets).of_ok started
  rw [← start.allocated_eq] at start
  have old := restored_states ops start state member
  have spec := withAllocated_restores network listed
  cases outcome : withAllocated network listed with
  | ok rebuilt =>
    have new := spec.of_ok outcome
    rw [← new.allocated_eq] at perm
    exact ⟨rebuilt, rfl, Alike.replies_eq ⟨new.network_eq.trans old.network_eq.symm, perm⟩⟩
  | error fault => exact absurd (old.restorable.perm perm.symm) (spec.of_error outcome).2

theorem restart_unnoticed_sample : ∃ ipam rebuilt,
    withAllocated Sample.network Sample.mixed = .ok ipam ∧
    withAllocated Sample.network (ipam.perform (.length 24)).allocated.reverse = .ok rebuilt ∧
    ∀ later, rebuilt.replies later = (ipam.perform (.length 24)).replies later := by
  have started : (withAllocated Sample.network Sample.mixed).toOption.map
      (·.allocated.length) = some 3 := by decide +kernel
  have ⟨ipam, first, _⟩ := exists_ok_of_toOption started
  have ⟨rebuilt, again, same⟩ := restart_unnoticed _ _ ipam [.length 24] first
    (ipam.perform (.length 24)) (by simp [states]) _ (List.reverse_perm _)
  exact ⟨ipam, rebuilt, first, again, same⟩

end Ployz.Cluster.Ipam
