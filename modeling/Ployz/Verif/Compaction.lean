import Ployz.Base.Laminar
import Ployz.Network.Prefix

/-!
# Compacted prefixes

Prefixes without host bits are a laminar system of blocks of addresses: a prefix is one address or
the union of two siblings. Every round of the loop keeps the addresses of the list and makes it
shorter, and the loop ends with a compact list.
-/

namespace Ployz.Network

open Api Cluster

namespace IpNet

variable {self other net : IpNet} {address : IpAddr}

theorem mem_range_iff : address ∈ self.range ↔
    sameFamily self.address address = true ∧ addressValue self.first ≤ addressValue address ∧
      addressValue address ≤ addressValue self.last := by
  rw [IpPrefix.addressValue_first, IpPrefix.addressValue_last, ← mem_block_iff]
  exact Iff.rfl

/-- `contains` compares ranges. -/
theorem contains_iff : contains self other = true ↔ other.range ⊆ self.range := by
  unfold contains
  rw [Bool.and_eq_true, Bool.and_eq_true, decide_eq_true_iff, decide_eq_true_iff]
  constructor
  · intro ⟨⟨family, first⟩, last⟩ address inside
    have ⟨family', above, below⟩ := mem_range_iff.mp inside
    exact mem_range_iff.mpr ⟨sameFamily_trans family family', by omega, by omega⟩
  · intro subset
    have ⟨family, first, _⟩ := mem_range_iff.mp (subset (IpPrefix.first_mem_range other))
    have ⟨_, _, last⟩ := mem_range_iff.mp (subset (IpPrefix.last_mem_range other))
    refine ⟨⟨sameFamily_trans family ?_, first⟩, last⟩
    rw [sameFamily_comm]
    exact sameFamily_ofValue _ _

/-- Prefixes that share an address are nested, the longer one in the shorter. -/
theorem range_subset_of_meets (left : address ∈ self.range) (right : address ∈ other.range)
    (shorter : self.bits ≤ other.bits) : other.range ⊆ self.range := by
  have family : sameFamily self.address other.address = true := by
    refine sameFamily_trans left.1 ?_
    rw [sameFamily_comm]
    exact right.1
  have smaller : other.host ≤ self.host := by
    have widths := bitLen_eq_of_sameFamily family
    unfold IpPrefix.host
    omega
  apply IpPrefix.range_subset self other shorter
  refine ⟨family, ?_⟩
  apply block_subset smaller left.2
  rw [block_eq_of_mem right.2]
  exact mem_block_self _ _

theorem bits_le_of_subset (subset : other.range ⊆ self.range) : self.bits ≤ other.bits := by
  have ⟨family, first, _⟩ := mem_range_iff.mp (subset (IpPrefix.first_mem_range other))
  have ⟨_, _, last⟩ := mem_range_iff.mp (subset (IpPrefix.last_mem_range other))
  have widths := bitLen_eq_of_sameFamily family
  rw [IpPrefix.first, bitLen_ofValue] at widths
  rw [IpPrefix.addressValue_first, IpPrefix.addressValue_first] at first
  rw [IpPrefix.addressValue_last, IpPrefix.addressValue_last] at last
  unfold blockLast at last
  have positive : 0 < 2 ^ self.host := Nat.two_pow_pos _
  have positive' : 0 < 2 ^ other.host := Nat.two_pow_pos _
  have powers : 2 ^ other.host ≤ 2 ^ self.host := by omega
  have hosts : other.host ≤ self.host := (Nat.pow_le_pow_iff_right (by decide)).mp powers
  have fits := self.fits
  have fits' := other.fits
  unfold IpPrefix.host at hosts
  omega

theorem eq_of_range_eq (aligned : self.Aligned) (aligned' : other.Aligned)
    (same : self.range = other.range) : self = other := by
  have bits : self.bits = other.bits :=
    Nat.le_antisymm (bits_le_of_subset same.ge) (bits_le_of_subset same.le)
  have ⟨family, first, _⟩ := mem_range_iff.mp (same ▸ IpPrefix.first_mem_range other)
  have ⟨_, first', _⟩ := mem_range_iff.mp (same ▸ IpPrefix.first_mem_range self)
  have firsts : self.first = other.first := by
    apply eq_of_addressValue (sameFamily_trans _ family) (Nat.le_antisymm first first')
    rw [sameFamily_comm]
    exact sameFamily_ofValue _ _
  rw [← aligned.base_eq, ← aligned'.base_eq]
  unfold IpPrefix.base
  simp only [IpPrefix.mk.injEq]
  exact ⟨firsts, bits⟩

theorem exists_supernet (some : self.bits ≠ 0) : ∃ parent, supernet self = .some parent := by
  unfold supernet
  rw [if_neg some]
  exact ⟨_, rfl⟩

variable {parent : IpNet}

theorem supernet_eq_some (found : supernet self = some parent) :
    parent.Aligned ∧ parent.bits + 1 = self.bits ∧ self.range ⊆ parent.range := by
  unfold supernet at found
  split_ifs at found with zero
  rw [← Option.some.inj found]
  refine ⟨IpPrefix.aligned_base _, ?_, ?_⟩
  · show self.bits - 1 + 1 = self.bits
    omega
  · show self.range ⊆ (IpPrefix.base _).range
    rw [IpPrefix.range_base]
    apply IpPrefix.range_subset
    · exact Nat.sub_le _ _
    · exact IpPrefix.address_mem_range _

theorem isSibling_iff : isSibling self other = true ↔
    self.bits = other.bits ∧ ∃ parent, supernet self = some parent ∧ other.range ⊆ parent.range := by
  unfold isSibling
  rw [Bool.and_eq_true, Bool.and_eq_true, decide_eq_true_iff, Option.any_eq_true]
  constructor
  · intro ⟨⟨_, same⟩, parent, found, holds⟩
    exact ⟨same, parent, found, contains_iff.mp holds⟩
  · intro ⟨same, parent, found, holds⟩
    have ⟨_, _, inside⟩ := supernet_eq_some found
    refine ⟨⟨?_, same⟩, parent, found, contains_iff.mpr holds⟩
    have first := (inside (IpPrefix.address_mem_range self)).1
    have second := (holds (IpPrefix.address_mem_range other)).1
    rw [sameFamily_comm] at first
    exact sameFamily_trans first second

theorem isSibling_symm (siblings : isSibling self other = true) :
    isSibling other self = true := by
  have ⟨same, parent, found, holds⟩ := isSibling_iff.mp siblings
  have ⟨aligned, shorter, inside⟩ := supernet_eq_some found
  have ⟨parent', found'⟩ := exists_supernet (by omega : other.bits ≠ 0)
  have ⟨aligned', shorter', inside'⟩ := supernet_eq_some found'
  refine isSibling_iff.mpr ⟨same.symm, parent', found', inside.trans ?_⟩
  have member := IpPrefix.address_mem_range other
  exact range_subset_of_meets (inside' member) (holds member) (by omega)

theorem range_supernet (siblings : isSibling self other = true)
    (found : supernet self = some parent) (aligned : self.Aligned) (aligned' : other.Aligned)
    (differs : self ≠ other) : parent.range = self.range ∪ other.range := by
  have ⟨same, _, found', holds⟩ := isSibling_iff.mp siblings
  cases Option.some.inj (found.symm.trans found')
  have ⟨_, shorter, inside⟩ := supernet_eq_some found
  have here := inside (IpPrefix.address_mem_range self)
  have there := holds (IpPrefix.address_mem_range other)
  have family : sameFamily self.address other.address = true := by
    refine sameFamily_trans ?_ there.1
    rw [sameFamily_comm]
    exact here.1
  have host : parent.host = self.host + 1 := by
    have widths := bitLen_eq_of_sameFamily here.1
    have fits := self.fits
    unfold IpPrefix.host
    omega
  have host' : other.host = self.host := by
    have widths := bitLen_eq_of_sameFamily family
    unfold IpPrefix.host
    omega
  have apart : addressValue other.address ∉ block self.host (addressValue self.address) := by
    intro member
    apply differs
    apply eq_of_range_eq aligned aligned'
    exact (IpPrefix.range_eq_of_mem same ⟨family, member⟩).symm
  have halves := block_succ_eq_union (host ▸ block_eq_of_mem here.2 ▸ there.2) apart
  have whole : block parent.host (addressValue parent.address) =
      block self.host (addressValue self.address) ∪ block other.host (addressValue other.address) := by
    rw [← block_eq_of_mem here.2, host, host']
    exact halves
  ext address
  constructor
  · intro ⟨family', member⟩
    rw [whole] at member
    rcases member with left | right
    · left
      refine ⟨sameFamily_trans ?_ family', left⟩
      rw [sameFamily_comm]
      exact here.1
    · right
      refine ⟨sameFamily_trans ?_ family', right⟩
      rw [sameFamily_comm]
      exact there.1
  · rintro (left | right)
    · exact inside left
    · exact holds right

/-- The half of a prefix that starts with a bit more. -/
def half (self : IpNet) (longer : self.bits < self.address.bitLen) (value : Nat) : IpNet where
  address := ofValue self.address value
  bits := self.bits + 1
  fits := by
    rw [bitLen_ofValue]
    exact longer

section Half

variable (longer : self.bits < self.address.bitLen) {value : Nat}

theorem host_half : (half self longer value).host + 1 = self.host := by
  show (ofValue self.address value).bitLen - (self.bits + 1) + 1 = self.address.bitLen - self.bits
  rw [bitLen_ofValue]
  omega

theorem range_half (inside : value ∈ block self.host (addressValue self.address)) :
    addressValue (half self longer value).address = value ∧
      (half self longer value).range ⊆ self.range := by
  have below : value < 2 ^ self.address.bitLen := by
    have last := (mem_block_iff.mp inside).2
    have bound := IpPrefix.blockLast_lt self
    omega
  have same : addressValue (half self longer value).address = value := addressValue_ofValue below
  refine ⟨same, ?_⟩
  apply IpPrefix.range_subset
  · exact Nat.le_succ _
  · refine ⟨sameFamily_ofValue _ _, ?_⟩
    rw [same]
    exact inside

end Half

/-- A prefix that is no single address has two halves, which are siblings. -/
theorem exists_halves (aligned : self.Aligned) (longer : self.bits < self.address.bitLen) :
    ∃ left right : IpNet, left.Aligned ∧ right.Aligned ∧ isSibling left right = true ∧
      self.range = left.range ∪ right.range ∧ left.host < self.host ∧ right.host < self.host := by
  have hosts : ∀ value, (half self longer value).host + 1 = self.host :=
    fun value => host_half longer
  have size : 2 ^ self.host = 2 ^ (self.host - 1) * 2 := by
    rw [← pow_succ, Nat.sub_add_cancel (by have := hosts 0; omega)]
  have start : addressValue self.address ∈ block self.host (addressValue self.address) :=
    mem_block_self _ _
  have middle : addressValue self.address + 2 ^ (self.host - 1) ∈
      block self.host (addressValue self.address) := by
    have positive : 0 < 2 ^ (self.host - 1) := Nat.two_pow_pos _
    rw [mem_block_iff]
    unfold blockLast
    rw [blockFirst_of_dvd aligned]
    omega
  have ⟨leftValue, leftInside⟩ := range_half longer start
  have ⟨rightValue, rightInside⟩ := range_half longer middle
  have divides : 2 ^ (self.host - 1) ∣ addressValue self.address :=
    (Nat.pow_dvd_pow 2 (Nat.sub_le _ _)).trans aligned
  have smaller : ∀ value, (half self longer value).host = self.host - 1 := by
    intro value
    have := hosts value
    omega
  have leftAligned : (half self longer (addressValue self.address)).Aligned := by
    unfold IpPrefix.Aligned
    rw [leftValue, smaller]
    exact divides
  have rightAligned :
      (half self longer (addressValue self.address + 2 ^ (self.host - 1))).Aligned := by
    unfold IpPrefix.Aligned
    rw [rightValue, smaller]
    exact divides.add (dvd_refl _)
  have differs : half self longer (addressValue self.address) ≠
      half self longer (addressValue self.address + 2 ^ (self.host - 1)) := by
    intro same
    have positive : 0 < 2 ^ (self.host - 1) := Nat.two_pow_pos _
    have values := congrArg (fun net : IpNet => addressValue net.address) same
    omega
  have ⟨parent, found⟩ : ∃ parent,
      supernet (half self longer (addressValue self.address)) = some parent :=
    exists_supernet (Nat.succ_ne_zero _)
  have ⟨parentAligned, shorter, inside⟩ := supernet_eq_some found
  have bits : parent.bits = self.bits := Nat.succ.inj shorter
  have member := IpPrefix.address_mem_range (half self longer (addressValue self.address))
  have same : parent = self := by
    apply eq_of_range_eq parentAligned aligned
    apply Set.Subset.antisymm
    · exact range_subset_of_meets (leftInside member) (inside member) bits.ge
    · exact range_subset_of_meets (inside member) (leftInside member) bits.le
  rw [same] at found
  have siblings : isSibling (half self longer (addressValue self.address))
      (half self longer (addressValue self.address + 2 ^ (self.host - 1))) = true :=
    isSibling_iff.mpr ⟨rfl, self, found, rightInside⟩
  have whole := range_supernet siblings found leftAligned rightAligned differs
  have low := hosts (addressValue self.address)
  have high := hosts (addressValue self.address + 2 ^ (self.host - 1))
  exact ⟨_, _, leftAligned, rightAligned, siblings, whole, by omega, by omega⟩

theorem laminar : Laminar IpPrefix.Aligned IpPrefix.range
    (fun left right : IpNet => isSibling left right = true) IpPrefix.host where
  nonempty _ := ⟨_, IpPrefix.address_mem_range _⟩
  injective := eq_of_range_eq
  nested := by
    intro a b _ _ ⟨address, left, right⟩
    rcases Nat.le_total a.bits b.bits with shorter | shorter
    · exact .inr (range_subset_of_meets left right shorter)
    · exact .inl (range_subset_of_meets right left shorter)
  split := by
    intro a aligned
    by_cases longer : a.bits < a.address.bitLen
    · exact .inr (exists_halves aligned longer)
    · left
      have host : a.host = 0 := by
        unfold IpPrefix.host
        omega
      refine ⟨a.address, ?_⟩
      ext address
      constructor
      · intro ⟨family, member⟩
        rw [host] at member
        have same : addressValue address / 1 = addressValue a.address / 1 := member
        rw [Nat.div_one, Nat.div_one] at same
        exact (eq_of_addressValue family same.symm).symm
      · intro same
        rw [Set.mem_singleton_iff.mp same]
        exact IpPrefix.address_mem_range a

theorem eq_of_sortKey (same : sortKey self = sortKey other) : self = other := by
  unfold sortKey at same
  have ⟨families, rest⟩ := Prod.mk.inj (toLex_inj.mp same)
  have ⟨values, bits⟩ := Prod.mk.inj (toLex_inj.mp rest)
  have family : sameFamily self.address other.address = true := by
    cases left : self.address <;> cases right : other.address <;>
      rw [left, right] at families <;> first | rfl | exact nomatch families
  have addresses := eq_of_addressValue family values
  cases self
  cases other
  cases addresses
  cases bits
  rfl

end IpNet

section Lists

variable {nets others : List IpNet} {net left : IpNet}

/-- The prefixes are in strictly increasing order. -/
def Ordered (nets : List IpNet) : Prop :=
  nets.Pairwise fun left right => IpNet.sortKey left < IpNet.sortKey right

theorem Ordered.nodup (ordered : Ordered nets) : nets.Nodup := by
  apply ordered.imp
  intro left right before same
  rw [same] at before
  exact lt_irrefl _ before

theorem mem_dedup : net ∈ dedup nets ↔ net ∈ nets := by
  fun_induction dedup nets with
  | case1 => rfl
  | case2 => rfl
  | case3 first rest ih =>
    rw [ih]
    simp
  | case4 first next rest differs ih => rw [List.mem_cons, ih, ← List.mem_cons]

theorem length_dedup_le (nets : List IpNet) : (dedup nets).length ≤ nets.length := by
  fun_induction dedup nets with
  | case1 => exact le_rfl
  | case2 => exact le_rfl
  | case3 first rest ih => exact ih.trans (Nat.le_succ _)
  | case4 first next rest differs ih => exact Nat.succ_le_succ ih

theorem ordered_dedup
    (sorted : nets.Pairwise fun left right => IpNet.sortKey left ≤ IpNet.sortKey right) :
    Ordered (dedup nets) := by
  fun_induction dedup nets with
  | case1 => exact List.Pairwise.nil
  | case2 net => exact List.pairwise_singleton _ net
  | case3 first rest ih => exact ih sorted.of_cons
  | case4 first next rest differs ih =>
    refine List.Pairwise.cons ?_ (ih sorted.of_cons)
    intro later member
    have least := List.rel_of_pairwise_cons sorted List.mem_cons_self
    have strict : IpNet.sortKey first < IpNet.sortKey next :=
      lt_of_le_of_ne least fun same => differs (IpNet.eq_of_sortKey same)
    rcases List.mem_cons.mp (mem_dedup.mp member) with same | further
    · rw [same]
      exact strict
    · exact strict.trans_le (List.rel_of_pairwise_cons sorted.of_cons further)

theorem mem_arrange : net ∈ arrange nets ↔ net ∈ nets := by
  unfold arrange
  rw [mem_dedup, List.mem_insertionSort]

theorem length_arrange_le (nets : List IpNet) : (arrange nets).length ≤ nets.length := by
  unfold arrange
  have fewer := length_dedup_le
    (nets.insertionSort fun left right => IpNet.sortKey left ≤ IpNet.sortKey right)
  rw [List.length_insertionSort] at fewer
  exact fewer

theorem ordered_arrange (nets : List IpNet) : Ordered (arrange nets) := by
  have total : Std.Total fun left right => IpNet.sortKey left ≤ IpNet.sortKey right :=
    ⟨fun left right => le_total _ _⟩
  have transitive : IsTrans IpNet fun left right => IpNet.sortKey left ≤ IpNet.sortKey right :=
    ⟨fun first second third => le_trans⟩
  unfold arrange
  apply ordered_dedup
  exact List.pairwise_insertionSort _ nets

theorem exists_keeper (aligned : ∀ net ∈ nets, net.Aligned) (member : net ∈ nets) :
    ∃ keeper ∈ nets.filter (fun net => !contained nets net), net.range ⊆ keeper.range := by
  generalize size : net.bits = bound
  induction bound using Nat.strong_induction_on generalizing net with
  | _ bound ih =>
    cases free : contained nets net with
    | false =>
      refine ⟨net, List.mem_filter.mpr ⟨member, ?_⟩, subset_rfl⟩
      rw [free]
      rfl
    | true =>
      have ⟨other, member', holds⟩ := List.any_eq_true.mp free
      have ⟨differs, contains⟩ := Bool.and_eq_true_iff.mp holds
      have subset := IpNet.contains_iff.mp contains
      have shorter : other.bits < net.bits := by
        have least := IpNet.bits_le_of_subset subset
        apply lt_of_le_of_ne least
        intro same
        apply bne_iff_ne.mp differs
        apply IpNet.eq_of_range_eq (aligned other member') (aligned net member)
        apply Set.Subset.antisymm _ subset
        have inside := IpPrefix.address_mem_range net
        exact IpNet.range_subset_of_meets inside (subset inside) same.ge
      have ⟨keeper, kept, more⟩ := ih other.bits (size ▸ shorter) member' rfl
      exact ⟨keeper, kept, subset.trans more⟩

theorem siblingPair_eq_some (found : siblingPair nets = some (left, others)) :
    ∃ right, IpNet.isSibling left right = true ∧ nets.Perm (left :: right :: others) := by
  induction nets generalizing others with
  | nil => exact nomatch found
  | cons first nets ih =>
    unfold siblingPair at found
    split at found
    · next right position =>
      cases found
      have ⟨inside, siblings, _⟩ := List.findIdx?_eq_some_iff_getElem.mp position
      refine ⟨nets[right], siblings, .cons _ ?_⟩
      exact (List.getElem_cons_eraseIdx_perm inside).symm
    · have ⟨⟨found', rest⟩, later, same⟩ := Option.map_eq_some_iff.mp found
      cases same
      have ⟨right, siblings, perm⟩ := ih later
      refine ⟨right, siblings, (perm.cons first).trans ?_⟩
      exact (List.Perm.swap _ _ _).trans (.cons _ (.swap _ _ _))

theorem siblingPair_eq_none (absent : siblingPair nets = none) :
    nets.Pairwise fun left right => IpNet.isSibling left right = false := by
  induction nets with
  | nil => exact List.Pairwise.nil
  | cons first nets ih =>
    unfold siblingPair at absent
    split at absent
    · exact nomatch absent
    · next none =>
      exact .cons (List.findIdx?_eq_none_iff.mp none) (ih (Option.map_eq_none_iff.mp absent))

end Lists

/-- A compact list of prefixes. -/
def Compacted (nets : List IpNet) : Prop :=
  Compact IpPrefix.Aligned IpPrefix.range (fun left right => IpNet.isSibling left right = true) nets

/-- The addresses of a list of prefixes. -/
def addresses (nets : List IpNet) : Set IpAddr := covered IpPrefix.range nets

section Loop

variable {nets next : List IpNet}

theorem addresses_arrange (nets : List IpNet) : addresses (arrange nets) = addresses nets := by
  ext address
  simp only [addresses, mem_covered, mem_arrange]

/-- A round that goes on covers the same addresses with fewer prefixes. -/
theorem round_eq_again (aligned : ∀ net ∈ nets, net.Aligned) (goesOn : round nets = .again next) :
    (∀ net ∈ next, net.Aligned) ∧ addresses next = addresses nets ∧ next.length < nets.length := by
  have aligned' : ∀ net ∈ arrange nets, net.Aligned :=
    fun net member => aligned net (mem_arrange.mp member)
  have fewer := length_arrange_le nets
  have distinct := (ordered_arrange nets).nodup
  rw [← addresses_arrange nets]
  unfold round at goesOn
  dsimp only at goesOn
  generalize arrange nets = nets at *
  split_ifs at goesOn with some
  · cases goesOn
    refine ⟨fun net member => aligned' net (List.mem_filter.mp member).1, ?_, ?_⟩
    · apply Set.Subset.antisymm
      · intro address ⟨net, member, inside⟩
        exact ⟨net, (List.mem_filter.mp member).1, inside⟩
      · intro address ⟨net, member, inside⟩
        have ⟨keeper, kept, holds⟩ := exists_keeper aligned' member
        exact ⟨keeper, kept, holds inside⟩
    · have ⟨net, member, held⟩ := List.any_eq_true.mp some
      apply lt_of_lt_of_le _ fewer
      apply List.length_filter_lt_length_iff_exists.mpr
      refine ⟨net, member, ?_⟩
      rw [held]
      exact Bool.false_ne_true
  · split at goesOn
    · exact nomatch goesOn
    · next left others found =>
      cases goesOn
      have ⟨right, siblings, perm⟩ := siblingPair_eq_some found
      have ⟨_, parent, found', _⟩ := IpNet.isSibling_iff.mp siblings
      have ⟨parentAligned, _, _⟩ := IpNet.supernet_eq_some found'
      have member : ∀ net ∈ left :: right :: others, net ∈ nets :=
        fun net here => perm.mem_iff.mpr here
      have differs : left ≠ right := by
        intro same
        have apart := (List.nodup_cons.mp (perm.nodup_iff.mp distinct)).1
        rw [same] at apart
        exact apart List.mem_cons_self
      have whole := IpNet.range_supernet siblings found'
        (aligned' left (member left List.mem_cons_self))
        (aligned' right (member right (List.mem_cons_of_mem _ List.mem_cons_self))) differs
      rw [found', Option.toList_some]
      refine ⟨?_, ?_, ?_⟩
      · intro net here
        rcases List.mem_append.mp here with rest | last
        · exact aligned' net
            (member net (List.mem_cons_of_mem _ (List.mem_cons_of_mem _ rest)))
        · rw [List.mem_singleton.mp last]
          exact parentAligned
      · unfold addresses
        rw [covered_perm perm]
        ext address
        simp only [mem_covered, List.mem_append, List.mem_cons, List.not_mem_nil, or_false,
          or_and_right, exists_or, exists_eq_left, whole, Set.mem_union]
        exact or_comm.trans or_assoc
      · have count := perm.length_eq
        rw [List.length_append, List.length_singleton]
        simp only [List.length_cons] at count
        omega

/-- A round that ends leaves a compact list. -/
theorem round_eq_done (aligned : ∀ net ∈ nets, net.Aligned) (ends : round nets = .done next) :
    Compacted next ∧ Ordered next ∧ addresses next = addresses nets := by
  have aligned' : ∀ net ∈ arrange nets, net.Aligned :=
    fun net member => aligned net (mem_arrange.mp member)
  have ordered := ordered_arrange nets
  rw [← addresses_arrange nets]
  unfold round at ends
  dsimp only at ends
  generalize arrange nets = nets at *
  split_ifs at ends with some
  split at ends
  · next absent =>
    cases ends
    have free : ∀ {left right : IpNet}, left ∈ next → right ∈ next → left ≠ right →
        ¬ right.range ⊆ left.range := by
      intro left right member member' differs subset
      apply some
      apply List.any_eq_true.mpr
      refine ⟨right, member', List.any_eq_true.mpr ⟨left, member, ?_⟩⟩
      rw [bne_iff_ne.mpr differs, IpNet.contains_iff.mpr subset]
      rfl
    refine ⟨⟨aligned', ?_, ?_⟩, ordered, rfl⟩
    · apply ordered.imp_of_mem
      intro left right member member' before
      have differs : left ≠ right := fun same => absurd before (same ▸ lt_irrefl _)
      rw [Set.disjoint_iff_inter_eq_empty, ← Set.not_nonempty_iff_eq_empty]
      intro meets
      rcases IpNet.laminar.nested (aligned' left member) (aligned' right member') meets with
        inside | inside
      · exact free member' member differs.symm inside
      · exact free member member' differs inside
    · intro left member right member' differs siblings
      have pairwise := siblingPair_eq_none absent
      have symmetric : Std.Symm fun left right : IpNet => IpNet.isSibling left right = false := by
        refine ⟨fun left right apart => eq_false_of_ne_true fun siblings => ?_⟩
        exact absurd (apart.symm.trans (IpNet.isSibling_symm siblings)) Bool.false_ne_true
      exact absurd ((pairwise.forall member member' differs).symm.trans siblings)
        Bool.false_ne_true
  · exact nomatch ends

/-- Enough rounds leave a compact list of the same addresses. -/
theorem compactLoop_spec (aligned : ∀ net ∈ nets, net.Aligned) {rounds : Nat}
    (enough : nets.length < rounds) : ∃ out, compactLoop rounds nets = some out ∧
      Compacted out ∧ Ordered out ∧ addresses out = addresses nets := by
  induction rounds generalizing nets with
  | zero => exact absurd enough (Nat.not_lt_zero _)
  | succ rounds ih =>
    unfold compactLoop
    cases ends : round nets with
    | again next =>
      have ⟨aligned', same, fewer⟩ := round_eq_again aligned ends
      have ⟨out, found, compacted, ordered, same'⟩ := ih aligned' (by omega : next.length < rounds)
      exact ⟨out, found, compacted, ordered, same'.trans same⟩
    | done next => exact ⟨next, rfl, round_eq_done aligned ends⟩

end Loop

section Result

variable {nets others : List IpNet}

theorem addresses_trunc (nets : List IpNet) :
    addresses (nets.map IpNet.trunc) = addresses nets := by
  ext address
  unfold addresses
  simp only [mem_covered, List.mem_map, exists_exists_and_eq_and]
  constructor
  · intro ⟨net, member, inside⟩
    exact ⟨net, member, IpPrefix.range_base net ▸ inside⟩
  · intro ⟨net, member, inside⟩
    exact ⟨net, member, (IpPrefix.range_base net).symm ▸ inside⟩

theorem aligned_trunc : ∀ net ∈ nets.map IpNet.trunc, net.Aligned := by
  intro net member
  have ⟨source, _, same⟩ := List.mem_map.mp member
  rw [← same]
  exact IpPrefix.aligned_base source

theorem Compacted.eq (compacted : Compacted nets) (compacted' : Compacted others)
    (ordered : Ordered nets) (ordered' : Ordered others)
    (same : addresses others = addresses nets) : others = nets := by
  have perm := Compact.unique compacted IpNet.laminar compacted' same
  apply perm.eq_of_pairwise _ ordered' ordered
  intro left right _ _ before after
  exact absurd (before.trans after) (lt_irrefl _)

theorem Compacted.range_ne_union (compacted : Compacted nets) {left right : IpNet}
    (member : left ∈ nets) (member' : right ∈ nets) (differs : left ≠ right) (parent : IpNet) :
    parent.range ≠ left.range ∪ right.range := by
  intro whole
  have inside : (IpPrefix.base parent).range ⊆ addresses nets := by
    intro address here
    rw [IpPrefix.range_base, whole] at here
    rcases here with here | here
    · exact ⟨left, member, here⟩
    · exact ⟨right, member', here⟩
  have ⟨net, member'', holds⟩ :=
    Compact.exists_subset compacted IpNet.laminar (IpPrefix.aligned_base parent) inside
  rw [IpPrefix.range_base, whole] at holds
  have first := IpPrefix.address_mem_range left
  have second := IpPrefix.address_mem_range right
  apply differs
  rw [compacted.eq_of_meets member member'' first (holds (.inl first)),
    compacted.eq_of_meets member' member'' second (holds (.inr second))]

end Result

/-- The loop ends within as many rounds as there are prefixes. The result covers the same addresses;
it is in order, its prefixes are disjoint and no two of them form a third one. No list of prefixes
with these addresses is shorter, and one that is as short has the same prefixes. The order of the
input does not matter. -/
theorem compact_prefixes_minimal (nets : List IpNet) : ∃ out,
    (∀ rounds, nets.length < rounds → compactLoop rounds (nets.map IpNet.trunc) = some out) ∧
    addresses out = addresses nets ∧ Ordered out ∧
    out.Pairwise (fun left right => Disjoint left.range right.range) ∧
    (∀ left ∈ out, ∀ right ∈ out, left ≠ right →
      ∀ parent : IpNet, parent.range ≠ left.range ∪ right.range) ∧
    (∀ others, addresses others = addresses nets → out.length ≤ others.length ∧
      (others.length = out.length → (others.map IpNet.trunc).Perm out)) ∧
    ∀ others, others.Perm nets → compactPrefixes others = some out := by
  have spec : ∀ {others : List IpNet} {rounds : Nat}, others.length < rounds → ∃ out,
      compactLoop rounds (others.map IpNet.trunc) = some out ∧ Compacted out ∧ Ordered out ∧
        addresses out = addresses others := by
    intro others rounds enough
    have found := @compactLoop_spec (others.map IpNet.trunc) aligned_trunc rounds
      (by rw [List.length_map]; exact enough)
    rw [addresses_trunc] at found
    exact found
  have ⟨out, _, compacted, ordered, same⟩ := spec (Nat.lt_succ_self nets.length)
  have only : ∀ {others : List IpNet} {rounds : Nat}, others.length < rounds →
      addresses others = addresses nets →
        compactLoop rounds (others.map IpNet.trunc) = some out := by
    intro others rounds enough equal
    have ⟨out', found, compacted', ordered', same'⟩ := spec enough
    rw [found, compacted.eq compacted' ordered ordered' (same'.trans (equal.trans same.symm))]
  refine ⟨out, fun rounds enough => only enough rfl, same, ordered, compacted.disjoint, ?_, ?_, ?_⟩
  · exact fun left member right member' => compacted.range_ne_union member member'
  · intro others equal
    have least := Compact.minimal compacted IpNet.laminar (@aligned_trunc others)
      ((addresses_trunc others).trans (equal.trans same.symm))
    rw [List.length_map] at least
    exact least
  · exact fun others perm => only (Nat.lt_succ_self _) (covered_perm perm)

/-- `10.0.0.0` with some host bits and a length. -/
def sampleNet (host : BitVec 32) (bits : Nat) (fits : bits ≤ 32) : IpNet :=
  ⟨.v4 (0x0a000000#32 + host), bits, fits⟩

example : compactPrefixes [sampleNet 0 25 (by decide), sampleNet 128 25 (by decide),
    sampleNet 42 32 (by decide)] = some [sampleNet 0 24 (by decide)] := by
  decide +kernel

theorem compact_prefixes_minimal_sample : ∃ out,
    compactPrefixes [sampleNet 128 25 (by decide), sampleNet 0 25 (by decide)] = some out ∧
      out.length ≤ [sampleNet 0 25 (by decide), sampleNet 128 25 (by decide)].length := by
  have ⟨out, _, _, _, _, _, least, only⟩ :=
    compact_prefixes_minimal [sampleNet 0 25 (by decide), sampleNet 128 25 (by decide)]
  exact ⟨out, only _ (.swap _ _ _), (least _ rfl).1⟩

/-- The result is a normal form of the covered addresses: it is compact itself, and two lists have
the same one exactly when they cover the same addresses. -/
theorem compact_prefixes_canonical (nets : List IpNet) : ∃ out, compactPrefixes nets = some out ∧
    compactPrefixes out = some out ∧
    ∀ others, compactPrefixes others = some out ↔ addresses others = addresses nets := by
  have spec : ∀ others, ∃ out, compactPrefixes others = some out ∧ Compacted out ∧ Ordered out ∧
      addresses out = addresses others := by
    intro others
    have found := @compactLoop_spec (others.map IpNet.trunc) aligned_trunc (others.length + 1)
      (by rw [List.length_map]; exact Nat.lt_succ_self _)
    rwa [addresses_trunc] at found
  have ⟨out, found, compacted, ordered, same⟩ := spec nets
  have only : ∀ others, addresses others = addresses nets → compactPrefixes others = some out := by
    intro others equal
    have ⟨out', found', compacted', ordered', same'⟩ := spec others
    rw [found', compacted.eq compacted' ordered ordered' (same'.trans (equal.trans same.symm))]
  refine ⟨out, found, only out same, fun others => ⟨fun equal => ?_, only others⟩⟩
  have ⟨out', found', _, _, same'⟩ := spec others
  rw [← same', ← same, Option.some.inj (found'.symm.trans equal)]

end Ployz.Network
