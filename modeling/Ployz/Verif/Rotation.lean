import Ployz.Base.Run
import Ployz.Network.Peer

/-!
# Fairness of the endpoint rotation

In every turn the device is polled, and a peer that is found down goes on to the next of its
addresses, looked up from the first place at which the current one stands in the list. When no
address stands there twice, that is the place the rotation has reached, so every address is tried.
When one does, the rotation returns to the earlier place, and what follows the later one may never
be tried.
-/

namespace Ployz.Network

open List

/-- One turn: the polls of the device before it, with their times, and the time of the change. -/
structure Turn where
  polls : List (DevicePeerSnapshot × SystemTime)
  now : SystemTime

namespace Peer

variable (self : Peer)

/-- The peer as a turn finds it. -/
def found (turn : Turn) : Peer :=
  turn.polls.foldl (fun peer poll => (peer.updateFromDevice poll.1 poll.2).2) self

/-- The peer after a turn. -/
def afterTurn (turn : Turn) : Unit × Peer := ((), (self.found turn).rotate turn.now)

/-- A peer that is to be changed: it is down, or it has no endpoint. -/
def Due : Prop := self.status = .down ∨ self.config.endpoint = none

/-- A turn in which no poll reports another endpoint, and which finds the peer down. -/
structure FoundDown (visit : Peer × Turn) : Prop where
  quiet : ∀ poll ∈ visit.2.polls,
    poll.1.endpoint = none ∨ poll.1.endpoint = visit.1.current
  due : (visit.1.found visit.2).Due

/-- The addresses of a peer, in their order. -/
def addresses : List SocketAddr := self.config.allEndpoints.map Arc.value

/-- The current endpoint is the entry of the list at an index, taken modulo the length. -/
def Stands (index : Nat) : Prop :=
  self.current = self.addresses[index % self.addresses.length]?

section Polls

variable {self}

@[simp]
theorem calculateStatusAt_config (now : SystemTime) :
    (self.calculateStatusAt now).config = self.config := rfl

theorem updateFromDevice_config {devicePeer : DevicePeerSnapshot} (now : SystemTime)
    (quiet : devicePeer.endpoint = none ∨ devicePeer.endpoint = self.current) :
    (self.updateFromDevice devicePeer now).2.config = self.config := by
  unfold updateFromDevice
  cases reported : devicePeer.endpoint with
  | none => rfl
  | some endpoint =>
    have same : self.current = some endpoint := by
      cases quiet with
      | inl absent => rw [reported] at absent; contradiction
      | inr equal => rw [← equal, reported]
    simp only [if_pos same, calculateStatusAt_config]

theorem found_config {turn : Turn}
    (quiet : ∀ poll ∈ turn.polls, poll.1.endpoint = none ∨ poll.1.endpoint = self.current) :
    (self.found turn).config = self.config := by
  unfold found
  generalize turn.polls = polls at quiet
  induction polls generalizing self with
  | nil => rfl
  | cons poll polls ih =>
    have kept : (self.updateFromDevice poll.1 poll.2).2.config = self.config :=
      updateFromDevice_config poll.2 (quiet poll mem_cons_self)
    have sameCurrent : (self.updateFromDevice poll.1 poll.2).2.current = self.current :=
      congrArg (fun config : PeerConfig => config.endpoint.map Arc.value) kept
    rw [foldl_cons, ih, kept]
    intro later member
    rw [sameCurrent]
    exact quiet later (mem_cons_of_mem _ member)

end Polls

section Change

variable {self}

@[simp]
theorem updateConfigAt_config (config : PeerConfig) (now : SystemTime) :
    (self.updateConfigAt config now).config = config := rfl

theorem rotate_allEndpoints (now : SystemTime) :
    (self.rotate now).config.allEndpoints = self.config.allEndpoints := by
  unfold rotate
  cases self.shouldChangeEndpoint with
  | none => rfl
  | some endpoint => rfl

theorem rotate_addresses (now : SystemTime) : (self.rotate now).addresses = self.addresses :=
  congrArg (List.map Arc.value) (rotate_allEndpoints now)

theorem rotate_current (now : SystemTime) :
    (self.rotate now).current =
      match self.shouldChangeEndpoint with
      | none => self.current
      | some endpoint => some endpoint := by
  unfold rotate
  cases self.shouldChangeEndpoint with
  | none => rfl
  | some endpoint => rfl

theorem entryAt_value (first : Arc SocketAddr) (rest : List (Arc SocketAddr)) (index : Nat) :
    some (entryAt first rest index).value =
      ((first :: rest).map Arc.value)[index % (first :: rest).length]? := by
  have bound : index % (first :: rest).length < (first :: rest).length :=
    Nat.mod_lt _ (Nat.succ_pos _)
  rw [getElem?_map, getElem?_eq_getElem bound]
  rfl

/-- The place at which the address of the current endpoint is found, as the source searches it. -/
theorem findIdx?_value (endpoints : List (Arc SocketAddr)) (address : SocketAddr) :
    (endpoints.findIdx? fun endpoint => endpoint.value = address) =
      (endpoints.map Arc.value).idxOf? address := by
  rw [List.idxOf?, findIdx?_map]
  rfl

theorem rotate_current_of_due {now : SystemTime} (due : self.Due) (listed : self.addresses ≠ []) :
    (self.rotate now).current =
      self.addresses[((self.current.bind fun address =>
        self.addresses.idxOf? address).map (· + 1)).getD 0 % self.addresses.length]? := by
  rw [rotate_current]
  unfold shouldChangeEndpoint addresses current at *
  have changes : ¬ (self.config.endpoint.isSome ∧ self.status ≠ .down) := by
    intro ⟨has, up⟩
    cases due with
    | inl down => exact up down
    | inr absent => rw [absent] at has; contradiction
  rw [if_neg changes]
  cases all : self.config.allEndpoints with
  | nil => rw [all] at listed; exact absurd rfl listed
  | cons first rest =>
    cases self.config.endpoint with
    | none => simp
    | some endpoint =>
      simp only [Option.map_some, Option.bind_some, length_map]
      by_cases single : (first :: rest).length = 1 ∧ endpoint.ptrEq first
      · -- the only entry is the current endpoint itself
        have same : endpoint = first := of_decide_eq_true single.2
        have alone : rest = [] := length_eq_zero_iff.mp (Nat.succ.inj single.1)
        rw [if_pos single, alone, same]
        simp
      · rw [if_neg single]
        simp only [entryAt_value, findIdx?_value]

end Change

section Turns

variable {self} {turn : Turn}

theorem afterTurn_addresses (down : FoundDown (self, turn)) :
    (self.afterTurn turn).2.addresses = self.addresses := by
  have kept := found_config down.quiet
  show ((self.found turn).rotate turn.now).addresses = self.addresses
  rw [rotate_addresses]
  exact congrArg (fun config : PeerConfig => config.allEndpoints.map Arc.value) kept

theorem afterTurn_current (listed : self.addresses ≠ []) (down : FoundDown (self, turn)) :
    (self.afterTurn turn).2.current =
      self.addresses[((self.current.bind fun address =>
        self.addresses.idxOf? address).map (· + 1)).getD 0 % self.addresses.length]? := by
  have kept := found_config down.quiet
  have sameAddresses : (self.found turn).addresses = self.addresses :=
    congrArg (fun config : PeerConfig => config.allEndpoints.map Arc.value) kept
  have sameCurrent : (self.found turn).current = self.current :=
    congrArg (fun config : PeerConfig => config.endpoint.map Arc.value) kept
  show ((self.found turn).rotate turn.now).current = _
  rw [rotate_current_of_due down.due (by rwa [sameAddresses]), sameAddresses, sameCurrent]

/-- The step: a turn goes from one place of the list to the next. -/
theorem afterTurn_stands {index : Nat} (listed : self.addresses ≠ [])
    (distinct : self.addresses.Nodup) (down : FoundDown (self, turn)) (stands : self.Stands index) :
    (self.afterTurn turn).2.Stands (index + 1) := by
  have positive : 0 < self.addresses.length := length_pos_iff.mpr listed
  have bound : index % self.addresses.length < self.addresses.length := Nat.mod_lt _ positive
  unfold Stands at stands ⊢
  rw [afterTurn_addresses down, afterTurn_current listed down, stands,
    getElem?_eq_getElem bound, Option.bind_some]
  -- without repetitions the place found is the place reached
  have place : self.addresses.idxOf? self.addresses[index % self.addresses.length] =
      some (index % self.addresses.length) := by
    rw [idxOf?_eq_some_iff]
    refine ⟨bound, rfl, fun earlier before same => ?_⟩
    have equal := distinct.getElem_inj_iff.mp same
    omega
  rw [place, Option.map_some, Option.getD_some, Nat.mod_add_mod]

/-- A peer whose endpoint is not listed starts with the first address. -/
theorem afterTurn_stands_zero (listed : self.addresses ≠ []) (down : FoundDown (self, turn))
    (unlisted : ∀ address ∈ self.addresses, self.current ≠ some address) :
    (self.afterTurn turn).2.Stands 0 := by
  have absent : (self.current.bind fun address => self.addresses.idxOf? address) = none := by
    cases here : self.current with
    | none => rfl
    | some address =>
      rw [Option.bind_some, idxOf?_eq_none_iff]
      exact fun member => unlisted address member here
  unfold Stands
  rw [afterTurn_addresses down, afterTurn_current listed down, absent]
  rfl

theorem exists_visit_of_stands {turns : List Turn} {index offset : Nat}
    (listed : self.addresses ≠ []) (distinct : self.addresses.Nodup)
    (down : ∀ visit ∈ visits afterTurn self turns, FoundDown visit)
    (stands : self.Stands index) (reached : offset < turns.length) :
    ∃ visit ∈ visits afterTurn self turns,
      visit.1.current = self.addresses[(index + offset) % self.addresses.length]? := by
  induction turns generalizing self index offset with
  | nil => exact absurd reached (Nat.not_lt_zero _)
  | cons turn turns ih =>
    cases offset with
    | zero => exact ⟨(self, turn), mem_cons_self, stands⟩
    | succ offset =>
      have here := down (self, turn) mem_cons_self
      have same := afterTurn_addresses here
      have ⟨visit, member, current⟩ := ih (by rwa [same]) (by rwa [same])
        (fun visit member => down visit (mem_cons_of_mem _ member))
        (afterTurn_stands listed distinct here stands) (Nat.lt_of_succ_lt_succ reached)
      refine ⟨visit, mem_cons_of_mem _ member, ?_⟩
      rw [current, same, Nat.add_right_comm, Nat.add_assoc]

end Turns

/-- A peer of which no address is listed twice tries every address within as many turns as it has
addresses, and one more. -/
theorem every_endpoint_tried {turns : List Turn} (listed : self.config.allEndpoints ≠ [])
    (distinct : self.addresses.Nodup)
    (enough : turns.length = self.config.allEndpoints.length + 1)
    (down : ∀ visit ∈ visits afterTurn self turns, FoundDown visit) :
    ∀ address ∈ self.addresses,
      ∃ visit ∈ visits afterTurn self turns, visit.1.current = some address := by
  intro address member
  have ⟨place, bound, entry⟩ := mem_iff_getElem.mp member
  have count : self.addresses.length = self.config.allEndpoints.length := length_map _
  have nonempty : self.addresses ≠ [] := fun empty => listed (map_eq_nil_iff.mp empty)
  by_cases unlisted : ∀ address ∈ self.addresses, self.current ≠ some address
  · cases turns with
    | nil => simp at enough
    | cons turn turns =>
      have here := down (self, turn) mem_cons_self
      have same := afterTurn_addresses here
      have reached : place < turns.length := by
        rw [length_cons] at enough
        omega
      have ⟨visit, visited, current⟩ := exists_visit_of_stands (by rwa [same]) (by rwa [same])
        (fun visit member => down visit (mem_cons_of_mem _ member))
        (afterTurn_stands_zero nonempty here unlisted) reached
      refine ⟨visit, mem_cons_of_mem _ visited, ?_⟩
      rw [current, same, Nat.zero_add, Nat.mod_eq_of_lt bound, getElem?_eq_getElem bound,
        entry]
  · push Not at unlisted
    have ⟨start, startMember, current⟩ := unlisted
    have ⟨index, indexBound, indexEntry⟩ := mem_iff_getElem.mp startMember
    have stands : self.Stands index := by
      unfold Stands
      rw [current, Nat.mod_eq_of_lt indexBound, getElem?_eq_getElem indexBound, indexEntry]
    -- the place of the address, counted on from that of the current endpoint
    have ⟨offset, short, sum⟩ : ∃ offset, offset < self.addresses.length ∧
        (index + offset) % self.addresses.length = place := by
      by_cases ahead : index ≤ place
      · refine ⟨place - index, by omega, ?_⟩
        rw [Nat.add_sub_cancel' ahead, Nat.mod_eq_of_lt bound]
      · refine ⟨place + self.addresses.length - index, by omega, ?_⟩
        rw [Nat.add_sub_cancel' (by omega), Nat.add_mod_right, Nat.mod_eq_of_lt bound]
    have reached : offset < turns.length := by omega
    have ⟨visit, visited, current⟩ :=
      exists_visit_of_stands nonempty distinct down stands reached
    refine ⟨visit, visited, ?_⟩
    rw [current, sum, getElem?_eq_getElem bound, entry]

/-- The address of a test machine, with the last number of its IPv4 address. -/
def testAddress (number : BitVec 8) : SocketAddr := .v4 (0xC0000200#32 ||| number.setWidth 32) 51820

/-- A peer with the given addresses that is at the first of them since the epoch. -/
def testPeer (endpoints : List (Arc SocketAddr)) : Peer :=
  newAt { endpoint := endpoints.head?, allEndpoints := endpoints } none 0

/-- Turns that are a minute apart, each after a poll that reports no handshake. -/
def testTurns (count : Nat) : List Turn :=
  (List.range count).map fun turn =>
    let now : SystemTime := (turn + 1) * Duration.fromSecs 60
    ⟨[(⟨none, none, 0, 0⟩, now)], now⟩

instance (visit : Peer × Turn) : Decidable (FoundDown visit) :=
  decidable_of_iff
    ((∀ poll ∈ visit.2.polls, poll.1.endpoint = none ∨ poll.1.endpoint = visit.1.current) ∧
      ((visit.1.found visit.2).status = .down ∨ (visit.1.found visit.2).config.endpoint = none))
    ⟨fun ⟨quiet, due⟩ => ⟨quiet, due⟩, fun down => ⟨down.quiet, down.due⟩⟩

/-- The last of three addresses is tried. -/
theorem every_endpoint_tried_sample :
    ∃ visit ∈ visits afterTurn
        (testPeer [⟨testAddress 1, 0⟩, ⟨testAddress 2, 0⟩, ⟨testAddress 3, 0⟩]) (testTurns 4),
      visit.1.current = some (testAddress 3) :=
  every_endpoint_tried
    (testPeer [⟨testAddress 1, 0⟩, ⟨testAddress 2, 0⟩, ⟨testAddress 3, 0⟩])
    (by decide) (by decide) (by decide) (by decide +kernel) (testAddress 3) (by decide)

/-- An address that stands twice in the list takes the rotation back, and the one that follows its
second place is never tried. -/
theorem endpoint_never_tried :
    let peer := testPeer [⟨testAddress 1, 0⟩, ⟨testAddress 2, 0⟩, ⟨testAddress 1, 1⟩,
      ⟨testAddress 3, 0⟩]
    (∀ visit ∈ visits afterTurn peer (testTurns 5), FoundDown visit) ∧
      testAddress 3 ∈ peer.addresses ∧
      (∀ visit ∈ visits afterTurn peer (testTurns 5), visit.1.current ≠ some (testAddress 3)) ∧
      (run afterTurn peer (testTurns 5)).2.current ≠ some (testAddress 3) := by
  decide +kernel

end Peer

end Ployz.Network
