import Ployz.Network.Wireguard

/-!
# What a failed endpoint change leaves behind

The loop over the peers runs before the device is touched, and nothing undoes it. So a failure
leaves the peers as they were exactly when the loop has not run; every failure after it, of the
loop itself or of the device, leaves a peer that has a new endpoint and an unknown status.
-/

namespace Ployz.Network

/-- A live allocation has a serial number below the next one. -/
theorem Arc.serial_lt_bound {α : Type} {live : List (Arc α)} {arc : Arc α} (member : arc ∈ live) :
    arc.serial < live.foldr (fun arc bound => max (arc.serial + 1) bound) 0 := by
  induction live with
  | nil => exact absurd member List.not_mem_nil
  | cons head live ih =>
    rw [List.foldr_cons]
    cases List.mem_cons.mp member with
    | inl same => subst same; omega
    | inr later => have := ih later; omega

/-- A new allocation is none of the live ones. -/
theorem Arc.new_notMem {α : Type} (live : List (Arc α)) (value : α) : Arc.new live value ∉ live :=
  fun member => Nat.lt_irrefl _ (serial_lt_bound member)

namespace Peer

variable {self : Peer}

/-- What the network knows of the endpoint of a peer: its address, its status and the time of its
last change. -/
def trace (self : Peer) : Option SocketAddr × PeerStatus × Option SystemTime :=
  (self.current, self.status, self.lastEndpointChangeTime)

/-- A new endpoint is never the pointer that the peer has. -/
theorem sameEndpointPointer_withEndpoint (endpoint : SocketAddr) :
    sameEndpointPointer self.config.endpoint (self.withEndpoint endpoint).endpoint = false := by
  unfold withEndpoint
  cases has : self.config.endpoint with
  | none => rfl
  | some current =>
    show current.ptrEq (Arc.new self.live endpoint) = false
    apply decide_eq_false
    intro same
    apply Arc.new_notMem self.live endpoint
    rw [← same]
    simp [live, has]

/-- A peer whose endpoint is due shows the change. -/
theorem trace_updateConfigAt_ne {endpoint : SocketAddr} (now : SystemTime)
    (due : self.shouldChangeEndpoint = some endpoint) :
    (self.updateConfigAt (self.withEndpoint endpoint) now).trace ≠ self.trace := by
  intro same
  have status : (self.updateConfigAt (self.withEndpoint endpoint) now).status = .unknown := by
    simp [updateConfigAt, sameEndpointPointer_withEndpoint]
  have unknown : self.status = .unknown := (congrArg (fun seen => seen.2.1) same).symm.trans status
  have current : some endpoint = self.current := congrArg Prod.fst same
  have has : self.config.endpoint.isSome := by
    rw [← Option.isSome_map (f := Arc.value)]
    show self.current.isSome
    rw [← current]
    rfl
  unfold shouldChangeEndpoint at due
  rw [if_pos ⟨has, by rw [unknown]; decide⟩] at due
  contradiction

end Peer

/-- The peers as the network knows their endpoints. -/
def State.trace (state : State) :
    Option (List (String × Option SocketAddr × PeerStatus × Option SystemTime)) :=
  state.peers.map fun peers => peers.map fun entry => (entry.1, entry.2.trace)

variable {clock : String → SystemTime} {peers : List (String × Peer)}

/-- A loop that leaves no trace has changed nothing. -/
theorem changePeers_eq_of_trace
    (same : (changePeers clock peers).2.map (fun entry => (entry.1, entry.2.trace)) =
      peers.map fun entry => (entry.1, entry.2.trace)) :
    changePeers clock peers = (.ok [], peers) := by
  induction peers with
  | nil => rfl
  | cons entry rest ih =>
    have ⟨key, peer⟩ := entry
    rw [changePeers] at same ⊢
    cases due : peer.shouldChangeEndpoint with
    | none =>
      rw [due] at same
      have ⟨_, later⟩ := List.cons.inj same
      dsimp only
      rw [ih later]
    | some endpoint =>
      rw [due] at same
      have moved := Peer.trace_updateConfigAt_ne (clock key) due
      exfalso
      cases known : (peer.updateConfigAt (peer.withEndpoint endpoint) (clock key)).config.publicKey
      all_goals
        simp only [known] at same
        exact moved (Prod.mk.inj (List.cons.inj same).1).2

variable {kernel : Kernel}

/-- The peers are those that the loop leaves, whatever the device answers. -/
theorem changeWireGuardEndpoints_peers {state : State} (configured : state.peers = some peers) :
    (changeWireGuardEndpoints kernel clock state).2.peers = some (changePeers clock peers).2 := by
  unfold changeWireGuardEndpoints
  rw [configured]
  dsimp only
  cases changePeers clock peers with
  | mk result left =>
    cases result with
    | error reason => rfl
    | ok events =>
      dsimp only
      split <;> rfl

/-- Where no endpoint is due, the device is not touched and the call succeeds. -/
theorem changeWireGuardEndpoints_eq_ok {state : State} (configured : state.peers = some peers)
    (unchanged : changePeers clock peers = (.ok [], peers)) :
    (changeWireGuardEndpoints kernel clock state).1 = .ok () := by
  unfold changeWireGuardEndpoints
  rw [configured]
  dsimp only
  rw [unchanged]
  rfl

/-- A failed endpoint change leaves no trace exactly when no peers are configured. -/
theorem failed_change_untraced_iff (kernel : Kernel) (clock : String → SystemTime) (state : State)
    (error : NetworkError)
    (failed : (changeWireGuardEndpoints kernel clock state).1 = .error error) :
    (changeWireGuardEndpoints kernel clock state).2.trace = state.trace ↔ state.peers = none := by
  cases configured : state.peers with
  | none =>
    apply iff_of_true _ rfl
    unfold changeWireGuardEndpoints
    rw [configured]
  | some peers =>
    apply iff_of_false _ (by nofun)
    intro same
    unfold State.trace at same
    rw [changeWireGuardEndpoints_peers configured, configured] at same
    have unchanged := changePeers_eq_of_trace (Option.some.inj same)
    rw [changeWireGuardEndpoints_eq_ok configured unchanged] at failed
    contradiction

/-- A machine with one peer, which is down at the first of two endpoints. -/
def downState : State :=
  let first : Arc SocketAddr := ⟨.v4 0xC0000201#32 51820, 0⟩
  let second : Arc SocketAddr := ⟨.v4 0xC0000202#32 51820, 0⟩
  let config : PeerConfig :=
    { endpoint := some first, allEndpoints := [first, second],
      publicKey := some (List.replicate 32 7) }
  ⟨some [("peer", ⟨config, some 0, none, 0, 0, .down⟩)]⟩

/-- A kernel that lets no client be created. -/
def refusing : Kernel := ⟨.error "operation not permitted", .ok [], fun _ => .ok ()⟩

/-- Without peers the change fails and leaves no trace; with a peer that is down it leaves one. -/
theorem failed_change_untraced_sample :
    (changeWireGuardEndpoints refusing (fun _ => 0) ⟨none⟩).2.trace = State.trace ⟨none⟩ ∧
      (changeWireGuardEndpoints refusing (fun _ => 0) downState).2.trace ≠ downState.trace := by
  constructor
  · exact (failed_change_untraced_iff refusing (fun _ => 0) ⟨none⟩ _ rfl).mpr rfl
  · intro same
    have none := (failed_change_untraced_iff refusing (fun _ => 0) downState _ rfl).mp same
    contradiction

/-- No client can be created, and the peer that was down is left at its next endpoint, with an
unknown status and the time of the change. -/
theorem failed_change_traced :
    (changeWireGuardEndpoints refusing (fun _ => 60000000000) downState).1 =
        .error (.io "create WireGuard client" "operation not permitted") ∧
      downState.trace = some [("peer", some (.v4 0xC0000201#32 51820), .down, some 0)] ∧
      (changeWireGuardEndpoints refusing (fun _ => 60000000000) downState).2.trace =
        some [("peer", some (.v4 0xC0000202#32 51820), .unknown, some 60000000000)] :=
  ⟨rfl, rfl, rfl⟩

end Ployz.Network
