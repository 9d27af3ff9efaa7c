import Ployz.Network.Peer

/-!
# What holds of a peer at all times

A peer is made from a configuration and then updated in any order, by new configurations, by what
the device reports and by the passing of time, which may also go back. Only the calculation of the
status says that a peer is down, and only when there is an endpoint; an update that takes the
endpoint away resets the status. A handshake after a recent change of the endpoint is answered with
`up` in every branch.
-/

namespace Ployz.Network.Peer

variable {self : Peer}

/-- One update of a peer, with its time. -/
inductive Update
  | config (config : PeerConfig) (now : SystemTime)
  | device (devicePeer : DevicePeerSnapshot) (now : SystemTime)
  | status (now : SystemTime)

/-- The peer after an update. -/
def update (self : Peer) : Update → Peer
  | .config config now => self.updateConfigAt config now
  | .device devicePeer now => (self.updateFromDevice devicePeer now).2
  | .status now => self.calculateStatusAt now

/-- The time at which an update calculates the status, if it does. -/
def Update.calculatedAt : Update → Option SystemTime
  | .config _ _ => none
  | .device _ now | .status now => some now

/-- The peer that was made from a configuration and then updated. -/
def reached (config : PeerConfig) (devicePeer : Option DevicePeerSnapshot) (start : SystemTime)
    (updates : List Update) : Peer :=
  updates.foldl update (newAt config devicePeer start)

/-- A peer is called down only when it has an endpoint. -/
def Reported (self : Peer) : Prop := self.status = .down → self.config.endpoint.isSome = true

theorem reported_calculateStatusAt (now : SystemTime) : (self.calculateStatusAt now).Reported := by
  intro down
  unfold calculateStatusAt at down ⊢
  dsimp only at down ⊢
  rw [Option.isSome_iff_ne_none]
  intro absent
  rw [absent] at down
  split_ifs at down <;> simp_all

theorem Reported.updateConfigAt (reported : self.Reported) (config : PeerConfig)
    (now : SystemTime) : (self.updateConfigAt config now).Reported := by
  intro down
  unfold Peer.updateConfigAt at down ⊢
  dsimp only at down ⊢
  split_ifs at down with same
  have configured := reported down
  -- an endpoint that is still the same allocation is still there
  cases before : self.config.endpoint with
  | none => rw [before] at configured; contradiction
  | some endpoint =>
    rw [before] at same
    cases after : config.endpoint with
    | none => rw [after] at same; contradiction
    | some _ => rfl

theorem Reported.update (reported : self.Reported) (update : Update) :
    (self.update update).Reported := by
  cases update with
  | config config now => exact reported.updateConfigAt config now
  | device devicePeer now | status now => exact reported_calculateStatusAt now

theorem reported_reached (config : PeerConfig) (devicePeer : Option DevicePeerSnapshot)
    (start : SystemTime) (updates : List Update) :
    (reached config devicePeer start updates).Reported := by
  unfold reached
  induction updates using List.reverseRecOn with
  | nil => exact nofun
  | append_singleton updates update ih =>
    rw [List.foldl_append]
    exact ih.update update

/-- A handshake after a change of the endpoint that is not older than `PEER_DOWN_INTERVAL`. -/
def Answered (self : Peer) (now : SystemTime) : Prop :=
  ∃ change handshake, self.lastEndpointChangeTime = some change ∧
    self.lastHandshakeTime = some handshake ∧ change < handshake ∧ now - change ≤ peerDownInterval

theorem up_of_answered {now : SystemTime} (answered : self.Answered now) :
    (self.calculateStatusAt now).status = .up := by
  have ⟨change, handshake, changed, shaken, later, recent⟩ := answered
  have after : isAfter self.lastHandshakeTime self.lastEndpointChangeTime = true := by
    rw [changed, shaken]
    exact decide_eq_true later
  have young : ¬ peerDownInterval < elapsedSince now self.lastEndpointChangeTime := by
    rw [changed]
    exact Nat.not_lt.mpr (Int.toNat_le.mpr recent)
  unfold calculateStatusAt
  simp only [after, if_neg young, if_true, ite_self, reduceCtorEq, false_and, if_false]

theorem up_of_update {update : Update} {now : SystemTime}
    (calculates : update.calculatedAt = some now) (answered : (self.update update).Answered now) :
    (self.update update).status = .up := by
  cases update with
  | config config time => contradiction
  | device | status =>
    obtain rfl := Option.some.inj calculates
    exact up_of_answered answered

theorem entryAt_mem (first : Arc SocketAddr) (rest : List (Arc SocketAddr)) (index : Nat) :
    entryAt first rest index ∈ first :: rest := List.get_mem _ _

theorem mem_of_shouldChangeEndpoint {address : SocketAddr}
    (changes : self.shouldChangeEndpoint = some address) :
    ∃ endpoint ∈ self.config.allEndpoints, endpoint.value = address := by
  unfold shouldChangeEndpoint at changes
  split_ifs at changes
  cases all : self.config.allEndpoints with
  | nil => rw [all] at changes; contradiction
  | cons first rest =>
    rw [all] at changes
    dsimp only at changes
    split at changes
    · exact ⟨first, List.mem_cons_self, Option.some.inj changes⟩
    · split_ifs at changes
      exact ⟨_, entryAt_mem first rest _, Option.some.inj changes⟩

/-- The remainder by the length keeps the index in range, so that no call panics. -/
theorem checkedChangeEndpoint_eq : self.checkedChangeEndpoint = .ok self.shouldChangeEndpoint := by
  unfold checkedChangeEndpoint shouldChangeEndpoint
  split
  · rfl
  cases self.config.allEndpoints with
  | nil => rfl
  | cons first rest =>
    cases self.config.endpoint with
    | none => rfl
    | some current =>
      dsimp only [List.head?_cons]
      split
      · rfl
      · have bound : ∀ index, index % (first :: rest).length < (first :: rest).length :=
          fun _ => Nat.mod_lt _ (Nat.succ_pos _)
        rw [if_neg (List.length_pos_of_mem List.mem_cons_self).ne', List.getElem?_eq_getElem (bound _)]
        rfl

/-- However a peer is updated, the choice of its next endpoint never panics and names one of its
endpoints, it is down only with an endpoint, and it is up when the status is calculated after a
handshake that follows a recent change. -/
theorem peer_invariants (config : PeerConfig) (devicePeer : Option DevicePeerSnapshot)
    (start : SystemTime) (updates : List Update) :
    let self := reached config devicePeer start updates
    (∃ choice, self.checkedChangeEndpoint = .ok choice ∧
        ∀ address, choice = some address →
          ∃ endpoint ∈ self.config.allEndpoints, endpoint.value = address) ∧
      (self.status = .down → self.config.endpoint.isSome = true) ∧
      ∀ update now, update.calculatedAt = some now → (self.update update).Answered now →
        (self.update update).status = .up := by
  intro self
  have choice : ∃ choice, self.checkedChangeEndpoint = .ok choice ∧
      ∀ address, choice = some address →
        ∃ endpoint ∈ self.config.allEndpoints, endpoint.value = address :=
    ⟨self.shouldChangeEndpoint, checkedChangeEndpoint_eq,
      fun _ changes => mem_of_shouldChangeEndpoint changes⟩
  exact ⟨choice, reported_reached config devicePeer start updates,
    fun _ _ calculates answered => up_of_update calculates answered⟩

end Ployz.Network.Peer
