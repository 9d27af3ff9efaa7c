import Ployz.Tunnel.Driver

/-!
# What the driver holds at most

No queue of the driver grows over its limit, because each producer checks for room before it asks
the engine for something that has to be queued. Every stream has a port of its own, and the ports
that are marked as used are those of the streams.
-/

namespace Ployz.Tunnel

open Procedure List

namespace Link

/-- The queues keep to their limits. -/
structure Bounded (link : Link) : Prop where
  pending : link.pendingDatagrams.length ≤ maxPendingDatagrams
  incoming : link.device.incoming.length ≤ maxPlaintextPackets
  outgoing : link.device.outgoing.length ≤ maxPlaintextPackets

/-- The queues keep to their limits and another datagram fits. -/
structure Roomy (link : Link) : Prop extends Bounded link where
  room : link.pendingDatagrams.length < maxPendingDatagrams

/-- The driver fails within its limits, and not for want of room. -/
def Fails (error : DriverError) (link : Link) : Prop := error ≠ .capacity ∧ link.Bounded

variable {α : Type} {before : Link → Prop}

/-- A function of the driver keeps to the limits. -/
abbrev Keeps (before : Link → Prop) (call : OnLink α) : Prop :=
  Meets before call (fun _ => Bounded) Fails

section Answers

/-- What the socket or the engine answers changes no queue. -/
def Answers (next : Link → α × Link) : Prop :=
  ∀ link, ∃ outside, (next link).2 = { link with outside := outside }

theorem answers_nextSend : Answers nextSend := by
  intro link
  unfold nextSend
  split <;> exact ⟨_, rfl⟩

theorem answers_nextReceive : Answers nextReceive := by
  intro link
  unfold nextReceive
  split <;> exact ⟨_, rfl⟩

theorem answers_nextDecapsulated : Answers nextDecapsulated := by
  intro link
  unfold nextDecapsulated
  split <;> exact ⟨_, rfl⟩

theorem answers_nextEncapsulated : Answers nextEncapsulated := by
  intro link
  unfold nextEncapsulated
  split <;> exact ⟨_, rfl⟩

theorem answers_nextTimers : Answers nextTimers := by
  intro link
  unfold nextTimers
  split <;> exact ⟨_, rfl⟩

variable {next : Link → α × Link}

theorem Answers.meets (answers : Answers next) {failed : DriverError → Link → Prop}
    (same : ∀ link outside, before link → before { link with outside := outside }) :
    Meets before (modifyGet next : OnLink α) (fun _ => before) failed := by
  apply Meets.modifyGet
  intro link holds
  have ⟨outside, eq⟩ := answers link
  rw [eq]
  exact same link outside holds

theorem Answers.bounded (answers : Answers next) : Keeps Bounded (modifyGet next) :=
  answers.meets fun _ _ ⟨pending, incoming, outgoing⟩ => ⟨pending, incoming, outgoing⟩

theorem Answers.roomy (answers : Answers next) :
    Meets Roomy (modifyGet next : OnLink α) (fun _ => Roomy) Fails :=
  answers.meets fun _ _ ⟨⟨pending, incoming, outgoing⟩, room⟩ =>
    ⟨⟨pending, incoming, outgoing⟩, room⟩

end Answers

theorem keeps_pure {value : α} : Keeps Bounded (pure value) := .pure fun _ bounded => bounded

variable {error : DriverError}

theorem keeps_throw (other : error ≠ .capacity) : Keeps Bounded (throw error : OnLink α) :=
  .throw fun _ bounded => ⟨other, bounded⟩

theorem keeps_throw_roomy (other : error ≠ .capacity) : Keeps Roomy (throw error : OnLink α) :=
  .throw fun _ roomy => ⟨other, roomy.toBounded⟩

theorem Keeps.roomy {call : OnLink α} (keeps : Keeps Bounded call) : Keeps Roomy call :=
  keeps.strengthen fun _ roomy => roomy.toBounded

theorem keeps_hasRoom : Keeps Bounded hasRoom :=
  .bind _ (.get fun _ bounded => bounded) fun _ => keeps_pure

theorem keeps_ifRoom {fits full : OnLink α} (yes : Keeps Roomy fits) (no : Keeps Bounded full) :
    Keeps Bounded (do if ← hasRoom then fits else full) := by
  have checked : Meets Bounded hasRoom (fun room link => if room then Roomy link else Bounded link)
      Fails := by
    refine .bind (fun seen link => seen = link ∧ Bounded link)
      (.get fun _ bounded => ⟨rfl, bounded⟩) fun seen => .pure ?_
    intro link ⟨same, bounded⟩
    subst same
    by_cases room : seen.pendingDatagrams.length < maxPendingDatagrams
    · simpa [room] using ⟨bounded, room⟩
    · simpa [room] using bounded
  apply checked.bind _
  intro room
  cases room with
  | true => exact yes.strengthen fun _ roomy => roomy
  | false => exact no.strengthen fun _ bounded => bounded

/-- A datagram is queued where there is room. -/
theorem keeps_enqueue (datagram : Packet) : Keeps Roomy (enqueue datagram) := by
  have checked : Meets Roomy hasRoom (fun room link => room = true ∧ Roomy link) Fails := by
    refine .bind (fun seen link => seen = link ∧ Roomy link)
      (.get fun _ roomy => ⟨rfl, roomy⟩) fun seen => .pure ?_
    intro link ⟨same, roomy⟩
    subst same
    exact ⟨decide_eq_true roomy.room, roomy⟩
  apply checked.bind _
  intro room
  apply Meets.ite
  · intro _
    apply Meets.modifies
    intro link ⟨_, roomy⟩
    refine ⟨?_, roomy.incoming, roomy.outgoing⟩
    show (link.pendingDatagrams ++ [datagram]).length ≤ _
    rw [length_append]
    exact roomy.room
  · intro full link ⟨room, _⟩
    exact absurd room full

theorem keeps_queueDatagram (datagram : Packet) : Keeps Roomy (queueDatagram datagram) := by
  apply Meets.bind (fun _ => Roomy) (.get fun _ roomy => roomy)
  intro link
  apply Meets.ite
  · intro _
    apply answers_nextSend.roomy.bind _
    intro sent
    cases sent with
    | sent length =>
      exact .ite (fun _ => keeps_pure.roomy) fun _ => keeps_throw_roomy nofun
    | wouldBlock => exact keeps_enqueue datagram
    | failed error => exact keeps_throw_roomy nofun
  · intro _
    exact keeps_enqueue datagram

/-- Flushing keeps the queue within its limit. -/
theorem keeps_flush (pending : List Packet) : Keeps Bounded (flush pending) := by
  induction pending with
  | nil => exact keeps_pure
  | cons datagram later ih =>
    apply answers_nextSend.bounded.bind _
    intro sent
    cases sent with
    | sent length =>
      apply Meets.ite
      · intro _
        apply Meets.bind (fun _ => Bounded) _ fun _ => ih
        apply Meets.modifies
        intro link bounded
        refine ⟨?_, bounded.incoming, bounded.outgoing⟩
        show link.pendingDatagrams.tail.length ≤ _
        rw [length_tail]
        exact (Nat.sub_le _ _).trans bounded.pending
      · exact fun _ => keeps_throw nofun
    | wouldBlock => exact keeps_pure
    | failed error => exact keeps_throw nofun

theorem keeps_flushDatagrams : Keeps Bounded flushDatagrams :=
  .bind _ (.get fun _ bounded => bounded) fun _ => keeps_flush _

theorem keeps_resetTunnel : Keeps Bounded resetTunnel :=
  .modifies fun _ bounded => ⟨Nat.zero_le _, bounded.incoming, bounded.outgoing⟩

variable (config : Config)

theorem keeps_acceptPlaintext (packet : Packet) (source : Api.IpAddr) :
    Keeps Bounded (acceptPlaintext config packet source) := by
  apply Meets.modifies
  intro link bounded
  split_ifs with accepted
  · refine ⟨bounded.pending, ?_, bounded.outgoing⟩
    show (link.device.incoming ++ [packet]).length ≤ _
    rw [length_append]
    exact accepted.2.2.2
  · exact bounded

/-- The loop over the results of the engine checks for room in each round. -/
theorem keeps_decapsulateLoop (results : List TunnResult) :
    Keeps Bounded (decapsulateLoop config results) := by
  have full : Keeps Bounded
      (modify fun link => { link with needsDecapsulateDrain := true } : OnLink Unit) :=
    .modifies fun _ ⟨pending, incoming, outgoing⟩ => ⟨pending, incoming, outgoing⟩
  induction results with
  | nil =>
    unfold decapsulateLoop
    exact keeps_ifRoom keeps_pure.roomy full
  | cons result later ih =>
    unfold decapsulateLoop
    apply keeps_ifRoom _ full
    cases result with
    | done => exact keeps_pure.roomy
    | connectionExpired => exact keeps_resetTunnel.roomy
    | failed error => exact keeps_pure.roomy
    | writeToNetwork packet => exact (keeps_queueDatagram packet).bind _ fun _ => ih
    | writeToTunnelV4 packet | writeToTunnelV6 packet =>
      exact Keeps.roomy ((keeps_acceptPlaintext config packet _).bind _ fun _ => ih)

theorem keeps_decapsulate : Keeps Bounded (decapsulate config) :=
  answers_nextDecapsulated.bounded.bind _ fun _ => keeps_decapsulateLoop config _

theorem keeps_receiveDatagram : Keeps Bounded (receiveDatagram config) := by
  apply answers_nextReceive.bounded.bind _
  intro received
  cases received with
  | datagram bytes =>
    cases bytes with
    | nil => exact keeps_hasRoom
    | cons byte bytes => exact (keeps_decapsulate config).bind _ fun _ => keeps_hasRoom
  | wouldBlock => exact keeps_pure
  | failed error => exact keeps_throw nofun

theorem keeps_receiveLoop (rounds : Nat) : Keeps Bounded (receiveLoop config rounds) := by
  induction rounds with
  | zero => exact keeps_pure
  | succ rounds ih =>
    apply (keeps_receiveDatagram config).bind _
    intro more
    exact .ite (fun _ => ih) fun _ => keeps_pure

theorem keeps_drainFirst : Keeps Bounded (drainFirst config) := by
  apply Meets.bind (fun _ => Bounded)
  · exact .modifies fun _ ⟨pending, incoming, outgoing⟩ => ⟨pending, incoming, outgoing⟩
  · intro _
    apply (keeps_decapsulate config).bind _
    intro _
    exact keeps_ifRoom (keeps_receiveLoop config _).roomy keeps_pure

theorem keeps_receiveDatagrams : Keeps Bounded (receiveDatagrams config) := by
  apply keeps_ifRoom _ keeps_pure
  apply Meets.bind (fun _ => Roomy) (.get fun _ roomy => roomy)
  intro link
  exact .ite (fun _ => (keeps_drainFirst config).roomy)
    fun _ => (keeps_receiveLoop config _).roomy

/-- A packet was taken from the device. -/
structure Taken (link : Link) : Prop extends Roomy link where
  space : link.device.outgoing.length < maxPlaintextPackets

/-- The packet that is put back after the connection has expired finds the place it had. -/
theorem keeps_sendLoop (packets : List Packet) : Keeps Bounded (sendLoop config packets) := by
  induction packets with
  | nil => exact keeps_pure
  | cons packet later ih =>
    apply keeps_ifRoom _ keeps_pure
    apply Meets.bind (fun _ => Taken)
    · apply Meets.modifies
      intro link roomy
      have space : link.device.outgoing.tail.length < maxPlaintextPackets := by
        have outgoing := roomy.outgoing
        rw [length_tail]
        unfold maxPlaintextPackets at *
        omega
      exact ⟨⟨⟨roomy.pending, roomy.incoming, space.le⟩, roomy.room⟩, space⟩
    · intro _
      have taken : ∀ {call : OnLink Unit}, Keeps Roomy call → Keeps Taken call :=
        fun keeps => keeps.strengthen fun _ taken => taken.toRoomy
      apply Meets.ite _ fun _ => taken ih.roomy
      intro _
      apply (answers_nextEncapsulated.meets fun _ _ ⟨⟨⟨pending, incoming, outgoing⟩, room⟩, space⟩ =>
        ⟨⟨⟨pending, incoming, outgoing⟩, room⟩, space⟩).bind _
      intro result
      cases result with
      | writeToNetwork encrypted => exact taken ((keeps_queueDatagram encrypted).bind _ fun _ => ih)
      | done => exact taken ih.roomy
      | connectionExpired =>
        apply Meets.bind (fun _ link => link.Bounded ∧
          link.device.outgoing.length < maxPlaintextPackets)
        · apply Meets.modifies
          intro link taken
          exact ⟨⟨Nat.zero_le _, taken.incoming, taken.outgoing⟩, taken.space⟩
        · intro _
          apply Meets.modifies
          intro link ⟨bounded, space⟩
          exact ⟨bounded.pending, bounded.incoming, space⟩
      | failed | writeToTunnelV4 | writeToTunnelV6 => exact taken (keeps_throw_roomy nofun)

theorem keeps_sendPlaintext : Keeps Bounded (sendPlaintext config) :=
  .bind _ (.get fun _ bounded => bounded) fun _ => keeps_sendLoop config _

theorem keeps_updateTimers : Keeps Bounded updateTimers := by
  apply keeps_ifRoom _ keeps_pure
  apply answers_nextTimers.roomy.bind _
  intro result
  cases result with
  | done => exact keeps_pure.roomy
  | connectionExpired => exact keeps_resetTunnel.roomy
  | failed | writeToTunnelV4 | writeToTunnelV6 => exact keeps_throw_roomy nofun
  | writeToNetwork packet => exact keeps_queueDatagram packet

end Link

namespace Table

variable {σ : Type} {table : Table σ}

/-- The local port of a stream. -/
def port? (table : Table σ) (id : UInt64) : Option UInt16 := table.streams[id]?.map Entry.localPort

/-- The streams are few, each has a port of its own, and these ports are in use. -/
structure Tidy (opens : Nat) (table : Table σ) : Prop where
  count : table.streams.size ≤ maxStreams
  ports : ∀ {id port}, table.port? id = some port → 49152 ≤ port
  distinct : ∀ {id other port}, table.port? id = some port → table.port? other = some port →
    id = other
  used : ∀ {port}, port ∈ table.usedPorts ↔ ∃ id, table.port? id = some port
  next : 49152 ≤ table.nextPort
  /-- Numbers are not given twice as long as they last. -/
  fresh : opens + 1 < 2 ^ 64 → table.nextStreamId.toNat ≤ opens + 1 ∧
    ∀ {id port}, table.port? id = some port → id < table.nextStreamId

/-- Two tables with the same streams on the same ports. -/
structure SamePorts (before after : Table σ) : Prop where
  size : after.streams.size = before.streams.size
  port : ∀ id, after.port? id = before.port? id
  used : after.usedPorts = before.usedPorts
  nextStreamId : after.nextStreamId = before.nextStreamId
  nextPort : after.nextPort = before.nextPort

variable {opens : Nat}

theorem SamePorts.tidy {after : Table σ} (same : SamePorts table after) (tidy : table.Tidy opens) :
    after.Tidy opens := by
  refine ⟨?_, ?_, ?_, ?_, ?_, ?_⟩
  · rw [same.size]
    exact tidy.count
  · intro id port
    rw [same.port]
    exact tidy.ports
  · intro id other port
    rw [same.port, same.port]
    exact tidy.distinct
  · intro port
    rw [same.used]
    simp only [same.port]
    exact tidy.used
  · rw [same.nextPort]
    exact tidy.next
  · rw [same.nextStreamId]
    intro few
    have ⟨next, below⟩ := tidy.fresh few
    refine ⟨next, fun {id port} => ?_⟩
    rw [same.port]
    exact below

theorem getElem?_alter (table : Table σ) (id other : UInt64) (change : Stream σ → Stream σ) :
    (table.alter id change).streams[other]? =
      if id = other then
        table.streams[other]?.map fun entry => { entry with stream := change entry.stream }
      else table.streams[other]? := by
  unfold alter
  cases found : table.streams[id]? with
  | none =>
    split_ifs with same
    · rw [← same, found]
      rfl
    · rfl
  | some entry =>
    rw [OrdMap.getElem?_insert_eq]
    split_ifs with same
    · rw [← same, found]
      rfl
    · rfl

theorem samePorts_alter (table : Table σ) (id : UInt64) (change : Stream σ → Stream σ) :
    SamePorts table (table.alter id change) := by
  refine ⟨?_, ?_, ?_, ?_, ?_⟩
  · unfold alter
    cases found : table.streams[id]? with
    | none => rfl
    | some entry =>
      have known : id ∈ table.streams := by
        rw [Std.ExtTreeMap.mem_iff_isSome_getElem?, found]
        rfl
      dsimp only
      rw [Std.ExtTreeMap.size_insert, if_pos (Std.ExtTreeMap.contains_iff_mem.mpr known)]
  · intro other
    unfold port?
    rw [getElem?_alter]
    split_ifs with same
    · rw [Option.map_map]
      rfl
    · rfl
  all_goals
    unfold alter
    split <;> rfl

theorem getElem?_polled (table : Table σ) (next : UInt64 → σ) (id : UInt64) :
    (table.polled next).streams[id]? = table.streams[id]?.map fun entry =>
      { entry with
        stream := { entry.stream with
          record := { entry.stream.record with
            socket := { entry.stream.record.socket with state := next id } } } } := by
  unfold polled
  dsimp only
  rw [Std.ExtTreeMap.getElem?_map]

theorem samePorts_polled (table : Table σ) (next : UInt64 → σ) :
    SamePorts table (table.polled next) := by
  refine ⟨Std.ExtTreeMap.size_map, fun id => ?_, rfl, rfl, rfl⟩
  unfold port?
  rw [getElem?_polled, Option.map_map]
  rfl

theorem searchPort_spec (rounds : Nat) (next : 49152 ≤ table.nextPort) :
    ∃ later, 49152 ≤ later ∧ (searchPort rounds table).2 = { table with nextPort := later } ∧
      ∀ port, (searchPort rounds table).1 = some port → port ∉ table.usedPorts ∧ 49152 ≤ port := by
  induction rounds generalizing table with
  | zero => exact ⟨table.nextPort, next, rfl, nofun⟩
  | succ rounds ih =>
    have moved : (49152 : UInt16) ≤ if table.nextPort = 65535 then 49152 else table.nextPort + 1 := by
      split_ifs with last
      · exact UInt16.le_refl _
      · rw [UInt16.le_iff_toNat_le] at next ⊢
        have below : table.nextPort.toNat ≠ 65535 := fun same => last (UInt16.toNat_inj.mp same)
        have limit := table.nextPort.toNat_lt
        rw [UInt16.toNat_add]
        have one : (1 : UInt16).toNat = 1 := rfl
        have low : (49152 : UInt16).toNat = 49152 := rfl
        omega
    unfold searchPort
    dsimp only
    generalize (if table.nextPort = 65535 then 49152 else table.nextPort + 1) = later at moved ⊢
    split_ifs with taken
    · exact ih moved
    · refine ⟨later, moved, rfl, fun port found => ?_⟩
      cases found
      exact ⟨taken, next⟩

theorem port?_add (table : Table σ) (port : UInt16) (state : σ) (id : UInt64) :
    (table.add port state).2.port? id =
      if table.nextStreamId = id then some port else table.port? id := by
  unfold port? add
  dsimp only
  rw [OrdMap.getElem?_insert_eq]
  split_ifs <;> rfl

theorem nextStreamId_add (lasts : table.nextStreamId.toNat + 1 < 2 ^ 64) (port : UInt16)
    (state : σ) :
    (table.add port state).2.nextStreamId.toNat = table.nextStreamId.toNat + 1 := by
  have grown : (table.nextStreamId + 1).toNat = table.nextStreamId.toNat + 1 := by
    rw [UInt64.toNat_add]
    exact Nat.mod_eq_of_lt lasts
  have least : 1 ≤ table.nextStreamId + 1 := by
    rw [UInt64.le_iff_toNat_le, grown]
    exact Nat.le_add_left _ _
  rw [← grown]
  apply congrArg UInt64.toNat
  show (if table.nextStreamId + 1 ≤ 1 then 1 else table.nextStreamId + 1) = _
  split_ifs with most
  · exact UInt64.le_antisymm least most
  · rfl

/-- A new stream keeps the table tidy. -/
theorem tidy_add (tidy : table.Tidy opens) (few : opens + 1 < 2 ^ 64)
    (room : table.streams.size < maxStreams) {port : UInt16} (unused : port ∉ table.usedPorts)
    (high : 49152 ≤ port) (state : σ) : (table.add port state).2.Tidy (opens + 1) := by
  have ⟨next, below⟩ := tidy.fresh few
  have other : ∀ id, table.port? id = some port → False :=
    fun id known => unused (tidy.used.mpr ⟨id, known⟩)
  refine ⟨?_, ?_, ?_, ?_, tidy.next, ?_⟩
  · have grown := Std.ExtTreeMap.size_insert_le (t := table.streams) (k := table.nextStreamId)
      (v := { localPort := port, stream := { signal := {}, record := { socket := { state } } } })
    exact grown.trans room
  · intro id found
    rw [port?_add]
    split_ifs with new
    · intro same
      cases same
      exact high
    · exact tidy.ports
  · intro id second found
    rw [port?_add, port?_add]
    split_ifs with new newer newer
    · intro _ _
      rw [← new, newer]
    · intro same known
      cases same
      exact (other _ known).elim
    · intro known same
      cases same
      exact (other _ known).elim
    · exact tidy.distinct
  · intro found
    show found ∈ insert port table.usedPorts ↔ _
    rw [Finset.mem_insert, tidy.used]
    constructor
    · rintro (rfl | ⟨id, known⟩)
      · exact ⟨table.nextStreamId, by rw [port?_add, if_pos rfl]⟩
      · refine ⟨id, ?_⟩
        have old := below known
        rw [port?_add, if_neg (fun same => UInt64.lt_irrefl _ (same ▸ old)), known]
    · intro ⟨id, known⟩
      rw [port?_add] at known
      split_ifs at known with new
      · exact .inl (Option.some.inj known).symm
      · exact .inr ⟨id, known⟩
  · intro more
    have grown := @nextStreamId_add σ table (by omega) port state
    rw [grown]
    refine ⟨by omega, fun {id found} => ?_⟩
    rw [port?_add, UInt64.lt_iff_toNat_lt, grown]
    split_ifs with new
    · intro _
      rw [new]
      exact Nat.lt_succ_self _
    · intro known
      have old := UInt64.lt_iff_toNat_lt.mp (below known)
      omega

theorem openStream_cases (table : Table σ) (config : Config) (remote : SocketAddr)
    (connect : Except String σ) : ∃ later,
      (table.openStream config remote connect).2 = { table with nextPort := later } ∨
      ∃ port state, (table.openStream config remote connect).2 =
        (add { table with nextPort := later } port state).2 := by
  have searched : ∀ rounds (table : Table σ), ∃ later,
      (searchPort rounds table).2 = { table with nextPort := later } := by
    intro rounds
    induction rounds with
    | zero => exact fun table => ⟨table.nextPort, rfl⟩
    | succ rounds ih =>
      intro table
      unfold searchPort
      dsimp only
      generalize (if table.nextPort = 65535 then 49152 else table.nextPort + 1) = later
      split_ifs
      · exact ih { table with nextPort := later }
      · exact ⟨later, rfl⟩
  unfold openStream
  split_ifs
  · exact ⟨table.nextPort, .inl rfl⟩
  · exact ⟨table.nextPort, .inl rfl⟩
  · have ⟨later, moved⟩ := searched (65535 - 49152 + 1) table
    refine ⟨later, ?_⟩
    unfold allocatePort
    generalize searchPort (65535 - 49152 + 1) table = search at moved
    obtain ⟨port, after⟩ := search
    cases (show after = { table with nextPort := later } from moved)
    cases port with
    | none => exact .inl rfl
    | some port =>
      cases connect with
      | error error => exact .inl rfl
      | ok state => exact .inr ⟨port, state, rfl⟩

theorem tidy_openStream (tidy : table.Tidy opens) (few : opens + 1 < 2 ^ 64) (config : Config)
    (remote : SocketAddr) (connect : Except String σ) :
    (table.openStream config remote connect).2.Tidy (opens + 1) := by
  have kept : ∀ {later : UInt16}, 49152 ≤ later →
      Tidy (opens + 1) { table with nextPort := later } := by
    intro later high
    have ⟨next, below⟩ := tidy.fresh few
    exact { tidy with next := high, fresh := fun _ => ⟨next.trans (Nat.le_succ _), below⟩ }
  unfold openStream
  split_ifs with full outside
  · exact kept tidy.next
  · exact kept tidy.next
  · have ⟨later, high, moved, found⟩ := searchPort_spec (65535 - 49152 + 1) tidy.next
    unfold allocatePort
    generalize searchPort (65535 - 49152 + 1) table = search at moved found
    obtain ⟨port, after⟩ := search
    cases (show after = { table with nextPort := later } from moved)
    cases port with
    | none => exact kept high
    | some port =>
      cases connect with
      | error error => exact kept high
      | ok state =>
        have ⟨unused, valid⟩ := found port rfl
        have same : Tidy opens { table with nextPort := later } :=
          { tidy with next := high }
        exact tidy_add same few (Nat.lt_of_not_le full) unused valid state

theorem samePorts_shutdownStream (table : Table σ) (id : UInt64) (how : Shutdown) :
    SamePorts table (table.shutdownStream id how).2 := by
  unfold shutdownStream
  split
  · exact ⟨rfl, fun _ => rfl, rfl, rfl, rfl⟩
  · split
    · exact ⟨rfl, fun _ => rfl, rfl, rfl, rfl⟩
    · dsimp only
      exact samePorts_alter table id _

section Cleanup

theorem port?_remove (table : Table σ) (removed : UInt64 × Entry σ) (id : UInt64) :
    (table.remove removed).port? id = if removed.1 = id then none else table.port? id := by
  unfold port? remove
  dsimp only
  rw [Std.ExtTreeMap.getElem?_erase]
  simp only [Std.LawfulEqCmp.compare_eq_iff_eq]
  split_ifs <;> rfl

variable {opens : Nat} {removed : UInt64 × Entry σ}

theorem tidy_remove (tidy : table.Tidy opens)
    (present : table.port? removed.1 = some removed.2.localPort) :
    (table.remove removed).Tidy opens := by
  refine ⟨?_, ?_, ?_, ?_, tidy.next, ?_⟩
  · exact Std.ExtTreeMap.size_erase_le.trans tidy.count
  · intro id port
    rw [port?_remove]
    split_ifs
    · exact nofun
    · exact tidy.ports
  · intro id other port
    rw [port?_remove, port?_remove]
    split_ifs
    · exact nofun
    · exact nofun
    · exact nofun
    · exact tidy.distinct
  · intro port
    show port ∈ table.usedPorts.erase removed.2.localPort ↔ _
    rw [Finset.mem_erase, tidy.used]
    simp only [port?_remove]
    constructor
    · intro ⟨other, id, known⟩
      refine ⟨id, ?_⟩
      rw [if_neg, known]
      intro same
      rw [same, known] at present
      exact other (Option.some.inj present)
    · intro ⟨id, known⟩
      split_ifs at known with same
      refine ⟨fun equal => same ?_, id, known⟩
      rw [equal] at known
      exact tidy.distinct present known
  · intro few
    have ⟨next, below⟩ := tidy.fresh few
    refine ⟨next, fun {id port} => ?_⟩
    rw [port?_remove]
    split_ifs
    · exact nofun
    · exact below

theorem tidy_foldl_remove (tidy : table.Tidy opens) (removed : List (UInt64 × Entry σ))
    (distinct : (removed.map Prod.fst).Nodup)
    (present : ∀ entry ∈ removed, table.port? entry.1 = some entry.2.localPort) :
    (removed.foldl remove table).Tidy opens := by
  induction removed generalizing table with
  | nil => exact tidy
  | cons first removed ih =>
    have ⟨new, later⟩ := nodup_cons.mp distinct
    apply ih (tidy_remove tidy (present first mem_cons_self)) later
    intro entry member
    rw [port?_remove, if_neg, present entry (mem_cons_of_mem _ member)]
    intro same
    exact new (same ▸ mem_map_of_mem member)

theorem getElem?_foldl_remove (table : Table σ) (removed : List (UInt64 × Entry σ))
    (id : UInt64) : (removed.foldl remove table).streams[id]? =
      if id ∈ removed.map Prod.fst then none else table.streams[id]? := by
  induction removed generalizing table with
  | nil => rfl
  | cons first removed ih =>
    have erased : (table.remove first).streams[id]? =
        if first.1 = id then none else table.streams[id]? := by
      unfold remove
      dsimp only
      rw [Std.ExtTreeMap.getElem?_erase]
      simp only [Std.LawfulEqCmp.compare_eq_iff_eq]
    rw [foldl_cons, ih, erased, map_cons]
    by_cases same : first.1 = id
    · simp [same]
    · have later : id ∈ first.1 :: removed.map Prod.fst ↔ id ∈ removed.map Prod.fst :=
        mem_cons.trans (or_iff_right (Ne.symm same))
      rw [if_neg same]
      simp only [later]

theorem nextStreamId_foldl_remove (table : Table σ) (removed : List (UInt64 × Entry σ)) :
    (removed.foldl remove table).nextStreamId = table.nextStreamId := by
  induction removed generalizing table with
  | nil => rfl
  | cons first removed ih => exact ih _

variable (stack : Stack σ) (now : Nat)

theorem mem_finished :
    removed ∈ table.finished stack now ↔ table.streams[removed.1]? = some removed.2 ∧
      (removed.2.stream.cleanup stack now).1 = true := by
  unfold finished
  rw [mem_filter, OrdMap.mem_toList]

theorem nodup_finished (table : Table σ) :
    ((table.finished stack now).map Prod.fst).Nodup :=
  (OrdMap.nodup_keys_toList table.streams).sublist (filter_sublist.map Prod.fst)

theorem tidy_cleanupStreams (tidy : table.Tidy opens) :
    (table.cleanupStreams stack now).Tidy opens := by
  have checked : SamePorts table { table with
      streams := table.streams.map fun _ entry =>
        { entry with stream := (entry.stream.cleanup stack now).2 } } := by
    refine ⟨Std.ExtTreeMap.size_map, fun id => ?_, rfl, rfl, rfl⟩
    unfold port?
    rw [Std.ExtTreeMap.getElem?_map, Option.map_map]
    rfl
  apply tidy_foldl_remove (checked.tidy tidy) _ (nodup_finished stack now table)
  intro entry member
  have known := ((mem_finished stack now).mp member).1
  rw [checked.port, port?, known]
  rfl

theorem getElem?_cleanupStreams (table : Table σ) (id : UInt64) :
    (table.cleanupStreams stack now).streams[id]? = table.streams[id]?.bind fun entry =>
      if (entry.stream.cleanup stack now).1 then none
      else some { entry with stream := (entry.stream.cleanup stack now).2 } := by
  unfold cleanupStreams
  dsimp only
  rw [getElem?_foldl_remove, Std.ExtTreeMap.getElem?_map]
  cases found : table.streams[id]? with
  | none =>
    split_ifs <;> rfl
  | some entry =>
    have removed : id ∈ (table.finished stack now).map Prod.fst ↔
        (entry.stream.cleanup stack now).1 = true := by
      rw [mem_map]
      constructor
      · intro ⟨other, member, same⟩
        have ⟨known, done⟩ := (mem_finished stack now).mp member
        rw [same, found] at known
        cases known
        exact done
      · intro done
        exact ⟨(id, entry), (mem_finished stack now).mpr ⟨found, done⟩, rfl⟩
    rw [Option.bind_some]
    simp only [removed]
    rfl

end Cleanup

end Table

namespace IpDevice

theorem length_call {self : IpDevice} (incoming : self.incoming.length ≤ maxPlaintextPackets)
    (outgoing : self.outgoing.length ≤ maxPlaintextPackets) (call : DeviceCall) :
    (self.call call).incoming.length ≤ maxPlaintextPackets ∧
      (self.call call).outgoing.length ≤ maxPlaintextPackets := by
  have fits : ∀ {device : IpDevice} (packet : Packet),
      device.outgoing.length < maxPlaintextPackets →
      (device.consume packet).outgoing.length ≤ maxPlaintextPackets := by
    intro device packet room
    rw [consume, length_append]
    exact room
  cases call with
  | receive reply =>
    by_cases full : maxPlaintextPackets ≤ self.outgoing.length
    · have none : self.receive = none := if_pos full
      simp only [IpDevice.call, none]
      exact ⟨incoming, outgoing⟩
    · cases queue : self.incoming with
      | nil =>
        have none : self.receive = none := by rw [receive, if_neg full, queue]
        simp only [IpDevice.call, none]
        exact ⟨incoming, outgoing⟩
      | cons head later =>
        have token : self.receive = some (head, { self with incoming := later }) := by
          rw [receive, if_neg full, queue]
        have fewer : later.length ≤ maxPlaintextPackets := by
          rw [queue, length_cons] at incoming
          exact Nat.le_of_succ_le incoming
        cases reply with
        | none =>
          simp only [IpDevice.call, token]
          exact ⟨fewer, outgoing⟩
        | some reply =>
          simp only [IpDevice.call, token]
          exact ⟨fewer, fits reply (Nat.lt_of_not_le full)⟩
  | transmit packet =>
    cases packet with
    | none => exact ⟨incoming, outgoing⟩
    | some packet =>
      unfold IpDevice.call
      dsimp only
      split_ifs with room
      · exact ⟨incoming, fits packet (of_decide_eq_true room)⟩
      · exact ⟨incoming, outgoing⟩

theorem length_foldl_call (calls : List DeviceCall) {self : IpDevice}
    (incoming : self.incoming.length ≤ maxPlaintextPackets)
    (outgoing : self.outgoing.length ≤ maxPlaintextPackets) :
    (calls.foldl IpDevice.call self).incoming.length ≤ maxPlaintextPackets ∧
      (calls.foldl IpDevice.call self).outgoing.length ≤ maxPlaintextPackets := by
  induction calls generalizing self with
  | nil => exact ⟨incoming, outgoing⟩
  | cons call calls ih =>
    have ⟨incoming', outgoing'⟩ := length_call incoming outgoing call
    exact ih incoming' outgoing'

end IpDevice

theorem append_ne {front rest text : String}
    (other : front.toList.isPrefixOf text.toList = false) : front ++ rest ≠ text := by
  rintro rfl
  have starts := isPrefixOf_iff_prefix.mpr (prefix_append front.toList rest.toList)
  rw [← String.toList_append, other] at starts
  cases starts

theorem DriverError.display_eq_capacity (error : DriverError)
    (same : error.display = "WireGuard datagram queue capacity was exceeded") :
    error = .capacity := by
  cases error with
  | capacity => rfl
  | encapsulatedPlaintext | timerPlaintext => exact absurd same (by decide +kernel)
  | wrote length size =>
    have joined : "send WireGuard datagram: wrote " ++
        (toString length ++ (" of " ++ (toString size ++ " bytes"))) =
        "WireGuard datagram queue capacity was exceeded" := by
      simp only [← String.append_assoc]
      exact same
    exact absurd joined (append_ne (by decide +kernel))
  | send error | receive error | encapsulate error | timer error =>
    exact absurd same (append_ne (by decide +kernel))

namespace Driver

variable {σ : Type} {self : Driver σ}

/-- The driver keeps to its limits. -/
structure Sound (driver : Driver σ) : Prop where
  table : driver.table.Tidy driver.opens
  link : driver.link.Bounded
  error : driver.phase ≠ .ended (some .capacity)

theorem carry_eq (self : Driver σ) (outside : Outside) (call : OnLink Unit) (next : Phase) :
    ∃ link phase, self.carry outside call next = { self with link := link, phase := phase } ∧
      (phase = next ∨ ∃ error, phase = .ended error) := by
  unfold carry
  split
  · exact ⟨_, _, rfl, .inl rfl⟩
  · exact ⟨_, _, rfl, .inr ⟨_, rfl⟩⟩

section Carry

variable (outside : Outside) (call : OnLink Unit) (next : Phase) (now later : Nat)

@[simp] theorem table_carry : (self.carry outside call next).table = self.table := by
  unfold carry
  split <;> rfl

@[simp] theorem opens_carry : (self.carry outside call next).opens = self.opens := by
  unfold carry
  split <;> rfl

@[simp] theorem clock_carry : (self.carry outside call next).clock = self.clock := by
  unfold carry
  split <;> rfl

@[simp] theorem table_tick : (self.tick outside now later).table = self.table := by
  unfold tick
  split <;> simp

@[simp] theorem opens_tick : (self.tick outside now later).opens = self.opens := by
  unfold tick
  split <;> simp

end Carry

/-- Carrying datagrams keeps the driver sound. -/
theorem Sound.carry (sound : self.Sound) (outside : Outside) {call : OnLink Unit}
    (keeps : Link.Keeps Link.Bounded call) {next : Phase} (goesOn : ∀ error, next ≠ .ended error) :
    (self.carry outside call next).Sound := by
  have given : Link.Bounded { self.link with outside := outside } :=
    ⟨sound.link.pending, sound.link.incoming, sound.link.outgoing⟩
  have called := keeps _ given
  unfold Driver.carry
  generalize call.outcome { self.link with outside := outside } = ended at *
  obtain ⟨ending, link⟩ := ended
  cases ending with
  | ok value => exact ⟨sound.table, called, goesOn _⟩
  | error error => exact ⟨sound.table, called.2, fun same => called.1 (by cases same; rfl)⟩

variable {config : Config} {stack : Stack σ} {event : Event} {after : Driver σ}

theorem Step.opens_le (step : Step config stack self event after) : self.opens ≤ after.opens := by
  cases step with
  | openStream phase remote connect => exact Nat.le_succ _
  | flush | receive | send | timers | reflush => simp
  | _ => exact le_rfl

/-- Every step keeps the driver sound. -/
theorem Step.sound (step : Step config stack self event after) (few : after.opens < 2 ^ 64)
    (sound : self.Sound) : after.Sound := by
  cases step with
  | @client id entry signal present held section' =>
    have same := Table.samePorts_alter self.table id fun stream => { stream with signal := signal }
    exact ⟨same.tidy sound.table, sound.link, sound.error⟩
  | openStream phase remote connect =>
    exact ⟨Table.tidy_openStream sound.table few config remote connect, sound.link, nofun⟩
  | shutdown phase id how =>
    exact ⟨(Table.samePorts_shutdownStream _ id how).tidy sound.table, sound.link, nofun⟩
  | stop phase | proceed phase => exact ⟨sound.table, sound.link, nofun⟩
  | flush phase outside | reflush phase outside =>
    exact sound.carry outside Link.keeps_flushDatagrams nofun
  | receive phase outside => exact sound.carry outside (Link.keeps_receiveDatagrams config) nofun
  | @sync again id ids phase now later =>
    have same := Table.samePorts_alter self.table id (Stream.sync stack · now)
    exact ⟨same.tidy sound.table, sound.link, nofun⟩
  | @synced again phase => exact ⟨sound.table, sound.link, by cases again <;> exact nofun⟩
  | poll phase calls polled =>
    have ⟨incoming, outgoing⟩ :=
      IpDevice.length_foldl_call calls sound.link.incoming sound.link.outgoing
    exact ⟨(Table.samePorts_polled _ _).tidy sound.table,
      ⟨sound.link.pending, incoming, outgoing⟩, nofun⟩
  | send phase outside => exact sound.carry outside (Link.keeps_sendPlaintext config) nofun
  | timers phase outside later last =>
    unfold tick
    split_ifs
    · have carried := sound.carry outside Link.keeps_updateTimers (nofun : ∀ error, Phase.reflush ≠ .ended error)
      exact ⟨carried.table, carried.link, carried.error⟩
    · exact ⟨sound.table, sound.link, nofun⟩
  | cleanup phase later =>
    exact ⟨Table.tidy_cleanupStreams stack _ sound.table, sound.link, nofun⟩

theorem sound_new : Sound ({} : Driver σ) := by
  have empty : ∀ id, ({} : Table σ).port? id = none := fun id => rfl
  refine ⟨⟨Nat.zero_le _, ?_, ?_, ?_, UInt16.le_refl _, fun _ => ⟨le_rfl, ?_⟩⟩,
    ⟨Nat.zero_le _, Nat.zero_le _, Nat.zero_le _⟩, nofun⟩
  · intro id port known
    exact nomatch (empty id).symm.trans known
  · intro id other port known
    exact nomatch (empty id).symm.trans known
  · intro port
    constructor
    · intro member
      exact absurd member (Finset.notMem_empty port)
    · intro ⟨id, known⟩
      exact nomatch (empty id).symm.trans known
  · intro id port known
    exact nomatch (empty id).symm.trans known

variable {visits : List (Driver σ × Event)}

/-- Every state of the driver keeps to the limits, as long as numbers last. -/
theorem Runs.sound (runs : Runs config stack {} visits self) (few : self.opens < 2 ^ 64) :
    self.Sound := by
  have kept : self.opens < 2 ^ 64 → self.Sound := by
    apply @Trace.holds _ _ _ (fun driver => driver.opens < 2 ^ 64 → driver.Sound) _ _ _ runs
    · exact fun _ => sound_new
    · intro before event after step sound few
      exact step.sound few (sound (step.opens_le.trans_lt few))
  exact kept few

/-- Whatever the clients, the socket, the engine and the TCP stack do, the streams are few and on
ports of their own, exactly these ports are in use, no queue grows over its limit and the driver
does not fail for a queue that is full. -/
theorem driver_resources_bounded {visits : List (Driver σ × Event)}
    (runs : Runs config stack {} visits self) (few : self.opens < 2 ^ 64) :
    self.table.streams.size ≤ maxStreams ∧
    (∀ (id : UInt64) (entry : Entry σ), self.table.streams[id]? = some entry →
      49152 ≤ entry.localPort ∧ entry.localPort ≤ 65535) ∧
    (∀ (id other : UInt64) (entry entry' : Entry σ), self.table.streams[id]? = some entry →
      self.table.streams[other]? = some entry' → entry.localPort = entry'.localPort → id = other) ∧
    (∀ port, port ∈ self.table.usedPorts ↔ ∃ (id : UInt64) (entry : Entry σ),
      self.table.streams[id]? = some entry ∧ entry.localPort = port) ∧
    self.link.pendingDatagrams.length ≤ maxPendingDatagrams ∧
    self.link.device.incoming.length ≤ maxPlaintextPackets ∧
    self.link.device.outgoing.length ≤ maxPlaintextPackets ∧
    ∀ error, self.phase = .ended (some error) →
      error.display ≠ "WireGuard datagram queue capacity was exceeded" := by
  have sound := runs.sound few
  have known : ∀ {id : UInt64} {entry : Entry σ}, self.table.streams[id]? = some entry →
      self.table.port? id = some entry.localPort := by
    intro id entry found
    rw [Table.port?, found]
    rfl
  refine ⟨sound.table.count, fun id entry found => ⟨sound.table.ports (known found), ?_⟩,
    fun id other entry entry' found found' same => ?_, fun port => ?_, sound.link.pending,
    sound.link.incoming, sound.link.outgoing, fun error ended full => ?_⟩
  · exact UInt16.le_iff_toNat_le.mpr (Nat.le_of_lt_succ entry.localPort.toNat_lt)
  · exact sound.table.distinct (known found) (same ▸ known found')
  · rw [sound.table.used]
    simp only [Table.port?, Option.map_eq_some_iff]
  · exact sound.error (ended.trans (by rw [error.display_eq_capacity full]))

namespace Sample

/-- A TCP socket with the number of bytes that wait to be acknowledged. -/
inductive Tcp where
  | synSent
  | established (queued : Nat)
  | finWait (queued : Nat)
  | closed
deriving DecidableEq

/-- A stack whose peer accepts a connection and then keeps its window closed. -/
def zeroWindow : Stack Tcp where
  canSend
    | .established queued => queued < tcpBufferSize
    | _ => false
  maySend
    | .established _ => true
    | _ => false
  canRecv _ := false
  mayRecv
    | .established _ => true
    | .finWait _ => true
    | _ => false
  isOpen
    | .closed => false
    | _ => true
  isClosed
    | .closed => true
    | _ => false
  sendSlice
    | .established queued, bytes =>
      let count := min bytes.length (tcpBufferSize - queued)
      some (count, .established (queued + count))
    | _, _ => none
  recvSlice _ _ := none
  close
    | .synSent => .closed
    | .established queued => .finWait queued
    | state => state
  abort _ := .closed
  polls before after := after = before ∨ before = .synSent ∧ after = .established 0

/-- A tunnel to the one address `fd00::2`. -/
def tunnel : Config where
  localAddress := .v6 0xfd000000000000000000000000000001#128
  remoteNetwork := ⟨.v6 0xfd000000000000000000000000000002#128, 128, le_rfl⟩
  mtu := 1420

def remote : SocketAddr := ⟨.v6 0xfd000000000000000000000000000002#128, 80, 0⟩

/-- The driver after it has opened a stream. -/
def opened : Driver Tcp where
  table := (({} : Table Tcp).openStream tunnel remote (.ok .synSent)).2
  phase := .commands 255
  opens := 1

theorem runs_opened : Runs tunnel zeroWindow {} [({}, .command)] opened :=
  .cons (.openStream rfl remote (.ok .synSent)) (.nil _)

/-- The stream that an `Open` adds. -/
def added (port : UInt16) : Entry Tcp :=
  ⟨port, { signal := {}, record := { socket := { state := .synSent } } }⟩

/-- A packet for `fd00::1`. -/
def packet : Packet := 0x60 :: (List.replicate 23 0 ++ 0xfd :: (List.replicate 14 0 ++ [1]))

/-- A datagram from which the engine makes an answer, which the socket does not take, and a packet
for the stack. -/
def arriving : Outside where
  sends := [.wouldBlock]
  receives := [.datagram [1]]
  decapsulated := [[.writeToNetwork [7],
    .writeToTunnelV6 packet 0xfd000000000000000000000000000002#128]]

end Sample

open Sample

/-- Two streams are opened and a datagram comes in. -/
theorem driver_resources_bounded_sample :
    ∃ (visits : List (Driver Tcp × Event)) (self : Driver Tcp),
      Runs tunnel zeroWindow {} visits self ∧
      self.table.streams[(1 : UInt64)]? = some (added 49152) ∧
      self.table.streams[(2 : UInt64)]? = some (added 49153) ∧
      (added 49152).localPort ≠ (added 49153).localPort ∧
      (added 49153).localPort ∈ self.table.usedPorts ∧ self.table.streams.size ≤ maxStreams ∧
      self.link.pendingDatagrams = [[7]] ∧
      self.link.pendingDatagrams.length ≤ maxPendingDatagrams ∧
      self.link.device.incoming = [packet] ∧
      self.link.device.incoming.length ≤ maxPlaintextPackets := by
  have runs := Trace.append runs_opened (.cons (.openStream rfl remote (.ok .synSent))
    (.cons (.proceed rfl) (.cons (.flush rfl {}) (.cons (.receive rfl arriving) (.nil _)))))
  have ⟨count, _, distinct, used, pending, incoming, _⟩ :=
    driver_resources_bounded runs (by decide)
  refine ⟨_, _, runs, rfl, rfl, ?_, ?_, count, rfl, pending, rfl, incoming⟩
  · exact fun same => absurd (distinct 1 2 _ _ rfl rfl same) (by decide)
  · exact (used _).mpr ⟨2, _, rfl, rfl⟩

end Driver

end Ployz.Tunnel
