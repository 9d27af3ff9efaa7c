import Ployz.Cluster.Service
import Ployz.Verif.IpText
import Ployz.Verif.Ipam

/-!
# What a machine that joins is

The phases of `add_machine`: what the request, the list of machines and the allocator have
established when the next phase begins, and what the new row holds. A row created from them can be
listed again, takes a /24 block away from the blocks of the machines that were listed, and has a key
none of those has.
-/

namespace Ployz.Cluster

open Api

section Rows

/-- The subnet of a stored machine. -/
def subnetOf (machine : MachineInfo) : Option IpPrefix :=
  machine.network.bind fun network => network.subnet.bind fun subnet =>
    (prefixFromProto subnet).toOption

/-- The public key of a stored machine. -/
def keyOf (machine : MachineInfo) : Option (List UInt8) := machine.network.map (·.publicKey)

/-- The management address of a stored machine. -/
def managementOf (machine : MachineInfo) : Option Address := machine.network.bind readManagement

/-- The subnets of two machines share no address. -/
def Separate (left right : MachineInfo) : Prop :=
  ∀ subnet ∈ subnetOf left, ∀ other ∈ subnetOf right, Disjoint subnet.range other.range

theorem Separate.symm {left right : MachineInfo} (separate : Separate left right) :
    Separate right left := fun subnet own other used => (separate other used subnet own).symm

theorem prefixFromProto_toProto (value : IpPrefix) :
    prefixFromProto (prefixToProto value) = .ok value := by
  rw [prefixFromProto, prefixToProto, PbIpPrefix.toPrefix_new _ _ value.fits]
  simp only [bind, Except.bind, IpPrefix.new, dif_pos value.fits]
  rfl

end Rows

section Faults

/-- The call does not fail with the error of a refused allocator. -/
def Harmless (fault : Fault Status) : Prop :=
  ∀ text, fault ≠ .error ⟨.internal, "create IPAM manager: " ++ text⟩

/-- A label that tells an error apart from that of a refused allocator in its first letters. -/
def Distinguished (label : String) : Prop :=
  8 ≤ label.toList.length ∧ label.toList.take 8 ≠ "create I".toList

instance (label : String) : Decidable (Distinguished label) :=
  inferInstanceAs (Decidable (_ ∧ _))

theorem harmless_panic : Harmless .panic := fun _ same => nomatch same

theorem harmless_of_code {status : Status} (other : status.code ≠ .internal) :
    Harmless (.error status) := by
  rintro text same
  cases same
  exact other rfl

variable {label : String}

theorem harmless_of_label {rest : String} (distinguished : Distinguished label) :
    Harmless (.error ⟨.internal, label ++ rest⟩) := by
  intro text same
  injection same with statuses
  injection statuses with _ messages
  have letters := congrArg (fun message => message.toList.take 8) messages
  simp only [String.toList_append] at letters
  rw [List.take_append_of_le_length distinguished.1,
    List.take_append_of_le_length (by decide)] at letters
  exact distinguished.2 letters

variable {ε α : Type}

theorem ends_internal (distinguished : Distinguished label) (display : ε → String)
    {result : Exec ε α} {post : α → Prop} {bad : Fault ε → Prop} (ends : Ends result post bad) :
    Ends (internal label display result) post Harmless := by
  cases result with
  | ok value => exact ends
  | error fault =>
    cases fault with
    | error reason => exact harmless_of_label distinguished
    | panic => exact harmless_panic

theorem ends_invalidArgument (label : String) (result : Exec AddressError α) :
    Ends (invalidArgument label result) (fun _ => True) Harmless := by
  cases result with
  | ok value => trivial
  | error fault =>
    cases fault with
    | error reason => exact harmless_of_code nofun
    | panic => exact harmless_panic

theorem ends_expect (value : Option α) :
    Ends (Exec.expect value : Exec Status α) (fun found => value = some found) Harmless := by
  cases value with
  | none => exact harmless_panic
  | some found => rfl

end Faults

section Requests

theorem ends_checkEach {α β : Type} (label : String) (read : α → Exec AddressError β)
    (messages : List α) : Ends (checkEach label read messages) (fun _ => True) Harmless := by
  refine Ends.forM fun message _ => ?_
  have ends := ends_invalidArgument label (read message)
  cases result : invalidArgument label (read message) with
  | ok value => trivial
  | error fault => exact ends.of_error result

theorem ends_validate (network : NetworkConfig) :
    Ends network.validate (fun _ => True) Harmless := by
  refine (ends_checkEach _ _ _).bind fun _ _ => ?_
  refine (ends_checkEach _ _ _).bind fun _ _ => ?_
  refine (ends_checkEach _ _ _).bind fun _ _ => ?_
  unfold checkKey
  split_ifs
  · exact harmless_of_code nofun
  · exact harmless_of_code nofun
  · trivial

/-- A request that passes has a valid network. -/
theorem checkRequest_spec (request : AddMachineRequest) :
    Ends (checkRequest request)
      (fun network => request.network = some network ∧ network.validate = .ok ()) Harmless := by
  unfold checkRequest
  cases request.network with
  | none => exact harmless_of_code nofun
  | some network =>
    cases validated : network.validate with
    | error fault =>
      simp only [validated, bind, Except.bind]
      exact (ends_validate network).of_error validated
    | ok passed =>
      simp only [validated, bind, Except.bind]
      split_ifs
      · exact harmless_of_code nofun
      · cases request.publicIp with
        | none => exact ⟨rfl, validated⟩
        | some ip =>
          have ends := ends_invalidArgument "invalid public IP: " (Exec.lift ip.toAddr)
          exact ends.bind fun _ _ => ⟨rfl, validated⟩

end Requests

section Snapshot

variable (platform : Platform)

/-- A stored machine does not collide with the request. -/
structure Unclaimed (request : AddMachineRequest) (network : NetworkConfig)
    (machine : MachineInfo) : Prop where
  name : request.name ≠ "" → machine.name ≠ request.name
  management : ∀ requested ∈ readManagement network, managementOf machine ≠ some requested
  key : keyOf machine ≠ some network.publicKey

theorem examineKey_spec (network : NetworkConfig) (machine : MachineInfo)
    {stored : NetworkConfig} (configured : machine.network = some stored) :
    Ends (examineKey platform network machine stored)
      (fun subnet => subnetOf machine = some subnet ∧ keyOf machine ≠ some network.publicKey)
      Harmless := by
  unfold examineKey
  split_ifs with same
  · exact harmless_of_code nofun
  · refine (ends_expect stored.subnet).bind fun message set => ?_
    cases read : prefixFromProto message with
    | error fault => exact harmless_panic
    | ok subnet =>
      show subnetOf machine = some subnet ∧ keyOf machine ≠ some network.publicKey
      simp [subnetOf, keyOf, configured, set, read, same, Except.toOption]

/-- The loop over the stored machines goes on behind a machine that does not collide. -/
theorem examineMachine_spec (request : AddMachineRequest) (network : NetworkConfig)
    (machine : MachineInfo) :
    Ends (examineMachine platform request network machine)
      (fun subnet => subnetOf machine = some subnet ∧ Unclaimed request network machine)
      Harmless := by
  unfold examineMachine
  split_ifs with named
  · exact harmless_of_code nofun
  · refine (ends_expect machine.network).bind fun stored configured => ?_
    have name : request.name ≠ "" → machine.name ≠ request.name := fun asked same =>
      named ⟨asked, same⟩
    have keyed := examineKey_spec platform network machine configured
    cases asked : readManagement network with
    | none =>
      refine keyed.mono (fun subnet ⟨read, key⟩ => ⟨read, name, ?_, key⟩) fun _ bad => bad
      simp [asked]
    | some requested =>
      simp only
      split_ifs with taken
      · exact harmless_of_code nofun
      · refine keyed.mono (fun subnet ⟨read, key⟩ => ⟨read, name, ?_, key⟩) fun _ bad => bad
        simpa [asked, managementOf, configured] using taken

/-- The loop over the stored machines returns their subnets when none of them collides. -/
theorem examineMachines_spec (request : AddMachineRequest) (network : NetworkConfig)
    (machines : List MachineInfo) :
    Ends (examineMachines platform request network machines)
      (fun allocated => machines.map subnetOf = allocated.map some ∧
        ∀ machine ∈ machines, Unclaimed request network machine) Harmless := by
  refine Ends.foldlM (fun done (allocated : List IpPrefix) =>
    done.map subnetOf = allocated.map some ∧
      ∀ machine ∈ done, Unclaimed request network machine) ⟨rfl, by simp⟩ ?_
  rintro done machine rest allocated _ ⟨listed, unclaimed⟩
  refine (examineMachine_spec platform request network machine).bind fun subnet ⟨read, free⟩ => ?_
  refine ⟨by simp [listed, read], fun other member => ?_⟩
  rcases List.mem_append.mp member with old | new
  · exact unclaimed other old
  · rw [List.mem_singleton.mp new]
    exact free

/-- What `add_machine` knows when it goes on to read the network. -/
structure Inquired (store : Store) (outcomes : AddOutcomes) (request : AddMachineRequest)
    (inquiry : Inquiry) : Prop where
  requested : request.network = some inquiry.network
  valid : inquiry.network.validate = .ok ()
  listed : ∃ stream, outcomes.listing = .ok stream ∧
    inquiry.machines = stream.collect store.machines
  allocated : inquiry.machines.map subnetOf = inquiry.allocated.map some
  unclaimed : ∀ machine ∈ inquiry.machines, Unclaimed request inquiry.network machine
  name : chooseName outcomes.nameSuffix request = .ok inquiry.name
  management : chooseManagement inquiry.network = .ok inquiry.management

theorem ends_lift {ε α : Type} (result : Except ε α) :
    Ends (Exec.lift result) (fun value => result = .ok value) (fun _ => True) := by
  cases result with
  | ok value => rfl
  | error reason => trivial

theorem listMachines_spec {store : Store} (query : Except String RowStream)
    (readable : ∀ machine ∈ store.machines, Store.Readable machine) :
    Ends (store.listMachines query)
      (fun machines => ∃ stream, query = .ok stream ∧ machines = stream.collect store.machines)
      (fun _ => True) := by
  cases query with
  | error source => trivial
  | ok stream =>
    have decoded := Store.decodeMachineRows_eq fun machine member =>
      readable machine (stream.collect_subset store.machines member)
    rw [Store.listMachines, decoded]
    exact ⟨stream, rfl, rfl⟩

theorem ends_value {α : Type} {result : Exec Status α}
    (ends : Ends result (fun _ => True) Harmless) :
    Ends result (fun value => result = .ok value) Harmless := by
  cases result with
  | ok value => rfl
  | error fault => exact ends

theorem ends_chooseName (suffix : Except String String) (request : AddMachineRequest) :
    Ends (chooseName suffix request) (fun _ => True) Harmless := by
  unfold chooseName
  split_ifs
  · have generated := ends_lift (newRandomMachineName suffix)
    exact (ends_internal (by decide) id generated).mono (fun _ _ => trivial) fun _ bad => bad
  · trivial

theorem ends_chooseManagement (network : NetworkConfig) :
    Ends (chooseManagement network) (fun _ => True) Harmless := by
  unfold chooseManagement
  cases network.managementIp with
  | some address => trivial
  | none =>
    have derived := ends_lift (managementIp network.publicKey)
    exact (ends_internal (by decide) id derived).bind fun _ _ => trivial

/-- `add_machine` up to the read of the network, in a store whose rows can be listed. -/
theorem inquire_spec {store : Store} (outcomes : AddOutcomes) (request : AddMachineRequest)
    (readable : ∀ machine ∈ store.machines, Store.Readable machine) :
    Ends (inquire platform store outcomes request) (Inquired store outcomes request)
      Harmless := by
  refine (checkRequest_spec request).bind fun network ⟨requested, valid⟩ => ?_
  refine (ends_internal (by decide) _ (listMachines_spec outcomes.listing readable)).bind
    fun machines listed => ?_
  refine (examineMachines_spec platform request network machines).bind
    fun allocated ⟨subnets, unclaimed⟩ => ?_
  refine (ends_internal (by decide) _ (ends_lift outcomes.machineId)).bind fun machineId _ => ?_
  refine (ends_value (ends_chooseName outcomes.nameSuffix request)).bind fun name chosen => ?_
  refine (ends_value (ends_chooseManagement network)).bind fun management derived => ?_
  exact ⟨requested, valid, listed, subnets, unclaimed, chosen, derived⟩

end Snapshot

variable {network : IpPrefix}

section Subnet

/-- The block picked for a new machine. -/
structure Picked (network : IpPrefix) (allocated : List IpPrefix) (subnet : IpPrefix) : Prop where
  length : subnet.bits = defaultSubnetBits
  aligned : subnet.Aligned
  inside : subnet.range ⊆ network.range
  free : ∀ used ∈ allocated, Disjoint used.range subnet.range

/-- The blocks can all be handed to an allocator of the network. -/
structure Arranged (network : IpPrefix) (allocated : List IpPrefix) : Prop where
  nonzero : network.bits ≠ 0
  inside : ∀ used ∈ allocated, used.range ⊆ network.range
  apart : allocated.Pairwise fun left right => Disjoint left.range right.range

theorem Arranged.not_refused {allocated : List IpPrefix} (arranged : Arranged network allocated)
    {fault : Fault IpPrefixError} : Ipam.withAllocated network allocated ≠ .error fault := by
  intro failed
  rcases (Ipam.withAllocated_spec network allocated).of_error failed with
    zero | ⟨before, subnet, after, split, outside | ⟨used, member, meets⟩⟩
  · exact arranged.nonzero zero
  · have inside := arranged.inside subnet (by simp [split])
    exact outside ⟨inside subnet.address_mem_range, inside subnet.last_mem_range⟩
  · have apart := arranged.apart
    rw [split, List.pairwise_append] at apart
    exact meets (apart.2.2 used member subnet List.mem_cons_self)

theorem allocateSubnetLen_ends (ipam : Ipam) (bits : Nat) :
    Ends (ipam.allocateSubnetLen bits).1 (ipam.Candidate bits) (fun _ => True) := by
  by_cases sized : ipam.network.bits ≤ bits ∧ bits ≤ ipam.network.address.bitLen
  · rcases Ipam.allocateSubnetLen_spec sized.1 sized.2 with
      ⟨subnet, returned, candidate, _⟩ | ⟨failed, _⟩
    · rw [returned]
      exact candidate
    · rw [failed]
      trivial
  · rw [Ipam.allocateSubnetLen, dif_neg sized]
    trivial

/-- A subnet is picked, or the subnets were not arranged. -/
theorem pickSubnet_spec (network : IpPrefix) (allocated : List IpPrefix) :
    Ends (pickSubnet network allocated) (Picked network allocated)
      (fun fault => Arranged network allocated → Harmless fault) := by
  unfold pickSubnet
  cases started : Ipam.withAllocated network allocated with
  | error fault =>
    have refused : ∀ arranged : Arranged network allocated, False := fun arranged =>
      arranged.not_refused started
    cases fault with
    | error | panic => exact fun arranged => (refused arranged).elim
  | ok ipam =>
    have start := (Ipam.withAllocated_spec network allocated).of_ok started
    have range : ipam.network.range = network.range := by
      rw [start.network_eq, IpPrefix.range_base]
    have picked := ends_internal (by decide : Distinguished "allocate subnet for machine: ")
      IpPrefixError.display (allocateSubnetLen_ends ipam defaultSubnetBits)
    refine picked.mono (fun subnet candidate => ?_) fun fault harmless _ => harmless
    refine ⟨candidate.length, candidate.aligned, range ▸ candidate.inside, ?_⟩
    exact start.allocated_eq ▸ candidate.free

/-- `add_machine` reads back the network that was put into the store. -/
theorem readNetwork_spec {store : Store} (failure : Option String)
    (stored : ∀ text ∈ store.values[networkKey]?, text = network.display) :
    Ends (readNetwork store failure) (· = network) Harmless := by
  refine (ends_internal (by decide) _ (ends_lift (store.get failure networkKey))).bind
    fun text returned => ?_
  have same : text = network.display := by
    unfold Store.get at returned
    cases failure with
    | some source => cases returned
    | none =>
      cases found : store.values[networkKey]? with
      | none =>
        rw [found] at returned
        cases returned
      | some value =>
        rw [found] at returned
        cases returned
        exact stored _ found
  rw [same, IpPrefix.fromStr_display]
  rfl

end Subnet

section Record

variable {request : AddMachineRequest} {inquiry : Inquiry} {subnet : IpPrefix}

@[simp] theorem subnetOf_machine : subnetOf (inquiry.machine request subnet) = some subnet := by
  simp only [subnetOf, Inquiry.machine, Option.bind_some, prefixFromProto_toProto]
  rfl

@[simp] theorem keyOf_machine :
    keyOf (inquiry.machine request subnet) = some inquiry.network.publicKey := rfl

variable {store : Store} {outcomes : AddOutcomes}

theorem managementOf_machine (inquired : Inquired store outcomes request inquiry) :
    ∃ address, managementOf (inquiry.machine request subnet) = some address ∧
      (inquiry.network.managementIp ≠ none → readManagement inquiry.network = some address) ∧
      (inquiry.network.managementIp = none →
        (managementIp inquiry.network.publicKey).map Address.ofIp = .ok address) := by
  have valid := NetworkConfig.validate_eq_ok_iff.mp inquired.valid
  have chosen := inquired.management
  unfold chooseManagement at chosen
  cases asked : inquiry.network.managementIp with
  | some ip =>
    rw [asked] at chosen
    cases chosen
    obtain ⟨address, read⟩ := valid.2.1 _ asked
    refine ⟨address, ?_, fun _ => ?_, fun absent => nomatch absent⟩
    · simp only [managementOf, Inquiry.machine, Option.bind_some, readManagement]
      rw [read]
      rfl
    · simp only [readManagement, asked, Option.bind_some]
      rw [read]
      rfl
  | none =>
    rw [asked] at chosen
    obtain ⟨ip, derived, wrapped⟩ := bind_eq_ok_iff.mp chosen
    refine ⟨.ofIp ip, ?_, fun present => absurd rfl present, fun _ => ?_⟩
    · simp only [managementOf, Inquiry.machine, Option.bind_some, readManagement]
      rw [← Except.ok.inj wrapped, Ip.toAddr_new]
      rfl
    · cases made : managementIp inquiry.network.publicKey with
      | error reason =>
        rw [made] at derived
        cases derived
      | ok value =>
        rw [made] at derived
        cases derived
        rfl

theorem readable_machine (inquired : Inquired store outcomes request inquiry) :
    Store.Readable (inquiry.machine request subnet) := by
  obtain ⟨_, _, endpoints, key⟩ := NetworkConfig.validate_eq_ok_iff.mp inquired.valid
  have ⟨address, read, _⟩ : ∃ address,
      managementOf (inquiry.machine request subnet) = some address ∧ _ :=
    managementOf_machine inquired
  refine ⟨_, rfl, NetworkConfig.validate_eq_ok_iff.mpr ⟨?_, ?_, endpoints, key⟩⟩
  · rintro message ⟨⟩
    exact ⟨_, PbIpPrefix.toPrefix_new _ _ subnet.fits⟩
  · rintro ip ⟨⟩
    simp only [managementOf, Inquiry.machine, Option.bind_some, readManagement] at read
    cases parsed : inquiry.management.toAddr with
    | ok value => exact ⟨value, rfl⟩
    | error reason =>
      rw [parsed] at read
      cases read

variable {other : MachineInfo}

theorem Inquired.separate (inquired : Inquired store outcomes request inquiry)
    (picked : Picked network inquiry.allocated subnet) (listed : other ∈ inquiry.machines) :
    Separate other (inquiry.machine request subnet) := by
  intro used own taken new
  rw [subnetOf_machine] at new
  cases new
  have among : some used ∈ inquiry.allocated.map some := by
    rw [← inquired.allocated, ← own]
    exact List.mem_map_of_mem listed
  obtain ⟨_, allocated, same⟩ := List.mem_map.mp among
  cases same
  exact picked.free used allocated

theorem Inquired.key_ne (inquired : Inquired store outcomes request inquiry)
    (listed : other ∈ inquiry.machines) : keyOf other ≠ keyOf (inquiry.machine request subnet) := by
  rw [keyOf_machine]
  exact (inquired.unclaimed other listed).key

theorem Inquired.name_ne (inquired : Inquired store outcomes request inquiry)
    (listed : other ∈ inquiry.machines) (asked : request.name ≠ "") :
    other.name ≠ inquiry.name := by
  have chosen := inquired.name
  rw [chooseName, if_neg asked] at chosen
  rw [← Except.ok.inj chosen]
  exact (inquired.unclaimed other listed).name asked

end Record

section Joining

variable (platform : Platform)

/-- What one `add_machine` can do to a store whose rows can be listed. -/
theorem addMachine_store {store : Store} (outcomes : AddOutcomes) (request : AddMachineRequest)
    (readable : ∀ machine ∈ store.machines, Store.Readable machine) :
    (addMachine platform store outcomes request).2 = store ∨
      ∃ inquiry network subnet fresh, Inquired store outcomes request inquiry ∧
        readNetwork store outcomes.networkRead = .ok network ∧
        Picked network inquiry.allocated subnet ∧
        (addMachine platform store outcomes request).2 =
          store.insertMachine (inquiry.machine request subnet) fresh := by
  unfold addMachine addMachineWithoutReadyCheck
  cases checkReady outcomes.ready with
  | error fault => exact .inl rfl
  | ok ready =>
    cases prepared : inquire platform store outcomes request >>=
        complete store outcomes request with
    | error fault => exact .inl rfl
    | ok machine =>
      obtain ⟨inquiry, begun, rest⟩ := bind_eq_ok_iff.mp prepared
      obtain ⟨network, read, rest⟩ := bind_eq_ok_iff.mp rest
      obtain ⟨subnet, chosen, made⟩ := bind_eq_ok_iff.mp rest
      cases made
      have inquired := (inquire_spec platform outcomes request readable).of_ok begun
      have picked := (pickSubnet_spec network inquiry.allocated).of_ok chosen
      rcases store.createMachine_store platform.duplicateKey outcomes.creation
        (inquiry.machine request subnet) with same | ⟨fresh, left⟩
      · exact .inl same
      · exact .inr ⟨inquiry, network, subnet, fresh, inquired, read, picked, left⟩

theorem create_store_of_applied {store : Store} {outcomes : AddOutcomes} {machine : MachineInfo}
    (applied : outcomes.creation = .applied)
    (fresh : machine.id ∉ store.machines.map MachineInfo.id) :
    (create platform store outcomes machine).2 = store.insertMachine machine fresh := by
  simp only [create, Store.createMachine, dif_pos fresh, applied, Store.exec]

theorem delete_store (store : Store) (outcomes : RemoveOutcomes) (id : String) :
    (delete store outcomes id).2 = store ∨
      (delete store outcomes id).2 = store.eraseMachine id := by
  have same : (delete store outcomes id).2 = (store.deleteMachine outcomes.deletion id).2 := by
    unfold delete
    split <;> simp_all
  rw [same]
  exact store.deleteMachine_store outcomes.deletion id

theorem removeMachine_store (store : Store) (outcomes : RemoveOutcomes) (id : String) :
    (removeMachine store outcomes id).2 = store ∨
      (removeMachine store outcomes id).2 = store.eraseMachine id := by
  unfold removeMachine
  cases checkRemoval outcomes id with
  | error fault => exact .inl rfl
  | ok passed => exact delete_store store outcomes id

end Joining

end Ployz.Cluster
