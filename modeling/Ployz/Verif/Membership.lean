import Ployz.Base.Run
import Ployz.Verif.Joining

/-!
# A cluster that is served one call at a time

When every list of machines is whole, a serial cluster keeps the subnets of its machines apart and
in its network, keeps their keys distinct, and never has its own subnets refused by the allocator.
Names and management addresses the service makes up are not checked against the store, so they stay
distinct only as long as what is made up is new.
-/

namespace Ployz.Cluster

open Api

section Steps

variable (platform : Platform) {store : Store} {call : Call}

/-- Every row can be listed. -/
def Store.Listable (self : Store) : Prop := ∀ machine ∈ self.machines, Store.Readable machine

/-- The machine is what an `add_machine` in this store creates. -/
def Joins (store : Store) (outcomes : AddOutcomes) (request : AddMachineRequest)
    (machine : MachineInfo) : Prop :=
  ∃ inquiry network subnet, Inquired store outcomes request inquiry ∧
    readNetwork store outcomes.networkRead = .ok network ∧
    Picked network inquiry.allocated subnet ∧ machine = inquiry.machine request subnet

theorem serve_store (call : Call) (listable : store.Listable) :
    (serve platform store call).2 = store ∨
      (∃ id, (serve platform store call).2 = store.eraseMachine id) ∨
      ∃ outcomes request machine fresh, call = .add outcomes request ∧
        Joins store outcomes request machine ∧
        (serve platform store call).2 = store.insertMachine machine fresh := by
  cases call with
  | remove outcomes id =>
    rcases removeMachine_store store outcomes id with same | erased
    · exact .inl same
    · exact .inr (.inl ⟨id, erased⟩)
  | add outcomes request =>
    rcases addMachine_store platform outcomes request listable with
      same | ⟨inquiry, network, subnet, fresh, inquired, read, picked, left⟩
    · exact .inl same
    · exact .inr (.inr ⟨outcomes, request, _, fresh, rfl,
        ⟨inquiry, network, subnet, inquired, read, picked, rfl⟩, left⟩)

theorem Joins.readable {outcomes : AddOutcomes} {request : AddMachineRequest}
    {machine : MachineInfo} (joins : Joins store outcomes request machine) :
    Store.Readable machine := by
  obtain ⟨inquiry, network, subnet, inquired, _, _, rfl⟩ := joins
  exact readable_machine inquired

/-- Every call keeps the store listable. -/
theorem Store.Listable.step (listable : store.Listable) (call : Call) :
    (serve platform store call).2.Listable := by
  rcases serve_store platform call listable with
    same | ⟨id, erased⟩ | ⟨outcomes, request, machine, fresh, _, joins, inserted⟩
  · rw [same]
    exact listable
  · rw [erased]
    exact fun other member => listable other (List.mem_of_mem_filter member)
  · rw [inserted]
    intro other member
    rcases List.mem_append.mp member with old | new
    · exact listable other old
    · rw [List.mem_singleton.mp new]
      exact joins.readable

/-- What holds between any two stored machines is kept by a call, when it holds between the
stored machines and one that joins. -/
theorem pairwise_serve {relation : MachineInfo → MachineInfo → Prop} (listable : store.Listable)
    (held : store.machines.Pairwise relation)
    (joining : ∀ outcomes request machine, call = .add outcomes request →
      Joins store outcomes request machine → ∀ other ∈ store.machines, relation other machine) :
    (serve platform store call).2.machines.Pairwise relation := by
  rcases serve_store platform call listable with
    same | ⟨id, erased⟩ | ⟨outcomes, request, machine, fresh, called, joins, inserted⟩
  · rw [same]
    exact held
  · rw [erased]
    exact held.filter _
  · rw [inserted]
    refine List.pairwise_append.mpr ⟨held, List.pairwise_singleton _ _, fun other member new => ?_⟩
    intro last
    rw [List.mem_singleton.mp last]
    exact joining outcomes request machine called joins other member

/-- The list of machines a call works on is whole. -/
def Delivered : Store × Call → Prop
  | (store, .add outcomes _) =>
    ∀ stream, outcomes.listing = .ok stream → stream.Complete store.machines
  | (_, .remove _ _) => True

theorem Inquired.perm {outcomes : AddOutcomes} {request : AddMachineRequest} {inquiry : Inquiry}
    (inquired : Inquired store outcomes request inquiry)
    (delivered : Delivered (store, .add outcomes request)) :
    inquiry.machines.Perm store.machines := by
  obtain ⟨stream, answered, listed⟩ := inquired.listed
  rw [listed]
  exact (delivered stream answered).collect_perm

end Steps

section AddressSpace

/-- A stored machine has a /24 block of the network. -/
def Housed (network : IpPrefix) (machine : MachineInfo) : Prop :=
  ∃ subnet, subnetOf machine = some subnet ∧ subnet.bits = 24 ∧ subnet.Aligned ∧
    subnet.range ⊆ network.range

/-- The state of a cluster with the given network. -/
structure Sound (network : IpPrefix) (store : Store) : Prop where
  text : ∀ text ∈ store.values[networkKey]?, text = network.display
  listable : store.Listable
  housed : ∀ machine ∈ store.machines, Housed network machine
  separate : store.machines.Pairwise Separate
  keys : store.machines.Pairwise fun left right => keyOf left ≠ keyOf right

variable (platform : Platform) {network : IpPrefix} {store : Store} {call : Call}

theorem Sound.arranged (sound : Sound network store) (nonzero : network.bits ≠ 0)
    {machines : List MachineInfo} {allocated : List IpPrefix}
    (whole : machines.Perm store.machines)
    (subnets : machines.map subnetOf = allocated.map some) : Arranged network allocated := by
  have known : ∀ used ∈ allocated, ∃ machine ∈ machines, subnetOf machine = some used := by
    intro used member
    have listed : some used ∈ machines.map subnetOf := by
      rw [subnets]
      exact List.mem_map_of_mem member
    exact List.mem_map.mp listed
  refine ⟨nonzero, fun used member => ?_, ?_⟩
  · obtain ⟨machine, listed, own⟩ := known used member
    obtain ⟨subnet, same, _, _, inside⟩ := sound.housed machine (whole.mem_iff.mp listed)
    rw [own] at same
    exact Option.some.inj same ▸ inside
  · have separate : machines.Pairwise Separate :=
      (whole.pairwise_iff fun separate => separate.symm).mpr sound.separate
    have mapped : (machines.map subnetOf).Pairwise fun left right =>
        ∀ subnet ∈ left, ∀ other ∈ right, Disjoint subnet.range other.range :=
      List.pairwise_map.mpr separate
    rw [subnets, List.pairwise_map] at mapped
    exact mapped.imp fun disjoint => disjoint _ rfl _ rfl

theorem values_serve (call : Call) (listable : store.Listable) :
    (serve platform store call).2.values = store.values := by
  rcases serve_store platform call listable with
    same | ⟨id, erased⟩ | ⟨_, _, machine, fresh, _, _, inserted⟩
  · rw [same]
  · rw [erased]
    rfl
  · rw [inserted]
    rfl

/-- Every delivered call keeps the store sound. -/
theorem Sound.step (sound : Sound network store) (delivered : Delivered (store, call)) :
    Sound network (serve platform store call).2 := by
  refine ⟨?_, sound.listable.step platform call, ?_, ?_, ?_⟩
  · rw [values_serve platform call sound.listable]
    exact sound.text
  · rcases serve_store platform call sound.listable with
      same | ⟨id, erased⟩ | ⟨outcomes, request, machine, fresh, rfl, joins, inserted⟩
    · rw [same]
      exact sound.housed
    · rw [erased]
      exact fun other member => sound.housed other (List.mem_of_mem_filter member)
    · rw [inserted]
      intro other member
      rcases List.mem_append.mp member with old | new
      · exact sound.housed other old
      · obtain ⟨inquiry, read, subnet, _, reading, picked, rfl⟩ := joins
        have same := (readNetwork_spec outcomes.networkRead sound.text).of_ok reading
        rw [List.mem_singleton.mp new]
        exact ⟨subnet, subnetOf_machine, picked.length, picked.aligned, same ▸ picked.inside⟩
  · refine pairwise_serve platform sound.listable sound.separate ?_
    rintro outcomes request machine rfl ⟨inquiry, read, subnet, inquired, _, picked, rfl⟩
    intro other member
    exact inquired.separate picked ((inquired.perm delivered).mem_iff.mpr member)
  · refine pairwise_serve platform sound.listable sound.keys ?_
    rintro outcomes request machine rfl ⟨inquiry, read, subnet, inquired, _, _, rfl⟩
    intro other member
    exact inquired.key_ne ((inquired.perm delivered).mem_iff.mpr member)

theorem ends_create (outcomes : AddOutcomes) (machine : MachineInfo) :
    Ends (create platform store outcomes machine).1 (fun _ => True) Harmless := by
  have created := ends_lift ((store.createMachine platform.duplicateKey outcomes.creation
    machine).1.map fun _ => machine)
  exact (ends_internal (by decide) _ created).mono (fun _ _ => trivial) fun _ bad => bad

/-- An `add_machine` in a sound cluster does not have its subnets refused by the allocator. -/
theorem Sound.addMachine_ends (sound : Sound network store) (nonzero : network.bits ≠ 0)
    (outcomes : AddOutcomes) (request : AddMachineRequest)
    (delivered : Delivered (store, .add outcomes request)) :
    Ends (addMachine platform store outcomes request).1 (fun _ => True) Harmless := by
  have prepared : Ends (inquire platform store outcomes request >>=
      complete store outcomes request) (fun _ => True) Harmless := by
    refine (inquire_spec platform outcomes request sound.listable).bind fun inquiry inquired => ?_
    have arranged := sound.arranged nonzero (inquired.perm delivered) inquired.allocated
    refine (readNetwork_spec outcomes.networkRead sound.text).bind fun read same => ?_
    subst same
    refine (pickSubnet_spec read inquiry.allocated).seq (fun fault bad => bad arranged) ?_
    exact fun subnet _ => trivial
  unfold addMachine addMachineWithoutReadyCheck checkReady
  cases outcomes.ready with
  | false => exact harmless_of_code nofun
  | true =>
    cases result : inquire platform store outcomes request >>=
        complete store outcomes request with
    | error fault =>
      simp only [↓reduceIte]
      exact prepared.of_error result
    | ok machine =>
      simp only [↓reduceIte]
      exact ends_create platform outcomes machine

theorem ends_removeMachine (outcomes : RemoveOutcomes) (id : String) :
    Ends (removeMachine store outcomes id).1 (fun _ => True) Harmless := by
  unfold removeMachine checkRemoval checkReady
  cases outcomes.ready with
  | false => exact harmless_of_code nofun
  | true =>
    by_cases unset : id = ""
    · simp only [if_pos unset, ↓reduceIte]
      exact harmless_of_code nofun
    · simp only [if_neg unset, ↓reduceIte]
      show Ends (delete store outcomes id).1 (fun _ => True) Harmless
      unfold delete
      split
      · trivial
      · exact harmless_of_code nofun
      · exact harmless_of_label (by decide)

/-- No call of a sound cluster has its subnets refused by the allocator. -/
theorem Sound.answer (sound : Sound network store) (nonzero : network.bits ≠ 0)
    (delivered : Delivered (store, call)) :
    Ends (serve platform store call).1 (fun _ => True) Harmless := by
  cases call with
  | remove outcomes id => exact ends_removeMachine outcomes id
  | add outcomes request =>
    have ends := sound.addMachine_ends platform nonzero outcomes request delivered
    show Ends ((addMachine platform store outcomes request).1.map fun _ => ()) _ _
    cases result : (addMachine platform store outcomes request).1 with
    | ok machine => trivial
    | error fault => exact ends.of_error result

/-- No machine is stored, and no other network than the one. -/
def Blank (network : IpPrefix) (store : Store) : Prop :=
  store.machines = [] ∧ ∀ text ∈ store.values[networkKey]?, text = network.display

theorem Blank.put (blank : Blank network store) (write : Write) {key value : String}
    (same : key = networkKey → value = network.display) :
    Blank network (store.put write key value).2 := by
  rcases store.put_store write key value with kept | written
  · rw [kept]
    exact blank
  · rw [written]
    refine ⟨blank.1, fun text found => ?_⟩
    rw [Option.mem_def, OrdMap.getElem?_insert_eq] at found
    split_ifs at found with chosen
    · cases found
      exact same chosen
    · exact blank.2 text found

theorem blank_init (outcomes : InitOutcomes) (network : IpPrefix) :
    Blank network (init .empty outcomes network).2 := by
  have empty : Blank network .empty := ⟨rfl, by simp [Store.empty]⟩
  have first : Blank network (Store.empty.put outcomes.network networkKey network.display).2 :=
    empty.put outcomes.network fun _ => rfl
  unfold init
  cases outcomes.initialised with
  | true => exact empty
  | false =>
    simp only [Bool.false_eq_true, ↓reduceIte]
    split
    · next source after failed =>
      rw [failed] at first
      exact first
    · next after done =>
      rw [done] at first
      exact first.put outcomes.createdAt fun same => absurd same (by decide)

theorem sound_init (outcomes : InitOutcomes) (network : IpPrefix) :
    Sound network (init .empty outcomes network).2 := by
  obtain ⟨empty, text⟩ := blank_init outcomes network
  refine ⟨text, ?_, ?_, ?_, ?_⟩
  · simp [Store.Listable, empty]
  · simp [empty]
  · simp [empty]
  · simp [empty]

end AddressSpace

/-- A cluster served one call at a time, each with a whole list of machines: the machines have
/24 blocks in the network that share no address, their keys are distinct, and no call has the
stored subnets refused by the allocator. -/
theorem serial_address_space (platform : Platform) (network : IpPrefix)
    (nonzero : network.bits ≠ 0) (outcomes : InitOutcomes) (calls : List Call)
    (delivered : ∀ visit ∈ visits (serve platform) (init .empty outcomes network).2 calls,
      Delivered visit) :
    (∀ machine ∈ (run (serve platform) (init .empty outcomes network).2 calls).2.machines,
      ∃ subnet, subnetOf machine = some subnet ∧ subnet.bits = 24 ∧ subnet.Aligned ∧
        subnet.range ⊆ network.range) ∧
    (run (serve platform) (init .empty outcomes network).2 calls).2.machines.Pairwise Separate ∧
    (run (serve platform) (init .empty outcomes network).2 calls).2.machines.Pairwise
      (fun left right => keyOf left ≠ keyOf right) ∧
    ∀ answer ∈ (run (serve platform) (init .empty outcomes network).2 calls).1, ∀ text,
      answer ≠ Exec.fail ⟨.internal, "create IPAM manager: " ++ text⟩ := by
  have keeps : ∀ store call, Sound network store → Delivered (store, call) →
      Sound network (serve platform store call).2 ∧
        Ends (serve platform store call).1 (fun _ => True) Harmless :=
    fun store call sound delivered =>
      ⟨sound.step platform delivered, sound.answer platform nonzero delivered⟩
  have ⟨sound, answers⟩ : Sound network _ ∧ ∀ answer ∈ _, Ends answer (fun _ => True) Harmless :=
    run_invariant keeps (sound_init outcomes network) delivered
  refine ⟨sound.housed, sound.separate, sound.keys, fun answer member text failed => ?_⟩
  exact (answers answer member).of_error failed text rfl

namespace Sample

def platform : Platform := ⟨fun _ => true, "UNIQUE constraint failed: machines.id"⟩

/-- A stream that brings all rows. -/
def whole : RowStream := ⟨id, fun rows => .refl rows, none⟩

/-- A stream that breaks off before the first row. -/
def broken : RowStream := ⟨id, fun rows => .refl rows, some 0⟩

def initialising : InitOutcomes := ⟨false, "2026-01-02T03:04:05Z", .applied, .applied⟩

/-- The store after `init` with `10.210.0.0/16`. -/
def initialised : Store := (init .empty initialising Ipam.Sample.network).2

def outcomes (listing : RowStream) (id : String) : AddOutcomes :=
  ⟨true, .ok listing, .ok id, .ok "a1b2", none, .applied⟩

def request (name : String) (publicKey : List UInt8) : AddMachineRequest :=
  ⟨name, some ⟨none, none, [⟨some ⟨[192, 0, 2, 1]⟩, 51820⟩], publicKey⟩, none⟩

def key (byte : UInt8) : List UInt8 := List.replicate 32 byte

/-- Two machines join, one leaves, and a third one joins. -/
def joining : List Call :=
  [.add (outcomes whole "id1") (request "one" (key 1)),
    .add (outcomes whole "id2") (request "two" (key 2)),
    .remove ⟨true, .applied⟩ "id1",
    .add (outcomes whole "id3") (request "three" (key 3))]

/-- The second machine joins on a list that broke off. -/
def breaking : List Call :=
  [.add (outcomes whole "id1") (request "one" (key 1)),
    .add (outcomes broken "id2") (request "two" (key 2)),
    .add (outcomes whole "id3") (request "three" (key 3))]

theorem delivered_of_whole {visit : Store × Call}
    (listed : ∀ outcomes request, visit.2 = .add outcomes request →
      ∃ id, outcomes = Sample.outcomes whole id) : Delivered visit := by
  obtain ⟨store, call⟩ := visit
  cases call with
  | remove outcomes id => trivial
  | add outcomes request =>
    obtain ⟨id, rfl⟩ := listed outcomes request rfl
    intro stream answered
    cases answered
    exact fun count breaks => nomatch breaks

end Sample

open Sample

/-- The block that was freed is taken again. -/
theorem serial_address_space_sample :
    (run (serve platform) initialised joining).2.machines.map
      (fun machine => (machine.name, (subnetOf machine).map IpPrefix.display)) =
        [("two", some "10.210.1.0/24"), ("three", some "10.210.0.0/24")] ∧
    (run (serve platform) initialised joining).2.machines.Pairwise
      Separate := by
  refine ⟨by decide +kernel, ?_⟩
  refine (serial_address_space platform Ipam.Sample.network (by decide)
    initialising joining ?_).2.1
  intro visit member
  apply delivered_of_whole
  intro outcomes request called
  simp only [joining, visits, List.mem_cons, List.not_mem_nil, or_false] at member
  rcases member with rfl | rfl | rfl | rfl
  · cases called
    exact ⟨_, rfl⟩
  · cases called
    exact ⟨_, rfl⟩
  · cases called
  · cases called
    exact ⟨_, rfl⟩

/-- A list that broke off gives a block away twice, and the next call is refused its subnets. -/
theorem serial_address_space_broken :
    ¬ (run (serve platform) initialised breaking).2.machines.Pairwise
      Separate ∧
    ∃ answer ∈ (run (serve platform) initialised breaking).1, ∃ text,
      answer = Exec.fail ⟨.internal, "create IPAM manager: " ++ text⟩ := by
  have blocks : (run (serve platform) initialised breaking).2.machines.map
      subnetOf = [some ⟨.v4 0x0ad20000#32, 24, by decide⟩,
        some ⟨.v4 0x0ad20000#32, 24, by decide⟩] := by decide +kernel
  have failures : (run (serve platform) initialised breaking).1.map failure? =
      [none, none, some (.error ⟨.internal, "create IPAM manager: " ++
        "allocate subnet 10.210.0.0/24: subnet overlaps with allocated subnets"⟩)] := by
    decide +kernel
  constructor
  · intro separate
    have mapped : ((run (serve platform) initialised breaking).2.machines.map
        subnetOf).Pairwise fun left right =>
          ∀ subnet ∈ left, ∀ other ∈ right, Disjoint subnet.range other.range :=
      List.pairwise_map.mpr separate
    rw [blocks, List.pairwise_pair] at mapped
    have disjoint := mapped _ rfl _ rfl
    exact Set.disjoint_left.mp disjoint (IpPrefix.address_mem_range _)
      (IpPrefix.address_mem_range _)
  · have last : some (.error ⟨.internal, "create IPAM manager: " ++
        "allocate subnet 10.210.0.0/24: subnet overlaps with allocated subnets"⟩) ∈
        (run (serve platform) initialised breaking).1.map failure? := by
      rw [failures]
      simp
    obtain ⟨answer, member, failed⟩ := List.mem_map.mp last
    exact ⟨answer, member, _, eq_error_of_failure? failed⟩

section Identities

variable (platform : Platform) {store : Store} {call : Call}

/-- What the call makes up for the machine is new: the random name when none is requested, and
the management address derived from the key when none is requested. -/
def Fresh : Store × Call → Prop
  | (store, .add outcomes request) =>
    (request.name = "" → ∀ name, newRandomMachineName outcomes.nameSuffix = .ok name →
      ∀ machine ∈ store.machines, machine.name ≠ name) ∧
    ∀ network ∈ request.network, network.managementIp = none →
      ∀ address, managementIp network.publicKey = .ok address →
        ∀ machine ∈ store.machines, managementOf machine ≠ some (.ofIp address)
  | (_, .remove _ _) => True

/-- The names and the management addresses of the stored machines are distinct. -/
structure Identified (store : Store) : Prop where
  listable : store.Listable
  names : store.machines.Pairwise fun left right => left.name ≠ right.name
  managements : store.machines.Pairwise fun left right => managementOf left ≠ managementOf right

/-- Every fresh call keeps the machines apart. -/
theorem Identified.step (identified : Identified store) (delivered : Delivered (store, call))
    (fresh : Fresh (store, call)) : Identified (serve platform store call).2 := by
  refine ⟨identified.listable.step platform call, ?_, ?_⟩
  · refine pairwise_serve platform identified.listable identified.names ?_
    rintro outcomes request machine rfl ⟨inquiry, network, subnet, inquired, _, _, rfl⟩
    intro other member
    by_cases unnamed : request.name = ""
    · refine fresh.1 unnamed inquiry.name ?_ other member
      have chosen := inquired.name
      rw [chooseName, if_pos unnamed] at chosen
      cases made : newRandomMachineName outcomes.nameSuffix with
      | error reason =>
        rw [made] at chosen
        cases chosen
      | ok name =>
        rw [made] at chosen
        cases chosen
        rfl
    · exact inquired.name_ne ((inquired.perm delivered).mem_iff.mpr member) unnamed
  · refine pairwise_serve platform identified.listable identified.managements ?_
    rintro outcomes request machine rfl ⟨inquiry, network, subnet, inquired, _, _, rfl⟩
    intro other member
    obtain ⟨address, own, asked, derived⟩ : ∃ address,
        managementOf (inquiry.machine request subnet) = some address ∧ _ ∧ _ :=
      managementOf_machine inquired
    rw [own]
    by_cases absent : inquiry.network.managementIp = none
    · have made := derived absent
      cases result : managementIp inquiry.network.publicKey with
      | error reason =>
        rw [result] at made
        cases made
      | ok ip =>
        rw [result] at made
        cases made
        exact fresh.2 inquiry.network inquired.requested absent ip result other member
    · have listed := (inquired.perm delivered).mem_iff.mpr member
      exact (inquired.unclaimed other listed).management address (asked absent)

end Identities

/-- A cluster served one call at a time, each with a whole list of machines: as long as the
random names and the derived management addresses are new, names and management addresses are
distinct. -/
theorem serial_identities (platform : Platform) (network : IpPrefix) (outcomes : InitOutcomes)
    (calls : List Call)
    (allowed : ∀ visit ∈ visits (serve platform) (init .empty outcomes network).2 calls,
      Delivered visit ∧ Fresh visit) :
    (run (serve platform) (init .empty outcomes network).2 calls).2.machines.Pairwise
      (fun left right => managementOf left ≠ managementOf right) ∧
    (run (serve platform) (init .empty outcomes network).2 calls).2.machines.Pairwise
      (fun left right => left.name ≠ right.name) := by
  have start : Identified (init .empty outcomes network).2 := by
    have empty := (blank_init outcomes network).1
    refine ⟨?_, ?_, ?_⟩
    · simp [Store.Listable, empty]
    · simp [empty]
    · simp [empty]
  have keeps : ∀ store call, Identified store → Delivered (store, call) ∧ Fresh (store, call) →
      Identified (serve platform store call).2 ∧ True :=
    fun store call identified allowed =>
      ⟨identified.step platform allowed.1 allowed.2, trivial⟩
  have ⟨identified, _⟩ : Identified _ ∧ ∀ answer ∈ _, True := run_invariant keeps start allowed
  exact ⟨identified.managements, identified.names⟩

namespace Sample

/-- A machine without a name joins, then one with a name and a management address. -/
def mixed : List Call :=
  [.add (outcomes whole "id1") (request "" (key 1)),
    .add (outcomes whole "id2") ⟨"two", some ⟨none, some ⟨[10, 0, 0, 2]⟩,
      [⟨some ⟨[192, 0, 2, 2]⟩, 51820⟩], key 2⟩, none⟩]

/-- Two machines without names join, with keys that begin alike. -/
def alike : List Call :=
  [.add (outcomes whole "id1") (request "" (key 1)),
    .add (outcomes whole "id2") (request "" (List.replicate 14 1 ++ List.replicate 18 2))]

end Sample

theorem serial_identities_sample :
    (run (serve platform) initialised mixed).2.machines.map
      (fun machine => (machine.name, (managementOf machine).map fun address =>
        address.ip.display)) =
        [("machine-a1b2", some "fdcc:101:101:101:101:101:101:101"), ("two", some "10.0.0.2")] ∧
    (run (serve platform) initialised mixed).2.machines.Pairwise
      (fun left right => left.name ≠ right.name) := by
  refine ⟨by decide +kernel, ?_⟩
  refine (serial_identities platform Ipam.Sample.network initialising
    mixed ?_).2
  have empty : initialised.machines = [] := by decide +kernel
  intro visit member
  simp only [mixed, visits, List.mem_cons, List.not_mem_nil, or_false] at member
  rcases member with rfl | rfl
  · refine ⟨delivered_of_whole ?_, ?_, ?_⟩
    · rintro outcomes request called
      cases called
      exact ⟨_, rfl⟩
    · intro _ name _ machine stored
      exact absurd (empty ▸ stored) List.not_mem_nil
    · intro network _ _ address _ machine stored
      exact absurd (empty ▸ stored) List.not_mem_nil
  · refine ⟨delivered_of_whole ?_, ?_, ?_⟩
    · rintro outcomes request called
      cases called
      exact ⟨_, rfl⟩
    · exact fun unnamed => absurd unnamed (by decide)
    · rintro network ⟨⟩ absent
      cases absent

/-- Neither a random name nor a derived management address is checked against the store. -/
theorem serial_identities_collide :
    ¬ (run (serve platform) initialised alike).2.machines.Pairwise
      (fun left right => left.name ≠ right.name) ∧
    ¬ (run (serve platform) initialised alike).2.machines.Pairwise
      (fun left right => managementOf left ≠ managementOf right) := by
  decide +kernel

end Ployz.Cluster
