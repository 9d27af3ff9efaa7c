import Ployz.Verif.Membership

/-!
# A cluster that is served many calls at a time

Calls interleave between their store operations: another call may write to the store after
`add_machine` has listed the machines and before it creates its own. What is checked on the list
is not checked again, so the store keeps what the checks are for exactly as far as every machine
stored when a machine is created is in the list its call has seen.
-/

namespace Ployz.Cluster

open Api List

/-- A call in progress, by the store operation it waits for. -/
inductive Task where
  /-- `add_machine` before `list_machines`. -/
  | listing (request : AddMachineRequest)
  /-- `add_machine` before the read of the network. -/
  | reading (request : AddMachineRequest) (inquiry : Inquiry)
  /-- `add_machine` before `create_machine`. -/
  | creating (request : AddMachineRequest) (inquiry : Inquiry) (machine : MachineInfo)
  /-- `remove_machine` before `delete_machine`. -/
  | deleting (id : String)

/-- The store, the calls in progress, and the ids of the machines that were added with a
requested name. -/
structure System where
  store : Store
  tasks : List Task
  named : Finset String

/-- One store operation of one call. `seen` is a condition on a creation: what the call has
listed, and the store it creates in. -/
inductive Step (platform : Platform) (seen : Inquiry → Store → Prop) : System → System → Prop where
  /-- A call of `add_machine` arrives. -/
  | add (store : Store) (tasks : List Task) (named : Finset String)
      (request : AddMachineRequest) :
      Step platform seen ⟨store, tasks, named⟩ ⟨store, tasks ++ [.listing request], named⟩
  /-- A call of `remove_machine` arrives and passes its checks. -/
  | remove (store : Store) (tasks : List Task) (named : Finset String)
      (outcomes : RemoveOutcomes) (id : String) (checked : checkRemoval outcomes id = .ok ()) :
      Step platform seen ⟨store, tasks, named⟩ ⟨store, tasks ++ [.deleting id], named⟩
  /-- A call lists the machines and finds no collision. -/
  | list (store : Store) (before after : List Task) (named : Finset String)
      (outcomes : AddOutcomes) (request : AddMachineRequest) (inquiry : Inquiry)
      (listed : inquire platform store outcomes request = .ok inquiry) :
      Step platform seen ⟨store, before ++ .listing request :: after, named⟩
        ⟨store, before ++ .reading request inquiry :: after, named⟩
  /-- A call reads the network and picks a subnet. -/
  | read (store : Store) (before after : List Task) (named : Finset String)
      (outcomes : AddOutcomes) (request : AddMachineRequest) (inquiry : Inquiry)
      (machine : MachineInfo)
      (completed : complete store outcomes request inquiry = .ok machine) :
      Step platform seen ⟨store, before ++ .reading request inquiry :: after, named⟩
        ⟨store, before ++ .creating request inquiry machine :: after, named⟩
  /-- A call creates its machine; its answer may be lost. -/
  | create (store : Store) (before after : List Task) (named : Finset String)
      (outcomes : AddOutcomes) (request : AddMachineRequest) (inquiry : Inquiry)
      (machine : MachineInfo) (fresh : machine.id ∉ store.machines.map MachineInfo.id)
      (created : (create platform store outcomes machine).2 = store.insertMachine machine fresh)
      (allowed : seen inquiry store) :
      Step platform seen ⟨store, before ++ .creating request inquiry machine :: after, named⟩
        ⟨store.insertMachine machine fresh, before ++ after,
          if request.name = "" then named.erase machine.id else insert machine.id named⟩
  /-- A call deletes its machine, or fails to. -/
  | delete (store : Store) (before after : List Task) (named : Finset String)
      (outcomes : RemoveOutcomes) (id : String) :
      Step platform seen ⟨store, before ++ .deleting id :: after, named⟩
        ⟨(delete store outcomes id).2, before ++ after, named⟩
  /-- A call ends without a further effect: it failed, or it was cancelled. -/
  | stop (store : Store) (before after : List Task) (named : Finset String) (task : Task) :
      Step platform seen ⟨store, before ++ task :: after, named⟩ ⟨store, before ++ after, named⟩

section Invariant

/-- Two machines may be stored together: their subnets share no address, their keys differ, and
so do their names if both were requested. -/
structure Compatible (named : Finset String) (left right : MachineInfo) : Prop where
  separate : Separate left right
  keys : keyOf left ≠ keyOf right
  names : left.id ∈ named → right.id ∈ named → left.name ≠ right.name

/-- What a call in progress has established. -/
def Task.Established : Task → Prop
  | .listing _ => True
  | .reading request inquiry => ∃ store outcomes, Inquired store outcomes request inquiry
  | .creating request inquiry machine =>
    (∃ store outcomes, Inquired store outcomes request inquiry) ∧
      ∃ network subnet, Picked network inquiry.allocated subnet ∧
        machine = inquiry.machine request subnet
  | .deleting _ => True

/-- The invariant of a cluster served many calls at a time. -/
structure System.Coherent (system : System) : Prop where
  listable : system.store.Listable
  compatible : system.store.machines.Pairwise (Compatible system.named)
  established : ∀ task ∈ system.tasks, task.Established

/-- Every stored machine is in the list the call has seen. -/
def Seen (inquiry : Inquiry) (store : Store) : Prop :=
  ∀ machine ∈ store.machines, machine ∈ inquiry.machines

variable {store : Store} {named : Finset String} {request : AddMachineRequest}
  {inquiry : Inquiry} {machine other : MachineInfo}

theorem compatible_of_seen {network subnet : IpPrefix} {earlier : Store} {outcomes : AddOutcomes}
    (inquired : Inquired earlier outcomes request inquiry)
    (picked : Picked network inquiry.allocated subnet) (seen : other ∈ inquiry.machines) :
    Compatible (if request.name = "" then named.erase inquiry.machineId
      else insert inquiry.machineId named) other (inquiry.machine request subnet) := by
  refine ⟨inquired.separate picked seen, inquired.key_ne seen, fun _ asked => ?_⟩
  by_cases unnamed : request.name = ""
  · rw [if_pos unnamed] at asked
    exact absurd rfl (Finset.ne_of_mem_erase asked)
  · exact inquired.name_ne seen unnamed

theorem Compatible.record {left right : MachineInfo} (compatible : Compatible named left right)
    {id : String} (first : left.id ≠ id) (second : right.id ≠ id) :
    Compatible (if request.name = "" then named.erase id else insert id named) left right := by
  have recorded : ∀ {known : String}, known ≠ id →
      known ∈ (if request.name = "" then named.erase id else insert id named) →
      known ∈ named := by
    intro known other member
    split_ifs at member
    · exact Finset.mem_of_mem_erase member
    · exact Finset.mem_of_mem_insert_of_ne member other
  exact ⟨compatible.separate, compatible.keys, fun one two =>
    compatible.names (recorded first one) (recorded second two)⟩

variable {before after : List Task}

/-- What a call establishes for itself is kept when it goes on and the others wait. -/
theorem forall_task_of_replace {old new : Task}
    (established : ∀ task ∈ before ++ old :: after, task.Established)
    (next : old.Established → new.Established) :
    ∀ task ∈ before ++ new :: after, task.Established := by
  intro task member
  rcases mem_append.mp member with early | late
  · exact established task (mem_append_left _ early)
  · rcases mem_cons.mp late with rfl | rest
    · exact next (established old (by simp))
    · exact established task (by simp [rest])

theorem forall_task_of_end {old : Task}
    (established : ∀ task ∈ before ++ old :: after, task.Established) :
    ∀ task ∈ before ++ after, task.Established := by
  intro task member
  rcases mem_append.mp member with early | late
  · exact established task (mem_append_left _ early)
  · exact established task (by simp [late])

theorem System.Coherent.create
    (coherent : System.Coherent ⟨store, before ++ .creating request inquiry machine :: after,
      named⟩) (fresh : machine.id ∉ store.machines.map MachineInfo.id) (seen : Seen inquiry store) :
    System.Coherent ⟨store.insertMachine machine fresh, before ++ after,
      if request.name = "" then named.erase machine.id else insert machine.id named⟩ := by
  obtain ⟨⟨earlier, outcomes, inquired⟩, network, subnet, picked, rfl⟩ :=
    coherent.established (.creating request inquiry machine) (by simp)
  have distinct : ∀ other ∈ store.machines, other.id ≠ inquiry.machineId := by
    intro other member same
    apply fresh
    show inquiry.machineId ∈ store.machines.map MachineInfo.id
    rw [← same]
    exact mem_map_of_mem member
  refine ⟨?_, ?_, forall_task_of_end coherent.established⟩
  · intro other member
    rcases mem_append.mp member with old | new
    · exact coherent.listable other old
    · rw [mem_singleton.mp new]
      exact readable_machine inquired
  · refine pairwise_append.mpr ⟨?_, pairwise_singleton _ _, fun other member => ?_⟩
    · refine coherent.compatible.imp_of_mem fun first second compatible => ?_
      exact compatible.record (distinct _ first) (distinct _ second)
    · intro new last
      rw [mem_singleton.mp last]
      exact compatible_of_seen inquired picked (seen other member)

/-- Every step on a current list keeps the system coherent. -/
theorem System.Coherent.step {platform : Platform} {system next : System}
    (step : Step platform Seen system next) (coherent : system.Coherent) : next.Coherent := by
  cases step with
  | add store tasks named | remove store tasks named =>
    refine ⟨coherent.listable, coherent.compatible, fun task member => ?_⟩
    rcases mem_append.mp member with old | new
    · exact coherent.established task old
    · rw [mem_singleton.mp new]
      trivial
  | list store before after named outcomes request inquiry listed =>
    refine ⟨coherent.listable, coherent.compatible, ?_⟩
    refine forall_task_of_replace coherent.established fun _ => ⟨store, outcomes, ?_⟩
    exact (inquire_spec platform outcomes request coherent.listable).of_ok listed
  | read store before after named outcomes request inquiry machine completed =>
    refine ⟨coherent.listable, coherent.compatible, ?_⟩
    refine forall_task_of_replace coherent.established fun inquired => ⟨inquired, ?_⟩
    obtain ⟨network, _, rest⟩ := bind_eq_ok_iff.mp completed
    obtain ⟨subnet, chosen, made⟩ := bind_eq_ok_iff.mp rest
    exact ⟨network, subnet, (pickSubnet_spec network inquiry.allocated).of_ok chosen,
      (Except.ok.inj made).symm⟩
  | create store before after named outcomes request inquiry machine fresh created allowed =>
    exact coherent.create fresh allowed
  | delete store before after named outcomes id =>
    have tasks := forall_task_of_end coherent.established
    rcases delete_store store outcomes id with same | erased
    · rw [same]
      exact ⟨coherent.listable, coherent.compatible, tasks⟩
    · rw [erased]
      exact ⟨fun other member => coherent.listable other (mem_of_mem_filter member),
        coherent.compatible.filter _, tasks⟩
  | stop store before after named task =>
    exact ⟨coherent.listable, coherent.compatible, forall_task_of_end coherent.established⟩

end Invariant

/-- Any number of calls, interleaved between their store operations: as long as every creation
happens in a store whose machines its call has listed, the stored machines keep disjoint subnets,
distinct keys and, where the names were requested, distinct names. -/
theorem interleaved_membership (platform : Platform) (start final : System)
    (listable : start.store.Listable)
    (compatible : start.store.machines.Pairwise (Compatible start.named))
    (idle : start.tasks = [])
    (reaches : Relation.ReflTransGen (Step platform Seen) start final) :
    final.store.machines.Pairwise Separate ∧
    final.store.machines.Pairwise (fun left right => keyOf left ≠ keyOf right) ∧
    final.store.machines.Pairwise (fun left right =>
      left.id ∈ final.named → right.id ∈ final.named → left.name ≠ right.name) := by
  have coherent : start.Coherent := ⟨listable, compatible, by simp [idle]⟩
  have kept := (holds_of_reaches reaches coherent fun step => System.Coherent.step step).compatible
  exact ⟨kept.imp Compatible.separate, kept.imp Compatible.keys, kept.imp Compatible.names⟩

namespace Sample

/-- The blocks `10.210.0.0/24` and `10.210.1.0/24`. -/
def block (number : Fin 2) : IpPrefix :=
  ⟨.v4 (0x0ad20000#32 + BitVec.ofNat 32 (256 * number)), 24, by simp [IpAddr.bitLen]⟩

/-- What a call has found when the machines of its list do not collide with it. -/
def inquiry (machines : List MachineInfo) (allocated : List IpPrefix) (id name : String)
    (byte : UInt8) : Inquiry where
  network := ⟨none, none, [⟨some ⟨[192, 0, 2, 1]⟩, 51820⟩], key byte⟩
  machines := machines
  allocated := allocated
  machineId := id
  name := name
  management := ⟨[0xfd, 0xcc] ++ List.replicate 14 byte⟩

/-- The machine that is the first to join. -/
def first : MachineInfo := (inquiry [] [] "id1" "one" 1).machine (request "one" (key 1)) (block 0)

/-- A machine of the same name and key that joins without seeing the first one. -/
def twin : MachineInfo := (inquiry [] [] "id2" "one" 1).machine (request "one" (key 1)) (block 0)

theorem machines_initialised : initialised.machines = [] := by decide +kernel

theorem fresh_first : first.id ∉ initialised.machines.map MachineInfo.id := by decide +kernel

/-- The store with the first machine. -/
def joined : Store := initialised.insertMachine first fresh_first

theorem machines_joined {machine : MachineInfo}
    (fresh : machine.id ∉ joined.machines.map MachineInfo.id) :
    (joined.insertMachine machine fresh).machines = [first, machine] := by
  simp [Store.insertMachine, joined, machines_initialised]

/-- A machine that joins after the first one. -/
def second : MachineInfo :=
  (inquiry [first] [block 0] "id2" "two" 2).machine (request "two" (key 2)) (block 1)

theorem reaches_first {seen : Inquiry → Store → Prop} (tasks : List Task)
    (allowed : seen (inquiry [] [] "id1" "one" 1) initialised) :
    Relation.ReflTransGen (Step platform seen)
      ⟨initialised, .creating (request "one" (key 1)) (inquiry [] [] "id1" "one" 1) first :: tasks,
        ∅⟩ ⟨joined, tasks, {"id1"}⟩ :=
  .single (Step.create initialised [] tasks ∅ (outcomes whole "id1") (request "one" (key 1))
    (inquiry [] [] "id1" "one" 1) first fresh_first
    (create_store_of_applied platform rfl fresh_first) allowed)

end Sample

open Sample

/-- Two calls, the second of which lists the machines after the first has created its own. -/
theorem interleaved_membership_sample : ∃ final,
    Relation.ReflTransGen (Step platform Seen) ⟨initialised, [], ∅⟩ final ∧
      final.store.machines.map (fun machine => (subnetOf machine).map IpPrefix.display) =
        [some "10.210.0.0/24", some "10.210.1.0/24"] ∧
      final.store.machines.Pairwise Separate := by
  have fresh : second.id ∉ joined.machines.map MachineInfo.id := by decide +kernel
  have seenFirst : Seen (inquiry [] [] "id1" "one" 1) initialised := by
    simp [Seen, machines_initialised]
  have seenSecond : Seen (inquiry [first] [Sample.block 0] "id2" "two" 2) joined := by
    simp [Seen, joined, Store.insertMachine, machines_initialised, inquiry]
  have reaches : Relation.ReflTransGen (Step platform Seen) ⟨initialised, [], ∅⟩
      ⟨joined.insertMachine second fresh, [], {"id2", "id1"}⟩ := by
    refine .head (.add _ [] _ (request "one" (key 1))) ?_
    refine .head (.add _ _ _ (request "two" (key 2))) ?_
    refine .head (.list _ [] _ _ (outcomes whole "id1") _
      (inquiry [] [] "id1" "one" 1) (eq_ok_of_toOption (by decide +kernel))) ?_
    refine .head (.read _ [] _ _ (outcomes whole "id1") _ _ first
      (eq_ok_of_toOption (by decide +kernel))) ?_
    refine (reaches_first _ seenFirst).trans ?_
    refine .head (.list _ [] _ _ (outcomes whole "id2") _
      (inquiry [first] [Sample.block 0] "id2" "two" 2)
      (eq_ok_of_toOption (by decide +kernel))) ?_
    refine .head (.read _ [] _ _ (outcomes whole "id2") _ _ second
      (eq_ok_of_toOption (by decide +kernel))) ?_
    exact .single (.create _ [] _ _ (outcomes whole "id2") _ _ _ fresh
      (create_store_of_applied _ rfl fresh) seenSecond)
  refine ⟨_, reaches, ?_, (interleaved_membership platform _ _ ?_ ?_ rfl reaches).1⟩
  · rw [machines_joined]
    decide +kernel
  · simp [Store.Listable, machines_initialised]
  · simp [machines_initialised]

/-- Two calls that both list the machines before either creates its own store the same block, the
same key and the same requested name twice. -/
theorem interleaved_membership_broken : ∃ final,
    Relation.ReflTransGen (Step platform fun _ _ => True) ⟨initialised, [], ∅⟩ final ∧
      ¬ final.store.machines.Pairwise Separate ∧
      ¬ final.store.machines.Pairwise (fun left right => keyOf left ≠ keyOf right) ∧
      ¬ final.store.machines.Pairwise (fun left right =>
        left.id ∈ final.named → right.id ∈ final.named → left.name ≠ right.name) := by
  have fresh : twin.id ∉ joined.machines.map MachineInfo.id := by decide +kernel
  refine ⟨⟨joined.insertMachine twin fresh, [], {"id2", "id1"}⟩, ?_, ?_, ?_, ?_⟩
  · refine .head (.add _ [] _ (request "one" (key 1))) ?_
    refine .head (.add _ _ _ (request "one" (key 1))) ?_
    refine .head (.list _ [] _ _ (outcomes whole "id1") _
      (inquiry [] [] "id1" "one" 1) (eq_ok_of_toOption (by decide +kernel))) ?_
    refine .head (.list _ [_] [] _ (outcomes whole "id2") _
      (inquiry [] [] "id2" "one" 1) (eq_ok_of_toOption (by decide +kernel))) ?_
    refine .head (.read _ [] _ _ (outcomes whole "id1") _ _ first
      (eq_ok_of_toOption (by decide +kernel))) ?_
    refine .head (.read _ [_] [] _ (outcomes whole "id2") _ _ twin
      (eq_ok_of_toOption (by decide +kernel))) ?_
    refine (reaches_first _ trivial).trans ?_
    exact .single (.create _ [] _ _ (outcomes whole "id2") _ _ _ fresh
      (create_store_of_applied _ rfl fresh) trivial)
  · intro separate
    rw [machines_joined, pairwise_pair] at separate
    have disjoint := separate (Sample.block 0) subnetOf_machine (Sample.block 0) subnetOf_machine
    exact Set.disjoint_left.mp disjoint (IpPrefix.address_mem_range _)
      (IpPrefix.address_mem_range _)
  · rw [machines_joined]
    decide +kernel
  · show ¬ (joined.insertMachine twin fresh).machines.Pairwise fun left right =>
      left.id ∈ ({"id2", "id1"} : Finset String) → right.id ∈ ({"id2", "id1"} : Finset String) →
        left.name ≠ right.name
    rw [machines_joined]
    decide +kernel

end Ployz.Cluster
