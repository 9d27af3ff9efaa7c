import Ployz.Proxy.Mapper

/-!
# What requested strings resolve to

The table of the mapper holds ids and names together, and a later entry replaces an earlier one.
So a requested string resolves to the last machine in the list that has it as its id or its name,
and a machine is found under its id exactly when no later machine bears that id as its name.
-/

namespace Ployz.Proxy

open Api List

section First

variable {α κ : Type} [DecidableEq κ] (key : α → κ)

/-- The items whose key was not there before, in order. -/
def firstMentions : List α → List α
  | [] => []
  | item :: items => item :: (firstMentions items).filter fun other => key other ≠ key item

variable {key}

theorem mem_keys_firstMentions {items : List α} {value : κ} :
    value ∈ (firstMentions key items).map key ↔ value ∈ items.map key := by
  induction items with
  | nil => rfl
  | cons head items ih =>
    by_cases first : value = key head
    · simp [firstMentions, first]
    · simp only [firstMentions, map_cons, mem_cons, first, false_or, ← ih, mem_map,
        mem_filter, decide_eq_true_eq]
      constructor
      · rintro ⟨item, ⟨member, _⟩, same⟩
        exact ⟨item, member, same⟩
      · rintro ⟨item, member, same⟩
        exact ⟨item, ⟨member, same ▸ first⟩, same⟩

theorem nodup_firstMentions (items : List α) : ((firstMentions key items).map key).Nodup := by
  induction items with
  | nil => exact nodup_nil
  | cons head items ih =>
    rw [firstMentions, map_cons, nodup_cons]
    constructor
    · intro member
      have ⟨item, inside, same⟩ := mem_map.mp member
      have different := (mem_filter.mp inside).2
      simp [same] at different
    · exact ih.sublist (filter_sublist.map key)

theorem firstMentions_append (items : List α) (item : α) :
    firstMentions key (items ++ [item]) =
      if key item ∈ items.map key then firstMentions key items
      else firstMentions key items ++ [item] := by
  induction items with
  | nil => rfl
  | cons head items ih =>
    rw [cons_append, firstMentions, ih, map_cons]
    by_cases before : key item ∈ items.map key
    · rw [if_pos before, if_pos (mem_cons_of_mem _ before)]
      rfl
    · rw [if_neg before, filter_append]
      by_cases first : key item = key head
      · rw [if_pos (first ▸ mem_cons_self)]
        simp [firstMentions, first]
      · have absent : key item ∉ key head :: items.map key := by
          simp only [mem_cons, first, before, or_self, not_false_eq_true]
        rw [if_neg absent]
        simp [firstMentions, first]

end First

/-- The targets of the machines that have one. -/
def targetsOf (lossy : List UInt8 → String) (machines : List MachineInfo) : List MachineTarget :=
  machines.filterMap fun machine => (machineTarget lossy machine).toOption

/-- What the table gives for a string. -/
def resolves (lossy : List UInt8 → String) (machines : List MachineInfo) (name : String) :
    Option MachineTarget :=
  (lookupTable (targetsOf lossy machines))[name]?

/-- The machine can be asked for by this string. -/
def Answers (machine : MachineInfo) (name : String) : Prop :=
  machine.id = name ∨ machine.name = name

instance (machine : MachineInfo) (name : String) : Decidable (Answers machine name) :=
  inferInstanceAs (Decidable (machine.id = name ∨ machine.name = name))

/-- A machine whose management address can be read. -/
def HasAddress (machine : MachineInfo) : Prop :=
  ∃ network ip address, machine.network = some network ∧ network.managementIp = some ip ∧
    ip.toAddr = .ok address

section Targets

variable {lossy : List UInt8 → String}

theorem exists_machineTarget {machine : MachineInfo} (valid : HasAddress machine) :
    ∃ target, machineTarget lossy machine = .ok target ∧ target.id = machine.id ∧
      target.name = machine.name := by
  have ⟨network, ip, address, configured, managed, read⟩ := valid
  simp only [machineTarget, configured, managed, Exec.expect, read, Except.mapError, Exec.lift,
    bind, Except.bind]
  cases address.ip with
  | v4 | v6 => exact ⟨_, rfl, rfl, rfl⟩

theorem mapM_machineTarget {machines : List MachineInfo}
    (valid : ∀ machine ∈ machines, HasAddress machine) :
    machines.mapM (machineTarget lossy) = .ok (targetsOf lossy machines) := by
  induction machines with
  | nil => rfl
  | cons machine machines ih =>
    have ⟨target, found, _⟩ := @exists_machineTarget lossy machine (valid _ mem_cons_self)
    have rest := ih fun other member => valid other (mem_cons_of_mem _ member)
    simp only [mapM_cons, found, rest, targetsOf, filterMap_cons, Except.toOption]
    rfl

theorem getElem?_enterTarget (lookup : OrdMap String MachineTarget) (target : MachineTarget)
    (name : String) :
    (enterTarget lookup target)[name]? =
      if target.id = name ∨ target.name = name then some target else lookup[name]? := by
  rw [enterTarget, OrdMap.getElem?_insert_eq, OrdMap.getElem?_insert_eq]
  by_cases named : target.name = name
  · simp [named]
  · by_cases identified : target.id = name <;> simp [named, identified]

theorem resolves_eq {machines : List MachineInfo}
    (valid : ∀ machine ∈ machines, HasAddress machine) (name : String) :
    resolves lossy machines name =
      (machines.reverse.find? fun machine => Answers machine name).bind fun machine =>
        (machineTarget lossy machine).toOption := by
  -- the table is filled from the front, so the induction adds a machine at the end
  induction machines using List.reverseRecOn with
  | nil => rfl
  | append_singleton machines machine ih =>
    have ⟨target, found, id, named⟩ := @exists_machineTarget lossy machine
      (valid machine (by simp))
    have before := ih fun other member => valid other (by simp [member])
    have entered : resolves lossy (machines ++ [machine]) name =
        if target.id = name ∨ target.name = name then some target
        else resolves lossy machines name := by
      simp only [resolves, targetsOf, filterMap_append, lookupTable, foldl_append]
      simp only [filterMap_cons, found, Except.toOption, filterMap_nil, foldl_cons,
        foldl_nil]
      exact getElem?_enterTarget _ target name
    rw [entered, before, reverse_append, id, named]
    by_cases answers : Answers machine name
    · simp [answers, found, Except.toOption, show machine.id = name ∨ machine.name = name from answers]
    · simp [answers, show ¬ (machine.id = name ∨ machine.name = name) from answers]

end Targets

section Loop

variable (lookup : OrdMap String MachineTarget)

/-- What the loop of `map_machines` has after the strings of `done`. -/
structure Resolved (done : List String) (progress : Resolution) : Prop where
  targets_eq : progress.targets =
    firstMentions MachineTarget.id (done.filterMap fun name => lookup[name]?)
  seen_eq : progress.seen = (progress.targets.map MachineTarget.id).toFinset
  notFound_eq : progress.notFound = done.filter fun name => lookup[name]? = none

variable {lookup}

theorem Resolved.resolve {done : List String} {progress : Resolution}
    (resolved : Resolved lookup done progress) (name : String) :
    Resolved lookup (done ++ [name]) (progress.resolve lookup name) := by
  cases found : lookup[name]? with
  | none =>
    have unknown : [name].filter (fun name => lookup[name]? = none) = [name] :=
      filter_cons_of_pos (decide_eq_true found)
    simp only [Resolution.resolve, found]
    refine ⟨?_, resolved.seen_eq, ?_⟩
    · simp [resolved.targets_eq, found]
    · rw [filter_append, unknown, resolved.notFound_eq]
  | some target =>
    have known : [name].filter (fun name => lookup[name]? = none) = [] := by
      apply filter_cons_of_neg
      rw [found]
      exact Bool.false_ne_true
    have mentions : (done ++ [name]).filterMap (fun name => lookup[name]?) =
        done.filterMap (fun name => lookup[name]?) ++ [target] := by
      simp [found]
    have seen : target.id ∈ progress.seen ↔
        target.id ∈ (done.filterMap fun name => lookup[name]?).map MachineTarget.id := by
      rw [resolved.seen_eq, mem_toFinset, resolved.targets_eq, mem_keys_firstMentions]
    simp only [Resolution.resolve, found]
    by_cases before : target.id ∈ progress.seen
    · rw [if_pos before]
      refine ⟨?_, resolved.seen_eq, ?_⟩
      · rw [mentions, firstMentions_append, if_pos (seen.mp before), resolved.targets_eq]
      · rw [filter_append, known, append_nil, resolved.notFound_eq]
    · rw [if_neg before]
      refine ⟨?_, ?_, ?_⟩
      · rw [mentions, firstMentions_append, if_neg (mt seen.mpr before), resolved.targets_eq]
      · ext id
        simp only [resolved.seen_eq, map_append, map_cons, map_nil,
          mem_toFinset, Finset.mem_insert, mem_append, mem_singleton]
        tauto
      · rw [filter_append, known, append_nil, resolved.notFound_eq]

theorem resolved_foldl (names : List String) :
    Resolved lookup names (names.foldl (Resolution.resolve lookup) ⟨[], ∅, []⟩) := by
  induction names using List.reverseRecOn with
  | nil => exact ⟨rfl, rfl, rfl⟩
  | append_singleton names name ih =>
    rw [foldl_append]
    exact ih.resolve name

end Loop

/-- The requested strings that no machine answers to. -/
def missing (machines : List MachineInfo) (requested : List String) : List String :=
  requested.filter fun name => ∀ machine ∈ machines, ¬ Answers machine name

/-- The exact resolution of requested strings: those that belong to no machine are reported in the
order of the request; if there is none, the machines are returned in the order of their first
mention without repetition, each string standing for a machine that answers to it, and every id
for its machine. -/
def Exact (lossy : List UInt8 → String) (machines : List MachineInfo) (requested : List String) :
    Prop :=
  if missing machines requested = [] then
    (∃ found, mapMachines lossy (.ok machines) requested = .ok found ∧
      (found.map MachineTarget.id).Nodup ∧
      found = firstMentions MachineTarget.id (requested.filterMap (resolves lossy machines))) ∧
    (∀ name ∈ requested, ∃ machine ∈ machines, Answers machine name ∧
      ∃ target, machineTarget lossy machine = .ok target ∧
        resolves lossy machines name = some target) ∧
    ∀ machine ∈ machines, machine.id ∈ requested →
      ∃ target, machineTarget lossy machine = .ok target ∧
        resolves lossy machines machine.id = some target
  else
    mapMachines lossy (.ok machines) requested =
      Exec.fail (.notFound (missing machines requested))

theorem answers_of_find? {machines : List MachineInfo} {name : String} {machine : MachineInfo}
    (found : (machines.reverse.find? fun machine => Answers machine name) = some machine) :
    machine ∈ machines ∧ Answers machine name := by
  have answers := find?_some found
  exact ⟨mem_reverse.mp (mem_of_find?_eq_some found), of_decide_eq_true answers⟩

section Main

variable {lossy : List UInt8 → String} {machines : List MachineInfo}
  (valid : ∀ machine ∈ machines, HasAddress machine)
include valid

theorem resolves_eq_none_iff (name : String) :
    resolves lossy machines name = none ↔ ∀ machine ∈ machines, ¬ Answers machine name := by
  rw [resolves_eq valid]
  cases found : machines.reverse.find? fun machine => Answers machine name with
  | none =>
    have nobody := find?_eq_none.mp found
    simp only [Option.bind_none, true_iff]
    intro machine member answers
    exact nobody machine (mem_reverse.mpr member) (decide_eq_true answers)
  | some machine =>
    have ⟨member, answers⟩ := answers_of_find? found
    have ⟨target, given, _⟩ := @exists_machineTarget lossy machine (valid machine member)
    simp only [Option.bind_some, given, Except.toOption]
    constructor
    · exact nofun
    · intro nobody
      exact absurd answers (nobody machine member)

theorem exists_of_answers {name : String}
    (answered : ∃ machine ∈ machines, Answers machine name) :
    ∃ machine ∈ machines, Answers machine name ∧
      ∃ target, machineTarget lossy machine = .ok target ∧
        resolves lossy machines name = some target := by
  have ⟨machine, member, answers⟩ := answered
  cases found : machines.reverse.find? fun machine => Answers machine name with
  | none =>
    have nobody := find?_eq_none.mp found machine (mem_reverse.mpr member)
    exact absurd (decide_eq_true answers) nobody
  | some last =>
    have ⟨inside, last_answers⟩ := answers_of_find? found
    have ⟨target, given, _⟩ := @exists_machineTarget lossy last (valid last inside)
    refine ⟨last, inside, last_answers, target, given, ?_⟩
    rw [resolves_eq valid, found]
    simp [given, Except.toOption]

/-- What `map_machines` returns for strings without the wildcard. -/
theorem mapMachines_eq {requested : List String} (some : requested ≠ []) (plain : "*" ∉ requested) :
    mapMachines lossy (.ok machines) requested =
      if missing machines requested = [] then
        .ok (firstMentions MachineTarget.id (requested.filterMap (resolves lossy machines)))
      else Exec.fail (.notFound (missing machines requested)) := by
  have resolved := @resolved_foldl (lookupTable (targetsOf lossy machines)) requested
  have unknown : (requested.filter fun name =>
      (lookupTable (targetsOf lossy machines))[name]? = none) = missing machines requested := by
    apply filter_congr
    intro name _
    exact decide_eq_decide.mpr (resolves_eq_none_iff valid name)
  simp only [mapMachines, if_neg some, Except.mapError, Exec.lift, bind, Except.bind,
    mapM_machineTarget valid, if_neg plain, resolved.notFound_eq, unknown, resolved.targets_eq]
  rfl

/-- An id resolves to its machine unless a later machine has it as its name. -/
theorem resolves_id_iff (distinct : (machines.map MachineInfo.id).Nodup)
    {before after : List MachineInfo} {machine : MachineInfo}
    (place : machines = before ++ machine :: after) :
    (∃ target, machineTarget lossy machine = .ok target ∧
      resolves lossy machines machine.id = some target) ↔
    ∀ later ∈ after, later.name ≠ machine.id := by
  have other : ∀ later ∈ after, later.id ≠ machine.id := by
    intro later member same
    rw [place, map_append, map_cons] at distinct
    have rest := (nodup_append.mp distinct).2.1
    apply (nodup_cons.mp rest).1
    rw [← same]
    exact mem_map_of_mem member
  have member : machine ∈ machines := by simp [place]
  have ⟨target, given, _⟩ := @exists_machineTarget lossy machine (valid machine member)
  have order : machines.reverse = after.reverse ++ machine :: before.reverse := by
    simp [place]
  rw [resolves_eq valid, order, find?_append]
  cases found : after.reverse.find? fun machine' => Answers machine' machine.id with
  | none =>
    have nobody := find?_eq_none.mp found
    have self : Answers machine machine.id := .inl rfl
    simp only [Option.none_or, find?_cons, self, decide_true, Option.bind_some]
    constructor
    · intro _ later inside same
      have silent := nobody later (mem_reverse.mpr inside)
      exact silent (decide_eq_true (.inr same))
    · intro _
      exact ⟨target, given, by simp [given, Except.toOption]⟩
  | some last =>
    have ⟨inside, answers⟩ := answers_of_find? found
    have named : last.name = machine.id := answers.resolve_left (other last inside)
    have ⟨target', given', identity, _⟩ := @exists_machineTarget lossy last
      (valid last (by simp [place, inside]))
    simp only [Option.some_or, Option.bind_some]
    constructor
    · rintro ⟨target, given, wrong⟩
      have ⟨_, mine, owner, _⟩ := @exists_machineTarget lossy machine (valid machine member)
      have same : target = target' := by
        rw [given'] at wrong
        exact (Option.some.inj wrong).symm
      have owned : target.id = machine.id := by
        rw [given] at mine
        rw [Except.ok.inj mine]
        exact owner
      rw [same, identity] at owned
      exact absurd owned (other last inside)
    · intro free
      exact absurd named (free last inside)

end Main

/-- Resolution is exact precisely when, as far as all requested strings are known, no requested
id is the name of a machine that comes later in the list. -/
theorem map_machines_exact_iff (lossy : List UInt8 → String) (machines : List MachineInfo)
    (requested : List String) (valid : ∀ machine ∈ machines, HasAddress machine)
    (distinct : (machines.map MachineInfo.id).Nodup) (some : requested ≠ [])
    (plain : "*" ∉ requested) :
    Exact lossy machines requested ↔
      ((∀ name ∈ requested, ∃ machine ∈ machines, machine.id = name ∨ machine.name = name) →
        ∀ before machine after, machines = before ++ machine :: after →
          machine.id ∈ requested → ∀ later ∈ after, later.name ≠ machine.id) := by
  have known : missing machines requested = [] ↔
      ∀ name ∈ requested, ∃ machine ∈ machines, Answers machine name := by
    simp [missing, filter_eq_nil_iff]
  unfold Exact
  rw [mapMachines_eq valid some plain]
  by_cases all : missing machines requested = []
  · have answered := known.mp all
    rw [if_pos all, if_pos all]
    constructor
    · rintro ⟨_, _, ids⟩ _ before machine after place asked
      exact (resolves_id_iff valid distinct place).mp (ids machine (by simp [place]) asked)
    · intro unshadowed
      refine ⟨⟨_, rfl, nodup_firstMentions _, rfl⟩, ?_, ?_⟩
      · intro name member
        exact exists_of_answers valid (answered name member)
      · intro machine member asked
        have ⟨before, after, place⟩ := append_of_mem member
        exact (resolves_id_iff valid distinct place).mpr
          (unshadowed answered before machine after place asked)
  · rw [if_neg all, if_neg all]
    simp only [true_iff]
    intro answered
    exact absurd (known.mpr answered) all

namespace Sample

def machine (id name : String) (octet : UInt8) : MachineInfo where
  id := id
  name := name
  network := some ⟨none, some ⟨[10, 210, 0, octet]⟩, [], []⟩
  publicIp := none

theorem hasAddress_machine (id name : String) (octet : UInt8) :
    HasAddress (machine id name octet) :=
  ⟨_, _, _, rfl, rfl, rfl⟩

def lossy (_ : List UInt8) : String := ""

/-- Machines whose names are nobody's id. -/
def apart : List MachineInfo := [machine "m1" "web" 1, machine "m2" "db" 2]

theorem hasAddress_apart : ∀ machine ∈ apart, HasAddress machine := by
  simp only [apart, forall_mem_cons]
  exact ⟨hasAddress_machine _ _ _, hasAddress_machine _ _ _, by simp⟩

/-- A machine whose name is the id of the one before it. -/
def shadowed : List MachineInfo := [machine "m1" "web" 1, machine "m2" "m1" 2]

theorem hasAddress_shadowed : ∀ machine ∈ shadowed, HasAddress machine := by
  simp only [shadowed, forall_mem_cons]
  exact ⟨hasAddress_machine _ _ _, hasAddress_machine _ _ _, by simp⟩

end Sample

open Sample

theorem map_machines_exact_iff_sample :
    missing apart ["m2", "web", "db"] = [] ∧
      Exact lossy apart ["m2", "web", "db"] := by
  have names : ∀ machine ∈ apart, ∀ later ∈ apart, later.name ≠ machine.id := by
    decide
  refine ⟨by decide, ?_⟩
  apply (map_machines_exact_iff lossy apart ["m2", "web", "db"]
    hasAddress_apart (by decide) (by decide) (by decide)).mpr
  intro _ before machine after place _ later member
  exact names machine (by simp [place]) later (by simp [place, member])

/-- The id of the first machine resolves to the second, which is named so. -/
theorem map_machines_shadowed :
    (mapMachines lossy (.ok shadowed) ["m1"]).toOption.map
      (List.map MachineTarget.id) = some ["m2"] ∧
    ¬ Exact lossy shadowed ["m1"] := by
  refine ⟨by decide +kernel, ?_⟩
  intro precise
  rw [Exact, if_pos (by decide)] at precise
  have found := precise.2.2 (machine "m1" "web" 1) (by decide) (by decide)
  have free := (resolves_id_iff hasAddress_shadowed (by decide)
    (show shadowed = [] ++ machine "m1" "web" 1 :: _ from rfl)).mp found
  exact free (machine "m2" "m1" 2) mem_cons_self rfl

end Ployz.Proxy
