import Ployz.Api.Pb
import Ployz.Base.OrdMap

/-!
# The cluster store

The tables of the store that the cluster service uses. A statement may be refused, and may
take effect although its result is lost; a query delivers its rows as a stream that may break
off. `Store::query` keeps the rows of a stream that broke off and drops its error, so a list of
machines may be short. Rows are kept decoded.
-/

namespace Ployz.Cluster

open Api List

/-- The errors of the store. -/
inductive StoreError where
  | keyNotFound
  | machineNotFound (id : String)
  | operation (context source : String)
deriving DecidableEq, Repr

/-- `Display for Error` of the store. -/
def StoreError.display : StoreError → String
  | .keyNotFound => "key not found"
  | .machineNotFound id => "machine not found: " ++ id
  | .operation context source => context ++ ": " ++ source

/-- The `cluster` and `machines` tables. -/
structure Store where
  values : OrdMap String String
  machines : List MachineInfo
  keyed : (machines.map MachineInfo.id).Nodup

/-- What becomes of a statement sent to the store. -/
inductive Write where
  | applied
  | refused (source : String)
  /-- The statement takes effect and its result does not arrive. -/
  | unreported (source : String)

/-- The rows of a query as they arrive. -/
structure RowStream where
  /-- The order of rows that the query does not order. -/
  arrange : List MachineInfo → List MachineInfo
  arrange_perm : ∀ rows, (arrange rows).Perm rows
  /-- The number of rows after which the stream breaks off. -/
  breaksAfter : Option Nat

namespace RowStream

/-- The rows of `ORDER BY name`. -/
def ordered (self : RowStream) (rows : List MachineInfo) : List MachineInfo :=
  (self.arrange rows).insertionSort fun left right => left.name ≤ right.name

/-- The rows that `Store::query` collects. -/
def collect (self : RowStream) (rows : List MachineInfo) : List MachineInfo :=
  match self.breaksAfter with
  | none => self.ordered rows
  | some count => (self.ordered rows).take count

theorem ordered_perm (self : RowStream) (rows : List MachineInfo) :
    (self.ordered rows).Perm rows :=
  (perm_insertionSort _ _).trans (self.arrange_perm rows)

/-- All rows arrive. -/
def Complete (self : RowStream) (rows : List MachineInfo) : Prop :=
  ∀ count ∈ self.breaksAfter, rows.length ≤ count

theorem collect_subset (self : RowStream) (rows : List MachineInfo) :
    self.collect rows ⊆ rows := by
  intro machine member
  unfold collect at member
  cases breaks : self.breaksAfter with
  | none =>
    rw [breaks] at member
    exact (self.ordered_perm rows).mem_iff.mp member
  | some count =>
    rw [breaks] at member
    exact (self.ordered_perm rows).mem_iff.mp (mem_of_mem_take member)

theorem Complete.collect_perm {self : RowStream} {rows : List MachineInfo}
    (complete : self.Complete rows) : (self.collect rows).Perm rows := by
  unfold collect
  cases breaks : self.breaksAfter with
  | none => exact self.ordered_perm rows
  | some count =>
    have enough : (self.ordered rows).length ≤ count := by
      rw [(self.ordered_perm rows).length_eq]
      exact complete count breaks
    change ((self.ordered rows).take count).Perm rows
    rw [take_of_length_le enough]
    exact self.ordered_perm rows

end RowStream

namespace Store

/-- A store without rows. -/
def empty : Store := ⟨∅, [], nodup_nil⟩

/-- `Store::exec`: the number of rows a statement affects, and the store it leaves. -/
def exec (self : Store) (context : String) (write : Write)
    (effect : Except String (Nat × Store)) : Except StoreError Nat × Store :=
  match write, effect with
  | .refused source, _ => (.error (.operation context source), self)
  | _, .error source => (.error (.operation context source), self)
  | .applied, .ok (affected, after) => (.ok affected, after)
  | .unreported source, .ok (_, after) => (.error (.operation context source), after)

def put (self : Store) (write : Write) (key value : String) : Except StoreError Unit × Store :=
  let (result, after) := self.exec "put cluster value" write
    (.ok (1, { self with values := self.values.insert key value }))
  (result.map fun _ => (), after)

/-- `Store::get`; the argument is the error of a query that brings no row. -/
def get (self : Store) (failure : Option String) (key : String) : Except StoreError String :=
  match failure with
  | some source => .error (.operation "query cluster value" source)
  | none =>
    match self.values[key]? with
    | some value => .ok value
    | none => .error .keyNotFound

/-- The store with a further machine. -/
def insertMachine (self : Store) (machine : MachineInfo)
    (fresh : machine.id ∉ self.machines.map MachineInfo.id) : Store :=
  { self with
    machines := self.machines ++ [machine]
    keyed := by
      rw [map_append, nodup_append]
      refine ⟨self.keyed, nodup_singleton _, fun id known other new => ?_⟩
      rintro rfl
      rw [map_singleton, mem_singleton] at new
      exact fresh (new ▸ known) }

/-- `Store::create_machine`; `duplicate` is the database's text for a repeated primary key. -/
def createMachine (self : Store) (duplicate : String) (write : Write) (machine : MachineInfo) :
    Except StoreError Unit × Store :=
  let (result, after) := self.exec "insert query" write
    (if fresh : machine.id ∉ self.machines.map MachineInfo.id then
      .ok (1, self.insertMachine machine fresh)
    else .error duplicate)
  (result.map fun _ => (), after)

/-- The store without the machines of an id. -/
def eraseMachine (self : Store) (id : String) : Store :=
  { self with
    machines := self.machines.filter (·.id ≠ id)
    keyed := self.keyed.sublist (filter_sublist.map MachineInfo.id) }

def deleteMachine (self : Store) (write : Write) (id : String) :
    Except StoreError Unit × Store :=
  match self.exec "delete machine" write
    (.ok (self.machines.countP (·.id = id), self.eraseMachine id)) with
  | (.ok 0, after) => (.error (.machineNotFound id), after)
  | (.ok _, after) => (.ok (), after)
  | (.error error, after) => (.error error, after)

/-- `decode_machine_rows` with its check of the network. -/
def decodeMachineRows (rows : List MachineInfo) : Exec StoreError (List MachineInfo) :=
  rows.foldlM (fun machines machine => do
    let network ← Exec.expect machine.network
    match network.validate with
    | .ok () => pure (machines ++ [machine])
    | .error (.error _) => pure machines
    | .error .panic => .error .panic) []

/-- `Store::list_machines`; the argument is the error of the query or its rows. -/
def listMachines (self : Store) (query : Except String RowStream) :
    Exec StoreError (List MachineInfo) :=
  match query with
  | .error source => Exec.fail (.operation "list machines" source)
  | .ok stream => decodeMachineRows (stream.collect self.machines)

section Rows

/-- A row that `list_machines` returns. -/
def Readable (machine : MachineInfo) : Prop :=
  ∃ network, machine.network = some network ∧ network.validate = .ok ()

theorem decodeMachineRows_eq {rows : List MachineInfo}
    (readable : ∀ machine ∈ rows, Readable machine) : decodeMachineRows rows = .ok rows := by
  have spec : Ends (decodeMachineRows rows) (fun machines => machines = rows)
      (fun _ => False) := by
    refine Ends.foldlM (fun done machines => machines = done) rfl ?_
    rintro done machine rest machines split rfl
    obtain ⟨network, configured, valid⟩ := readable machine (by simp [split])
    simp only [configured, Exec.expect, bind, Except.bind, valid]
    rfl
  cases decoded : decodeMachineRows rows with
  | ok machines => rw [spec.of_ok decoded]
  | error fault => exact absurd (spec.of_error decoded) not_false

/-- A statement leaves the store as it was, or as its effect makes it. -/
theorem exec_store (self : Store) (context : String) (write : Write)
    (effect : Except String (Nat × Store)) :
    (self.exec context write effect).2 = self ∨
      ∃ affected after, effect = .ok (affected, after) ∧
        (self.exec context write effect).2 = after := by
  cases effect with
  | error source => cases write <;> exact .inl rfl
  | ok done =>
    cases write with
    | applied | unreported => exact .inr ⟨done.1, done.2, rfl, rfl⟩
    | refused source => exact .inl rfl

theorem put_store (self : Store) (write : Write) (key value : String) :
    (self.put write key value).2 = self ∨
      (self.put write key value).2 = { self with values := self.values.insert key value } := by
  rcases self.exec_store "put cluster value" write
    (.ok (1, { self with values := self.values.insert key value })) with
    same | ⟨affected, after, done, left⟩
  · exact .inl same
  · cases done
    exact .inr left

theorem createMachine_store (self : Store) (duplicate : String) (write : Write)
    (machine : MachineInfo) :
    (self.createMachine duplicate write machine).2 = self ∨
      ∃ fresh, (self.createMachine duplicate write machine).2 =
        self.insertMachine machine fresh := by
  rcases self.exec_store "insert query" write
    (if fresh : machine.id ∉ self.machines.map MachineInfo.id then
      .ok (1, self.insertMachine machine fresh)
    else .error duplicate) with same | ⟨affected, after, done, left⟩
  · exact .inl same
  · split_ifs at done with fresh
    cases done
    exact .inr ⟨fresh, left⟩

theorem deleteMachine_store (self : Store) (write : Write) (id : String) :
    (self.deleteMachine write id).2 = self ∨
      (self.deleteMachine write id).2 = self.eraseMachine id := by
  have same : (self.deleteMachine write id).2 = (self.exec "delete machine" write
      (.ok (self.machines.countP (·.id = id), self.eraseMachine id))).2 := by
    unfold deleteMachine
    split <;> simp_all
  rw [same]
  rcases self.exec_store "delete machine" write
    (.ok (self.machines.countP (·.id = id), self.eraseMachine id)) with
    kept | ⟨affected, after, done, left⟩
  · exact .inl kept
  · cases done
    exact .inr left

end Rows

end Store

end Ployz.Cluster
