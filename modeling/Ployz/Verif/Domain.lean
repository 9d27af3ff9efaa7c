import Ployz.Base.Run
import Ployz.Cluster.Domain
import Ployz.Verif.Secrets

/-!
# Who owns the reserved domain

Calls that reserve or release the domain interleave between their store operations. A reservation
that has succeeded owns the stored domain until a release hands it back, as long as what each call
has read still holds when it writes: nothing is stored when a reservation is written, and the domain
that was read is the stored one when it is deleted. The code checks neither again.
-/

namespace Ployz.Cluster.Domain

open Api List
open Ployz.Store (SerdeJson storedChar)

variable {domain : StoredDomain}

section Stored

/-- The members of a stored domain. -/
def members (domain : StoredDomain) : List (String × String) :=
  [("Endpoint", domain.endpoint), ("Name", domain.name), ("Token", domain.token)]

/-- `serde_json` reads the text of a stored domain as the object of its three strings. -/
def ReadsStored (serde : SerdeJson) : Prop :=
  ∀ domain, serde.parse (encodeStoredDomain domain) = .ok (Json.ofStrings (members domain))

theorem goJsonChar_control {code : Nat} (control : code < 0x20) :
    goJsonChar (Char.ofNat code) = storedChar (Char.ofNat code) := by
  interval_cases code <;> rfl

theorem goJsonChar_marked {c : Char} (member : c ∈ '"' :: '\\' :: Store.marked) :
    goJsonChar c = storedChar c := by
  have each : ∀ c ∈ '"' :: '\\' :: Store.marked, goJsonChar c = storedChar c := by
    simp only [Store.marked, forall_mem_cons]
    exact ⟨rfl, rfl, rfl, rfl, rfl, rfl, rfl, fun c member => absurd member not_mem_nil⟩
  exact each c member

theorem goJsonChar_eq (c : Char) : goJsonChar c = storedChar c := by
  by_cases member : c ∈ '"' :: '\\' :: Store.marked
  · exact goJsonChar_marked member
  by_cases control : c.toNat < 0x20
  · have same := goJsonChar_control control
    rwa [Char.ofNat_toNat] at same
  · have other {code : Nat} (small : code < 0x20) : c ≠ Char.ofNat code := by
      rintro rfl
      interval_cases code <;> exact control (by decide)
    have high : ¬ c ≤ '\x1f' := by
      intro low
      have small : c.toNat ≤ 0x1f := low
      omega
    simp only [Store.marked, mem_cons, not_mem_nil, or_false, not_or] at member
    obtain ⟨quote, backslash, less, greater, ampersand, line, paragraph⟩ := member
    rw [Store.storedChar_unmarked (by simp [Store.marked, *]),
      Json.escapeChar_printable control quote backslash]
    simp only [goJsonChar, if_neg quote, if_neg backslash, if_neg less, if_neg greater,
      if_neg ampersand, if_neg line, if_neg paragraph, if_neg high,
      if_neg (other (by decide : 8 < 0x20)), if_neg (other (by decide : 9 < 0x20)),
      if_neg (other (by decide : 10 < 0x20)), if_neg (other (by decide : 12 < 0x20)),
      if_neg (other (by decide : 13 < 0x20))]

theorem readChar_goJsonChar (c : Char) (rest : List Char) :
    Json.readChar (goJsonChar c ++ rest) = some (c, rest) := by
  rw [goJsonChar_eq]
  exact Store.readChar_storedChar c rest

/-- Nothing in the value is escaped. -/
def Unescaped (value : String) : Prop := ∀ c ∈ value.toList, goJsonChar c = [c]

theorem quote_unescaped {value : String} (plain : Unescaped value) :
    Json.quote goJsonChar value = '"' :: value.toList ++ ['"'] := by
  rw [Json.quote, flatMap_congr plain, flatMap_singleton']

theorem stringObject_unescaped {a b c : String} (first : Unescaped a) (second : Unescaped b)
    (third : Unescaped c) (x y z : String) :
    Json.stringObject goJsonChar [(a, x), (b, y), (c, z)] =
      ('\x7b' :: '"' :: a.toList ++ ['"', ':']) ++ pushGoJsonString x ++
      (',' :: '"' :: b.toList ++ ['"', ':']) ++ pushGoJsonString y ++
      (',' :: '"' :: c.toList ++ ['"', ':']) ++ pushGoJsonString z ++ ['\x7d'] := by
  have same (value : String) : Json.quote goJsonChar value = pushGoJsonString value := rfl
  simp only [Json.stringObject, Json.stringMembers, Json.comma, quote_unescaped first,
    quote_unescaped second, quote_unescaped third, same]
  simp

theorem keys_text (first second third : List Char) :
    String.ofList ("\x7b\"Endpoint\":".toList ++ first ++ ",\"Name\":".toList ++ second ++
      ",\"Token\":".toList ++ third ++ ['\x7d']) =
    String.ofList (('\x7b' :: '"' :: "Endpoint".toList ++ ['"', ':']) ++ first ++
      (',' :: '"' :: "Name".toList ++ ['"', ':']) ++ second ++
      (',' :: '"' :: "Token".toList ++ ['"', ':']) ++ third ++ ['\x7d']) := by
  simp

theorem encodeStoredDomain_eq (domain : StoredDomain) :
    encodeStoredDomain domain = String.ofList (Json.stringObject goJsonChar (members domain)) := by
  have endpoint : Unescaped "Endpoint" := by simp [Unescaped, goJsonChar]
  have name : Unescaped "Name" := by simp [Unescaped, goJsonChar]
  have token : Unescaped "Token" := by simp [Unescaped, goJsonChar]
  rw [members, stringObject_unescaped endpoint name token]
  exact keys_text _ _ _

theorem deserializeDomain_members (serde : SerdeJson) (domain : StoredDomain) :
    deserializeDomain serde (Json.ofStrings (members domain)) = .ok domain := by
  have endpoint : Corrosion.eqIgnoreAsciiCase "Endpoint" "Endpoint" = true := by decide +kernel
  have name : Corrosion.eqIgnoreAsciiCase "Name" "Endpoint" = false ∧
      Corrosion.eqIgnoreAsciiCase "Name" "Name" = true := by decide +kernel
  have token : Corrosion.eqIgnoreAsciiCase "Token" "Endpoint" = false ∧
      Corrosion.eqIgnoreAsciiCase "Token" "Name" = false ∧
      Corrosion.eqIgnoreAsciiCase "Token" "Token" = true := by decide +kernel
  simp [deserializeDomain, Json.ofStrings, members, visitMember, endpoint, name, token, nextValue,
    Except.map, bind, Except.bind, pure, Except.pure]

/-- A domain is read back from the store that holds its text. -/
theorem storedDomain_of_encoded {serde : SerdeJson} (reads : ReadsStored serde) {store : Store}
    (stored : store.values[uncloudDnsKey]? = some (encodeStoredDomain domain)) :
    storedDomain serde store none = .ok domain := by
  have read : store.get none uncloudDnsKey = .ok (encodeStoredDomain domain) := by
    simp only [Store.get, stored]
  rw [storedDomain, read]
  simp only [reads domain, Except.bind, deserializeDomain_members]

end Stored

/-- A call in progress, by the operation it waits for. -/
inductive Task where
  /-- `reserve_domain` before its read. -/
  | checking (request : ReserveDomainRequest)
  /-- `reserve_domain` before the answer of the DNS service. -/
  | asking (request : ReserveDomainRequest)
  /-- `reserve_domain` before its write. -/
  | writing (domain : StoredDomain)
  /-- `release_domain` before its read. -/
  | reading
  /-- `release_domain` before its delete. -/
  | deleting (domain : StoredDomain)

/-- The store, the calls in progress, and the names that reservations have returned and no
release has returned since. -/
structure System where
  store : Store
  tasks : List Task
  owned : List String

/-- The names owned after a reservation ends. -/
def gain (owned : List String) : Exec Status String → List String
  | .ok name => owned ++ [name]
  | .error _ => owned

/-- The names owned after a release ends. -/
def give (owned : List String) : Exec Status String → List String
  | .ok name => owned.filter (· ≠ name)
  | .error _ => owned

/-- One operation of one call. `allowed` is a condition on the two operations that change the
store: the call, what becomes of its statement, and the store it finds. -/
inductive Step (serde : SerdeJson) (allowed : Task → Write → Store → Prop) :
    System → System → Prop where
  /-- A call of `reserve_domain` arrives. -/
  | reserve (store : Store) (tasks : List Task) (owned : List String)
      (request : ReserveDomainRequest) :
      Step serde allowed ⟨store, tasks, owned⟩ ⟨store, tasks ++ [.checking request], owned⟩
  /-- A call of `release_domain` arrives. -/
  | release (store : Store) (tasks : List Task) (owned : List String) :
      Step serde allowed ⟨store, tasks, owned⟩ ⟨store, tasks ++ [.reading], owned⟩
  /-- A reservation finds no domain in the store. -/
  | check (store : Store) (before after : List Task) (owned : List String) (ready : Bool)
      (failure : Option String) (request : ReserveDomainRequest)
      (passed : checkReservation serde ready failure store request = .ok ()) :
      Step serde allowed ⟨store, before ++ .checking request :: after, owned⟩
        ⟨store, before ++ .asking request :: after, owned⟩
  /-- The DNS service answers a reservation. -/
  | ask (store : Store) (before after : List Task) (owned : List String)
      (request : ReserveDomainRequest) (reply : DnsReply) (name token : String)
      (answered : reply.result = .ok (name, token)) :
      Step serde allowed ⟨store, before ++ .asking request :: after, owned⟩
        ⟨store, before ++ .writing ⟨request.endpoint, name, token⟩ :: after, owned⟩
  /-- A reservation writes its domain and returns. -/
  | write (store : Store) (before after : List Task) (owned : List String)
      (write : Write) (domain : StoredDomain) (met : allowed (.writing domain) write store) :
      Step serde allowed ⟨store, before ++ .writing domain :: after, owned⟩
        ⟨(writeDomain write store domain).2, before ++ after,
          gain owned (writeDomain write store domain).1⟩
  /-- A release reads the domain. -/
  | read (store : Store) (before after : List Task) (owned : List String) (ready : Bool)
      (failure : Option String) (domain : StoredDomain)
      (found : readRelease serde ready failure store = .ok domain) :
      Step serde allowed ⟨store, before ++ .reading :: after, owned⟩
        ⟨store, before ++ .deleting domain :: after, owned⟩
  /-- A release deletes the domain and returns. -/
  | delete (store : Store) (before after : List Task) (owned : List String)
      (write : Write) (domain : StoredDomain) (met : allowed (.deleting domain) write store) :
      Step serde allowed ⟨store, before ++ .deleting domain :: after, owned⟩
        ⟨(deleteDomain write store domain).2, before ++ after,
          give owned (deleteDomain write store domain).1⟩
  /-- A call ends without a further effect: it failed, or it was cancelled. -/
  | stop (store : Store) (before after : List Task) (owned : List String) (task : Task) :
      Step serde allowed ⟨store, before ++ task :: after, owned⟩ ⟨store, before ++ after, owned⟩
  /-- Another call writes to the store, under another key. -/
  | other (store later : Store) (tasks : List Task) (owned : List String)
      (kept : later.values[uncloudDnsKey]? = store.values[uncloudDnsKey]?) :
      Step serde allowed ⟨store, tasks, owned⟩ ⟨later, tasks, owned⟩

/-- Every name owned is the name of the stored domain, and there is at most one. -/
structure System.Exclusive (serde : SerdeJson) (system : System) : Prop where
  stored : ∀ name ∈ system.owned, ∃ domain,
    storedDomain serde system.store none = .ok domain ∧ domain.name = name
  single : system.owned.length ≤ 1

/-- The statement takes effect. -/
def TakesEffect : Write → Prop
  | .refused _ => False
  | _ => True

/-- What a call has read still holds when it changes the store: a reservation is written while
no domain is stored; a release deletes the domain it has read, if there is one, and its result
arrives. -/
def Current (serde : SerdeJson) : Task → Write → Store → Prop
  | .writing _, write, store =>
    TakesEffect write → store.values[uncloudDnsKey]? = none
  | .deleting domain, write, store =>
    TakesEffect write → store.values[uncloudDnsKey]? = none ∨
      (storedDomain serde store none = .ok domain ∧ write = .applied)
  | _, _, _ => True

section Invariant

variable {serde : SerdeJson}

theorem storedDomain_congr {store later : Store}
    (same : later.values[uncloudDnsKey]? = store.values[uncloudDnsKey]?)
    (failure : Option String) :
    storedDomain serde later failure = storedDomain serde store failure := by
  simp only [storedDomain, Store.get, same]

variable {system : System}

theorem System.Exclusive.owned_eq_nil (exclusive : system.Exclusive serde)
    (absent : system.store.values[uncloudDnsKey]? = none) : system.owned = [] := by
  apply eq_nil_iff_forall_not_mem.mpr
  intro name member
  have ⟨domain, stored, _⟩ := exclusive.stored name member
  simp only [storedDomain, Store.get, absent] at stored
  exact nomatch stored

theorem exclusive_nil (store : Store) (tasks : List Task) :
    System.Exclusive serde ⟨store, tasks, []⟩ :=
  ⟨fun _ member => absurd member not_mem_nil, Nat.zero_le 1⟩

/-- A write fails without effect, or stores the domain. -/
theorem writeDomain_spec (write : Write) (store : Store) (domain : StoredDomain) :
    ((writeDomain write store domain).2 = store ∧
      ∃ fault, (writeDomain write store domain).1 = .error fault) ∨
    (TakesEffect write ∧
      (writeDomain write store domain).2.values[uncloudDnsKey]? =
        some (encodeStoredDomain domain) ∧
      ((writeDomain write store domain).1 = .ok domain.name ∨
        ∃ fault, (writeDomain write store domain).1 = .error fault)) := by
  cases write with
  | refused source => exact .inl ⟨rfl, _, rfl⟩
  | applied =>
    refine .inr ⟨trivial, ?_, .inl rfl⟩
    simp [writeDomain, Store.put, Store.exec, Except.map]
  | unreported source =>
    refine .inr ⟨trivial, ?_, .inr ⟨_, rfl⟩⟩
    simp [writeDomain, Store.put, Store.exec, Except.map]

/-- A delete fails without effect, or leaves no domain. -/
theorem deleteDomain_spec (write : Write) (store : Store) (domain : StoredDomain) :
    ((deleteDomain write store domain).2 = store ∧
      ∃ fault, (deleteDomain write store domain).1 = .error fault) ∨
    (TakesEffect write ∧
      (deleteDomain write store domain).2.values[uncloudDnsKey]? = none ∧
      ((write = .applied ∧ (deleteDomain write store domain).1 = .ok domain.name) ∨
        (write ≠ .applied ∧ ∃ fault, (deleteDomain write store domain).1 = .error fault))) := by
  cases write with
  | refused source => exact .inl ⟨rfl, _, rfl⟩
  | applied =>
    refine .inr ⟨trivial, ?_, .inl ⟨rfl, rfl⟩⟩
    simp [deleteDomain, Store.delete, Store.exec, Except.map]
  | unreported source =>
    refine .inr ⟨trivial, ?_, .inr ⟨by simp, _, rfl⟩⟩
    simp [deleteDomain, Store.delete, Store.exec, Except.map]

variable {tasks : List Task} {owned : List String}

/-- The write of a reservation that finds nothing stored makes it the only owner. -/
theorem System.Exclusive.write (reads : ReadsStored serde) {store : Store} {write : Write}
    (exclusive : System.Exclusive serde ⟨store, tasks, owned⟩)
    (current : Current serde (.writing domain) write store) (left : List Task) :
    System.Exclusive serde ⟨(writeDomain write store domain).2, left,
      gain owned (writeDomain write store domain).1⟩ := by
  rcases writeDomain_spec write store domain with ⟨same, fault, failed⟩ | ⟨effect, after, result⟩
  · rw [same, failed]
    exact ⟨exclusive.stored, exclusive.single⟩
  · have nothing : owned = [] := exclusive.owned_eq_nil (current effect)
    rcases result with named | ⟨fault, failed⟩
    · rw [named, nothing]
      constructor
      · intro name member
        have same : name = domain.name := mem_singleton.mp member
        exact ⟨domain, storedDomain_of_encoded reads after, same.symm⟩
      · exact Nat.le_refl 1
    · rw [failed, nothing]
      exact exclusive_nil _ _

/-- The delete of a release that still finds what it has read leaves no owner. -/
theorem System.Exclusive.delete {store : Store} {write : Write}
    (exclusive : System.Exclusive serde ⟨store, tasks, owned⟩)
    (current : Current serde (.deleting domain) write store) (left : List Task) :
    System.Exclusive serde ⟨(deleteDomain write store domain).2, left,
      give owned (deleteDomain write store domain).1⟩ := by
  rcases deleteDomain_spec write store domain with ⟨same, fault, failed⟩ | ⟨effect, _, result⟩
  · rw [same, failed]
    exact ⟨exclusive.stored, exclusive.single⟩
  · have nobody : give owned (deleteDomain write store domain).1 = [] := by
      rcases current effect with absent | ⟨stored, applied⟩
      · have nothing : owned = [] := exclusive.owned_eq_nil absent
        rw [nothing]
        cases (deleteDomain write store domain).1 <;> rfl
      · rcases result with ⟨_, named⟩ | ⟨lost, _⟩
        · rw [named]
          apply filter_eq_nil_iff.mpr
          intro name member
          have ⟨other, stored', same⟩ := exclusive.stored name member
          have one : domain = other := Except.ok.inj (stored.symm.trans stored')
          simp [one, same]
        · exact absurd applied lost
    rw [nobody]
    exact exclusive_nil _ _

/-- Every step keeps the reservation exclusive. -/
theorem System.Exclusive.step (reads : ReadsStored serde) {next : System}
    (step : Step serde (Current serde) system next) (exclusive : system.Exclusive serde) :
    next.Exclusive serde := by
  cases step with
  | reserve | release | check | ask | read | stop =>
    exact ⟨exclusive.stored, exclusive.single⟩
  | write store before after owned write domain met =>
    exact exclusive.write reads met (before ++ after)
  | delete store before after owned write domain met =>
    exact exclusive.delete met (before ++ after)
  | other store later tasks owned kept =>
    constructor
    · intro name member
      have ⟨domain, stored, same⟩ := exclusive.stored name member
      exact ⟨domain, (storedDomain_congr kept none).trans stored, same⟩
    · exact exclusive.single

end Invariant

section Serial

variable {serde : SerdeJson} {failure : Option String} {store : Store}

/-- The code that lets a reservation go on stands for an absent domain. -/
theorem absent_of_notFound {message : String}
    (missing : storedDomain serde store failure = .error (.error ⟨.notFound, message⟩)) :
    store.values[uncloudDnsKey]? = none := by
  cases failure with
  | some source =>
    simp [storedDomain, Store.get, Exec.fail] at missing
  | none =>
    cases found : store.values[uncloudDnsKey]? with
    | none => rfl
    | some text =>
      simp only [storedDomain, Store.get, found] at missing
      split at missing
      · cases missing
      · simp [Exec.fail] at missing

theorem absent_of_checkReservation {ready : Bool} {request : ReserveDomainRequest}
    (passed : checkReservation serde ready failure store request = .ok ()) :
    store.values[uncloudDnsKey]? = none := by
  have ⟨_, _, rest⟩ := bind_eq_ok_iff.mp passed
  split at rest
  · exact nomatch rest
  · split at rest
    · exact nomatch rest
    · next missing => exact absent_of_notFound missing
    · exact nomatch rest

/-- A reservation that is served by itself is a run that keeps to the condition. -/
theorem reserveDomain_reaches (store : Store) (tasks : List Task) (owned : List String)
    (outcomes : ReserveOutcomes) (request : ReserveDomainRequest) :
    Relation.ReflTransGen (Step serde (Current serde)) ⟨store, tasks, owned⟩
      ⟨(reserveDomain serde store outcomes request).2, tasks,
        gain owned (reserveDomain serde store outcomes request).1⟩ := by
  cases passed : checkReservation serde outcomes.ready outcomes.read store request with
  | error fault =>
    simp only [reserveDomain, passed]
    exact .refl
  | ok checked =>
    cases answered : outcomes.reply.result with
    | error fault =>
      simp only [reserveDomain, passed, answered]
      exact .refl
    | ok reservation =>
      have ⟨name, token⟩ := reservation
      have arrive : Step serde (Current serde) _ _ := .reserve store tasks owned request
      have check : Step serde (Current serde) _ _ :=
        .check store tasks [] owned outcomes.ready outcomes.read request passed
      have ask : Step serde (Current serde) _ _ :=
        .ask store tasks [] owned request outcomes.reply name token answered
      have write : Step serde (Current serde) _ _ :=
        .write store tasks [] owned outcomes.write ⟨request.endpoint, name, token⟩
          fun _ => absent_of_checkReservation passed
      rw [append_nil] at write
      simp only [reserveDomain, passed, answered]
      exact .head arrive (.head check (.head ask (.single write)))

theorem storedDomain_of_readRelease {ready : Bool}
    (found : readRelease serde ready failure store = .ok domain) :
    storedDomain serde store none = .ok domain := by
  have ⟨_, _, read⟩ := bind_eq_ok_iff.mp found
  cases failure with
  | none => exact read
  | some source => simp [storedDomain, Store.get, Exec.fail] at read

/-- A whole release is a run. -/
theorem releaseDomain_reaches (store : Store) (tasks : List Task) (owned : List String)
    (outcomes : ReleaseOutcomes) (reported : ∀ source, outcomes.write ≠ .unreported source) :
    Relation.ReflTransGen (Step serde (Current serde)) ⟨store, tasks, owned⟩
      ⟨(releaseDomain serde store outcomes).2, tasks,
        give owned (releaseDomain serde store outcomes).1⟩ := by
  cases found : readRelease serde outcomes.ready outcomes.read store with
  | error fault =>
    simp only [releaseDomain, found]
    exact .refl
  | ok domain =>
    have arrive : Step serde (Current serde) _ _ := .release store tasks owned
    have read : Step serde (Current serde) _ _ :=
      .read store tasks [] owned outcomes.ready outcomes.read domain found
    have current : Current serde (.deleting domain) outcomes.write store := by
      intro effect
      right
      cases kind : outcomes.write with
      | refused source =>
        rw [kind] at effect
        exact effect.elim
      | applied => exact ⟨storedDomain_of_readRelease found, rfl⟩
      | unreported source => exact absurd kind (reported source)
    have delete : Step serde (Current serde) _ _ :=
      .delete store tasks [] owned outcomes.write domain current
    rw [append_nil] at delete
    simp only [releaseDomain, found]
    exact .head arrive (.head read (.single delete))

end Serial

/-- A call of the service, with what it finds. -/
inductive DomainCall where
  | reserve (outcomes : ReserveOutcomes) (request : ReserveDomainRequest)
  | release (outcomes : ReleaseOutcomes)

/-- The system after a call that is served by itself. -/
def System.serve (serde : SerdeJson) (system : System) : DomainCall → System
  | .reserve outcomes request =>
    ⟨(reserveDomain serde system.store outcomes request).2, system.tasks,
      gain system.owned (reserveDomain serde system.store outcomes request).1⟩
  | .release outcomes =>
    ⟨(releaseDomain serde system.store outcomes).2, system.tasks,
      give system.owned (releaseDomain serde system.store outcomes).1⟩

/-- A call that is served by itself is a run that keeps to the condition. -/
theorem System.serve_reaches {serde : SerdeJson} (system : System) {call : DomainCall}
    (reported : ∀ outcomes, .release outcomes = call → ∀ source,
      outcomes.write ≠ .unreported source) :
    Relation.ReflTransGen (Step serde (Current serde)) system (system.serve serde call) := by
  cases call with
  | reserve outcomes request => exact reserveDomain_reaches _ _ _ outcomes request
  | release outcomes => exact releaseDomain_reaches _ _ _ outcomes (reported outcomes rfl)

/-- The reserved domain has one owner: in every run in which what each call has read still holds
when it changes the store, from any system in which no reservation has returned, the name of
every reservation that was not released since is the name of the stored domain, and there is at
most one such reservation. -/
theorem domain_reservation_exclusive (serde : SerdeJson) (reads : ReadsStored serde)
    (start final : System) (unowned : start.owned = [])
    (reaches : Relation.ReflTransGen (Step serde (Current serde)) start final) :
    final.Exclusive serde := by
  have first : start.Exclusive serde := by
    constructor
    · simp [unowned]
    · simp [unowned]
  exact holds_of_reaches reaches first (System.Exclusive.step reads)

namespace Sample

/-- A reader of objects of strings. -/
def serde : SerdeJson where
  parse text :=
    match Json.readStringObject text.toList with
    | some members => .ok (Json.ofStrings members)
    | none => .error "expected value"
  mismatch expected _ := "expected " ++ expected

theorem serde_readsStored : ReadsStored serde := by
  intro domain
  have read := Json.readStringObject_stringObject readChar_goJsonChar (members domain)
  simp only [serde, encodeStoredDomain_eq, String.toList_ofList, read]

def request : ReserveDomainRequest := ⟨"https://dns.example"⟩

/-- A reservation whose every operation succeeds. -/
def outcomes (name : String) : ReserveOutcomes := ⟨true, none, .reserved name "secret", .applied⟩

/-- A system that serves nobody yet. -/
def start : System := ⟨Store.empty, [], []⟩

theorem passed_empty : checkReservation serde true none Store.empty request = .ok () := by
  decide +kernel

/-- A call of `reserve_domain` for which the DNS service has the name. -/
def reserve (name : String) : DomainCall := .reserve (outcomes name) request

/-- A call of `release_domain` whose every operation succeeds. -/
def release : DomainCall := .release ⟨true, none, .applied⟩

/-- A domain is reserved. -/
def held : System := start.serve serde (reserve "a.example")

/-- A second reservation was served. -/
def refused : System := held.serve serde (reserve "b.example")

/-- The domain was released. -/
def released : System := refused.serve serde release

end Sample

open Domain.Sample

theorem domain_reservation_exclusive_sample :
    held.owned = ["a.example"] ∧ held.Exclusive serde ∧
      (reserveDomain serde held.store (outcomes "b.example") request).1 =
        Exec.fail ⟨.alreadyExists, "domain already reserved"⟩ ∧
      refused.Exclusive serde ∧ released.owned = [] ∧ released.Exclusive serde := by
  have first : Relation.ReflTransGen (Step serde (Current serde)) start held :=
    start.serve_reaches (by simp [reserve])
  have second : Relation.ReflTransGen (Step serde (Current serde)) held refused :=
    held.serve_reaches (by simp [reserve])
  have third : Relation.ReflTransGen (Step serde (Current serde)) refused released :=
    refused.serve_reaches (by simp [release])
  have exclusive := domain_reservation_exclusive serde serde_readsStored start
  exact ⟨by decide +kernel, exclusive _ rfl first, by decide +kernel,
    exclusive _ rfl (first.trans second), by decide +kernel,
    exclusive _ rfl ((first.trans second).trans third)⟩

/-- Calls served one after the other keep the domain to one owner, whatever they find, as long as
the result of every delete that is carried out arrives. -/
theorem serial_domain_exclusive (serde : SerdeJson) (reads : ReadsStored serde) (store : Store)
    (calls : List DomainCall) (reported : ∀ outcomes, .release outcomes ∈ calls →
      ∀ source, outcomes.write ≠ .unreported source) :
    (calls.foldl (System.serve serde) ⟨store, [], []⟩).Exclusive serde := by
  have reaches : ∀ system, Relation.ReflTransGen (Step serde (Current serde)) system
      (calls.foldl (System.serve serde) system) := by
    induction calls with
    | nil => exact fun _ => .refl
    | cons call calls ih =>
      intro system
      have now : Relation.ReflTransGen (Step serde (Current serde)) system
          (system.serve serde call) :=
        system.serve_reaches fun outcomes same => reported outcomes (same ▸ mem_cons_self)
      exact now.trans (ih (fun outcomes member => reported outcomes (mem_cons_of_mem _ member)) _)
  exact holds_of_reaches (reaches _) (exclusive_nil store []) (System.Exclusive.step reads)

theorem serial_domain_exclusive_sample :
    refused.owned = ["a.example"] ∧ released.owned = [] ∧
      (released.serve serde (reserve "b.example")).owned = ["b.example"] ∧
      ([reserve "a.example", reserve "b.example", release, reserve "b.example"].foldl
        (System.serve serde) start).Exclusive serde := by
  have reported : ∀ outcomes, .release outcomes ∈
      [reserve "a.example", reserve "b.example", release, reserve "b.example"] →
        ∀ source, outcomes.write ≠ .unreported source := by
    simp [reserve, release]
  exact ⟨by decide +kernel, by decide +kernel, by decide +kernel,
    serial_domain_exclusive serde serde_readsStored _ _ reported⟩

namespace Sample

def written (name : String) : StoredDomain := ⟨request.endpoint, name, "secret"⟩

/-- The store after two reservations. -/
def overwritten : Store :=
  (writeDomain .applied (writeDomain .applied Store.empty (written "a.example")).2
    (written "b.example")).2

end Sample

/-- Two reservations that both read before either writes both succeed, and the stored domain is
the one of the second. -/
theorem domain_reserved_twice :
    Relation.ReflTransGen (Step serde fun _ _ _ => True) start
      ⟨overwritten, [], ["a.example", "b.example"]⟩ ∧
    storedDomain serde overwritten none = .ok (written "b.example") ∧
    ¬ System.Exclusive serde
      ⟨overwritten, [], ["a.example", "b.example"]⟩ := by
  have stored : overwritten.values[uncloudDnsKey]? =
      some (encodeStoredDomain (written "b.example")) := by
    simp [overwritten, writeDomain, Store.put, Store.exec, Except.map]
  refine ⟨?_, storedDomain_of_encoded serde_readsStored stored, ?_⟩
  · apply Relation.ReflTransGen.head (.reserve Store.empty [] [] request)
    apply Relation.ReflTransGen.head
      (.reserve Store.empty [.checking request] [] request)
    apply Relation.ReflTransGen.head
      (.check Store.empty [] [.checking request] [] true none request
        passed_empty)
    apply Relation.ReflTransGen.head
      (.check Store.empty [.asking request] [] [] true none request
        passed_empty)
    apply Relation.ReflTransGen.head
      (.ask Store.empty [] [.asking request] [] request
        (.reserved "a.example" "secret") "a.example" "secret" rfl)
    apply Relation.ReflTransGen.head
      (.ask Store.empty [.writing (written "a.example")] [] [] request
        (.reserved "b.example" "secret") "b.example" "secret" rfl)
    apply Relation.ReflTransGen.head
      (.write Store.empty [] [.writing (written "b.example")] [] .applied
        (written "a.example") trivial)
    exact Relation.ReflTransGen.single
      (.write (writeDomain .applied Store.empty (written "a.example")).2 [] []
        ["a.example"] .applied (written "b.example") trivial)
  · intro exclusive
    have single := exclusive.single
    simp at single

end Ployz.Cluster.Domain
