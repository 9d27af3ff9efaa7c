import Ployz.Base.JsonStrings
import Ployz.Cluster.Service
import Ployz.Corrosion.Event
import Ployz.Store.Machine

/-!
# The reserved domain

A cluster reserves one domain at the DNS service and keeps its name and token in the store under
one key. A reservation reads the key, asks the DNS service and writes the key; a release reads
the key and deletes it. The calls are cut at their store operations, and the whole calls are
put together from the parts.
-/

namespace Ployz.Cluster

open Api Corrosion
open Ployz.Store (SerdeJson)

def uncloudDnsKey : String := "uncloud_dns"

/-- `StoredDomain`. -/
structure StoredDomain where
  endpoint : String
  name : String
  token : String
deriving DecidableEq, Repr

/-- A character as `push_go_json_string` writes it. -/
def goJsonChar (character : Char) : List Char :=
  if character = '"' then ['\\', '"']
  else if character = '\\' then ['\\', '\\']
  else if character = '\x08' then ['\\', 'b']
  else if character = '\x0c' then ['\\', 'f']
  else if character = '\n' then ['\\', 'n']
  else if character = '\r' then ['\\', 'r']
  else if character = '\t' then ['\\', 't']
  else if character = '<' then ['\\', 'u', '0', '0', '3', 'c']
  else if character = '>' then ['\\', 'u', '0', '0', '3', 'e']
  else if character = '&' then ['\\', 'u', '0', '0', '2', '6']
  else if character = '\u2028' then ['\\', 'u', '2', '0', '2', '8']
  else if character = '\u2029' then ['\\', 'u', '2', '0', '2', '9']
  else if character ≤ '\x1f' then
    ['\\', 'u', '0', '0', Nat.digitChar (character.toNat / 16),
      Nat.digitChar (character.toNat % 16)]
  else [character]

def pushGoJsonString (value : String) : List Char :=
  '"' :: value.toList.flatMap goJsonChar ++ ['"']

def encodeStoredDomain (domain : StoredDomain) : String :=
  String.ofList ("\x7b\"Endpoint\":".toList ++ pushGoJsonString domain.endpoint ++
    ",\"Name\":".toList ++ pushGoJsonString domain.name ++
    ",\"Token\":".toList ++ pushGoJsonString domain.token ++ ['\x7d'])

section Deserialize

variable (serde : SerdeJson)

/-- `map.next_value::<Option<String>>()`. -/
def nextValue : Json → Except String (Option String)
  | .null => .ok none
  | .str value => .ok (some value)
  | json => .error (serde.mismatch "a string" json)

/-- One member in `visit_map`. -/
def visitMember (domain : StoredDomain) (member : String × Json) : Except String StoredDomain :=
  if eqIgnoreAsciiCase member.1 "Endpoint" then
    (nextValue serde member.2).map fun value =>
      { domain with endpoint := value.getD domain.endpoint }
  else if eqIgnoreAsciiCase member.1 "Name" then
    (nextValue serde member.2).map fun value => { domain with name := value.getD domain.name }
  else if eqIgnoreAsciiCase member.1 "Token" then
    (nextValue serde member.2).map fun value => { domain with token := value.getD domain.token }
  else .ok domain

/-- `StoredDomain::deserialize`. -/
def deserializeDomain : Json → Except String StoredDomain
  | .obj members => members.foldlM (visitMember serde) ⟨"", "", ""⟩
  | .null => .ok ⟨"", "", ""⟩
  | json => .error (serde.mismatch "a stored Uncloud DNS domain" json)

/-- `Cluster::stored_domain`; the failure is the one of the store query. -/
def storedDomain (store : Store) (failure : Option String) : Exec Status StoredDomain :=
  match store.get failure uncloudDnsKey with
  | .error .keyNotFound => Exec.fail ⟨.notFound, "domain not found"⟩
  | .error error => Exec.fail ⟨.internal, "get domain from store: " ++ error.display⟩
  | .ok json =>
    match (serde.parse json).bind (deserializeDomain serde) with
    | .ok domain => .ok domain
    | .error error => Exec.fail ⟨.internal, "unmarshal domain: " ++ error⟩

end Deserialize

/-- `pb::ReserveDomainRequest`. -/
structure ReserveDomainRequest where
  endpoint : String
deriving DecidableEq, Repr

/-- What becomes of the call of the DNS service. -/
inductive DnsReply where
  | reserved (name token : String)
  | failed (error : String)
  /-- The task of the call panicked or was cancelled. -/
  | lost (error : String)

/-- `spawn_blocking(move || dns.reserve_domain(…))` with its errors. -/
def DnsReply.result : DnsReply → Exec Status (String × String)
  | .reserved name token => .ok (name, token)
  | .failed error => Exec.fail ⟨.internal, error⟩
  | .lost error => Exec.fail ⟨.internal, "DNS reservation task failed: " ++ error⟩

section Calls

variable (serde : SerdeJson)

/-- `reserve_domain_inner` up to its read of the store. -/
def checkReservation (ready : Bool) (failure : Option String) (store : Store)
    (request : ReserveDomainRequest) : Exec Status Unit := do
  checkReady ready
  if request.endpoint = "" then Exec.fail ⟨.invalidArgument, "API endpoint not set"⟩
  else
    match storedDomain serde store failure with
    | .ok _ => Exec.fail ⟨.alreadyExists, "domain already reserved"⟩
    | .error (.error ⟨.notFound, _⟩) => pure ()
    | .error fault => .error fault

/-- The write of `reserve_domain_inner`, and the name it returns. -/
def writeDomain (write : Write) (store : Store) (domain : StoredDomain) :
    Exec Status String × Store :=
  match store.put write uncloudDnsKey (encodeStoredDomain domain) with
  | (.ok (), after) => (.ok domain.name, after)
  | (.error error, after) =>
    (Exec.fail ⟨.internal, "store reserved domain: " ++ error.display⟩, after)

/-- What one `reserve_domain` finds. -/
structure ReserveOutcomes where
  ready : Bool
  read : Option String
  reply : DnsReply
  write : Write

/-- `Cluster::reserve_domain_inner`. -/
def reserveDomain (store : Store) (outcomes : ReserveOutcomes) (request : ReserveDomainRequest) :
    Exec Status String × Store :=
  match checkReservation serde outcomes.ready outcomes.read store request with
  | .error fault => (.error fault, store)
  | .ok () =>
    match outcomes.reply.result with
    | .error fault => (.error fault, store)
    | .ok (name, token) => writeDomain outcomes.write store ⟨request.endpoint, name, token⟩

def Store.delete (self : Store) (write : Write) (key : String) :
    Except StoreError Unit × Store :=
  let (result, after) := self.exec "delete cluster value" write
    (.ok (if key ∈ self.values then 1 else 0, { self with values := self.values.erase key }))
  (result.map fun _ => (), after)

/-- `release_domain_inner` up to its read of the store. -/
def readRelease (ready : Bool) (failure : Option String) (store : Store) :
    Exec Status StoredDomain := do
  checkReady ready
  storedDomain serde store failure

/-- The delete of `release_domain_inner`, and the name it returns. -/
def deleteDomain (write : Write) (store : Store) (domain : StoredDomain) :
    Exec Status String × Store :=
  match store.delete write uncloudDnsKey with
  | (.ok (), after) => (.ok domain.name, after)
  | (.error error, after) =>
    (Exec.fail ⟨.internal, "delete domain from store: " ++ error.display⟩, after)

/-- What one `release_domain` finds. -/
structure ReleaseOutcomes where
  ready : Bool
  read : Option String
  write : Write

/-- `Cluster::release_domain_inner`. -/
def releaseDomain (store : Store) (outcomes : ReleaseOutcomes) : Exec Status String × Store :=
  match readRelease serde outcomes.ready outcomes.read store with
  | .error fault => (.error fault, store)
  | .ok domain => deleteDomain outcomes.write store domain

end Calls

end Ployz.Cluster
