import Ployz.Cluster.Ipam
import Ployz.Cluster.Store

/-!
# The cluster service

`init`, `add_machine` and `remove_machine` of the cluster service. A call reads and writes the
store one operation at a time: `add_machine` lists the machines and checks the request against
the list (`inquire`), reads the network and picks a subnet (`complete`), and creates the
machine. What the store, the random generator and the latches answer is part of the call.
-/

namespace Ployz.Cluster

open Api

/-- Tables and texts the service takes from elsewhere. -/
structure Platform where
  /-- `go_printable::is_print`. -/
  isPrint : Char → Bool
  /-- The database's text for a repeated primary key. -/
  duplicateKey : String

section Text

/-- `{:0width$x}`. -/
def hexText (width value : Nat) : String :=
  let digits := Nat.toDigits 16 value
  String.ofList (List.replicate (width - digits.length) '0' ++ digits)

def toHexString (bytes : List UInt8) : String :=
  String.join (bytes.map fun byte => hexText 2 byte.toNat)

/-- The text of one character in `go_quote`. -/
def quoteChar (isPrint : Char → Bool) (character : Char) : String :=
  let codepoint := character.toNat
  if codepoint = 0x07 then "\\a"
  else if codepoint = 0x08 then "\\b"
  else if codepoint = 0x09 then "\\t"
  else if codepoint = 0x0a then "\\n"
  else if codepoint = 0x0b then "\\v"
  else if codepoint = 0x0c then "\\f"
  else if codepoint = 0x0d then "\\r"
  else if character = '"' then "\\\""
  else if character = '\\' then "\\\\"
  else if codepoint < 0x20 ∨ codepoint = 0x7f then "\\x" ++ hexText 2 codepoint
  else if codepoint = 0x2028 then "\\u2028"
  else if codepoint = 0x2029 then "\\u2029"
  else if isPrint character then character.toString
  else if codepoint ≤ 0xffff then "\\u" ++ hexText 4 codepoint
  else "\\U" ++ hexText 8 codepoint

def goQuote (isPrint : Char → Bool) (value : String) : String :=
  "\"" ++ String.join (value.toList.map (quoteChar isPrint)) ++ "\""

end Text

def prefixFromProto (message : PbIpPrefix) : Exec AddressError IpPrefix := do
  let (address, bits) ← message.toPrefix
  match IpPrefix.new address bits with
  | .ok value => pure value
  | .error _ => .error .panic

def prefixToProto (value : IpPrefix) : PbIpPrefix := PbIpPrefix.new value.address value.bits

/-- `management_ip`; the error is the text of the network error. -/
def managementIp (publicKey : List UInt8) : Except String IpAddr :=
  if publicKey.length < 14 then
    .error "derive management IP: public key is shorter than 14 bytes"
  else .ok (.ofOctets16 ([0xfd, 0xcc] ++ publicKey.take 14))

/-- `new_random_machine_name`, from the outcome of `random_alphanumeric(4)`, with the text of
`MachineNameError`. -/
def newRandomMachineName (suffix : Except String String) : Except String String :=
  (suffix.map ("machine-" ++ ·)).mapError ("generate random suffix: " ++ ·)

/-- `map_err(|error| Status::internal(format!("{label}{error}")))`. -/
def internal {ε α : Type} (label : String) (display : ε → String) (result : Exec ε α) :
    Exec Status α :=
  result.mapErr fun error => ⟨.internal, label ++ display error⟩

def networkKey : String := "network"

def createdAtKey : String := "created_at"

/-- The errors of `init`. -/
inductive ClusterInitError where
  | alreadyInitialised
  | store (context : String) (source : StoreError)
deriving DecidableEq, Repr

/-- `Display for ClusterInitError`. -/
def ClusterInitError.display : ClusterInitError → String
  | .alreadyInitialised => "cluster is already initialised on this machine"
  | .store context source => context ++ ": " ++ source.display

/-- What `init` finds: its latch, the time as text, and what becomes of its two writes. -/
structure InitOutcomes where
  initialised : Bool
  timestamp : String
  network : Write
  createdAt : Write

def init (store : Store) (outcomes : InitOutcomes) (network : IpPrefix) :
    Except ClusterInitError Unit × Store :=
  if outcomes.initialised then (.error .alreadyInitialised, store)
  else
    match store.put outcomes.network networkKey network.display with
    | (.error source, after) => (.error (.store "put network to store" source), after)
    | (.ok (), after) =>
      let (result, after) := after.put outcomes.createdAt createdAtKey outcomes.timestamp
      (result.mapError (.store "put created_at to store"), after)

def checkReady (ready : Bool) : Exec Status Unit :=
  if ready then pure ()
  else Exec.fail ⟨.unavailable, "machine is not ready to serve cluster requests"⟩

/-- What one `add_machine` finds: its latch, the answers of the store and of the generator. -/
structure AddOutcomes where
  ready : Bool
  /-- The answer to `list_machines`. -/
  listing : Except String RowStream
  /-- `new_machine_id`. -/
  machineId : Except String String
  /-- `random_alphanumeric(4)`. -/
  nameSuffix : Except String String
  networkRead : Option String
  /-- What becomes of `create_machine`. -/
  creation : Write

/-- What one `remove_machine` finds. -/
structure RemoveOutcomes where
  ready : Bool
  /-- What becomes of `delete_machine`. -/
  deletion : Write

/-- The checks of `add_machine` on the request alone. -/
def checkRequest (request : AddMachineRequest) : Exec Status NetworkConfig :=
  match request.network with
  | none => Exec.fail ⟨.invalidArgument, "network not set"⟩
  | some network => do
    network.validate
    if network.endpoints = [] then Exec.fail ⟨.invalidArgument, "endpoints not set"⟩
    else
      match request.publicIp with
      | some ip => do
        let _ ← invalidArgument "invalid public IP: " (Exec.lift ip.toAddr)
        pure network
      | none => pure network

/-- The management address of a configuration, when there is one that can be read. -/
def readManagement (network : NetworkConfig) : Option Address :=
  network.managementIp.bind fun ip => ip.toAddr.toOption

section Add

variable (platform : Platform)

/-- The body of the loop of `add_machine` behind the check of the management address. -/
def examineKey (network : NetworkConfig) (machine : MachineInfo) (stored : NetworkConfig) :
    Exec Status IpPrefix :=
  if stored.publicKey = network.publicKey then
    Exec.fail ⟨.alreadyExists,
      "machine with public key " ++ goQuote platform.isPrint (toHexString stored.publicKey) ++
        " already exists under the name " ++ goQuote platform.isPrint machine.name⟩
  else do
    let subnet ← Exec.expect stored.subnet
    match prefixFromProto subnet with
    | .ok subnet => pure subnet
    | .error _ => .error .panic

/-- The body of the loop of `add_machine` over the stored machines: the subnet of one that does
not collide with the request. -/
def examineMachine (request : AddMachineRequest) (network : NetworkConfig)
    (machine : MachineInfo) : Exec Status IpPrefix :=
  if request.name ≠ "" ∧ machine.name = request.name then
    Exec.fail ⟨.alreadyExists,
      "machine with name " ++ goQuote platform.isPrint request.name ++ " already exists"⟩
  else do
    let stored ← Exec.expect machine.network
    match readManagement network with
    | some requested =>
      if readManagement stored = some requested then
        Exec.fail ⟨.alreadyExists,
          "machine with management IP \"" ++ requested.ip.display ++
            "\" already exists under the name " ++ goQuote platform.isPrint machine.name⟩
      else examineKey platform network machine stored
    | none => examineKey platform network machine stored

/-- The loop of `add_machine` over the stored machines. -/
def examineMachines (request : AddMachineRequest) (network : NetworkConfig)
    (machines : List MachineInfo) : Exec Status (List IpPrefix) :=
  machines.foldlM (fun allocated machine => do
    let subnet ← examineMachine platform request network machine
    pure (allocated ++ [subnet])) []

/-- The variables of `add_machine` when it goes on to read the network. -/
structure Inquiry where
  network : NetworkConfig
  machines : List MachineInfo
  allocated : List IpPrefix
  machineId : String
  name : String
  management : Ip
deriving DecidableEq

/-- The management address of the machine: the requested one, or one derived from the key. -/
def chooseManagement (network : NetworkConfig) : Exec Status Ip :=
  match network.managementIp with
  | some address => pure address
  | none => do
    let address ← internal "derive management IP: " id (Exec.lift (managementIp network.publicKey))
    pure (Ip.new (.ofIp address))

/-- The name of the machine: the requested one, or a random one. -/
def chooseName (suffix : Except String String) (request : AddMachineRequest) :
    Exec Status String :=
  if request.name = "" then
    internal "generate machine name: " id (Exec.lift (newRandomMachineName suffix))
  else pure request.name

/-- `add_machine` up to the read of the network. -/
def inquire (store : Store) (outcomes : AddOutcomes) (request : AddMachineRequest) :
    Exec Status Inquiry := do
  let network ← checkRequest request
  let machines ← internal "list machines: " StoreError.display
    (store.listMachines outcomes.listing)
  let allocated ← examineMachines platform request network machines
  let machineId ← internal "generate machine ID: " id (Exec.lift outcomes.machineId)
  let name ← chooseName outcomes.nameSuffix request
  let management ← chooseManagement network
  pure ⟨network, machines, allocated, machineId, name, management⟩

/-- `Cluster::network`. -/
def readNetwork (store : Store) (failure : Option String) : Exec Status IpPrefix := do
  let network ← internal "get network from store: " StoreError.display
    (Exec.lift (store.get failure networkKey))
  internal "parse network prefix: " IpPrefixError.display
    (Exec.lift (IpPrefix.fromStr network))

/-- The subnet `add_machine` picks in the network. -/
def pickSubnet (network : IpPrefix) (allocated : List IpPrefix) : Exec Status IpPrefix := do
  let ipam ← internal "create IPAM manager: " IpPrefixError.display
    (Ipam.withAllocated network allocated)
  internal "allocate subnet for machine: " IpPrefixError.display
    (ipam.allocateSubnetLen defaultSubnetBits).1

/-- The record of the new machine. -/
def Inquiry.machine (self : Inquiry) (request : AddMachineRequest) (subnet : IpPrefix) :
    MachineInfo where
  id := self.machineId
  name := self.name
  network := some
    { subnet := some (prefixToProto subnet)
      managementIp := some self.management
      endpoints := self.network.endpoints
      publicKey := self.network.publicKey }
  publicIp := request.publicIp

/-- `add_machine` from the read of the network up to `create_machine`. -/
def complete (store : Store) (outcomes : AddOutcomes) (request : AddMachineRequest)
    (inquiry : Inquiry) : Exec Status MachineInfo := do
  let network ← readNetwork store outcomes.networkRead
  let subnet ← pickSubnet network inquiry.allocated
  pure (inquiry.machine request subnet)

/-- The end of `add_machine`. -/
def create (store : Store) (outcomes : AddOutcomes) (machine : MachineInfo) :
    Exec Status MachineInfo × Store :=
  let (result, after) := store.createMachine platform.duplicateKey outcomes.creation machine
  (internal "create machine: " StoreError.display (Exec.lift (result.map fun _ => machine)), after)

/-- `add_machine_without_ready_check`, run without other calls in between. -/
def addMachineWithoutReadyCheck (store : Store) (outcomes : AddOutcomes)
    (request : AddMachineRequest) : Exec Status MachineInfo × Store :=
  match inquire platform store outcomes request >>= complete store outcomes request with
  | .ok machine => create platform store outcomes machine
  | .error fault => (.error fault, store)

def addMachine (store : Store) (outcomes : AddOutcomes) (request : AddMachineRequest) :
    Exec Status MachineInfo × Store :=
  match checkReady outcomes.ready with
  | .ok () => addMachineWithoutReadyCheck platform store outcomes request
  | .error fault => (.error fault, store)

end Add

/-- The checks of `remove_machine`. -/
def checkRemoval (outcomes : RemoveOutcomes) (id : String) : Exec Status Unit := do
  checkReady outcomes.ready
  if id = "" then Exec.fail ⟨.invalidArgument, "machine ID not set"⟩ else pure ()

/-- The end of `remove_machine`. -/
def delete (store : Store) (outcomes : RemoveOutcomes) (id : String) : Exec Status Unit × Store :=
  match store.deleteMachine outcomes.deletion id with
  | (.ok (), after) => (.ok (), after)
  | (.error (.machineNotFound _), after) =>
    (Exec.fail ⟨.notFound, "machine not found: " ++ id⟩, after)
  | (.error error, after) =>
    (Exec.fail ⟨.internal, "delete machine from store: " ++ error.display⟩, after)

/-- `remove_machine`. A failed deletion of the machine's containers is only logged. -/
def removeMachine (store : Store) (outcomes : RemoveOutcomes) (id : String) :
    Exec Status Unit × Store :=
  match checkRemoval outcomes id with
  | .ok () => delete store outcomes id
  | .error fault => (.error fault, store)

/-- A call of the service. -/
inductive Call where
  | add (outcomes : AddOutcomes) (request : AddMachineRequest)
  | remove (outcomes : RemoveOutcomes) (id : String)

/-- One call on its own: its result without the machine, and the store it leaves. -/
def serve (platform : Platform) (store : Store) : Call → Exec Status Unit × Store
  | .add outcomes request =>
    let (result, after) := addMachine platform store outcomes request
    (result.map fun _ => (), after)
  | .remove outcomes id => removeMachine store outcomes id

end Ployz.Cluster
