import Ployz.Api.Pb
import Ployz.Base.JsonText
import Ployz.Base.Text

/-!
# Machine records of the store

A machine is written to the cluster store as the JSON form of its protobuf message: members with
default values are left out and bytes are in base64. The decoder looks members up by either of two
names and takes a missing one for the default value. A raw value is the value whose text it is.
-/

namespace Ployz.Store

open Api

/-- The parts of the `serde_json` crate the decoder uses: what a text is read as, and the errors. -/
structure SerdeJson where
  parse : String → Except String Json
  /-- The error for a value that is not of the expected kind. -/
  mismatch : String → Json → String

/-- The parts of the `base64` crate in use. -/
structure Base64 where
  encode : List UInt8 → String
  decodeStandard : String → Option (List UInt8)
  decodeUrlSafe : String → Option (List UInt8)

section Encoder

/-- The JSON form of a struct some of whose members are skipped. -/
def sparseMembers (fields : List (String × Option Json)) : List (String × Json) :=
  fields.filterMap fun (name, value) => value.map (name, ·)

/-- A text, skipped when it is empty. -/
def textValue (value : String) : Option Json := if value = "" then none else some (.str value)

/-- A number, skipped when it is zero. -/
def numberValue (value : Nat) : Option Json := if value = 0 then none else some (.nat value)

/-- A list, skipped when it is empty. -/
def listValue {α : Type} (write : α → Json) (values : List α) : Option Json :=
  if values = [] then none else some (.arr (values.map write))

variable (base64 : Base64)

def ipJson (ip : Ip) : Json := .obj (sparseMembers [("ip", textValue (base64.encode ip.ip))])

/-- The `PrefixJson` of a prefix. -/
def prefixJson (subnet : PbIpPrefix) : Json :=
  .obj (sparseMembers
    [("ip", subnet.ip.map (ipJson base64)), ("bits", numberValue subnet.bits)])

/-- The `PortJson` of an endpoint. -/
def portJson (port : IpPort) : Json :=
  .obj (sparseMembers [("ip", port.ip.map (ipJson base64)), ("port", numberValue port.port)])

/-- The `NetworkJson` of a network. -/
def networkJson (network : NetworkConfig) : Json :=
  .obj (sparseMembers
    [("subnet", network.subnet.map (prefixJson base64)),
      ("managementIp", network.managementIp.map (ipJson base64)),
      ("endpoints", listValue (portJson base64) network.endpoints),
      ("publicKey", textValue (base64.encode network.publicKey))])

/-- The `MachineJson` of a machine. -/
def machineJson (machine : MachineInfo) : Json :=
  .obj (sparseMembers
    [("id", textValue machine.id), ("name", textValue machine.name),
      ("network", machine.network.map (networkJson base64)),
      ("publicIp", machine.publicIp.map (ipJson base64)),
      ("daemonVersion", textValue machine.daemonVersion),
      ("dockerVersion", textValue machine.dockerVersion),
      ("hostname", textValue machine.hostname), ("arch", textValue machine.arch),
      ("osPrettyName", textValue machine.osPrettyName),
      ("kernelVersion", textValue machine.kernelVersion)])

def encodeMachine (machine : MachineInfo) : String :=
  String.ofList (machineJson base64 machine).write

end Encoder

section Decoder

variable (serde : SerdeJson) (base64 : Base64)

/-- `parse_object` on a raw value. -/
def parseObject (value : Json) (context : String) : Except String (List (String × Json)) :=
  match value with
  | .obj members => .ok members
  | value => .error (context ++ ": " ++ serde.mismatch "a JSON object" value)

/-- The loop of `protobuf_field`. -/
def findField (jsonName protoName : String) (found : Option Json) :
    List (String × Json) → Except String (Option Json)
  | [] => .ok found
  | (name, value) :: members =>
    if name = jsonName ∨ name = protoName then
      if found.isSome then .error s!"duplicate field {jsonName}"
      else findField jsonName protoName (some value) members
    else findField jsonName protoName found members

def protobufField (object : List (String × Json)) (jsonName protoName : String) :
    Except String (Option Json) := findField jsonName protoName none object

/-- `Option<String>` of `serde_json`, with nothing for the empty text. -/
def readString (jsonName : String) : Option Json → Except String String
  | none | some .null => .ok ""
  | some (.str value) => .ok value
  | some value => .error (jsonName ++ ": " ++ serde.mismatch "a string" value)

def stringField (object : List (String × Json)) (jsonName protoName : String) :
    Except String String := do
  let value ← protobufField object jsonName protoName
  readString serde jsonName value

/-- The bytes of a text: the standard alphabet is tried before the one for URLs. -/
def readBytes (jsonName encoded : String) : Except String (List UInt8) :=
  if encoded = "" then .ok []
  else
    let filtered := String.ofList (encoded.toList.filter fun c => c != '\r' && c != '\n')
    match (base64.decodeStandard filtered).or (base64.decodeUrlSafe filtered) with
    | some bytes => .ok bytes
    | none => .error s!"{jsonName}: invalid base64"

def bytesField (object : List (String × Json)) (jsonName protoName : String) :
    Except String (List UInt8) := do
  let encoded ← stringField serde object jsonName protoName
  readBytes base64 jsonName encoded

/-- The value of an untagged `Number`. -/
def readU32 (jsonName : String) : Option Json → Except String Nat
  | none | some .null => .ok 0
  | some (.str value) => (parseUnsigned (2 ^ 32) value.toList).mapError (s!"{jsonName}: " ++ ·)
  | some value =>
    match value.unsigned (2 ^ 32) with
    | some number => .ok number
    | none => .error (jsonName ++ ": " ++ serde.mismatch "a number or a string" value)

def u32Field (object : List (String × Json)) (jsonName protoName : String) :
    Except String Nat := do
  let value ← protobufField object jsonName protoName
  readU32 serde jsonName value

/-- The message of a field. -/
def readMessage {α : Type} (decode : Json → Except String α) :
    Option Json → Except String (Option α)
  | none | some .null => .ok none
  | some value => (decode value).map some

def messageField {α : Type} (object : List (String × Json)) (jsonName protoName : String)
    (decode : Json → Except String α) : Except String (Option α) := do
  let value ← protobufField object jsonName protoName
  readMessage decode value

def decodeIp (value : Json) : Except String Ip := do
  let object ← parseObject serde value "ip"
  let ip ← bytesField serde base64 object "ip" "ip"
  return { ip }

def decodePrefix (value : Json) : Except String PbIpPrefix := do
  let object ← parseObject serde value "prefix"
  let ip ← messageField object "ip" "ip" (decodeIp serde base64)
  let bits ← u32Field serde object "bits" "bits"
  return { ip, bits }

def decodePort (value : Json) : Except String IpPort := do
  let object ← parseObject serde value "endpoint"
  let ip ← messageField object "ip" "ip" (decodeIp serde base64)
  let port ← u32Field serde object "port" "port"
  return { ip, port }

/-- The endpoints of a network. -/
def readEndpoints : Option Json → Except String (List IpPort)
  | none | some .null => .ok []
  | some (.arr values) => values.mapM (decodePort serde base64)
  | some value => .error ("endpoints: " ++ serde.mismatch "a sequence" value)

def decodeNetwork (value : Json) : Except String NetworkConfig := do
  let object ← parseObject serde value "network"
  let endpoints ← protobufField object "endpoints" "endpoints"
  let endpoints ← readEndpoints serde base64 endpoints
  let subnet ← messageField object "subnet" "subnet" (decodePrefix serde base64)
  let managementIp ← messageField object "managementIp" "management_ip" (decodeIp serde base64)
  let publicKey ← bytesField serde base64 object "publicKey" "public_key"
  return { subnet, managementIp, endpoints, publicKey }

def decodeMachine (json : String) : Except String MachineInfo := do
  let value ← (serde.parse json).mapError ("machine: " ++ ·)
  let object ← parseObject serde value "machine"
  let id ← stringField serde object "id" "id"
  let name ← stringField serde object "name" "name"
  let network ← messageField object "network" "network" (decodeNetwork serde base64)
  let publicIp ← messageField object "publicIp" "public_ip" (decodeIp serde base64)
  let daemonVersion ← stringField serde object "daemonVersion" "daemon_version"
  let dockerVersion ← stringField serde object "dockerVersion" "docker_version"
  let hostname ← stringField serde object "hostname" "hostname"
  let arch ← stringField serde object "arch" "arch"
  let osPrettyName ← stringField serde object "osPrettyName" "os_pretty_name"
  let kernelVersion ← stringField serde object "kernelVersion" "kernel_version"
  return { id, name, network, publicIp, daemonVersion, dockerVersion, hostname, arch,
           osPrettyName, kernelVersion }

end Decoder

end Ployz.Store
