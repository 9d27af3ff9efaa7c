import Ployz.Base.Exec
import Ployz.Base.Bytes

/-!
# Machine API messages

The protobuf messages exchanged with the cluster service and their address helpers. An `Ip`
message is a byte string: four bytes for IPv4, sixteen for IPv6, more for IPv6 with a zone.
Helpers that the source writes with `expect` on a missing nested message panic here too.
-/

namespace Ployz.Api

/-- `std::net::IpAddr`. -/
inductive IpAddr where
  /-- An IPv4 address as its 32-bit value. -/
  | v4 (bits : BitVec 32)
  /-- An IPv6 address as its 128-bit value. -/
  | v6 (bits : BitVec 128)
deriving DecidableEq, Repr

namespace IpAddr

/-- The octets of an address in network order. -/
def octets : IpAddr → List UInt8
  | .v4 bits => toBytes 4 bits.toNat
  | .v6 bits => toBytes 16 bits.toNat

/-- The IPv4 address with the given octets. -/
def ofOctets4 (octets : List UInt8) : IpAddr := .v4 (BitVec.ofNat 32 (ofBytes octets))

/-- The IPv6 address with the given octets. -/
def ofOctets16 (octets : List UInt8) : IpAddr := .v6 (BitVec.ofNat 128 (ofBytes octets))

theorem ofOctets4_octets (bits : BitVec 32) : ofOctets4 (octets (.v4 bits)) = .v4 bits := by
  rw [ofOctets4, octets, ofBytes_toBytes 4 _ bits.isLt, BitVec.ofNat_toNat, BitVec.setWidth_eq]

theorem ofOctets16_octets (bits : BitVec 128) : ofOctets16 (octets (.v6 bits)) = .v6 bits := by
  rw [ofOctets16, octets, ofBytes_toBytes 16 _ bits.isLt, BitVec.ofNat_toNat, BitVec.setWidth_eq]

end IpAddr

/-- `pb::Address`: an address with the zone bytes of a scoped IPv6 address. -/
structure Address where
  ip : IpAddr
  zone : List UInt8
deriving DecidableEq, Repr

/-- `From<IpAddr> for Address`. -/
def Address.ofIp (ip : IpAddr) : Address := ⟨ip, []⟩

/-- `pb::AddressError`. -/
inductive AddressError where
  | invalidIp
  | unexpectedSliceSize
  | invalidPrefix
  | scopedIp
deriving DecidableEq, Repr

/-- `Display for AddressError`. -/
def AddressError.display : AddressError → String
  | .invalidIp => "invalid IP"
  | .unexpectedSliceSize => "unmarshal IP: unexpected slice size"
  | .invalidPrefix => "invalid prefix"
  | .scopedIp => "scoped IP has no std::net representation"

def Address.toStd (address : Address) : Except AddressError IpAddr :=
  if address.zone = [] then .ok address.ip else .error .scopedIp

/-- `pb::Ip`. -/
structure Ip where
  /-- The address bytes, followed by the zone of a scoped IPv6 address. -/
  ip : List UInt8
deriving DecidableEq, Repr

def Ip.new (address : Address) : Ip := ⟨address.ip.octets ++ address.zone⟩

def Ip.toAddr (message : Ip) : Except AddressError Address :=
  let bytes := message.ip
  if bytes.length = 0 then .error .invalidIp
  else if bytes.length = 4 then .ok (.ofIp (.ofOctets4 bytes))
  else if bytes.length = 16 then .ok (.ofIp (.ofOctets16 bytes))
  else if bytes.length > 16 then .ok ⟨.ofOctets16 (bytes.take 16), bytes.drop 16⟩
  else .error .unexpectedSliceSize

/-- `pb::IpPort`. -/
structure IpPort where
  ip : Option Ip
  port : Nat
deriving DecidableEq, Repr

/-- `IpPort::to_addr_port`: the port is narrowed without a check. -/
def IpPort.toAddrPort (message : IpPort) : Exec AddressError (Address × Nat) := do
  let ip ← Exec.expect message.ip
  let address ← Exec.lift ip.toAddr
  pure (address, message.port % 2 ^ 16)

/-- `pb::IpPrefix`. -/
structure PbIpPrefix where
  ip : Option Ip
  /-- The prefix length, a 32-bit number on the wire. -/
  bits : Nat
deriving DecidableEq, Repr

/-- The width of an address in bits: 32 or 128. -/
def IpAddr.bitLen : IpAddr → Nat
  | .v4 _ => 32
  | .v6 _ => 128

def PbIpPrefix.new (address : IpAddr) (bits : Nat) : PbIpPrefix :=
  ⟨some (Ip.new (.ofIp address)), bits⟩

def PbIpPrefix.toPrefix (message : PbIpPrefix) : Exec AddressError (IpAddr × Nat) := do
  let ip ← Exec.expect message.ip
  let address ← Exec.lift ip.toAddr
  let address ← Exec.lift (address.toStd.mapError fun _ => .invalidPrefix)
  if message.bits > address.bitLen then Exec.fail .invalidPrefix
  else pure (address, message.bits)

/-- The `tonic` status codes used by the cluster service. -/
inductive Code where
  | invalidArgument
  | notFound
  | alreadyExists
  | internal
  | unavailable
deriving DecidableEq, Repr

/-- `tonic::Status`. -/
structure Status where
  code : Code
  message : String
deriving DecidableEq, Repr

def keyLen : Nat := 32

/-- `pb::NetworkConfig`. -/
structure NetworkConfig where
  subnet : Option PbIpPrefix
  managementIp : Option Ip
  endpoints : List IpPort
  publicKey : List UInt8
deriving DecidableEq, Repr

/-- `map_err(|error| invalid_argument(format!("{label}{error}")))`. -/
def invalidArgument {α : Type} (label : String) (result : Exec AddressError α) :
    Exec Status α :=
  result.mapErr fun error => ⟨.invalidArgument, label ++ error.display⟩

/-- One part of `NetworkConfig::validate`: every message that is set can be read. -/
def checkEach {α β : Type} (label : String) (read : α → Exec AddressError β) (messages : List α) :
    Exec Status Unit :=
  messages.forM fun message => (invalidArgument label (read message)).map fun _ => ()

/-- The part of `NetworkConfig::validate` about the key. -/
def checkKey (publicKey : List UInt8) : Exec Status Unit :=
  if publicKey = [] then Exec.fail ⟨.invalidArgument, "public key not set"⟩
  else if publicKey.length ≠ keyLen then
    Exec.fail ⟨.invalidArgument, "invalid public key length: " ++ toString publicKey.length⟩
  else pure ()

def NetworkConfig.validate (network : NetworkConfig) : Exec Status Unit := do
  checkEach "invalid subnet: " PbIpPrefix.toPrefix network.subnet.toList
  checkEach "invalid management IP: " (fun ip => Exec.lift ip.toAddr) network.managementIp.toList
  checkEach "invalid endpoint: " IpPort.toAddrPort network.endpoints
  checkKey network.publicKey

/-- `pb::MachineInfo`. -/
structure MachineInfo where
  id : String
  name : String
  network : Option NetworkConfig
  publicIp : Option Ip
  daemonVersion : String := ""
  dockerVersion : String := ""
  hostname : String := ""
  arch : String := ""
  osPrettyName : String := ""
  kernelVersion : String := ""
deriving DecidableEq, Repr

/-- `pb::AddMachineRequest`. -/
structure AddMachineRequest where
  /-- Requested name; empty asks for a random one. -/
  name : String
  network : Option NetworkConfig
  publicIp : Option Ip
deriving DecidableEq, Repr

theorem Ip.toAddr_new (ip : IpAddr) : (Ip.new (.ofIp ip)).toAddr = .ok (.ofIp ip) := by
  cases ip with
  | v4 bits =>
    have octets := IpAddr.ofOctets4_octets bits
    simp only [Ip.new, Address.ofIp, List.append_nil, Ip.toAddr, octets]
    simp [IpAddr.octets]
  | v6 bits =>
    have octets := IpAddr.ofOctets16_octets bits
    simp only [Ip.new, Address.ofIp, List.append_nil, Ip.toAddr, octets]
    simp [IpAddr.octets]

theorem PbIpPrefix.toPrefix_new (address : IpAddr) (bits : Nat) (fits : bits ≤ address.bitLen) :
    (PbIpPrefix.new address bits).toPrefix = .ok (address, bits) := by
  have small : ¬ bits > address.bitLen := by omega
  simp only [PbIpPrefix.new, PbIpPrefix.toPrefix, Ip.toAddr_new, Exec.expect, Exec.lift, bind,
    Except.bind]
  simp only [Address.ofIp, Address.toStd, ↓reduceIte, Except.mapError]
  exact if_neg small

section Validation

theorem checkEach_eq_ok_iff {α β : Type} {label : String} {read : α → Exec AddressError β}
    {messages : List α} : checkEach label read messages = .ok () ↔
      ∀ message ∈ messages, ∃ value, read message = .ok value := by
  unfold checkEach
  rw [forM_eq_ok_iff]
  refine forall₂_congr fun message _ => ?_
  cases result : read message with
  | ok value => exact ⟨fun _ => ⟨value, rfl⟩, fun _ => rfl⟩
  | error fault =>
    refine ⟨fun returned => ?_, fun ⟨_, same⟩ => nomatch same⟩
    cases fault <;> cases returned

theorem checkKey_eq_ok_iff {publicKey : List UInt8} :
    checkKey publicKey = .ok () ↔ publicKey.length = keyLen := by
  unfold checkKey
  split_ifs with empty long
  · refine ⟨fun returned => ?_, fun length => ?_⟩
    · cases returned
    · rw [empty] at length
      exact absurd length (by decide)
  · refine ⟨fun returned => ?_, fun length => absurd length long⟩
    cases returned
  · exact ⟨fun _ => not_not.mp long, fun _ => rfl⟩

theorem NetworkConfig.validate_eq_ok_iff {network : NetworkConfig} :
    network.validate = .ok () ↔
      (∀ subnet ∈ network.subnet, ∃ value, subnet.toPrefix = .ok value) ∧
      (∀ ip ∈ network.managementIp, ∃ address, ip.toAddr = .ok address) ∧
      (∀ endpoint ∈ network.endpoints, ∃ address, endpoint.toAddrPort = .ok address) ∧
      network.publicKey.length = keyLen := by
  have lifted : ∀ ip : Ip, (∃ address, (Exec.lift ip.toAddr) = .ok address) ↔
      ∃ address, ip.toAddr = .ok address := by
    intro ip
    cases ip.toAddr <;> simp [Exec.lift, Exec.fail]
  simp only [NetworkConfig.validate, check_bind_eq_ok_iff, checkEach_eq_ok_iff,
    checkKey_eq_ok_iff, Option.mem_toList, Option.mem_def, lifted]

end Validation

end Ployz.Api
