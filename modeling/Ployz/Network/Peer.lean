import Ployz.Network.Prefix

/-!
# Peers of the WireGuard network

A machine keeps one peer for every other machine. It polls the device for the last handshake and
the counters of each peer, derives a status from them and, when a peer is down, goes on to the
next address at which the other machine may be reached.

Times are nanoseconds since the epoch. An endpoint is shared: `Arc::ptr_eq` tells two allocations
of one address apart, and both the status and the rotation look at that difference.
-/

namespace Ployz.Network

open Api

/-- `std::net::SocketAddr`. -/
inductive SocketAddr
  | v4 (ip : BitVec 32) (port : UInt16)
  | v6 (ip : BitVec 128) (port : UInt16) (flowinfo scopeId : UInt32)
  deriving DecidableEq

/-- `Arc<T>`. An allocation is told by the value it holds and a number, so that two equal ones
never hold different values. -/
structure Arc (α : Type) where
  value : α
  serial : Nat
  deriving DecidableEq

namespace Arc

variable {α : Type}

/-- `Arc::new`: an allocation that none of the live ones is. -/
def new (live : List (Arc α)) (value : α) : Arc α :=
  ⟨value, live.foldr (fun arc bound => max (arc.serial + 1) bound) 0⟩

def ptrEq [DecidableEq α] (left right : Arc α) : Bool := decide (left = right)

end Arc

/-- `SystemTime`, in nanoseconds since the epoch. -/
abbrev SystemTime := Int

/-- `Duration`, in nanoseconds. -/
abbrev Duration := Nat

def Duration.fromSecs (seconds : Nat) : Duration := seconds * 1000000000

def Duration.max : Duration := (2 ^ 64 - 1) * 1000000000 + 999999999

/-- `PeerConfig`; the key is the bytes of the secret. -/
structure PeerConfig where
  subnet : Option IpNet := none
  managementIp : Option IpAddr := none
  endpoint : Option (Arc SocketAddr) := none
  allEndpoints : List (Arc SocketAddr) := []
  publicKey : Option (List UInt8) := none

/-- `DevicePeerSnapshot`. -/
structure DevicePeerSnapshot where
  endpoint : Option SocketAddr
  lastHandshakeTime : Option SystemTime
  receiveBytes : UInt64
  transmitBytes : UInt64

/-- `PeerStatus`. -/
inductive PeerStatus
  | unknown
  | up
  | down
  deriving DecidableEq

def endpointConnectionTimeout : Duration := Duration.fromSecs 15

def peerDownInterval : Duration := Duration.fromSecs (180 + 5 + 90)

/-- `Peer`. -/
structure Peer where
  config : PeerConfig
  lastEndpointChangeTime : Option SystemTime
  lastHandshakeTime : Option SystemTime
  receiveBytes : Int64
  transmitBytes : Int64
  status : PeerStatus

def sameEndpointPointer : Option (Arc SocketAddr) → Option (Arc SocketAddr) → Bool
  | some left, some right => left.ptrEq right
  | none, none => true
  | _, _ => false

/-- `elapsed_since`: `duration_since` fails for an instant that is still to come. -/
def elapsedSince (now : SystemTime) : Option SystemTime → Duration
  | some instant => (now - instant).toNat
  | none => Duration.max

def isAfter : Option SystemTime → Option SystemTime → Bool
  | some left, some right => decide (right < left)
  | some _, none => true
  | none, _ => false

namespace Peer

def newAt (config : PeerConfig) (devicePeer : Option DevicePeerSnapshot) (now : SystemTime) :
    Peer where
  config := config
  lastEndpointChangeTime := config.endpoint.bind fun endpoint =>
    if (devicePeer.bind (·.endpoint)) = some endpoint.value then none else some now
  lastHandshakeTime := none
  receiveBytes := 0
  transmitBytes := 0
  status := .unknown

variable (self : Peer)

def updateConfigAt (config : PeerConfig) (now : SystemTime) : Peer :=
  let self :=
    if sameEndpointPointer self.config.endpoint config.endpoint then self
    else { self with lastEndpointChangeTime := some now, status := .unknown }
  { self with config := config }

/-- The address of the current endpoint. -/
def current : Option SocketAddr := self.config.endpoint.map Arc.value

/-- The allocations that the configuration of a peer keeps alive. -/
def live : List (Arc SocketAddr) := self.config.endpoint.toList ++ self.config.allEndpoints

def calculateStatusAt (now : SystemTime) : Peer :=
  let sinceLastHandshake := elapsedSince now self.lastHandshakeTime
  let sinceEndpointChange := elapsedSince now self.lastEndpointChangeTime
  let handshakeAfterEndpoint := isAfter self.lastHandshakeTime self.lastEndpointChangeTime
  let status : PeerStatus :=
    if peerDownInterval < sinceEndpointChange then
      if sinceLastHandshake < peerDownInterval then .up else .down
    else if sinceEndpointChange < endpointConnectionTimeout then
      if handshakeAfterEndpoint then .up else .unknown
    else if handshakeAfterEndpoint then .up
    else .down
  let status := if status = .down ∧ self.config.endpoint = none then .unknown else status
  { self with status := status }

/-- `Peer::update_from_device` at a time, with whether the endpoint has changed. -/
def updateFromDevice (devicePeer : DevicePeerSnapshot) (now : SystemTime) : Bool × Peer :=
  let (endpointChanged, self) : Bool × Peer :=
    match devicePeer.endpoint with
    | none => (false, self)
    | some endpoint =>
      if self.current = some endpoint then (false, self)
      else
        (true,
          { self with
            config := { self.config with endpoint := some (Arc.new self.live endpoint) }
            lastEndpointChangeTime := none })
  let self :=
    { self with
      lastHandshakeTime := devicePeer.lastHandshakeTime
      receiveBytes := devicePeer.receiveBytes.toInt64
      transmitBytes := devicePeer.transmitBytes.toInt64 }
  (endpointChanged, self.calculateStatusAt now)

/-- The entry of a nonempty list at an index taken modulo its length. -/
def entryAt (first : Arc SocketAddr) (rest : List (Arc SocketAddr)) (index : Nat) :
    Arc SocketAddr :=
  (first :: rest).get ⟨index % (first :: rest).length, Nat.mod_lt _ (Nat.succ_pos _)⟩

def shouldChangeEndpoint : Option SocketAddr :=
  if self.config.endpoint.isSome ∧ self.status ≠ .down then none
  else
    match self.config.allEndpoints with
    | [] => none
    | first :: rest =>
      match self.config.endpoint with
      | none => some first.value
      | some current =>
        if (first :: rest).length = 1 ∧ current.ptrEq first then none
        else
          let index := (first :: rest).findIdx? fun endpoint => endpoint.value = current.value
          some (entryAt first rest ((index.map (· + 1)).getD 0)).value

/-- `Peer::should_change_endpoint` with its panics, at the remainder and at the index. -/
def checkedChangeEndpoint : Exec Empty (Option SocketAddr) :=
  if self.config.endpoint.isSome ∧ self.status ≠ .down then .ok none
  else
    match self.config.allEndpoints.head?, self.config.endpoint with
    | none, _ => .ok none
    | some first, none => .ok (some first.value)
    | some first, some current =>
      let endpoints := self.config.allEndpoints
      if endpoints.length = 1 ∧ current.ptrEq first then .ok none
      else
        let index := endpoints.findIdx? fun endpoint => endpoint.value = current.value
        if endpoints.length = 0 then .error .panic
        else do
          let place := (index.map (· + 1)).getD 0 % endpoints.length
          let endpoint ← Exec.expect endpoints[place]?
          .ok (some endpoint.value)

/-- The configuration with a new endpoint, as `change_wire_guard_endpoints` makes it. -/
def withEndpoint (endpoint : SocketAddr) : PeerConfig :=
  { self.config with endpoint := some (Arc.new self.live endpoint) }

/-- What the loop of `change_wire_guard_endpoints` does to one peer. -/
def rotate (now : SystemTime) : Peer :=
  match self.shouldChangeEndpoint with
  | none => self
  | some endpoint => self.updateConfigAt (self.withEndpoint endpoint) now

end Peer

end Ployz.Network
