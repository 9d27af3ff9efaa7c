import Ployz.Cluster.Service
import Ployz.Network.Peer

/-!
# Endpoint changes on the WireGuard device

The control loop of the network moves the peers that are due to their next endpoints, first in its
own state and then, in one request, on the device of the kernel. What the kernel answers is a
parameter, as is the reading of the clock for each peer.
-/

namespace Ployz.Network

open Cluster (toHexString)

/-- `NetworkError`, for the errors of the functions below. -/
inductive NetworkError
  | io (context source : String)
  | invalid (text : String)
  deriving DecidableEq

/-- `WIREGUARD_INTERFACE_NAME`, as `{:?}` prints it. -/
def wireguardInterfaceName : String := "\"ployz\""

/-- `EndpointChangeEvent`. -/
structure EndpointChangeEvent where
  publicKey : List UInt8
  endpoint : SocketAddr
  deriving DecidableEq

/-- The WireGuard interface of the kernel: whether a client connects, the keys of the peers of the
device, and the answer to an update of the endpoints of some of them. -/
structure Kernel where
  connect : Except String Unit
  getDevice : Except String (List (List UInt8))
  setDevice : List (List UInt8 × SocketAddr) → Except String Unit

/-- The part of `State` that endpoint changes work on: the peers with their keys, in the order in
which the map visits them. -/
structure State where
  peers : Option (List (String × Peer))

def wireguardClient (kernel : Kernel) : Except NetworkError Unit :=
  kernel.connect.mapError (.io "create WireGuard client")

def getWireguardDevice (kernel : Kernel) : Except NetworkError (List (List UInt8)) :=
  kernel.getDevice.mapError (.io ("get WireGuard device " ++ wireguardInterfaceName))

def keyFromSecret (secret : List UInt8) (name : String) : Except NetworkError (List UInt8) :=
  if secret.length = 32 then .ok secret
  else .error (.invalid ("parse " ++ name ++ ": WireGuard key must be 32 bytes"))

/-- The loop of `change_wire_guard_endpoints` over the peers: the events, or its error, and the
peers it leaves. -/
def changePeers (clock : String → SystemTime) :
    List (String × Peer) →
      Except NetworkError (List EndpointChangeEvent) × List (String × Peer)
  | [] => (.ok [], [])
  | (key, peer) :: rest =>
    match peer.shouldChangeEndpoint with
    | none =>
      let (events, rest) := changePeers clock rest
      (events, (key, peer) :: rest)
    | some endpoint =>
      let peer := peer.updateConfigAt (peer.withEndpoint endpoint) (clock key)
      match peer.config.publicKey with
      | none => (.error (.invalid "peer public key is absent"), (key, peer) :: rest)
      | some publicKey =>
        let (events, rest) := changePeers clock rest
        (events.map (⟨publicKey, endpoint⟩ :: ·), (key, peer) :: rest)

/-- The part of `change_wire_guard_endpoints` that configures the device. -/
def configureDevice (kernel : Kernel) (events : List EndpointChangeEvent) :
    Except NetworkError Unit := do
  wireguardClient kernel
  let device ← getWireguardDevice kernel
  let changedKeys ← events.mapM fun event => keyFromSecret event.publicKey "peer public key"
  let context := "configure WireGuard device " ++ wireguardInterfaceName ++
    " with endpoint changes"
  match changedKeys.find? fun key => key ∉ device with
  | some missing =>
    throw (.invalid (context ++ ": update-only peer " ++ toHexString missing ++
      " does not exist"))
  | none =>
    (kernel.setDevice (changedKeys.zip (events.map (·.endpoint)))).mapError (.io context)

/-- `WireGuardNetwork::change_wire_guard_endpoints`, with the state it leaves. -/
def changeWireGuardEndpoints (kernel : Kernel) (clock : String → SystemTime) (state : State) :
    Except NetworkError Unit × State :=
  match state.peers with
  | none => (.error (.invalid "peers are not configured"), state)
  | some peers =>
    match changePeers clock peers with
    | (.error error, peers) => (.error error, ⟨some peers⟩)
    | (.ok events, peers) =>
      if events = [] then (.ok (), ⟨some peers⟩)
      else (configureDevice kernel events, ⟨some peers⟩)

end Ployz.Network
