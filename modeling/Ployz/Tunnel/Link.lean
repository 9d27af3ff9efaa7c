import Ployz.Api.IpText
import Ployz.Base.Procedure

/-!
# The datagrams of the tunnel

The driver moves packets between the TCP stack, the WireGuard engine and a UDP socket. Packets of
the stack pass through the two queues of a device; datagrams that the socket does not take wait in
a third queue. Each queue has a limit, which the producers check before they call the engine.

The engine and the socket are parameters: a link holds what they answer with from here on, and
answers that nothing is to be done when that has run out.
-/

namespace Ployz.Tunnel

open Api

def maxPendingDatagrams : Nat := 256

def maxPlaintextPackets : Nat := 256

def maxDatagramsPerTick : Nat := 64

abbrev Packet := List UInt8

/-- `IpPrefix`. -/
structure IpPrefix where
  address : IpAddr
  prefixLen : Nat
  fits : prefixLen ≤ address.bitLen

def IpPrefix.contains (self : IpPrefix) (candidate : IpAddr) : Bool :=
  if self.prefixLen = 0 then
    match self.address, candidate with
    | .v4 _, .v4 _ => true
    | .v6 _, .v6 _ => true
    | _, _ => false
  else
    match self.address, candidate with
    | .v4 network, .v4 candidate =>
      network >>> (32 - self.prefixLen) == candidate >>> (32 - self.prefixLen)
    | .v6 network, .v6 candidate =>
      network >>> (128 - self.prefixLen) == candidate >>> (128 - self.prefixLen)
    | _, _ => false

/-- `ValidatedConfig`, as far as it is read after the start. -/
structure Config where
  localAddress : IpAddr
  remoteNetwork : IpPrefix
  mtu : Nat

def packetDestination (packet : Packet) : Option IpAddr :=
  match packet.head?.map fun byte : UInt8 => byte >>> 4 with
  | some 4 =>
    if 20 ≤ packet.length then some (IpAddr.ofOctets4 ((packet.drop 16).take 4)) else none
  | some 6 =>
    if 40 ≤ packet.length then some (IpAddr.ofOctets16 ((packet.drop 24).take 16)) else none
  | _ => none

/-- `IpDevice`. -/
structure IpDevice where
  incoming : List Packet := []
  outgoing : List Packet := []

/-- What the TCP stack asks of the device. A token to send with is used for a packet or not. -/
inductive DeviceCall where
  | receive (reply : Option Packet)
  | transmit (packet : Option Packet)

namespace IpDevice

variable (self : IpDevice)

def consume (packet : Packet) : IpDevice := { self with outgoing := self.outgoing ++ [packet] }

/-- `Device::receive`: the packet of the token to receive with, and the device. -/
def receive : Option (Packet × IpDevice) :=
  if maxPlaintextPackets ≤ self.outgoing.length then none
  else
    match self.incoming with
    | [] => none
    | packet :: later => some (packet, { self with incoming := later })

/-- `Device::transmit`: whether there is a token to send with. -/
def transmit : Bool := self.outgoing.length < maxPlaintextPackets

/-- The device after a call of the stack and the use of its tokens. -/
def call : DeviceCall → IpDevice
  | .receive reply =>
    match self.receive, reply with
    | none, _ => self
    | some (_, device), none => device
    | some (_, device), some packet => device.consume packet
  | .transmit none => self
  | .transmit (some packet) => if self.transmit then self.consume packet else self

end IpDevice

/-- `TunnResult`, with the text of an error. -/
inductive TunnResult where
  | done
  | connectionExpired
  | failed (error : String)
  | writeToNetwork (packet : Packet)
  | writeToTunnelV4 (packet : Packet) (source : BitVec 32)
  | writeToTunnelV6 (packet : Packet) (source : BitVec 128)

/-- What `UdpSocket::send` returns. -/
inductive Sent where
  | sent (length : Nat)
  | wouldBlock
  | failed (error : String)

/-- What `UdpSocket::recv` returns. -/
inductive Received where
  | datagram (bytes : List UInt8)
  | wouldBlock
  | failed (error : String)

/-- What the socket and the engine answer with: the socket to sends and receives, the engine to
each round of a call of `decapsulate`, to calls of `encapsulate` and to `update_timers`. -/
structure Outside where
  sends : List Sent := []
  receives : List Received := []
  decapsulated : List (List TunnResult) := []
  encapsulated : List TunnResult := []
  timers : List TunnResult := []

/-- The part of `Driver` that carries datagrams. -/
structure Link where
  device : IpDevice := {}
  pendingDatagrams : List Packet := []
  needsDecapsulateDrain : Bool := false
  outside : Outside := {}

/-- The errors that end the driver. -/
inductive DriverError where
  | wrote (length size : Nat)
  | send (error : String)
  | capacity
  | receive (error : String)
  | encapsulate (error : String)
  | encapsulatedPlaintext
  | timer (error : String)
  | timerPlaintext
deriving DecidableEq

/-- The text of an error. -/
def DriverError.display : DriverError → String
  | wrote length size =>
    "send WireGuard datagram: wrote " ++ toString length ++ " of " ++ toString size ++ " bytes"
  | send error => "send WireGuard datagram: " ++ error
  | capacity => "WireGuard datagram queue capacity was exceeded"
  | receive error => "receive from WireGuard endpoint: " ++ error
  | encapsulate error => "encapsulate WireGuard packet: " ++ error
  | encapsulatedPlaintext => "WireGuard encapsulation returned plaintext"
  | timer error => "WireGuard timer: " ++ error
  | timerPlaintext => "WireGuard timer returned plaintext"

/-- A function of the driver that carries datagrams. -/
abbrev OnLink := Procedure DriverError Link

namespace Link

section Answers

variable (self : Link)

def nextSend : Sent × Link :=
  match self.outside.sends with
  | [] => (.wouldBlock, self)
  | sent :: later => (sent, { self with outside := { self.outside with sends := later } })

def nextReceive : Received × Link :=
  match self.outside.receives with
  | [] => (.wouldBlock, self)
  | received :: later =>
    (received, { self with outside := { self.outside with receives := later } })

def nextDecapsulated : List TunnResult × Link :=
  match self.outside.decapsulated with
  | [] => ([], self)
  | results :: later =>
    (results, { self with outside := { self.outside with decapsulated := later } })

def nextEncapsulated : TunnResult × Link :=
  match self.outside.encapsulated with
  | [] => (.done, self)
  | result :: later =>
    (result, { self with outside := { self.outside with encapsulated := later } })

def nextTimers : TunnResult × Link :=
  match self.outside.timers with
  | [] => (.done, self)
  | result :: later => (result, { self with outside := { self.outside with timers := later } })

end Answers

/-- There is room for another datagram. -/
def hasRoom : OnLink Bool := do
  let link ← get
  pure (decide (link.pendingDatagrams.length < maxPendingDatagrams))

/-- The end of `queue_datagram`. -/
def enqueue (datagram : Packet) : OnLink Unit := do
  if ← hasRoom then
    modify fun link => { link with pendingDatagrams := link.pendingDatagrams ++ [datagram] }
  else throw .capacity

def queueDatagram (datagram : Packet) : OnLink Unit := do
  let link ← get
  if link.pendingDatagrams = [] then
    match ← modifyGet nextSend with
    | .sent length =>
      if length = datagram.length then pure () else throw (.wrote length datagram.length)
    | .wouldBlock => enqueue datagram
    | .failed error => throw (.send error)
  else enqueue datagram

/-- The loop of `flush_datagrams` over what is pending. -/
def flush : List Packet → OnLink Unit
  | [] => pure ()
  | datagram :: later => do
    match ← modifyGet nextSend with
    | .sent length =>
      if length = datagram.length then do
        modify fun link => { link with pendingDatagrams := link.pendingDatagrams.tail }
        flush later
      else throw (.wrote length datagram.length)
    | .wouldBlock => pure ()
    | .failed error => throw (.send error)

def flushDatagrams : OnLink Unit := do
  let link ← get
  flush link.pendingDatagrams

/-- `Driver::reset_tunnel`, apart from the engine. -/
def resetTunnel : OnLink Unit :=
  modify fun link => { link with pendingDatagrams := [], needsDecapsulateDrain := false }

variable (config : Config)

def acceptPlaintext (packet : Packet) (source : IpAddr) : OnLink Unit :=
  modify fun link =>
    if config.remoteNetwork.contains source ∧
        packetDestination packet = some config.localAddress ∧ packet.length ≤ config.mtu ∧
        link.device.incoming.length < maxPlaintextPackets then
      { link with
        device := { link.device with incoming := link.device.incoming ++ [packet] } }
    else link

/-- The loop of `decapsulate` over the results of the engine. -/
def decapsulateLoop (results : List TunnResult) : OnLink Unit := do
  if ← hasRoom then
    match results with
    | [] => pure ()
    | .done :: _ => pure ()
    | .connectionExpired :: _ => resetTunnel
    | .failed _ :: _ => pure ()
    | .writeToNetwork packet :: later => do
      queueDatagram packet
      decapsulateLoop later
    | .writeToTunnelV4 packet source :: later => do
      acceptPlaintext config packet (.v4 source)
      decapsulateLoop later
    | .writeToTunnelV6 packet source :: later => do
      acceptPlaintext config packet (.v6 source)
      decapsulateLoop later
  else modify fun link => { link with needsDecapsulateDrain := true }

def decapsulate : OnLink Unit := do
  let results ← modifyGet nextDecapsulated
  decapsulateLoop config results

/-- One round of the loop of `receive_datagrams`, and whether the loop goes on. -/
def receiveDatagram : OnLink Bool := do
  match ← modifyGet nextReceive with
  | .datagram [] => hasRoom
  | .datagram (_ :: _) => do
    decapsulate config
    hasRoom
  | .wouldBlock => pure false
  | .failed error => throw (.receive error)

/-- The loop of `receive_datagrams`. -/
def receiveLoop : Nat → OnLink Unit
  | 0 => pure ()
  | rounds + 1 => do
    if ← receiveDatagram config then receiveLoop rounds else pure ()

/-- `receive_datagrams` behind the check of the queue, with what was left over. -/
def drainFirst : OnLink Unit := do
  modify fun link => { link with needsDecapsulateDrain := false }
  decapsulate config
  if ← hasRoom then receiveLoop config maxDatagramsPerTick else pure ()

def receiveDatagrams : OnLink Unit := do
  if ← hasRoom then
    let link ← get
    if link.needsDecapsulateDrain then drainFirst config
    else receiveLoop config maxDatagramsPerTick
  else pure ()

/-- The loop of `send_plaintext` over the packets of the device. -/
def sendLoop : List Packet → OnLink Unit
  | [] => pure ()
  | packet :: later => do
    if ← hasRoom then
      modify fun link =>
        { link with device := { link.device with outgoing := link.device.outgoing.tail } }
      if (packetDestination packet).any config.remoteNetwork.contains then
        match ← modifyGet nextEncapsulated with
        | .writeToNetwork encrypted => do
          queueDatagram encrypted
          sendLoop later
        | .done => sendLoop later
        | .connectionExpired => do
          resetTunnel
          modify fun link =>
            { link with device := { link.device with outgoing := packet :: link.device.outgoing } }
        | .failed error => throw (.encapsulate error)
        | .writeToTunnelV4 _ _ => throw .encapsulatedPlaintext
        | .writeToTunnelV6 _ _ => throw .encapsulatedPlaintext
      else sendLoop later
    else pure ()

def sendPlaintext : OnLink Unit := do
  let link ← get
  sendLoop config link.device.outgoing

def updateTimers : OnLink Unit := do
  if ← hasRoom then
    match ← modifyGet nextTimers with
    | .done => pure ()
    | .writeToNetwork packet => queueDatagram packet
    | .connectionExpired => resetTunnel
    | .failed error => throw (.timer error)
    | .writeToTunnelV4 _ _ => throw .timerPlaintext
    | .writeToTunnelV6 _ _ => throw .timerPlaintext
  else pure ()

end Link

end Ployz.Tunnel
