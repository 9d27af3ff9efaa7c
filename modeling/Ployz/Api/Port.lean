import Ployz.Base.Text
import Ployz.Api.IpText

/-!
# Published ports

`PortSpec` of the API with its validation, its text form and the parser of that form: a container
port, before it a published port, and before that a hostname or an address of the host, with a
protocol and a mode behind. Errors are the messages of `ApiError`.
-/

namespace Ployz.Port

open Api

def modeIngress : String := "ingress"

def modeHost : String := "host"

def protocolHttp : String := "http"

def protocolHttps : String := "https"

def protocolTcp : String := "tcp"

def protocolUdp : String := "udp"

def isIpv6 : IpAddr → Bool
  | .v4 _ => false
  | .v6 _ => true

/-- `ScopedIpAddr`. The zone is the text whose bytes the source keeps. -/
structure ScopedIpAddr where
  address : IpAddr
  zone : List Char := []
deriving DecidableEq, Repr

namespace ScopedIpAddr

/-- `Display for ScopedIpAddr`. -/
def text (self : ScopedIpAddr) : List Char :=
  self.address.text ++ if self.zone = [] then [] else '%' :: self.zone

/-- `Display for AddrParseError` of an address. -/
def parseError : String := "invalid IP address syntax"

/-- `FromStr for IpAddr` with its error. -/
def parseAddress (value : List Char) : Except String IpAddr :=
  match IpAddr.parse value with
  | some address => .ok address
  | none => .error parseError

/-- `FromStr for ScopedIpAddr`. -/
def fromStr (value : List Char) : Except String ScopedIpAddr :=
  match splitOnce '%' value with
  | none => (parseAddress value).map fun address => ⟨address, []⟩
  | some (front, zone) =>
    match parseAddress front with
    | .error error => .error error
    | .ok address =>
      if isIpv6 address ∧ zone ≠ [] then .ok ⟨address, zone⟩
      else (parseAddress value).map fun address => ⟨address, []⟩

end ScopedIpAddr

/-- How many bits a prefix of an address may have. -/
def maximumBits (address : IpAddr) : Nat := if isIpv6 address then 128 else 32

/-- `port::IpPrefix`, with the bound that its constructor checks. -/
structure IpPrefix where
  address : IpAddr
  bits : Nat
  fits : bits ≤ maximumBits address
deriving DecidableEq, Repr

namespace IpPrefix

def new (address : IpAddr) (bits : Nat) : Except String IpPrefix :=
  if fits : bits ≤ maximumBits address then .ok ⟨address, bits, fits⟩
  else .error "invalid prefix"

/-- `FromStr for IpPrefix`. -/
def fromStr (value : List Char) : Except String IpPrefix :=
  match splitOnce '/' value with
  | none => .error "invalid prefix"
  | some (address, bits) => do
    let address ← (ScopedIpAddr.parseAddress address).mapError ("invalid IP address: " ++ ·)
    let bits ← (parseUnsigned (2 ^ 8) bits).mapError ("invalid prefix length: " ++ ·)
    new address bits

end IpPrefix

/-- `PortSpec`. -/
structure PortSpec where
  hostname : String := ""
  hostIp : Option ScopedIpAddr := none
  hostPrefix : Option IpPrefix := none
  publishedPort : UInt16 := 0
  containerPort : UInt16 := 0
  protocol : String := ""
  mode : String := ""
deriving DecidableEq, Repr

def validateHostname (hostname : String) : Except String Unit :=
  if '.' ∈ hostname.toList then .ok ()
  else .error (s!"invalid hostname '{hostname}': " ++
    "must be a valid domain name containing at least one dot")

namespace PortSpec

variable (self : PortSpec)

/-- The checks of `validate` in ingress mode. -/
def validateIngress : Except String Unit :=
  if self.hostIp.isSome then .error "host IP cannot be specified in ingress mode"
  else if self.hostPrefix.isSome then .error "host prefix cannot be specified in ingress mode"
  else if self.hostname = "" then .ok ()
  else if self.protocol ≠ protocolHttp ∧ self.protocol ≠ protocolHttps then
    .error "hostname is only valid with 'http' or 'https' protocols"
  else validateHostname self.hostname

/-- The checks of `validate` in host mode. -/
def validateHost : Except String Unit :=
  if self.hostIp.isSome ∧ self.hostPrefix.isSome then
    .error "host IP and prefix cannot both be specified in host mode"
  else if self.publishedPort = 0 then .error "published port is required in host mode"
  else if self.protocol ≠ protocolTcp ∧ self.protocol ≠ protocolUdp then
    .error (s!"unsupported protocol '{self.protocol}' in host mode, " ++
      "only 'tcp' and 'udp' are supported")
  else if self.hostname ≠ "" then .error "hostname cannot be specified in host mode"
  else .ok ()

def validate : Except String Unit :=
  if self.containerPort = 0 then .error "container port must be non-zero"
  else if self.protocol = "" then .error "protocol must be specified"
  else if self.protocol ∉ [protocolHttp, protocolHttps, protocolTcp, protocolUdp] then
    .error (s!"invalid protocol '{self.protocol}', " ++
      "supported protocols: 'http', 'https', 'tcp', 'udp'")
  else if self.mode = "" then .error "mode must be specified"
  else if self.mode = modeIngress then self.validateIngress
  else if self.mode = modeHost then self.validateHost
  else .error s!"invalid mode: '{self.mode}'"

/-- The text of a port number. -/
def portText (port : UInt16) : List Char := Nat.toDigits 10 port.toNat

/-- The address of the host as `format` writes it. -/
def hostIpText (address : ScopedIpAddr) : List Char :=
  if isIpv6 address.address then '[' :: address.text ++ [']'] else address.text

/-- The prefix of the host as `format` writes it. -/
def hostPrefixText (range : IpPrefix) : List Char :=
  if isIpv6 range.address then
    '[' :: range.address.text ++ ']' :: '/' :: Nat.toDigits 10 range.bits
  else range.address.text ++ '/' :: Nat.toDigits 10 range.bits

/-- The parts of the text in ingress mode. -/
def ingressParts : List (List Char) :=
  (if self.hostname = "" then [] else [self.hostname.toList]) ++
    (if self.publishedPort = 0 then [] else [portText self.publishedPort]) ++
    [portText self.containerPort]

/-- The parts of the text in host mode. -/
def hostParts : List (List Char) :=
  (self.hostIp.map hostIpText).toList ++ (self.hostPrefix.map hostPrefixText).toList ++
    [portText self.publishedPort, portText self.containerPort]

def format : Except String String :=
  match self.validate with
  | .error error => .error error
  | .ok () =>
    if self.mode = modeIngress then
      .ok (String.ofList ([':'].intercalate self.ingressParts ++ '/' :: self.protocol.toList))
    else if self.mode = modeHost then
      .ok (String.ofList ([':'].intercalate self.hostParts ++
        '/' :: self.protocol.toList ++ '@' :: modeHost.toList))
    else .error s!"not implemented for mode: '{self.mode}'"

end PortSpec

def splitPortParts (port : List Char) : List (List Char) :=
  let parts := port.splitOn ':'
  if 3 < parts.length then
    let split := parts.length - 2
    [[':'].intercalate (parts.take split), parts.getD split [], parts.getD (split + 1) []]
  else parts

def parsePort (value : List Char) : Except String UInt16 :=
  (parseUnsigned (2 ^ 16) value).map UInt16.ofNat

/-- What the last part of a spec says besides the container port. -/
structure Terminal where
  mode : String
  protocol : String
  /-- The protocol, if one is given in ingress mode. -/
  specifiedProtocol : String
  port : List Char
deriving DecidableEq, Repr

/-- The last part of a spec. -/
def parseTerminal (terminal : List Char) : Except String Terminal :=
  match splitOnce '@' terminal with
  | some (before, mode) =>
    if String.ofList mode ≠ modeHost then .error s!"invalid mode: '{String.ofList mode}'"
    else
      match splitOnce '/' before with
      | none => .ok ⟨modeHost, protocolTcp, "", before⟩
      | some (port, protocol) =>
        if String.ofList protocol ∉ [protocolTcp, protocolUdp] then
          .error (s!"unsupported protocol '{String.ofList protocol}' in host mode, " ++
            "only 'tcp' and 'udp' are supported")
        else .ok ⟨modeHost, String.ofList protocol, "", port⟩
  | none =>
    match splitOnce '/' terminal with
    | none => .ok ⟨modeIngress, protocolTcp, "", terminal⟩
    | some (port, protocol) =>
      if String.ofList protocol ∉ [protocolTcp, protocolUdp, protocolHttp, protocolHttps] then
        .error s!"unsupported protocol: '{String.ofList protocol}'"
      else .ok ⟨modeIngress, String.ofList protocol, String.ofList protocol, port⟩

/-- The address of the host without the brackets that an IPv6 address must have. -/
def unbracket (host : List Char) : Except String (List Char) :=
  let missing := s!"invalid host IP '{String.ofList host}': " ++
    "IPv6 address must be enclosed in square brackets"
  if ':' ∈ host then
    match splitOnce ']' host with
    | none => .error missing
    | some (before, after) =>
      if host.head? = some '[' then .ok (before.drop 1 ++ after) else .error missing
  else .ok host

/-- The first of three parts in host mode. -/
def parseHost (spec : PortSpec) (part : List Char) : Except String PortSpec := do
  let host ← unbracket part
  if '/' ∈ host then
    let range ← (IpPrefix.fromStr host).mapError
      (s!"invalid host prefix '{String.ofList part}': " ++ ·)
    return { spec with hostPrefix := some range }
  else
    let address ← (ScopedIpAddr.fromStr host).mapError
      (s!"invalid host IP '{String.ofList part}': " ++ ·)
    return { spec with hostIp := some address }

/-- The parts before the last one. -/
def parseParts (spec : PortSpec) : List (List Char) → Except String PortSpec
  | [_] => .ok spec
  | [first, _] =>
    if first = [] then
      .error ("hostname or published port must be specified, format: " ++
        "hostname:container_port or published_port:container_port")
    else
      match parsePort first with
      | .ok value => .ok { spec with publishedPort := value }
      | .error _ =>
        if spec.mode = modeHost then .error "hostname cannot be specified in host mode"
        else .ok { spec with hostname := String.ofList first }
  | [first, published, _] => do
    let value ← (parsePort published).mapError
      (s!"invalid published port '{String.ofList published}': " ++ ·)
    let spec := { spec with publishedPort := value }
    if spec.mode = modeHost then parseHost spec first
    else return { spec with hostname := String.ofList first }
  | parts => .error s!"unexpected number of parts in port spec: {parts.length}"

/-- The protocol of a spec with a hostname. -/
def hostnameProtocol (specifiedProtocol : String) (spec : PortSpec) : Except String PortSpec :=
  if spec.hostname = "" then .ok spec
  else if specifiedProtocol = "" then .ok { spec with protocol := protocolHttps }
  else if specifiedProtocol ≠ protocolHttp ∧ specifiedProtocol ≠ protocolHttps then
    .error ("hostname is only valid with 'http' or 'https' protocols, " ++
      s!"specified: '{specifiedProtocol}'")
  else .ok spec

def parsePortSpec (port : String) : Except String PortSpec :=
  if 1 < port.toList.count '@' then .error "too many '@' symbols"
  else do
    let parts := splitPortParts port.toList
    let terminal ← parseTerminal (parts.getLast?.getD [])
    let containerPort ← (parsePort terminal.port).mapError
      (s!"invalid container port '{String.ofList terminal.port}': " ++ ·)
    let spec ← parseParts
      { containerPort, protocol := terminal.protocol, mode := terminal.mode } parts
    let spec ← hostnameProtocol terminal.specifiedProtocol spec
    spec.validate
    return spec

def portsEqual (left right : List PortSpec) : Bool :=
  left.length = right.length &&
    match left.mapM PortSpec.format, right.mapM PortSpec.format with
    | .ok left, .ok right => left.insertionSort (· ≤ ·) = right.insertionSort (· ≤ ·)
    | _, _ => false

end Ployz.Port
