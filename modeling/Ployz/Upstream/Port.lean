import Ployz.Api.Port

/-!
# The port parser of upstream

`ParsePortSpec` as it stands in the frozen upstream, in Go. It follows the same grammar; its
numbers are those of `strconv.ParseUint` and `netip.ParsePrefix`, which allow no sign, and the
parser of addresses, `netip.ParseAddr`, is a parameter.
-/

namespace Ployz.Upstream

open Port

/-- `strconv.ParseUint` in base ten: digits only. -/
def parseUint (limit : Nat) (text : List Char) : Option Nat :=
  if text ≠ [] ∧ (text.all fun c => (toDigit 10 c).isSome) ∧ digitsValue 10 text < limit then
    some (digitsValue 10 text)
  else none

def parsePort (text : List Char) : Option UInt16 := (parseUint (2 ^ 16) text).map UInt16.ofNat

def splitPortParts (port : List Char) : List (List Char) :=
  let parts := port.splitOn ':'
  let n := parts.length
  if n > 3 then [':'].intercalate (parts.take (n - 2)) :: parts.drop (n - 2) else parts

/-- The last part of a spec. -/
def parseMode (mode : List Char) : Option Terminal :=
  match splitOnce '@' mode with
  | some (front, after) =>
    if String.ofList after ≠ modeHost then none
    else
      match splitOnce '/' front with
      | none => some ⟨modeHost, protocolTcp, "", front⟩
      | some (port, protocol) =>
        if String.ofList protocol = protocolTcp then some ⟨modeHost, protocolTcp, "", port⟩
        else if String.ofList protocol = protocolUdp then
          some ⟨modeHost, protocolUdp, "", port⟩
        else none
  | none =>
    match splitOnce '/' mode with
    | none => some ⟨modeIngress, protocolTcp, "", mode⟩
    | some (port, protocol) =>
      if String.ofList protocol = protocolTcp then
        some ⟨modeIngress, protocolTcp, protocolTcp, port⟩
      else if String.ofList protocol = protocolUdp then
        some ⟨modeIngress, protocolUdp, protocolUdp, port⟩
      else if String.ofList protocol = protocolHttp then
        some ⟨modeIngress, protocolHttp, protocolHttp, port⟩
      else if String.ofList protocol = protocolHttps then
        some ⟨modeIngress, protocolHttps, protocolHttps, port⟩
      else none

/-- The address of the host without its brackets. -/
def stripBrackets (ip : List Char) : Option (List Char) :=
  if ':' ∈ ip then
    match splitOnce ']' ip with
    | none => none
    | some (before, after) =>
      if ip.head? ≠ some '[' then none else some (before.drop 1 ++ after)
  else some ip

/-- The protocol of a spec with a hostname. -/
def defaultProtocol (specifiedProtocol : String) (spec : PortSpec) : Option PortSpec :=
  if spec.hostname ≠ "" then
    if specifiedProtocol = "" then some { spec with protocol := protocolHttps }
    else if specifiedProtocol ≠ protocolHttp ∧ specifiedProtocol ≠ protocolHttps then none
    else some spec
  else some spec

def validateHostname (hostname : String) : Option Unit := do
  guard (hostname ≠ "")
  guard ('.' ∈ hostname.toList)

/-- `PortSpec.Validate`. -/
def validate (spec : PortSpec) : Option Unit := do
  guard (spec.containerPort ≠ 0)
  guard (spec.protocol ≠ "")
  guard (spec.protocol ∈ [protocolHttp, protocolHttps, protocolTcp, protocolUdp])
  guard (spec.mode ≠ "")
  if spec.mode = modeIngress then do
    guard (spec.hostIp.isNone)
    guard (spec.hostPrefix.isNone)
    if spec.hostname ≠ "" then do
      guard (spec.protocol = protocolHttp ∨ spec.protocol = protocolHttps)
      validateHostname spec.hostname
  else if spec.mode = modeHost then do
    guard ¬(spec.hostIp.isSome ∧ spec.hostPrefix.isSome)
    guard (spec.publishedPort ≠ 0)
    guard (spec.protocol = protocolTcp ∨ spec.protocol = protocolUdp)
    guard (spec.hostname = "")
  else none

section

variable (parseAddr : List Char → Option ScopedIpAddr)

/-- `netip.ParsePrefix`: no zone, and a length without a sign or a leading zero. -/
def parsePrefix (text : List Char) : Option IpPrefix := do
  let (front, bits) ← rsplitOnce '/' text
  let ip ← parseAddr front
  guard (ip.zone = [])
  guard (1 < bits.length → bits.head?.any fun c => '1' ≤ c ∧ c ≤ '9')
  let bits ← parseUint (2 ^ 63) bits
  if fits : bits ≤ maximumBits ip.address then some ⟨ip.address, bits, fits⟩ else none

/-- The first of three parts in host mode. -/
def parseHost (spec : PortSpec) (part : List Char) : Option PortSpec := do
  let ip ← stripBrackets part
  if '/' ∈ ip then
    let range ← parsePrefix parseAddr ip
    return { spec with hostPrefix := some range }
  else
    let address ← parseAddr ip
    return { spec with hostIp := some address }

/-- The parts before the last one. -/
def parseParts (spec : PortSpec) : List (List Char) → Option PortSpec
  | [_] => some spec
  | [first, _] =>
    if first = [] then none
    else
      match parsePort first with
      | some publishedPort => some { spec with publishedPort }
      | none =>
        if spec.mode = modeHost then none
        else some { spec with hostname := String.ofList first }
  | [first, published, _] => do
    let publishedPort ← parsePort published
    let spec := { spec with publishedPort }
    if spec.mode = modeHost then parseHost parseAddr spec first
    else return { spec with hostname := String.ofList first }
  | _ => none

def parsePortSpec (port : String) : Option PortSpec :=
  if port.toList.count '@' > 1 then none
  else do
    let parts := splitPortParts port.toList
    let terminal ← parseMode (parts.getLast?.getD [])
    let containerPort ← parsePort terminal.port
    let spec ← parseParts parseAddr
      { containerPort, protocol := terminal.protocol, mode := terminal.mode } parts
    let spec ← defaultProtocol terminal.specifiedProtocol spec
    validate spec
    return spec

end

end Ployz.Upstream
