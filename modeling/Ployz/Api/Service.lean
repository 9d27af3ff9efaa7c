import Ployz.Api.Volume

/-!
# Service specifications

`ServiceSpec` with the fields that validation and scheduling read. Validation of an image
name ends in the OCI reference parser, and some of its messages quote a string in the
formatting library's debug form: both come in through `Externals`, and nothing is assumed
of them. `mounted_docker_volumes` goes through a `HashMap`, whose iteration order is not
fixed; it comes in as a `HashOrder`.
-/

namespace Ployz.Api

open List

/-- `oci_spec::distribution::Reference`, the parts read by validation. -/
structure Reference where
  tag : Option String
  digest : Option String
deriving DecidableEq, Repr

/-- What validation calls outside the modelled code. -/
structure Externals where
  /-- `Reference::try_from`, with the text of its error. -/
  reference : String → Except String Reference
  /-- `str::parse::<Ipv6Addr>`, with the text of its error. -/
  ipv6 : String → Except String Unit
  /-- The `:?` form of a string. -/
  debug : String → String

/-- `char::is_whitespace`: the `White_Space` property. -/
def isWhitespace (c : Char) : Bool :=
  let code := c.toNat
  (9 ≤ code ∧ code ≤ 13) ∨ code = 0x20 ∨ code = 0x85 ∨ code = 0xa0 ∨ code = 0x1680 ∨
    (0x2000 ≤ code ∧ code ≤ 0x200a) ∨ code = 0x2028 ∨ code = 0x2029 ∨ code = 0x202f ∨
    code = 0x205f ∨ code = 0x3000

def trim (text : String) : String :=
  String.ofList ((text.toList.dropWhile isWhitespace).reverse.dropWhile isWhitespace).reverse

def isAsciiDigit (c : Char) : Bool := '0' ≤ c ∧ c ≤ '9'

def isAsciiLowercase (c : Char) : Bool := 'a' ≤ c ∧ c ≤ 'z'

def isAsciiAlphanumeric (c : Char) : Bool :=
  isAsciiDigit c ∨ isAsciiLowercase c ∨ ('A' ≤ c ∧ c ≤ 'Z')

/-- `caddy::CaddySpec`. -/
structure CaddySpec where
  config : String
deriving DecidableEq

/-- `config::ConfigSpec`; the content plays no part in validation. -/
structure ConfigSpec where
  name : String
deriving DecidableEq

/-- `config::ConfigMount`, the fields read by validation. -/
structure ConfigMount where
  configName : String
  containerPath : String
  uid : String
  gid : String
deriving DecidableEq

/-- `port::PortSpec`, the fields read by validation. -/
structure PortSpec where
  containerPort : Nat
  protocol : String
  mode : String
deriving DecidableEq

/-- `service::PreDeployHook`, the field read by validation. -/
structure PreDeployHook where
  command : List String
deriving DecidableEq

/-- `service::ContainerSpec`, the fields read by validation and scheduling. -/
structure ContainerSpec where
  image : String
  volumeMounts : List VolumeMount
  configMounts : List ConfigMount
deriving DecidableEq

/-- `service::Placement`. -/
structure Placement where
  /-- Names or ids of the machines the service may run on; empty means all. -/
  machines : List String
deriving DecidableEq

/-- `service::ServiceSpec`, the fields read by validation and scheduling. -/
structure ServiceSpec where
  caddy : Option CaddySpec
  configs : List ConfigSpec
  container : ContainerSpec
  mode : String
  name : String
  placement : Placement
  ports : List PortSpec
  preDeploy : Option PreDeployHook
  volumes : List VolumeSpec
deriving DecidableEq

def serviceModeReplicated : String := "replicated"

def serviceModeGlobal : String := "global"

def portModeIngress : String := "ingress"

/-- `ApiError::invalid` around the text of an inner error. -/
def ApiError.context (label : String) : ApiError → ApiError
  | .invalid message => .invalid (label ++ message)

/-- `result.map_err(|error| ApiError::invalid(format!("{label}{error}")))`. -/
def withContext (label : String) (result : Except ApiError Unit) : Except ApiError Unit :=
  result.mapError (ApiError.context label)

/-- Reject with a message when the condition holds. -/
def refuseIf (condition : Bool) (message : String) : Except ApiError Unit :=
  if condition then .error (.invalid message) else .ok ()

/-- The digit loop of `str::parse::<u64>`. A bad digit is noticed before an overflow at the
same digit. -/
def parseU64Digits (total : Nat) : List Char → Except String Nat
  | [] => .ok total
  | c :: rest =>
    if ¬ isAsciiDigit c then .error "invalid digit found in string"
    else
      let next := total * 10 + (c.toNat - '0'.toNat)
      if next < 2 ^ 64 then parseU64Digits next rest
      else .error "number too large to fit in target type"

/-- `str::parse::<u64>`, with the texts of `ParseIntError`. -/
def parseU64 (text : String) : Except String Nat :=
  match text.toList with
  | [] => .error "cannot parse integer from empty string"
  | '+' :: c :: rest => parseU64Digits 0 (c :: rest)
  | chars => parseU64Digits 0 chars

def parseNumericId (field value : String) : Except ApiError (Option Nat) :=
  if value = "" then .ok none
  else match parseU64 value with
    | .error reason =>
      .error (.invalid ("invalid " ++ field ++ " '" ++ value ++ "': " ++ reason))
    | .ok parsed =>
      if parsed > 2 ^ 63 - 1 then
        .error (.invalid ("invalid " ++ field ++ " '" ++ value ++ "': value too high"))
      else .ok (some parsed)

def ConfigSpec.validate (config : ConfigSpec) : Except ApiError Unit :=
  refuseIf (config.name = "") "config name is required"

def ConfigMount.validate (mount : ConfigMount) : Except ApiError Unit := do
  refuseIf (mount.configName = "") "config mount source is required"
  let _ ← parseNumericId "Uid" mount.uid
  let _ ← parseNumericId "Gid" mount.gid
  refuseIf (mount.containerPath ≠ "" ∧ ¬ pathIsAbsolute mount.containerPath)
    "container path must be absolute"

/-- A loop over named items that validates each and rejects a repeated name; it returns the
names seen. -/
def validateNamed {α : Type} (label duplicate : String) (name : α → String)
    (check : α → Except ApiError Unit) (items : List α) : Except ApiError (List String) :=
  items.foldlM (fun names item => do
    withContext label (check item)
    refuseIf (names.contains (name item)) (duplicate ++ "'" ++ name item ++ "'")
    pure (name item :: names)) []

def validateConfigsAndMounts (configs : List ConfigSpec) (mounts : List ConfigMount) :
    Except ApiError Unit := do
  let names ← validateNamed "invalid config: " "duplicate config name: " ConfigSpec.name
    ConfigSpec.validate configs
  mounts.forM fun mount => do
    withContext "invalid config mount: " mount.validate
    refuseIf (¬ names.contains mount.configName)
      ("config mount source '" ++ mount.configName ++ "' does not refer to any defined config")

/-- The bracketed registry of an image name: the registry is checked as an IPv6 address and
replaced by a name the reference parser accepts. -/
def unbracketImage (externals : Externals) (input : String) : Except ApiError String := do
  let fail : String → ApiError := fun reason =>
    .invalid ("invalid image '" ++ input ++ "': " ++ reason)
  let chars := input.toList
  if chars.head? ≠ some '[' then return input
  -- the slices of the source, cut at the first slash and at the first closing bracket before it
  let authority := chars.takeWhile (· ≠ '/')
  if authority.length = chars.length then throw (fail "invalid bracketed registry")
  let address := authority.takeWhile (· ≠ ']')
  if address.length = authority.length then throw (fail "invalid bracketed registry")
  (externals.ipv6 (String.ofList (address.drop 1))).mapError fail
  let port := authority.drop (address.length + 1)
  let digits := port.drop 1
  if port ≠ [] ∧ (port.head? ≠ some ':' ∨ digits = [] ∨ ¬ digits.all isAsciiDigit) then
    throw (fail "invalid registry port")
  return "ipv6.invalid" ++ String.ofList port ++ String.ofList (chars.drop authority.length)

/-- The tag check of `validate_docker_reference`. -/
def tagValid (tag : String) : Bool :=
  tag ≠ "" ∧ tag.utf8ByteSize ≤ 128 ∧
    tag.toList.zipIdx.all fun (c, index) =>
      isAsciiAlphanumeric c ∨ c = '_' ∨ (index > 0 ∧ (c = '.' ∨ c = '-'))

/-- The digest check of `validate_docker_reference`: the reason of a rejection. -/
def digestProblem (digest : String) : Option String :=
  let algorithm := digest.toList.takeWhile (· ≠ ':')
  if algorithm.length = digest.toList.length then some "invalid digest"
  else
    let encoded := digest.toList.drop (algorithm.length + 1)
    let check (expected : Nat) : Option String :=
      if (String.ofList encoded).utf8ByteSize ≠ expected ∨
          ¬ encoded.all (fun c => isAsciiDigit c ∨ ('a' ≤ c ∧ c ≤ 'f')) then
        some "invalid digest"
      else none
    if algorithm = "sha256".toList then check 64
    else if algorithm = "sha384".toList then check 96
    else if algorithm = "sha512".toList then check 128
    else some "unsupported digest algorithm"

def validateDockerReference (externals : Externals) (input : String) : Except ApiError Unit := do
  let fail : String → ApiError := fun reason =>
    .invalid ("invalid image '" ++ input ++ "': " ++ reason)
  let parseInput ← unbracketImage externals input
  let reference ← (externals.reference parseInput).mapError fail
  match reference.tag with
  | some tag => if ¬ tagValid tag then throw (fail "invalid tag")
  | none => pure ()
  match reference.digest.bind digestProblem with
  | some problem => throw (fail problem)
  | none => pure ()

def ContainerSpec.validate (externals : Externals) (container : ContainerSpec) :
    Except ApiError Unit := do
  validateDockerReference externals container.image
  container.volumeMounts.forM fun mount => withContext "invalid volume mount: " mount.validate

def PreDeployHook.validate (hook : PreDeployHook) : Except ApiError Unit :=
  refuseIf (hook.command = []) "pre-deploy hook command is required"

namespace ServiceSpec

def caddyConfig (spec : ServiceSpec) : String :=
  match spec.caddy with
  | some caddy => trim caddy.config
  | none => ""

def volume (spec : ServiceSpec) (name : String) : Option VolumeSpec :=
  spec.volumes.find? (·.name = name)

/-- The name check of `ServiceSpec::validate`. -/
def validateName (externals : Externals) (name : String) : Except ApiError Unit := do
  if name ≠ "" then
    refuseIf (name.utf8ByteSize > 63)
      ("service name too long (max 63 characters): " ++ externals.debug name)
    let chars := name.toList
    let valid := chars.head?.any isAsciiAlphanumeric ∧ chars.getLast?.any isAsciiAlphanumeric ∧
      chars.all fun c => isAsciiLowercase c ∨ isAsciiDigit c ∨ c = '-'
    refuseIf (¬ valid) ("invalid service name: " ++ externals.debug name ++
      ". must be 1-63 characters, lowercase letters, numbers, and dashes only; " ++
      "must start and end with a letter or number")

/-- The port check of `ServiceSpec::validate`. -/
def validatePort (port : PortSpec) : Except ApiError Unit :=
  refuseIf ((port.mode = "" ∨ port.mode = portModeIngress) ∧
      ¬ (port.protocol = "http" ∨ port.protocol = "https"))
    ("unsupported protocol for ingress port " ++ toString port.containerPort ++ ": " ++
      port.protocol)

def validate (externals : Externals) (spec : ServiceSpec) : Except ApiError Unit := do
  spec.container.validate externals
  refuseIf (¬ (spec.mode = "" ∨ spec.mode = serviceModeGlobal ∨
    spec.mode = serviceModeReplicated)) ("invalid mode: " ++ externals.debug spec.mode)
  validateName externals spec.name
  spec.ports.forM validatePort
  refuseIf (spec.caddyConfig ≠ "" ∧
      spec.ports.any (fun port => port.mode = "" ∨ port.mode = portModeIngress))
    ("ingress ports and Caddy configuration cannot be specified simultaneously: Caddy config " ++
      "is auto-generated from ingress ports, use only one of them. Host mode ports can be " ++
      "used with Caddy config")
  let names ← validateNamed "invalid volume: " "duplicate volume name: " VolumeSpec.name
    VolumeSpec.validate spec.volumes
  spec.container.volumeMounts.forM fun mount =>
    refuseIf (¬ names.contains mount.volumeName)
      ("volume mount references a volume that doesn't exist in the service spec: '" ++
        mount.volumeName ++ "'")
  withContext "validate service configs and mounts: "
    (validateConfigsAndMounts spec.configs spec.container.configMounts)
  match spec.preDeploy with
  | some hook => hook.validate
  | none => pure ()

end ServiceSpec

/-- `collect::<HashMap<_, _>>()` keyed by name: the last volume of each name. -/
def lastByName (volumes : List VolumeSpec) : List VolumeSpec :=
  volumes.foldr (fun volume kept =>
    if kept.any (·.name = volume.name) then kept else volume :: kept) []

/-- The order in which a `HashMap` yields its values, chosen anew for each map. -/
structure HashOrder where
  /-- The values of one spec's map, in the order they are yielded. -/
  arrange : ServiceSpec → List VolumeSpec → List VolumeSpec
  perm : ∀ spec volumes, (arrange spec volumes).Perm volumes

/-- The order in which the values were inserted. -/
def HashOrder.insertion : HashOrder := ⟨fun _ volumes => volumes, fun _ _ => List.Perm.refl _⟩

variable {spec : ServiceSpec}

namespace ServiceSpec

/-- The mounts of the container that refer to named Docker volumes, as the volumes. -/
def dockerVolumeMounts (spec : ServiceSpec) : List VolumeSpec :=
  (spec.container.volumeMounts.filterMap fun mount => spec.volume mount.volumeName).filter
    (·.kind = volumeTypeVolume)

def mountedDockerVolumes (order : HashOrder) (spec : ServiceSpec) : List VolumeSpec :=
  order.arrange spec (lastByName spec.dockerVolumeMounts)

theorem volume_of_mem_dockerVolumeMounts {mounted : VolumeSpec}
    (member : mounted ∈ spec.dockerVolumeMounts) :
    spec.volume mounted.name = some mounted ∧ mounted.kind = volumeTypeVolume := by
  obtain ⟨found, kind⟩ := mem_filter.mp member
  obtain ⟨mount, _, read⟩ := mem_filterMap.mp found
  have named : mounted.name = mount.volumeName := by
    simpa using find?_some read
  exact ⟨named ▸ read, by simpa using kind⟩

end ServiceSpec

variable {volumes : List VolumeSpec} {volume : VolumeSpec}

theorem mem_of_mem_lastByName (member : volume ∈ lastByName volumes) : volume ∈ volumes := by
  induction volumes with
  | nil => exact member
  | cons head tail ih =>
    rw [lastByName, foldr_cons, ← lastByName] at member
    split at member
    · exact mem_cons_of_mem _ (ih member)
    · rcases mem_cons.mp member with same | later
      · exact same ▸ mem_cons_self
      · exact mem_cons_of_mem _ (ih later)

theorem exists_mem_lastByName (member : volume ∈ volumes) :
    ∃ kept ∈ lastByName volumes, kept.name = volume.name := by
  induction volumes with
  | nil => exact absurd member not_mem_nil
  | cons head tail ih =>
    rw [lastByName, foldr_cons, ← lastByName]
    split
    · rename_i again
      rcases mem_cons.mp member with same | later
      · simpa [same] using again
      · exact ih later
    · rcases mem_cons.mp member with same | later
      · exact ⟨head, mem_cons_self, by rw [same]⟩
      · obtain ⟨kept, inside, named⟩ := ih later
        exact ⟨kept, mem_cons_of_mem _ inside, named⟩

theorem ServiceSpec.mem_mountedDockerVolumes {order : HashOrder} :
    volume ∈ spec.mountedDockerVolumes order ↔ volume ∈ spec.dockerVolumeMounts := by
  rw [mountedDockerVolumes, (order.perm spec _).mem_iff]
  refine ⟨mem_of_mem_lastByName, fun member => ?_⟩
  obtain ⟨kept, inside, named⟩ := exists_mem_lastByName member
  have same : some kept = some volume := by
    rw [← (volume_of_mem_dockerVolumeMounts (mem_of_mem_lastByName inside)).1, named,
      (volume_of_mem_dockerVolumeMounts member).1]
  exact Option.some.inj same ▸ inside

end Ployz.Api
