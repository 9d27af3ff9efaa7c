import Ployz.Api.Port
import Ployz.Api.Wire
import Ployz.Base.JsonText

/-!
# Service containers

A container of a service as Docker describes it, together with the spec of its service, and its
JSON form. A part of the record of which no modelled function reads a field is kept as the JSON
value it is written as; everything else has the fields of the source, in their order.
-/

namespace Ployz.Docker

open Api Port

section Json

variable {α : Type}

/-- `Serialize for GoSlice`. -/
def sliceJson (write : α → Json) (slice : GoSlice α) : Json :=
  if slice.nil then .null else .arr (slice.values.map write)

/-- `Serialize for GoMap`. -/
def mapJson (write : α → Json) (map : GoMap α) : Json :=
  if map.nil then .null else .obj (map.values.toList.map fun (key, value) => (key, write value))

/-- A flattened map of further members. -/
def extraMembers (extra : OrdMap String Json) : List (String × Json) := extra.toList

/-- A member that is left out when there is no value. -/
def presentMember (name : String) (write : α → Json) : Option α → List (String × Json)
  | none => []
  | some value => [(name, write value)]

end Json

/-- `ContainerConfig`. -/
structure ContainerConfig where
  hostname : String
  domainname : String
  user : String
  attachStdin : Bool
  attachStdout : Bool
  attachStderr : Bool
  tty : Bool
  openStdin : Bool
  stdinOnce : Bool
  env : GoSlice String
  cmd : GoSlice String
  image : String
  workingDir : String
  entrypoint : GoSlice String
  labels : GoMap String
  healthcheck : Json
  extra : OrdMap String Json
deriving Inhabited

def ContainerConfig.toJson (self : ContainerConfig) : Json :=
  .obj ([("Hostname", .str self.hostname), ("Domainname", .str self.domainname),
    ("User", .str self.user), ("AttachStdin", .bool self.attachStdin),
    ("AttachStdout", .bool self.attachStdout), ("AttachStderr", .bool self.attachStderr),
    ("Tty", .bool self.tty), ("OpenStdin", .bool self.openStdin),
    ("StdinOnce", .bool self.stdinOnce), ("Env", sliceJson .str self.env),
    ("Cmd", sliceJson .str self.cmd), ("Image", .str self.image),
    ("WorkingDir", .str self.workingDir), ("Entrypoint", sliceJson .str self.entrypoint),
    ("Labels", mapJson .str self.labels), ("Healthcheck", self.healthcheck)] ++
    extraMembers self.extra)

/-- `ContainerHealth`. -/
structure ContainerHealth where
  status : String
  extra : OrdMap String Json

def ContainerHealth.toJson (self : ContainerHealth) : Json :=
  .obj (("Status", .str self.status) :: extraMembers self.extra)

/-- `ContainerState`. -/
structure ContainerState where
  status : String
  running : Bool
  paused : Bool
  restarting : Bool
  oomKilled : Bool
  dead : Bool
  pid : Int
  exitCode : Int
  error : String
  startedAt : String
  finishedAt : String
  health : Option ContainerHealth
  extra : OrdMap String Json

def ContainerState.toJson (self : ContainerState) : Json :=
  .obj ([("Status", .str self.status), ("Running", .bool self.running),
    ("Paused", .bool self.paused), ("Restarting", .bool self.restarting),
    ("OOMKilled", .bool self.oomKilled), ("Dead", .bool self.dead), ("Pid", .int self.pid),
    ("ExitCode", .int self.exitCode), ("Error", .str self.error),
    ("StartedAt", .str self.startedAt), ("FinishedAt", .str self.finishedAt),
    ("Health", .optional ContainerHealth.toJson self.health)] ++ extraMembers self.extra)

/-- `EndpointSettings`. -/
structure EndpointSettings where
  ipAddress : String
  extra : OrdMap String Json

def EndpointSettings.toJson (self : EndpointSettings) : Json :=
  .obj (("IPAddress", .str self.ipAddress) :: extraMembers self.extra)

/-- `NetworkSettings`. -/
structure NetworkSettings where
  ports : Json
  networks : GoMap EndpointSettings
  extra : OrdMap String Json
deriving Inhabited

def NetworkSettings.toJson (self : NetworkSettings) : Json :=
  .obj ([("Ports", self.ports), ("Networks", mapJson EndpointSettings.toJson self.networks)] ++
    extraMembers self.extra)

/-- `ContainerMountPoint`. -/
structure ContainerMountPoint where
  kind : String
  name : String
  source : String
  destination : String
  driver : String
  mode : String
  readWrite : Bool
  propagation : String
  extra : OrdMap String Json

def ContainerMountPoint.toJson (self : ContainerMountPoint) : Json :=
  .obj ([("Type", .str self.kind), ("Name", .str self.name), ("Source", .str self.source),
    ("Destination", .str self.destination), ("Driver", .str self.driver),
    ("Mode", .str self.mode), ("RW", .bool self.readWrite),
    ("Propagation", .str self.propagation)] ++ extraMembers self.extra)

/-- `Container`. -/
structure Container where
  id : String
  created : String
  path : String
  args : GoSlice String
  image : String
  name : String
  config : Option ContainerConfig
  state : Option ContainerState
  hostConfig : Json
  mounts : GoSlice ContainerMountPoint
  networkSettings : Option NetworkSettings
  extra : OrdMap String Json
deriving Inhabited

namespace Container

variable (self : Container)

def members : List (String × Json) :=
  [("Id", .str self.id), ("Created", .str self.created), ("Path", .str self.path),
    ("Args", sliceJson .str self.args), ("Image", .str self.image), ("Name", .str self.name),
    ("Config", .optional ContainerConfig.toJson self.config),
    ("State", .optional ContainerState.toJson self.state), ("HostConfig", self.hostConfig),
    ("Mounts", sliceJson ContainerMountPoint.toJson self.mounts),
    ("NetworkSettings", .optional NetworkSettings.toJson self.networkSettings)] ++
    extraMembers self.extra

def healthy : Bool :=
  match self.state with
  | none => false
  | some state =>
    state.running && !state.paused && !state.restarting &&
      match state.health with
      | none => true
      | some health => health.status = "healthy"

def uncloudNetworkIp : Option IpAddr := do
  let settings ← self.networkSettings
  let endpoint ← settings.networks.values["uncloud"]?
  IpAddr.parse endpoint.ipAddress.toList

end Container

/-- `CaddySpec`. -/
structure CaddySpec where
  config : String

/-- `PreDeployHook`. -/
structure PreDeployHook where
  command : GoSlice String
  env : GoMap String
  privileged : Option Bool
  timeout : Option Int
  user : String
deriving Inhabited

def PreDeployHook.toJson (self : PreDeployHook) : Json :=
  .obj [("Command", sliceJson .str self.command), ("Env", mapJson .str self.env),
    ("Privileged", .optional .bool self.privileged), ("Timeout", .optional .int self.timeout),
    ("User", .str self.user)]

/-- `ContainerSpec`. -/
structure ContainerSpec where
  capAdd : GoSlice String
  capDrop : GoSlice String
  command : GoSlice String
  entrypoint : GoSlice String
  env : GoMap String
  healthcheck : Option Json
  image : String
  init : Option Bool
  logDriver : Json
  pidMode : String
  tty : Bool
  openStdin : Bool
  privileged : Bool
  pullPolicy : String
  resources : Json
  stopGracePeriod : Option Int
  sysctls : GoMap String
  user : String
  volumeMounts : Json
  configMounts : Json
  volumes : GoSlice String
deriving Inhabited

def ContainerSpec.toJson (self : ContainerSpec) : Json :=
  .obj ([("CapAdd", sliceJson .str self.capAdd), ("CapDrop", sliceJson .str self.capDrop),
    ("Command", sliceJson .str self.command), ("Entrypoint", sliceJson .str self.entrypoint),
    ("Env", mapJson .str self.env)] ++
    presentMember "Healthcheck" id self.healthcheck ++
    [("Image", .str self.image), ("Init", .optional .bool self.init),
    ("LogDriver", self.logDriver), ("PidMode", .str self.pidMode), ("Tty", .bool self.tty),
    ("OpenStdin", .bool self.openStdin), ("Privileged", .bool self.privileged),
    ("PullPolicy", .str self.pullPolicy), ("Resources", self.resources),
    ("StopGracePeriod", .optional .int self.stopGracePeriod),
    ("Sysctls", mapJson .str self.sysctls), ("User", .str self.user),
    ("VolumeMounts", self.volumeMounts), ("ConfigMounts", self.configMounts),
    ("Volumes", sliceJson .str self.volumes)])

/-- `ServiceSpec`. -/
structure ServiceSpec where
  caddy : Option CaddySpec
  configs : Json
  container : ContainerSpec
  mode : String
  name : String
  placement : Json
  ports : Json
  preDeploy : Option PreDeployHook
  replicas : UInt64
  updateConfig : Json
  volumes : Json
deriving Inhabited

namespace ServiceSpec

variable (self : ServiceSpec)

/-- The members that come before the hook. -/
def frontMembers : List (String × Json) :=
  presentMember "Caddy" (fun caddy => .obj [("Config", .str caddy.config)]) self.caddy ++
    [("Configs", self.configs), ("Container", self.container.toJson), ("Mode", .str self.mode),
    ("Name", .str self.name), ("Placement", self.placement), ("Ports", self.ports)]

/-- The members that come after the hook. -/
def backMembers : List (String × Json) :=
  (if self.replicas = 0 then [] else [("Replicas", .nat self.replicas.toNat)]) ++
    [("UpdateConfig", self.updateConfig), ("Volumes", self.volumes)]

def toJson : Json :=
  .obj (self.frontMembers ++ presentMember "PreDeploy" PreDeployHook.toJson self.preDeploy ++
    self.backMembers)

def caddyConfig : String :=
  match self.caddy with
  | none => ""
  | some caddy => String.ofList (trim caddy.config.toList)

end ServiceSpec

/-- `ServiceContainer`. -/
structure ServiceContainer where
  container : Container
  serviceSpec : ServiceSpec

namespace ServiceContainer

variable (self : ServiceContainer)

/-- `Serialize for ServiceContainer`. -/
def toJson : Json :=
  .obj (self.container.members ++ [("ServiceSpec", self.serviceSpec.toJson)])

/-- The value of a label of the container. -/
def label (name : String) : Option String :=
  self.container.config.bind fun config => config.labels.values[name]?

def serviceName : String := (self.label "uncloud.service.name").getD ""

def servicePorts : Except String (List Port.PortSpec) :=
  match self.label "uncloud.service.ports" with
  | none => .ok []
  | some encoded =>
    if trim encoded.toList = [] then .ok []
    else (encoded.toList.splitOn ',').mapM fun port => parsePortSpec (String.ofList (trim port))

end ServiceContainer

end Ployz.Docker
