import Ployz.Api.Time

/-!
# The Caddyfile generator

The Caddyfile of a machine is generated from the records of the healthy containers of the
cluster: sites from the published ports, and around them the configs that the specs of the
services carry. A config is a Go template; the template engine and the validator, which asks
the running Caddy, are parameters. A config that fails to render or to validate is left out
and noted in a comment at the end of the file.
-/

namespace Ployz.Caddy

open Api Port Docker

/-- `ContainerRecord`. -/
structure ContainerRecord where
  container : ServiceContainer
  machineId : String

def caddyServiceName : String := "caddy"

def verifyPath : String := "/.uncloud-verify"

def caddyfileUnavailableFooter : String :=
  "# NOTE: User-defined configs for services were skipped because Caddy is not running " ++
    "on this machine\n" ++
  "#       (not accessible via the shared admin socket /run/uncloud/caddy/admin.sock) " ++
    "or the latest\n" ++
  "#       generated config is invalid. Please check the service 'caddy' is running " ++
    "(uc inspect caddy)\n" ++
  "#       and its logs for more details (uc logs caddy).\n"

/-- `TemplateContext`. -/
structure TemplateContext where
  name : String
  upstreams : OrdMap String (List String)

/-- `render_caddyfile_off_thread`: the template engine, with the text of its error. -/
abbrev Renderer := TemplateContext → String → Except String String

/-- `CaddyfileValidator::validate`, with the text of its error. -/
abbrev Validator := String → Except String Unit

/-- `GenerateError`. -/
inductive GenerateError where
  | validatorUnavailable
deriving DecidableEq

/-- `Display for GenerateError`. -/
def GenerateError.display : GenerateError → String
  | validatorUnavailable => "Caddyfile validator is unavailable"

/-- `CaddyfileGenerator`. -/
structure CaddyfileGenerator where
  machineId : String
  machineName : String
  validator : Option Validator

def serviceContainerCreatedTime (container : ServiceContainer) : WithBot Rfc3339Time :=
  container.container.createdTime

def createdTime (record : ContainerRecord) : WithBot Rfc3339Time :=
  serviceContainerCreatedTime record.container

section Base

/-- `SocketAddr::to_string`. -/
def socketText (ip : IpAddr) (port : UInt16) : String :=
  String.ofList
    ((if isIpv6 ip then '[' :: ip.text ++ [']'] else ip.text) ++ ':' :: Port.PortSpec.portText port)

/-- The sites of one scheme: the upstreams of each hostname. -/
abbrev Sites := OrdMap String (List String)

/-- One port of the inner loop of `http_upstreams_from_ports`. -/
def addPort (ip : IpAddr) (sites : Sites × Sites) (port : Port.PortSpec) : Sites × Sites :=
  if port.mode ≠ modeIngress then sites
  else
    let upstream := socketText ip port.containerPort
    if port.protocol = protocolHttp then (sites.1.push port.hostname upstream, sites.2)
    else if port.protocol = protocolHttps then (sites.1, sites.2.push port.hostname upstream)
    else sites

/-- One container of the loop of `http_upstreams_from_ports`. -/
def addPorts (sites : Sites × Sites) (container : ServiceContainer) : Sites × Sites :=
  match container.container.uncloudNetworkIp, container.servicePorts with
  | some ip, .ok ports => ports.foldl (addPort ip) sites
  | _, _ => sites

def httpUpstreamsFromPorts (containers : List ServiceContainer) : Sites × Sites :=
  containers.foldl addPorts (∅, ∅)

def appendSites (output scheme : String) (sites : Sites) : String :=
  sites.toList.foldl (fun output (hostname, upstreams) =>
    output ++ "\n" ++ scheme ++ "://" ++ hostname ++ " \x7b\n" ++
      "\treverse_proxy " ++ " ".intercalate upstreams ++ " \x7b\n" ++
      "\t\timport common_proxy\n" ++
      "\t\x7d\n" ++
      "\tlog\n" ++
      "\x7d\n") output

def generateBaseFromPorts (containers : List ServiceContainer) (verifyResponse : String) :
    String :=
  let (http, https) := httpUpstreamsFromPorts containers
  let output :=
    "# Health check endpoint to verify Caddy reachability on this machine.\n" ++
    "http:// \x7b\n" ++
    "\thandle " ++ verifyPath ++ " \x7b\n" ++
    "\t\trespond \"" ++ verifyResponse ++ "\" 200\n" ++
    "\t\x7d\n" ++
    "\tlog\n" ++
    "\x7d\n\n" ++
    "(common_proxy) \x7b\n" ++
    "\t# Retry failed requests up to lb_retries times against other available upstreams.\n" ++
    "\tlb_retries 3\n" ++
    "\t# Upstreams are marked unhealthy for fail_duration after a failed request " ++
    "(passive health checking).\n" ++
    "\tfail_duration 30s\n" ++
    "\x7d\n"
  let output :=
    if http.isEmpty ∧ https.isEmpty then output
    else output ++ "\n# Sites generated from service ports.\n"
  appendSites (appendSites output "http" http) "https" https

def serviceUpstreams (containers : List ServiceContainer) : OrdMap String (List String) :=
  containers.foldl (fun upstreams container =>
    match container.container.uncloudNetworkIp with
    | none => upstreams
    | some ip => upstreams.push container.serviceName ip.display) ∅

end Base

/-- The text and the errors the loops of `generate` carry. -/
structure Draft where
  caddyfile : String
  configErrors : List String

/-- One container of the loop that fills `latest`. -/
def keepLatest (latest : OrdMap String ServiceContainer) (container : ServiceContainer) :
    OrdMap String ServiceContainer :=
  match latest[container.serviceName]? with
  | some previous =>
    if serviceContainerCreatedTime previous ≥ serviceContainerCreatedTime container then latest
    else latest.insert container.serviceName container
  | none => latest.insert container.serviceName container

namespace CaddyfileGenerator

variable (self : CaddyfileGenerator)

def compareRecords (left right : ContainerRecord) : Ordering :=
  let leftLocal := decide (left.machineId ≠ self.machineId)
  let rightLocal := decide (right.machineId ≠ self.machineId)
  ((compare leftLocal rightLocal).then
    (compare left.container.serviceName right.container.serviceName)).then
    (compare (createdTime left) (createdTime right))

/-- `records.sort_by(compare_records)`, which is stable. -/
def sortRecords (records : List ContainerRecord) : List ContainerRecord :=
  records.insertionSort fun left right => self.compareRecords left right ≠ .gt

def validate (caddyfile : String) : Except String Unit :=
  match self.validator with
  | none => .error GenerateError.validatorUnavailable.display
  | some validator => validator caddyfile

/-- The header of the file, at some time. -/
def header (now : Int) : String :=
  "# Caddyfile autogenerated by Uncloud on machine '" ++ self.machineName ++
    "' (DO NOT EDIT): " ++ String.ofList (rfc3339Utc now) ++ "\n" ++
    "# Automatically updated on service or health status changes.\n" ++
    "# Docs: https://uncloud.run/docs/concepts/ingress/overview\n"

/-- The newest `caddy` container of this machine, by `filter` and `reduce`. -/
def caddyContainer (records : List ContainerRecord) : Option ServiceContainer :=
  let caddy := records.filter fun record =>
    record.machineId = self.machineId ∧ record.container.serviceName = caddyServiceName
  match caddy with
  | [] => none
  | first :: rest =>
    some (rest.foldl (fun latest candidate =>
      if createdTime candidate > createdTime latest then candidate else latest) first).container

/-- A rendered config is put into the text by `assemble` when the validator accepts the result;
what goes wrong is noted. -/
def offer (draft : Draft) (serviceName : String) (rendered : Except String String)
    (assemble : String → String) : Draft :=
  match rendered with
  | .error error =>
    { draft with configErrors := draft.configErrors ++
        ["service '" ++ serviceName ++ "': failed to render template: " ++ error] }
  | .ok rendered =>
    match self.validate (assemble rendered) with
    | .ok () => { draft with caddyfile := assemble rendered }
    | .error error =>
      { draft with configErrors := draft.configErrors ++
          ["service '" ++ serviceName ++ "': validation failed: " ++ error] }

/-- The global config of the `caddy` service, which goes before the text. -/
def addGlobal (render : Renderer) (upstreams : OrdMap String (List String)) (draft : Draft) :
    Option ServiceContainer → Draft
  | none => draft
  | some container =>
    if container.serviceSpec.caddyConfig = "" then draft
    else
      let serviceName := container.serviceName
      self.offer draft serviceName
        (render ⟨serviceName, upstreams⟩ container.serviceSpec.caddyConfig)
        fun rendered => "# User-defined global config from service '" ++ serviceName ++ "'.\n" ++
          rendered ++ "\n\n" ++ draft.caddyfile

/-- One service of the loop over `latest`; its config goes after the text. -/
def addService (render : Renderer) (upstreams : OrdMap String (List String)) (draft : Draft) :
    String × ServiceContainer → Draft
  | (serviceName, container) =>
    if serviceName = caddyServiceName ∨ container.serviceSpec.caddyConfig = "" then draft
    else
      self.offer draft serviceName
        (render ⟨serviceName, upstreams⟩ container.serviceSpec.caddyConfig)
        fun rendered => draft.caddyfile ++ "\n# User-defined config for service '" ++ serviceName ++
          "'.\n" ++ rendered ++ "\n"

/-- The comment that lists what was left out. -/
def errorSection : List String → String
  | [] => ""
  | errors => errors.foldl (fun caddyfile error => caddyfile ++ "# - " ++ error ++ "\n")
      "\n# Skipped invalid user-defined configs:\n"

def generate (render : Renderer) (now : Int) (records : List ContainerRecord)
    (includeCustom : Bool) : Except GenerateError String :=
  let records := self.sortRecords records
  let containers := records.map (·.container)
  let caddyfile := generateBaseFromPorts containers self.machineId
  if !includeCustom then
    .ok (self.header now ++ "\n" ++ caddyfile ++ "\n" ++ caddyfileUnavailableFooter)
  else
    let upstreams := serviceUpstreams containers
    let draft := self.addGlobal render upstreams ⟨caddyfile, []⟩ (self.caddyContainer records)
    let latest := containers.foldl keepLatest ∅
    let draft := latest.toList.foldl (self.addService render upstreams) draft
    .ok (self.header now ++ "\n" ++ (draft.caddyfile ++ errorSection draft.configErrors))

end CaddyfileGenerator

end Ployz.Caddy
