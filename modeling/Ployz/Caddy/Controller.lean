import Ployz.Base.Run
import Ployz.Caddy.Generator

/-!
# The Caddy controller

The controller turns every change of the containers into a Caddyfile, loads it into the Caddy
of the machine over its admin socket and keeps a copy on disk, which Caddy runs when it is
started again. It skips the work when a fingerprint of the containers is that of the last
Caddyfile it loaded. What the admin socket and the file system answer is part of every call.
-/

namespace Ployz.Caddy

open Api Port Docker

/-- `ContainerFingerprint`. -/
structure ContainerFingerprint where
  id : String
  ip : Option IpAddr
  ports : List Port.PortSpec
  caddyConfig : String
deriving DecidableEq

/-- `PartialEq for ContainerFingerprint`. -/
def ContainerFingerprint.eq (self other : ContainerFingerprint) : Bool :=
  self.id = other.id && self.ip = other.ip && portsEqual self.ports other.ports &&
    self.caddyConfig = other.caddyConfig

/-- `==` of two lists of fingerprints. -/
def fingerprintsEqual (left right : List ContainerFingerprint) : Bool :=
  left.isEqv right ContainerFingerprint.eq

/-- The fingerprint of one container. -/
def fingerprint (record : ContainerRecord) : ContainerFingerprint where
  id := record.container.container.id
  ip := record.container.container.uncloudNetworkIp
  ports := record.container.servicePorts.toOption.getD []
  caddyConfig := record.container.serviceSpec.caddyConfig

def fingerprintContainers (containers : List ContainerRecord) : List ContainerFingerprint :=
  (containers.map fingerprint).insertionSort fun left right => left.id ≤ right.id

def caddyfileBody (caddyfile : String) : String :=
  match splitOnce '\n' caddyfile.toList with
  | none => caddyfile
  | some (_, body) => String.ofList body

/-- `Controller`; `generator` holds the name of the machine once `run` has built the generator
from it and from the admin client. -/
structure Controller where
  machineId : String
  caddyfilePath : String
  generator : Option String
  lastFingerprint : List ContainerFingerprint
  lastCaddyfile : String

/-- The answers of the admin client during a call. -/
structure AdminClient where
  available : Bool
  validate : Validator
  load : Except String Unit

/-- What comes of writing the Caddyfile: a write that fails leaves some file or none. -/
inductive WriteOutcome where
  | written
  | groupFailed (error : String)
  | failed (error : String) (left : Option String)

/-- Everything a call learns from outside. -/
structure Environment where
  client : AdminClient
  render : Renderer
  now : Int
  write : WriteOutcome

/-- The controller together with the file on disk and the config Caddy runs; `loaded` says that
the last attempt to load a config succeeded. -/
structure System where
  controller : Controller
  disk : Option String
  running : Option String
  loaded : Bool

/-- What a call does. -/
inductive Answer where
  | skipped (containers : List ContainerRecord) (running : Option String)
  | noGenerator
  | notGenerated (error : GenerateError)
  | unavailable (written : Except String Unit)
  | loadFailed (error : String)
  | loaded (written : Except String Unit)
  | restarted

namespace Controller

variable (self : Controller)

/-- The controller that `Controller::new` and the start of `run` make. -/
def new (machineId configDir machineName : String) : Controller where
  machineId
  caddyfilePath := configDir ++ "/Caddyfile"
  generator := some machineName
  lastFingerprint := []
  lastCaddyfile := ""

/-- `Controller::write_caddyfile_if_changed`; returns the file on disk as well. -/
def writeCaddyfileIfChanged (disk : Option String) (outcome : WriteOutcome)
    (caddyfile : String) : Except String Unit × Controller × Option String :=
  if caddyfileBody caddyfile = caddyfileBody self.lastCaddyfile then (.ok (), self, disk)
  else
    match outcome with
    | .failed error left =>
      (.error ("write Caddyfile to file '" ++ self.caddyfilePath ++ "': " ++ error), self, left)
    | .groupFailed error =>
      (.error ("change owner of Caddyfile '" ++ self.caddyfilePath ++ "': " ++ error), self,
        some caddyfile)
    | .written => (.ok (), { self with lastCaddyfile := caddyfile }, some caddyfile)

end Controller

namespace System

variable (self : System)

/-- `Controller::generate_and_load_caddyfile`. A load that succeeds makes Caddy run the text, one
that fails leaves it with what it runs. -/
def generateAndLoadCaddyfile (environment : Environment) (containers : List ContainerRecord) :
    Answer × System :=
  let controller := self.controller
  let available := environment.client.available
  let fingerprint := fingerprintContainers containers
  if available && fingerprintsEqual controller.lastFingerprint fingerprint then
    (.skipped containers self.running, self)
  else
    match controller.generator with
    | none => (.noGenerator, self)
    | some machineName =>
      let generator : CaddyfileGenerator :=
        ⟨controller.machineId, machineName, some environment.client.validate⟩
      match generator.generate environment.render environment.now containers available with
      | .error error => (.notGenerated error, self)
      | .ok caddyfile =>
        if !available then
          let (written, controller, disk) :=
            controller.writeCaddyfileIfChanged self.disk environment.write caddyfile
          (.unavailable written, { self with controller, disk })
        else
          match environment.client.load with
          | .error error =>
            (.loadFailed error,
              { self with controller := { controller with lastFingerprint := [] }, loaded := false })
          | .ok () =>
            let (written, controller, disk) :=
              { controller with lastFingerprint := fingerprint }.writeCaddyfileIfChanged self.disk
                environment.write caddyfile
            (.loaded written, ⟨controller, disk, some caddyfile, true⟩)

/-- What happens to the system: a call of the controller, or a restart of Caddy, which then runs
the file on disk. -/
inductive Event where
  | call (environment : Environment) (containers : List ContainerRecord)
  | restart

/-- One event. -/
def step : Event → Answer × System
  | .call environment containers => self.generateAndLoadCaddyfile environment containers
  | .restart => (.restarted, { self with running := self.disk })

end System

end Ployz.Caddy
