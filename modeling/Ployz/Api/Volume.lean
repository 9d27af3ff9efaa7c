import Ployz.Api.Wire

/-!
# Volume specifications

`VolumeSpec` is what a service says about a volume it mounts, `DockerVolume` what a machine
reports about a volume it holds. A spec names a Docker volume directly or through an alias
(`VolumeOptions.name`), and `with_defaults` fills in what was left out. Of a Docker volume
only the fields that decide a match are kept.
-/

namespace Ployz.Api

/-- Failures of the API package. Only validation is modelled, so only its variant is. -/
inductive ApiError where
  /-- A rejected value, with the message shown to the user. -/
  | invalid (message : String)
deriving DecidableEq, Repr

def volumeTypeBind : String := "bind"

def volumeTypeVolume : String := "volume"

def volumeTypeTmpfs : String := "tmpfs"

def volumeDriverLocal : String := "local"

/-- `volume::Driver`. -/
@[ext]
structure Driver where
  name : String
  options : GoMap String
deriving DecidableEq

/-- `volume::BindOptions`. -/
structure BindOptions where
  hostPath : String
  createHostPath : Bool
  propagation : String
  recursive : String
deriving DecidableEq

/-- `volume::TmpfsOptions`. -/
structure TmpfsOptions where
  sizeBytes : Int
  mode : Nat
  options : GoSlice (GoSlice String)
deriving DecidableEq

/-- `volume::VolumeOptions`. -/
structure VolumeOptions where
  driver : Option Driver
  labels : GoMap String
  /-- Docker name of the volume; empty means the spec's own name. -/
  name : String
  /-- Whether the image's files are not copied in. -/
  noCopy : Bool
  subPath : String
deriving DecidableEq

def VolumeOptions.default : VolumeOptions := ⟨none, .default, "", false, ""⟩

/-- `volume::VolumeSpec`. -/
structure VolumeSpec where
  /-- Name by which the mounts of the service refer to the volume. -/
  name : String
  /-- One of the volume types above, or a type that validation rejects. -/
  kind : String
  bindOptions : Option BindOptions
  tmpfsOptions : Option TmpfsOptions
  volumeOptions : Option VolumeOptions
deriving DecidableEq

/-- `volume::DockerVolume`, the fields read by `matches_docker_volume`. -/
structure DockerVolume where
  name : String
  driver : String
  options : GoMap String
deriving DecidableEq

/-- `Option<&mut Driver>` in `with_defaults`: a driver without a name is the local driver. -/
def Driver.withDefaults (driver : Driver) : Driver :=
  if driver.name = "" then { driver with name := volumeDriverLocal } else driver

namespace VolumeSpec

def dockerVolumeName (spec : VolumeSpec) : String :=
  if spec.kind ≠ volumeTypeVolume then ""
  else match spec.volumeOptions with
    | some options => if options.name ≠ "" then options.name else spec.name
    | none => spec.name

def withDefaults (spec : VolumeSpec) : VolumeSpec :=
  if spec.kind = volumeTypeVolume then
    let options := spec.volumeOptions.getD .default
    { spec with
      volumeOptions := some { options with
        name := if options.name = "" then spec.name else options.name
        driver := options.driver.map Driver.withDefaults } }
  else spec

def validate (spec : VolumeSpec) : Except ApiError Unit :=
  if spec.name = "" then .error (.invalid "volume name must not be empty")
  else if spec.kind = volumeTypeBind ∧ spec.bindOptions = none then
    .error (.invalid "bind volume must have bind options")
  else if spec.kind = volumeTypeBind ∨ spec.kind = volumeTypeVolume ∨
      spec.kind = volumeTypeTmpfs then .ok ()
  else .error (.invalid ("invalid volume type: '" ++ spec.kind ++
    "', must be one of 'bind', 'volume', 'tmpfs')"))

/-- `VolumeSpec::equate_empty_collections`: no collection is left nil. -/
def equateEmptyCollections (spec : VolumeSpec) : VolumeSpec :=
  { spec with
    tmpfsOptions := spec.tmpfsOptions.map fun options =>
      { options with options := options.options.makeNonNil (GoSlice.makeNonNil id) }
    volumeOptions := spec.volumeOptions.map fun options =>
      { options with
        labels := options.labels.makeNonNil
        driver := options.driver.map fun driver =>
          { driver with options := driver.options.makeNonNil } } }

def equivalent (spec other : VolumeSpec) : Bool :=
  spec.withDefaults.equateEmptyCollections = other.withDefaults.equateEmptyCollections

/-- `spec.volume_options.and_then(|options| options.driver)`. -/
def driver? (spec : VolumeSpec) : Option Driver := spec.volumeOptions.bind VolumeOptions.driver

def matchesDockerVolume (spec : VolumeSpec) (volume : DockerVolume) : Bool :=
  if spec.kind ≠ volumeTypeVolume then false
  else if spec.withDefaults.dockerVolumeName ≠ volume.name then false
  else match spec.withDefaults.driver? with
    | none => true
    | some driver =>
      driver.name = (if volume.driver = "" then volumeDriverLocal else volume.driver) ∧
        driver.options = volume.options

end VolumeSpec

/-- `volume::VolumeMount`. -/
structure VolumeMount where
  volumeName : String
  containerPath : String
  readOnly : Bool
deriving DecidableEq

/-- `Path::is_absolute` of a Unix path. -/
def pathIsAbsolute (path : String) : Bool := path.toList.head? = some '/'

def VolumeMount.validate (mount : VolumeMount) : Except ApiError Unit :=
  if mount.volumeName = "" then .error (.invalid "volume name must not be empty")
  else if ¬ pathIsAbsolute mount.containerPath then
    .error (.invalid ("invalid container path: '" ++ mount.containerPath ++
      "', must be an absolute path in the container"))
  else .ok ()

end Ployz.Api
