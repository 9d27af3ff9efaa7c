import Ployz.Api.Container

/-!
# Container records of the store

A container is written to the cluster store as JSON text, after what should not be there was taken
out of it and its mounts were put in order, with the escapes that Go's encoder makes.
-/

namespace Ployz.Store

open Api Docker

/-- A character as `go_escape_json` writes it. The source works on the bytes of the text, where
the last two characters are three bytes each. -/
def goEscapeChar (c : Char) : List Char :=
  if c = '<' then ['\\', 'u', '0', '0', '3', 'c']
  else if c = '>' then ['\\', 'u', '0', '0', '3', 'e']
  else if c = '&' then ['\\', 'u', '0', '0', '2', '6']
  else if c = '\u2028' then ['\\', 'u', '2', '0', '2', '8']
  else if c = '\u2029' then ['\\', 'u', '2', '0', '2', '9']
  else [c]

def goEscapeJson (encoded : List Char) : List Char := encoded.flatMap goEscapeChar

/-- The order of mounts in the store. -/
def MountLe (left right : ContainerMountPoint) : Prop :=
  left.destination < right.destination ∨
    left.destination = right.destination ∧ left.source ≤ right.source

instance : DecidableRel MountLe := fun left right =>
  inferInstanceAs (Decidable (left.destination < right.destination ∨
    left.destination = right.destination ∧ left.source ≤ right.source))

def normaliseContainerForStore (container : ServiceContainer) : ServiceContainer :=
  { container with
    container := { container.container with
      config := container.container.config.map fun config => { config with env := .default }
      mounts :=
        if container.container.mounts.values = [] then container.container.mounts
        else .ofList (container.container.mounts.values.insertionSort MountLe) }
    serviceSpec := { container.serviceSpec with
      container := { container.serviceSpec.container with env := .default } } }

/-- The parameters of the upsert in `create_or_update_container`. -/
structure ContainerRow where
  id : String
  container : String
  machineId : String
  syncStatus : String
deriving DecidableEq

/-- `create_or_update_container`, up to the row it writes. -/
def createOrUpdateContainer (container : ServiceContainer) (machineId : String) : ContainerRow :=
  let container := normaliseContainerForStore container
  { id := container.container.id
    container := String.ofList (goEscapeJson container.toJson.write)
    machineId := machineId
    syncStatus := "synced" }

end Ployz.Store
