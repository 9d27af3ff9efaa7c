import Ployz.Api.IpText
import Ployz.Base.OrdMap
import Ployz.Base.Text
import Ployz.Proxy.Broadcast

/-!
# Resolving requested machines

A proxied call names the machines it is for. `CorrosionMapper` lists the machines of the cluster,
enters each under its id and its name in one table, and looks the requested strings up in it.
-/

namespace Ployz.Proxy

open Api

/-- `mapper::RemoteAddress`. -/
structure RemoteAddress where
  ip : BitVec 128
  zone : List UInt8
deriving DecidableEq, Repr

/-- `MachineTarget`. -/
structure MachineTarget where
  id : String
  name : String
  address : String
  remoteAddress : Option RemoteAddress
  addressIsUtf8 : Bool
deriving DecidableEq, Repr

/-- `parse_remote_address` of a text. -/
def parseRemoteAddress (address : String) : Option RemoteAddress :=
  match splitOnce '%' address.toList with
  | some (_, []) => none
  | some (ip, zone) => (parseIpv6 ip).map (⟨·, (String.ofList zone).toUTF8.data.toList⟩)
  | none => (parseIpv6 address.toList).map (⟨·, []⟩)

namespace MachineTarget

def new (id name address : String) : MachineTarget where
  id := id
  name := name
  address := address
  remoteAddress := parseRemoteAddress address
  addressIsUtf8 := true

/-- `MachineTarget::from_management_address`; `lossy` is `String::from_utf8_lossy`. -/
def fromManagementAddress (lossy : List UInt8 → String) (id name : String) (ip : BitVec 128)
    (zone : List UInt8) : MachineTarget where
  id := id
  name := name
  address :=
    if zone = [] then (IpAddr.v6 ip).display
    else (IpAddr.v6 ip).display ++ "%" ++ lossy zone
  remoteAddress := some ⟨ip, zone⟩
  addressIsUtf8 := (String.fromUTF8? ⟨zone.toArray⟩).isSome

end MachineTarget

/-- `MapMachinesError`. -/
inductive MapMachinesError where
  /-- `MachinesNotFoundError`. -/
  | notFound (names : List String)
  | status (status : Status)
  | other (message : String)
deriving DecidableEq, Repr

section Mapper

variable (lossy : List UInt8 → String)

/-- The target of one machine in `map_machines`. -/
def machineTarget (machine : MachineInfo) : Exec MapMachinesError MachineTarget := do
  let network ← Exec.expect machine.network
  let managementIp ← Exec.expect network.managementIp
  let address ← Exec.lift (managementIp.toAddr.mapError fun error =>
    .other s!"invalid management IP for machine '{machine.name}' in store: {error.display}")
  match address.ip with
  | .v6 ip => pure (.fromManagementAddress lossy machine.id machine.name ip address.zone)
  | .v4 ip => pure (.new machine.id machine.name (IpAddr.v4 ip).display)

/-- The entries one target makes in the table. -/
def enterTarget (lookup : OrdMap String MachineTarget) (target : MachineTarget) :
    OrdMap String MachineTarget :=
  (lookup.insert target.id target).insert target.name target

/-- The table of `map_machines`. -/
def lookupTable (targets : List MachineTarget) : OrdMap String MachineTarget :=
  targets.foldl enterTarget ∅

/-- The variables of the loop over the requested strings. -/
structure Resolution where
  targets : List MachineTarget
  seen : Finset String
  notFound : List String

/-- The loop body of `map_machines` for one requested string. -/
def Resolution.resolve (lookup : OrdMap String MachineTarget) (progress : Resolution)
    (nameOrId : String) : Resolution :=
  match lookup[nameOrId]? with
  | some target =>
    if target.id ∈ progress.seen then progress
    else
      { progress with
        targets := progress.targets ++ [target]
        seen := insert target.id progress.seen }
  | none => { progress with notFound := progress.notFound ++ [nameOrId] }

/-- `CorrosionMapper::map_machines`; `listing` is the outcome of `list_machines`. -/
def mapMachines (listing : Except String (List MachineInfo)) (namesOrIds : List String) :
    Exec MapMachinesError (List MachineTarget) := do
  if namesOrIds = [] then Exec.fail (.other "no machines specified")
  else
    let machines ← Exec.lift (listing.mapError fun error => .other s!"list machines: {error}")
    let allTargets ← machines.mapM (machineTarget lossy)
    if "*" ∈ namesOrIds then
      if allTargets = [] then Exec.fail (.other "no machines in cluster")
      else pure allTargets
    else
      let result := namesOrIds.foldl (Resolution.resolve (lookupTable allTargets)) ⟨[], ∅, []⟩
      if result.notFound = [] then pure result.targets
      else Exec.fail (.notFound result.notFound)

end Mapper

end Ployz.Proxy
