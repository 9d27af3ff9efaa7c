import Ployz.Scheduler.Volume

/-!
# What `VolumeScheduler::new` accepts and records

The specs define Docker volumes one after another: `definitions` lists each mounted volume,
in canonical form, with the service that mounts it. The tables of the scheduler are lookups
in that list, and a call fails exactly when the input is not `Accepted`.
-/

namespace Ployz.Scheduler

open Api List

/-- The service mounts the Docker volume of that name. -/
def Mounts (spec : ServiceSpec) (volume : String) : Prop :=
  ∃ mounted ∈ spec.dockerVolumeMounts, mounted.dockerVolumeName = volume

/-- The placement of the service accepts the machine. -/
def Allows (spec : ServiceSpec) (machine : Machine) : Prop :=
  spec.placement.machines = [] ∨ machine.info.id ∈ spec.placement.machines ∨
    machine.info.name ∈ spec.placement.machines

/-- The service runs on every machine it may run on. -/
def IsGlobal (spec : ServiceSpec) : Prop := spec.mode = serviceModeGlobal

/-- The machine has a Docker volume of that name. -/
def Machine.Holds (machine : Machine) (volume : String) : Prop :=
  ∃ existing ∈ machine.volumes, existing.name = volume

/-- The volumes a list of specs defines, in the order `VolumeScheduler::new` reads them, each
with the service that mounts it. -/
def definitions (order : HashOrder) (specs : List ServiceSpec) : List (String × VolumeSpec) :=
  specs.flatMap fun spec =>
    (spec.mountedDockerVolumes order).map fun volume => (spec.name, canonical volume)

/-- The first definition of a Docker volume. -/
def firstDefinition (defined : List (String × VolumeSpec)) (volume : String) :
    Option VolumeSpec :=
  (defined.find? fun definition => definition.2.name = volume).map Prod.snd

/-- The services mounting a Docker volume, in the order of its definitions. -/
def mountingServices (defined : List (String × VolumeSpec)) (volume : String) : List String :=
  (defined.filter fun definition => definition.2.name = volume).map Prod.fst

/-- Definitions of one Docker volume agree up to defaults and empty collections. -/
def Consistent (defined : List (String × VolumeSpec)) : Prop :=
  ∀ left ∈ defined, ∀ right ∈ defined, left.2.name = right.2.name → left.2.equivalent right.2

/-- The inputs `VolumeScheduler::new` accepts. -/
structure Accepted (externals : Externals) (order : HashOrder) (state : ClusterState)
    (specs : List ServiceSpec) : Prop where
  valid : ∀ spec ∈ specs, spec.validate externals = .ok ()
  names : (specs.map ServiceSpec.name).Nodup
  consistent : Consistent (definitions order specs)
  /-- A volume that exists matches the first definition of its name. -/
  matching : ∀ machine ∈ state.machines, ∀ existing ∈ machine.volumes, ∀ first,
    firstDefinition (definitions order specs) existing.name = some first →
      first.matchesDockerVolume existing

theorem canonical_names (volume : VolumeSpec) :
    (canonical volume).name = volume.dockerVolumeName ∧
      (canonical volume).dockerVolumeName = volume.dockerVolumeName := by
  by_cases kind : volume.kind = volumeTypeVolume
  · cases options : volume.volumeOptions with
    | none =>
      simp [canonical, VolumeSpec.withDefaults, VolumeSpec.dockerVolumeName, kind, options,
        VolumeOptions.default]
    | some given =>
      by_cases unnamed : given.name = "" <;>
        simp [canonical, VolumeSpec.withDefaults, VolumeSpec.dockerVolumeName, kind, options,
          unnamed]
  · simp [canonical, VolumeSpec.withDefaults, VolumeSpec.dockerVolumeName, kind]

theorem canonical_name (volume : VolumeSpec) :
    (canonical volume).name = volume.dockerVolumeName :=
  (canonical_names volume).1

theorem canonical_dockerVolumeName (volume : VolumeSpec) :
    (canonical volume).dockerVolumeName = volume.dockerVolumeName :=
  (canonical_names volume).2

variable {order : HashOrder} {specs : List ServiceSpec} {service : String}

theorem mem_definitions {volume : VolumeSpec} :
    (service, volume) ∈ definitions order specs ↔
      ∃ spec ∈ specs, spec.name = service ∧
        ∃ mounted ∈ spec.dockerVolumeMounts, canonical mounted = volume := by
  simp only [definitions, mem_flatMap, mem_map, Prod.mk.injEq,
    ServiceSpec.mem_mountedDockerVolumes]
  constructor
  · rintro ⟨spec, member, mounted, inside, named, rfl⟩
    exact ⟨spec, member, named, mounted, inside, rfl⟩
  · rintro ⟨spec, member, named, mounted, inside, rfl⟩
    exact ⟨spec, member, mounted, inside, named, rfl⟩

variable {volume : String}

theorem mem_mountingServices :
    service ∈ mountingServices (definitions order specs) volume ↔
      ∃ spec ∈ specs, spec.name = service ∧ Mounts spec volume := by
  simp only [mountingServices, mem_map, mem_filter, decide_eq_true_eq, Prod.exists,
    exists_and_right, exists_eq_right, mem_definitions]
  constructor
  · rintro ⟨_, ⟨spec, member, named, mounted, inside, rfl⟩, rfl⟩
    exact ⟨spec, member, named, mounted, inside, (canonical_name mounted).symm⟩
  · rintro ⟨spec, member, named, mounted, inside, rfl⟩
    exact ⟨_, ⟨spec, member, named, mounted, inside, rfl⟩, canonical_name mounted⟩

theorem firstDefinition_isSome :
    (firstDefinition (definitions order specs) volume).isSome ↔
      ∃ spec ∈ specs, Mounts spec volume := by
  simp only [firstDefinition, Option.isSome_map, find?_isSome, decide_eq_true_eq,
    Prod.exists, mem_definitions]
  constructor
  · rintro ⟨_, _, ⟨spec, member, _, mounted, inside, rfl⟩, rfl⟩
    exact ⟨spec, member, mounted, inside, (canonical_name mounted).symm⟩
  · rintro ⟨spec, member, mounted, inside, rfl⟩
    exact ⟨_, _, ⟨spec, member, rfl, mounted, inside, rfl⟩, canonical_name mounted⟩

variable {defined : List (String × VolumeSpec)}

theorem mem_of_firstDefinition {first : VolumeSpec}
    (found : firstDefinition defined volume = some first) :
    ∃ service, (service, first) ∈ defined ∧ first.name = volume := by
  obtain ⟨⟨service, spec⟩, read, rfl⟩ := Option.map_eq_some_iff.mp found
  exact ⟨service, mem_of_find?_eq_some read, by simpa using find?_some read⟩

theorem firstDefinition_append (defined : List (String × VolumeSpec)) (service : String)
    (spec : VolumeSpec) (volume : String) :
    firstDefinition (defined ++ [(service, spec)]) volume =
      (firstDefinition defined volume).or (if spec.name = volume then some spec else none) := by
  rw [firstDefinition, find?_append, firstDefinition]
  cases defined.find? (fun definition => definition.2.name = volume) with
  | some earlier => rfl
  | none => by_cases named : spec.name = volume <;> simp [named]

theorem mountingServices_append (defined : List (String × VolumeSpec)) (service : String)
    (spec : VolumeSpec) (volume : String) :
    mountingServices (defined ++ [(service, spec)]) volume =
      mountingServices defined volume ++ if spec.name = volume then [service] else [] := by
  by_cases named : spec.name = volume <;> simp [mountingServices, named]

theorem Consistent.left {more : List (String × VolumeSpec)}
    (consistent : Consistent (defined ++ more)) : Consistent defined :=
  fun left inside right inside' =>
    consistent left (mem_append_left _ inside) right (mem_append_left _ inside')

theorem equivalent_iff {left right : VolumeSpec} : left.equivalent right ↔
    left.withDefaults.equateEmptyCollections = right.withDefaults.equateEmptyCollections := by
  simp [VolumeSpec.equivalent]

/-- One more definition keeps consistency exactly when it is equivalent to the first one of its
name. -/
theorem consistent_append_iff {spec : VolumeSpec} (consistent : Consistent defined) :
    Consistent (defined ++ [(service, spec)]) ↔
      ∀ first, firstDefinition defined spec.name = some first → first.equivalent spec := by
  constructor
  · intro whole first found
    obtain ⟨owner, inside, named⟩ := mem_of_firstDefinition found
    exact whole (owner, first) (by simp [inside]) (service, spec) (by simp) named
  · intro agrees
    -- every earlier definition of the name is equivalent to the first one
    have earlier : ∀ left ∈ defined, left.2.name = spec.name → left.2.equivalent spec := by
      intro left inside named
      cases found : firstDefinition defined spec.name with
      | none =>
        simp only [firstDefinition, Option.map_eq_none_iff, find?_eq_none,
          decide_eq_true_eq] at found
        exact absurd named (found left inside)
      | some first =>
        obtain ⟨owner, inside', named'⟩ := mem_of_firstDefinition found
        have same := consistent left inside (owner, first) inside' (named.trans named'.symm)
        rw [equivalent_iff] at same ⊢
        exact same.trans (equivalent_iff.mp (agrees first found))
    intro left inside right inside' named
    rcases mem_append.mp inside with old | new <;>
      rcases mem_append.mp inside' with old' | new'
    · exact consistent left old right old' named
    · rw [mem_singleton.mp new'] at named ⊢
      exact earlier left old named
    · rw [mem_singleton.mp new] at named ⊢
      rw [equivalent_iff]
      exact (equivalent_iff.mp (earlier right old' named.symm)).symm
    · rw [mem_singleton.mp new, mem_singleton.mp new', equivalent_iff]

/-- The tables hold exactly these definitions. -/
structure Recorded (defined : List (String × VolumeSpec)) (registry : Registry) : Prop where
  /-- `volume_specs` holds the first definitions. -/
  specs : ∀ volume, registry.volumeSpecs[volume]? = firstDefinition defined volume
  /-- `volume_services` holds the mounting services. -/
  services : ∀ volume, registry.volumeServices.getD volume [] = mountingServices defined volume
  /-- `volume_services` has an entry for the mounted volumes only. -/
  served : ∀ volume, volume ∈ registry.volumeServices ↔ mountingServices defined volume ≠ []

variable {registry : Registry}

/-- One definition is recorded, or is inconsistent. -/
theorem registerVolume_spec (recorded : Recorded defined registry)
    (consistent : Consistent defined) (service : String) (volume : VolumeSpec) :
    Ends (registerVolume service registry volume)
      (fun after => Recorded (defined ++ [(service, canonical volume)]) after ∧
        Consistent (defined ++ [(service, canonical volume)]) ∧
        after.specsWithVolumes = registry.specsWithVolumes ∧
        after.serviceNames = registry.serviceNames)
      (fun _ => ¬ Consistent (defined ++ [(service, canonical volume)])) := by
  have services : ∀ name,
      (registry.volumeServices.push (canonical volume).name service).getD name [] =
        mountingServices (defined ++ [(service, canonical volume)]) name := by
    intro name
    rw [OrdMap.getD_push, recorded.services, mountingServices_append]
    split <;> simp
  have served : ∀ name, name ∈ registry.volumeServices.push (canonical volume).name service ↔
      mountingServices (defined ++ [(service, canonical volume)]) name ≠ [] := by
    intro name
    rw [OrdMap.mem_push, recorded.served, mountingServices_append]
    by_cases named : (canonical volume).name = name <;> simp [named]
  rw [consistent_append_iff consistent, registerVolume]
  simp only [recorded.specs]
  cases found : firstDefinition defined (canonical volume).name with
  | some seen =>
    by_cases agrees : seen.equivalent (canonical volume) = true
    · simp only [agrees, ↓reduceIte]
      refine ⟨⟨fun name => ?_, services, served⟩, ?_, rfl, rfl⟩
      · rw [recorded.specs, firstDefinition_append]
        split
        · rename_i named
          rw [← named, found, Option.some_or]
        · rw [Option.or_none]
      · rintro first ⟨⟩
        exact agrees
    · simp only [agrees]
      exact fun all => agrees (all seen rfl)
  | none =>
    refine ⟨⟨fun name => ?_, services, served⟩, by simp, rfl, rfl⟩
    rw [OrdMap.getElem?_insert_eq, recorded.specs, firstDefinition_append]
    split
    · rename_i named
      rw [← named, found, Option.none_or]
    · rw [Option.or_none]

theorem registerVolumes_spec (recorded : Recorded defined registry)
    (consistent : Consistent defined) (service : String) (mounted : List VolumeSpec) :
    Ends (mounted.foldlM (registerVolume service) registry)
      (fun after => Recorded (defined ++ mounted.map fun volume => (service, canonical volume))
          after ∧
        Consistent (defined ++ mounted.map fun volume => (service, canonical volume)) ∧
        after.specsWithVolumes = registry.specsWithVolumes ∧
        after.serviceNames = registry.serviceNames)
      (fun _ => ¬ Consistent
        (defined ++ mounted.map fun volume => (service, canonical volume))) := by
  refine Ends.foldlM (fun done after =>
    Recorded (defined ++ done.map fun volume => (service, canonical volume)) after ∧
    Consistent (defined ++ done.map fun volume => (service, canonical volume)) ∧
    after.specsWithVolumes = registry.specsWithVolumes ∧
    after.serviceNames = registry.serviceNames) ?_ ?_
  · simpa using ⟨recorded, consistent⟩
  · rintro done volume rest mid split ⟨recorded', consistent', specs, names⟩
    refine (registerVolume_spec recorded' consistent' service volume).mono
      (fun after ⟨here, agrees, specs', names'⟩ => ?_) fun _ disagrees whole => disagrees ?_
    · rw [map_append, ← append_assoc]
      exact ⟨here, agrees, specs'.trans specs, names'.trans names⟩
    · rw [split, map_append, map_cons, ← append_assoc] at whole
      rw [append_cons] at whole
      exact whole.left

/-- Whether a service mounts any named Docker volume. -/
def mountsAny (spec : ServiceSpec) : Bool := spec.dockerVolumeMounts ≠ []

variable {spec : ServiceSpec}

theorem mountedDockerVolumes_eq_nil :
    spec.mountedDockerVolumes order = [] ↔ spec.dockerVolumeMounts = [] := by
  simp only [eq_nil_iff_forall_not_mem, ServiceSpec.mem_mountedDockerVolumes]

/-- What reading the specs of `done` has established. -/
structure SpecsRead (externals : Externals) (order : HashOrder) (done : List ServiceSpec)
    (registry : Registry) : Prop where
  recorded : Recorded (definitions order done) registry
  kept : registry.specsWithVolumes = done.filter mountsAny
  remembered : ∀ name, name ∈ registry.serviceNames ↔ name ∈ done.map ServiceSpec.name
  valid : ∀ spec ∈ done, spec.validate externals = .ok ()
  names : (done.map ServiceSpec.name).Nodup
  consistent : Consistent (definitions order done)

/-- The conditions of `Accepted` that are about the specs alone. -/
def SpecsAccepted (externals : Externals) (order : HashOrder) (specs : List ServiceSpec) : Prop :=
  (∀ spec ∈ specs, spec.validate externals = .ok ()) ∧ (specs.map ServiceSpec.name).Nodup ∧
    Consistent (definitions order specs)

theorem definitions_append (order : HashOrder) (done rest : List ServiceSpec) :
    definitions order (done ++ rest) = definitions order done ++ definitions order rest := by
  simp [definitions]

variable {externals : Externals}

theorem SpecsRead.names_append {done : List ServiceSpec}
    (read : SpecsRead externals order done registry) (fresh : spec.name ∉ registry.serviceNames) :
    ((done ++ [spec]).map ServiceSpec.name).Nodup := by
  rw [map_append, nodup_append]
  refine ⟨read.names, by simp, fun name earlier other last => ?_⟩
  rw [map_singleton, mem_singleton] at last
  rintro rfl
  exact fresh ((read.remembered _).mpr (last ▸ earlier))

theorem SpecsRead.remembered_append {done : List ServiceSpec}
    (read : SpecsRead externals order done registry) (spec : ServiceSpec) (name : String) :
    name ∈ insert spec.name registry.serviceNames ↔
      name ∈ (done ++ [spec]).map ServiceSpec.name := by
  rw [Finset.mem_insert, read.remembered, map_append, mem_append, or_comm]
  simp

/-- One spec is read, or is not accepted. -/
theorem registerSpec_spec {done : List ServiceSpec}
    (read : SpecsRead externals order done registry) (spec : ServiceSpec) :
    Ends (registerSpec externals order registry spec)
      (SpecsRead externals order (done ++ [spec]))
      (fun _ => ¬ SpecsAccepted externals order (done ++ [spec])) := by
  have defined : definitions order (done ++ [spec]) = definitions order done ++
      (spec.mountedDockerVolumes order).map fun volume => (spec.name, canonical volume) := by
    simp [definitions]
  rw [registerSpec]
  cases validated : spec.validate externals with
  | error reason =>
    intro accepted
    rw [accepted.1 spec (by simp)] at validated
    cases validated
  | ok passed =>
    have valid : ∀ other ∈ done ++ [spec], other.validate externals = .ok () := by
      intro other member
      rcases mem_append.mp member with earlier | last
      · exact read.valid other earlier
      · rw [mem_singleton.mp last, validated]
    change Ends (if spec.name ∈ registry.serviceNames then _ else _) _ _
    by_cases again : spec.name ∈ registry.serviceNames
    · rw [if_pos again]
      intro accepted
      have distinct := accepted.2.1
      rw [map_append, nodup_append] at distinct
      exact distinct.2.2 spec.name ((read.remembered _).mp again) spec.name (by simp) rfl
    · rw [if_neg again]
      have names := read.names_append again
      by_cases unmounted : spec.mountedDockerVolumes order = []
      · rw [if_pos unmounted]
        rw [unmounted, map_nil, append_nil] at defined
        refine ⟨?_, ?_, read.remembered_append spec, valid, names, defined ▸ read.consistent⟩
        · rw [defined]
          exact ⟨read.recorded.specs, read.recorded.services, read.recorded.served⟩
        · rw [filter_append, read.kept]
          simp [mountsAny, mountedDockerVolumes_eq_nil.mp unmounted]
      · rw [if_neg unmounted]
        have recorded : Recorded (definitions order done)
            { registry with serviceNames := insert spec.name registry.serviceNames } :=
          { read.recorded with }
        refine (registerVolumes_spec recorded read.consistent spec.name _).seq
          (fun _ disagrees accepted => disagrees (defined ▸ accepted.2.2))
          fun after ⟨here, agrees, specs, remembered⟩ => ?_
        rw [← defined] at here agrees
        refine ⟨{ here with }, ?_, ?_, valid, names, agrees⟩
        · have mounted : spec.dockerVolumeMounts ≠ [] := mt mountedDockerVolumes_eq_nil.mpr unmounted
          simp [specs, read.kept, mountsAny, mounted]
        · intro name
          rw [← read.remembered_append spec name]
          simp only [remembered]

/-- The volumes of a cluster, each with the machine that holds it. -/
def clusterVolumes (state : ClusterState) : List (Machine × DockerVolume) :=
  state.machines.flatMap fun machine => machine.volumes.map fun volume => (machine, volume)

/-- What reading the volumes of `done` has established. -/
structure ExistingRead (volumeSpecs : OrdMap String VolumeSpec)
    (done : List (Machine × DockerVolume)) (existing : OrdMap String (Finset String)) : Prop where
  holders : ∀ volume id, id ∈ existing.getD volume ∅ ↔ volume ∈ volumeSpecs ∧
    ∃ held ∈ done, held.2.name = volume ∧ held.1.info.id = id
  occupied : ∀ volume, volume ∈ existing ↔ (existing.getD volume ∅).Nonempty
  matching : ∀ held ∈ done, ∀ first, volumeSpecs[held.2.name]? = some first →
    first.matchesDockerVolume held.2

variable {volumeSpecs : OrdMap String VolumeSpec} {done : List (Machine × DockerVolume)}
  {existing : OrdMap String (Finset String)}

/-- One existing volume is read, or does not match. -/
theorem registerExisting_spec (read : ExistingRead volumeSpecs done existing) (machine : Machine)
    (volume : DockerVolume) :
    Ends (registerExisting volumeSpecs machine existing volume)
      (ExistingRead volumeSpecs (done ++ [(machine, volume)]))
      (fun _ => ∃ first, volumeSpecs[volume.name]? = some first ∧
        ¬ first.matchesDockerVolume volume) := by
  rw [registerExisting]
  cases found : volumeSpecs[volume.name]? with
  | none =>
    have undefined : volume.name ∉ volumeSpecs := by
      rw [← Std.ExtTreeMap.isSome_getElem?_iff_mem, found]
      exact Bool.false_ne_true
    refine ⟨fun name id => ?_, read.occupied, fun held member first defined => ?_⟩
    · rw [read.holders]
      refine and_congr_right fun defined => ?_
      have other : volume.name ≠ name := fun same => undefined (same ▸ defined)
      simp [other]
    · rcases mem_append.mp member with earlier | last
      · exact read.matching held earlier first defined
      · rw [mem_singleton.mp last, found] at defined
        cases defined
  | some first =>
    by_cases suits : first.matchesDockerVolume volume = true
    · simp only [suits, ↓reduceIte]
      have defined : volume.name ∈ volumeSpecs := by
        rw [← Std.ExtTreeMap.isSome_getElem?_iff_mem, found]
        rfl
      refine ⟨fun name id => ?_, fun name => ?_, fun held member other found' => ?_⟩
      · rw [OrdMap.mem_getD_enter, read.holders]
        simp only [mem_append, mem_singleton, or_and_right, exists_or, exists_eq_left]
        constructor
        · rintro (⟨rfl, rfl⟩ | ⟨known, earlier⟩)
          · exact ⟨defined, .inr ⟨rfl, rfl⟩⟩
          · exact ⟨known, .inl earlier⟩
        · rintro ⟨known, earlier | ⟨rfl, rfl⟩⟩
          · exact .inr ⟨known, earlier⟩
          · exact .inl ⟨rfl, rfl⟩
      · rw [OrdMap.mem_enter, read.occupied]
        simp only [Finset.Nonempty, OrdMap.mem_getD_enter, exists_or]
        simp
      · rcases mem_append.mp member with earlier | last
        · exact read.matching held earlier other found'
        · rw [mem_singleton.mp last, found] at found'
          rw [mem_singleton.mp last, ← Option.some.inj found']
          exact suits
    · simp only [suits]
      exact ⟨first, rfl, suits⟩

theorem registerMachine_spec (read : ExistingRead volumeSpecs done existing) (machine : Machine) :
    Ends (registerMachine volumeSpecs existing machine)
      (ExistingRead volumeSpecs (done ++ machine.volumes.map fun volume => (machine, volume)))
      (fun _ => ∃ volume ∈ machine.volumes, ∃ first, volumeSpecs[volume.name]? = some first ∧
        ¬ first.matchesDockerVolume volume) := by
  refine Ends.foldlM (fun visited => ExistingRead volumeSpecs
    (done ++ visited.map fun volume => (machine, volume))) ?_ ?_
  · simpa using read
  · intro visited volume rest mid split read'
    refine (registerExisting_spec read' machine volume).mono (fun after here => ?_)
      fun _ mismatch => ⟨volume, by simp [split], mismatch⟩
    rw [map_append, ← append_assoc]
    exact here

theorem registerMachines_spec (volumeSpecs : OrdMap String VolumeSpec) (state : ClusterState) :
    Ends (state.machines.foldlM (registerMachine volumeSpecs) ∅)
      (ExistingRead volumeSpecs (clusterVolumes state))
      (fun _ => ∃ machine ∈ state.machines, ∃ volume ∈ machine.volumes, ∃ first,
        volumeSpecs[volume.name]? = some first ∧ ¬ first.matchesDockerVolume volume) := by
  refine Ends.foldlM (fun visited => ExistingRead volumeSpecs (clusterVolumes ⟨visited⟩)) ?_ ?_
  · exact ⟨by simp [clusterVolumes], by simp, by simp [clusterVolumes]⟩
  · intro visited machine rest mid split read
    refine (registerMachine_spec read machine).mono (fun after here => ?_)
      fun _ mismatch => ⟨machine, by simp [split], mismatch⟩
    simpa [clusterVolumes] using here

/-- What the tables of an accepted input hold. -/
structure Reads (order : HashOrder) (state : ClusterState) (specs : List ServiceSpec)
    (scheduler : VolumeScheduler) : Prop where
  snapshot : scheduler.state = state
  /-- The specs that mount a volume, in the order submitted. -/
  serviceSpecs : scheduler.serviceSpecs = specs.filter mountsAny
  names : (specs.map ServiceSpec.name).Nodup
  /-- `volume_specs` holds the first definitions. -/
  volumeSpecs : ∀ volume, scheduler.volumeSpecs[volume]? =
    firstDefinition (definitions order specs) volume
  /-- `volume_services` holds the mounting services. -/
  services : ∀ volume, scheduler.volumeServices.getD volume [] =
    mountingServices (definitions order specs) volume
  /-- `volume_services` has an entry for the mounted volumes only. -/
  served : ∀ volume, volume ∈ scheduler.volumeServices ↔
    mountingServices (definitions order specs) volume ≠ []
  /-- `existing_volume_machines` holds the holders of the mounted volumes. -/
  holders : ∀ volume id, id ∈ scheduler.existingVolumeMachines.getD volume ∅ ↔
    (∃ spec ∈ specs, Mounts spec volume) ∧
      ∃ machine ∈ state.machines, machine.info.id = id ∧ machine.Holds volume
  /-- Only volumes with a holder have an entry there. -/
  occupied : ∀ volume, volume ∈ scheduler.existingVolumeMachines ↔
    (scheduler.existingVolumeMachines.getD volume ∅).Nonempty

/-- The tables are those of the accepted input. -/
theorem new_spec (externals : Externals) (order : HashOrder) (state : ClusterState)
    (specs : List ServiceSpec) :
    Ends (VolumeScheduler.new externals order state specs)
      (fun scheduler => Accepted externals order state specs ∧ Reads order state specs scheduler)
      (fun _ => ¬ Accepted externals order state specs) := by
  have readSpecs : Ends (specs.foldlM (registerSpec externals order) .empty)
      (SpecsRead externals order specs) (fun _ => ¬ SpecsAccepted externals order specs) := by
    refine Ends.foldlM (SpecsRead externals order) ?_ ?_
    · refine ⟨⟨?_, ?_, ?_⟩, rfl, ?_, ?_, nodup_nil, ?_⟩ <;>
        simp [definitions, Registry.empty, firstDefinition, mountingServices, Consistent]
    · intro done spec rest mid split read
      refine (registerSpec_spec read spec).mono (fun _ here => here)
        fun _ rejected accepted => rejected ?_
      rw [split, append_cons] at accepted
      refine ⟨fun other member => accepted.1 other (mem_append_left _ member), ?_, ?_⟩
      · have distinct := accepted.2.1
        rw [map_append] at distinct
        exact (nodup_append.mp distinct).1
      · have agrees := accepted.2.2
        rw [definitions_append] at agrees
        exact agrees.left
  refine readSpecs.seq (fun _ rejected accepted =>
    rejected ⟨accepted.valid, accepted.names, accepted.consistent⟩) fun registry read => ?_
  refine (registerMachines_spec registry.volumeSpecs state).seq ?_ fun existing found => ?_
  · rintro _ ⟨machine, member, volume, inside, first, defined, differs⟩ accepted
    rw [read.recorded.specs] at defined
    exact differs (accepted.matching machine member volume inside first defined)
  · have defined : ∀ volume, volume ∈ registry.volumeSpecs ↔ ∃ spec ∈ specs, Mounts spec volume := by
      intro volume
      rw [← Std.ExtTreeMap.isSome_getElem?_iff_mem, read.recorded.specs, firstDefinition_isSome]
    refine ⟨⟨read.valid, read.names, read.consistent, ?_⟩, rfl, read.kept, read.names,
      read.recorded.specs, read.recorded.services, read.recorded.served, ?_, found.occupied⟩
    · intro machine member volume inside first here
      refine found.matching (machine, volume) ?_ first (by rw [read.recorded.specs]; exact here)
      exact mem_flatMap.mpr ⟨machine, member, mem_map_of_mem inside⟩
    · intro volume id
      rw [found.holders, defined]
      refine and_congr_right fun _ => ?_
      simp only [clusterVolumes, mem_flatMap, mem_map, Prod.exists, Prod.mk.injEq,
        Machine.Holds]
      constructor
      · rintro ⟨_, _, ⟨machine, member, existing, inside, rfl, rfl⟩, named, rfl⟩
        exact ⟨machine, member, rfl, existing, inside, named⟩
      · rintro ⟨machine, member, rfl, existing, inside, named⟩
        exact ⟨machine, existing, ⟨machine, member, existing, inside, rfl, rfl⟩, named, rfl⟩

end Ployz.Scheduler
