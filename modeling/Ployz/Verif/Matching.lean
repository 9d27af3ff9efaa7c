import Ployz.Verif.Tables

/-!
# Which definitions match which volumes

A definition asks for a driver or leaves it open. Equivalent definitions ask for the same
driver up to nil and empty options, but a volume is compared with the options exactly: of
two equivalent definitions one may match a volume and the other not. These lemmas reduce
both comparisons to the drivers.
-/

namespace Ployz.Scheduler

open Api

/-- The driver and options a Docker volume was created with. -/
def driverOf (volume : DockerVolume) : Driver :=
  ⟨if volume.driver = "" then volumeDriverLocal else volume.driver, volume.options⟩

theorem Driver.withDefaults_idem (driver : Driver) :
    driver.withDefaults.withDefaults = driver.withDefaults := by
  have named : volumeDriverLocal ≠ "" := by decide
  unfold Driver.withDefaults
  split_ifs with empty <;> simp_all

variable {spec : VolumeSpec}

theorem withDefaults_driver? (kind : spec.kind = volumeTypeVolume) :
    spec.withDefaults.driver? = spec.driver?.map Driver.withDefaults := by
  cases options : spec.volumeOptions <;>
    simp [VolumeSpec.withDefaults, VolumeSpec.driver?, kind, options, VolumeOptions.default]

variable {volume : VolumeSpec}

theorem canonical_driver? (kind : volume.kind = volumeTypeVolume) :
    (canonical volume).driver? = volume.driver?.map Driver.withDefaults :=
  withDefaults_driver? kind

theorem canonical_kind (volume : VolumeSpec) : (canonical volume).kind = volume.kind := by
  unfold canonical VolumeSpec.withDefaults
  split_ifs <;> rfl

theorem canonical_withDefaults_driver? (kind : volume.kind = volumeTypeVolume) :
    (canonical volume).withDefaults.driver? = (canonical volume).driver? := by
  rw [withDefaults_driver? ((canonical_kind volume).trans kind), canonical_driver? kind,
    Option.map_map]
  congr 1
  funext driver
  exact Driver.withDefaults_idem driver

/-- A definition matches a volume when the names agree and a driver it asks for is the
volume's. -/
theorem matchesDockerVolume_iff {volume : DockerVolume} (kind : spec.kind = volumeTypeVolume) :
    spec.matchesDockerVolume volume = true ↔
      spec.dockerVolumeName = volume.name ∧
        ∀ driver, spec.withDefaults.driver? = some driver → driver = driverOf volume := by
  have named : spec.withDefaults.dockerVolumeName = spec.dockerVolumeName := canonical_name spec
  rw [VolumeSpec.matchesDockerVolume, if_neg (not_not.mpr kind), named]
  by_cases same : spec.dockerVolumeName = volume.name
  · rw [if_neg (not_not.mpr same)]
    cases asked : spec.withDefaults.driver? with
    | none => simp [same]
    | some driver =>
      simp only [same, true_and, Option.some.injEq, forall_eq', decide_eq_true_eq]
      rw [driverOf, Driver.ext_iff]
  · simp [same]

/-- Equivalent definitions both ask for a driver or both leave it open. -/
theorem driver?_isSome_of_equivalent {left right : VolumeSpec}
    (kind : left.kind = volumeTypeVolume) (kind' : right.kind = volumeTypeVolume)
    (same : left.equivalent right) : left.driver?.isSome = right.driver?.isSome := by
  have drivers := congrArg (fun spec => spec.driver?.isSome) (equivalent_iff.mp same)
  have through : ∀ spec : VolumeSpec, spec.kind = volumeTypeVolume →
      spec.withDefaults.equateEmptyCollections.driver?.isSome = spec.driver?.isSome := by
    intro spec kind
    cases options : spec.volumeOptions <;>
      simp [VolumeSpec.withDefaults, VolumeSpec.equateEmptyCollections, VolumeSpec.driver?, kind,
        options, VolumeOptions.default]
  rwa [through left kind, through right kind'] at drivers

/-- A canonical definition matches a volume; another definition equivalent to it does exactly
when the two ask for the same driver. -/
theorem matches_iff_driver?_eq {first mounted : VolumeSpec} {volume : DockerVolume}
    (kind : first.kind = volumeTypeVolume) (kind' : mounted.kind = volumeTypeVolume)
    (same : (canonical first).equivalent (canonical mounted))
    (suits : (canonical first).matchesDockerVolume volume = true) :
    mounted.matchesDockerVolume volume = true ↔
      mounted.dockerVolumeName = volume.name ∧
        mounted.withDefaults.driver? = (canonical first).driver? := by
  have asks := driver?_isSome_of_equivalent ((canonical_kind first).trans kind)
    ((canonical_kind mounted).trans kind') same
  obtain ⟨_, driver⟩ := (matchesDockerVolume_iff ((canonical_kind first).trans kind)).mp suits
  rw [canonical_withDefaults_driver? kind] at driver
  rw [matchesDockerVolume_iff kind']
  refine and_congr_right fun _ => ?_
  change _ = ((mounted.withDefaults.driver?).isSome) at asks
  cases given : (canonical first).driver? with
  | none =>
    rw [given, Option.isSome_none] at asks
    have unasked : mounted.withDefaults.driver? = none := by simpa using asks.symm
    simp [unasked]
  | some wanted =>
    rw [given, Option.isSome_some] at asks
    obtain ⟨found, read⟩ := Option.isSome_iff_exists.mp asks.symm
    rw [read]
    have here := driver wanted given
    constructor
    · intro all
      rw [all found rfl, here]
    · rintro equal other same'
      rw [← Option.some.inj same', Option.some.inj equal, here]

end Ployz.Scheduler
