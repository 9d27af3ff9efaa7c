import Ployz.Verif.Order

/-!
# Planning again after the volumes were created

A plan is carried out by creating, on each machine, a Docker volume for each spec scheduled there.
Every missing volume then exists at its targets: no services are tied together any more, the
assignment found before still suits them, and no volume has a target left. Whether the second run
gets so far depends on its acceptance of the created volumes, that is on the definition that its
hash order puts first.
-/

namespace Ployz.Scheduler

open Api VolumeScheduler List

/-- Docker volumes, by machine id, that carry out a plan: one for each spec scheduled, which the
spec matches. -/
def Creates (scheduled : OrdMap String (List VolumeSpec)) (created : String → List DockerVolume) :
    Prop :=
  ∀ id, List.Forall₂ (fun spec volume => spec.matchesDockerVolume volume = true)
    (scheduled.getD id []) (created id)

/-- The cluster with further Docker volumes on its machines. -/
def ClusterState.withCreated (state : ClusterState) (created : String → List DockerVolume) :
    ClusterState :=
  ⟨state.machines.map fun machine =>
    { machine with volumes := machine.volumes ++ created machine.info.id }⟩

/-- The first of the services that mount the volume. -/
def firstMounting (specs : List ServiceSpec) (volume : String) : Option ServiceSpec :=
  specs.find? fun spec => spec.dockerVolumeMounts.any (·.dockerVolumeName = volume)

/-- A service that is the first to mount a volume, under several aliases or one, asks for the same
driver under each of them, once defaulted. -/
def AliasesUniform (specs : List ServiceSpec) : Prop :=
  ∀ spec ∈ specs, ∀ mounted ∈ spec.dockerVolumeMounts, ∀ again ∈ spec.dockerVolumeMounts,
    again.dockerVolumeName = mounted.dockerVolumeName →
      firstMounting specs mounted.dockerVolumeName = some spec →
        again.withDefaults.driver? = mounted.withDefaults.driver?

instance (specs : List ServiceSpec) : Decidable (AliasesUniform specs) := by
  unfold AliasesUniform
  infer_instance

variable {volume : String}

section Problem

variable {state : ClusterState} {specs : List ServiceSpec}

/-- Once the plan of a solvable problem is carried out, every mounted volume exists. -/
theorem Plannable.present_of_mounts (plannable : Plannable state specs) {spec : ServiceSpec}
    (member : spec ∈ specs) (mounts : Mounts spec volume) :
    ((coupling state specs).fill (Due state specs)).Present volume := by
  by_cases global : IsGlobal spec
  · obtain ⟨machine, hosted, allows⟩ := plannable.placeable spec member mounts.mountsAny
    refine ⟨machine.info.id, ?_⟩
    by_cases held : (coupling state specs).holds machine.info.id volume
    · exact .inl held
    · exact .inr ⟨⟨spec, member, mounts⟩, .inl ⟨spec, member, global, mounts,
        ⟨spec, member, rfl, machine, hosted, rfl, allows⟩, held⟩⟩
  · by_cases present : (coupling state specs).Present volume
    · obtain ⟨id, held⟩ := present
      exact ⟨id, .inl held⟩
    · have uses : (coupling state specs).uses spec.name volume :=
        ⟨spec, member, rfl, global, mounts⟩
      obtain ⟨id, least⟩ := exists_isLeast_common (plannable.common _ ⟨volume, uses⟩)
      exact ⟨id, .inr ⟨⟨spec, member, mounts⟩, .inr ⟨present, spec.name, uses, least⟩⟩⟩

variable {state' : ClusterState}

/-- The problem left by a plan that was carried out has a solution. -/
theorem Plannable.fill (plannable : Plannable state specs)
    (filled : coupling state' specs = (coupling state specs).fill (Due state specs))
    (hosts : ∀ spec, (∃ machine ∈ state.machines, Allows spec machine) →
      ∃ machine ∈ state'.machines, Allows spec machine) : Plannable state' specs := by
  refine ⟨fun spec member mounting => hosts spec (plannable.placeable spec member mounting),
    plannable.unmixed, fun service user => ?_⟩
  rw [filled] at user ⊢
  obtain ⟨id, least⟩ := exists_isLeast_common (plannable.common service user)
  refine ⟨id, Coupling.mem_common_fill ?_ least.1 ?_⟩
  · rintro volume ⟨spec, member, _, _, mounts⟩
    exact plannable.present_of_mounts member mounts
  · rintro volume ⟨spec, member, named, replicated, mounts⟩ missing
    exact ⟨⟨spec, member, mounts⟩, .inr ⟨missing, service,
      ⟨spec, member, named, replicated, mounts⟩, least⟩⟩

theorem Plannable.not_isTarget_fill (plannable : Plannable state specs)
    (filled : coupling state' specs = (coupling state specs).fill (Due state specs))
    (id volume : String) : ¬ IsTarget state' specs id volume := by
  rw [IsTarget, filled]
  rintro (⟨spec, member, global, mounts, allowed, lacks⟩ | ⟨missing, service, uses, _⟩)
  · refine lacks (or_iff_not_imp_left.mpr fun absent => ⟨⟨spec, member, mounts⟩, ?_⟩)
    exact .inl ⟨spec, member, global, mounts, allowed, absent⟩
  · obtain ⟨spec, member, _, _, mounts⟩ := uses
    exact missing (plannable.present_of_mounts member mounts)

end Problem

section Created

variable {externals : Externals} {order : HashOrder} {state : ClusterState}
  {specs : List ServiceSpec} {scheduled : OrdMap String (List VolumeSpec)}
  {created : String → List DockerVolume}

theorem exists_of_forall₂ {α β : Type} {pair : α → β → Prop} {lefts : List α} {rights : List β}
    (pairs : List.Forall₂ pair lefts rights) {right : β} (member : right ∈ rights) :
    ∃ left ∈ lefts, pair left right := by
  induction pairs with
  | nil => cases member
  | cons paired _ ih =>
    rcases mem_cons.mp member with rfl | later
    · exact ⟨_, mem_cons_self, paired⟩
    · obtain ⟨left, inside, here⟩ := ih later
      exact ⟨left, mem_cons_of_mem _ inside, here⟩

variable {spec : VolumeSpec}

theorem name_of_matches {volume : DockerVolume} (suits : spec.matchesDockerVolume volume = true) :
    volume.name = spec.dockerVolumeName := by
  by_cases kind : spec.kind = volumeTypeVolume
  · exact ((matchesDockerVolume_iff kind).mp suits).1.symm
  · rw [VolumeSpec.matchesDockerVolume, if_pos kind] at suits
    cases suits

theorem exists_created_iff (planned : Planned order state specs scheduled)
    (creates : Creates scheduled created) (id volume : String) :
    (∃ existing ∈ created id, existing.name = volume) ↔ Due state specs id volume := by
  rw [← planned.names, scheduledNames, mem_toFinset, mem_map]
  constructor
  · rintro ⟨existing, inside, rfl⟩
    obtain ⟨spec, listed, suits⟩ := exists_of_forall₂ (creates id) inside
    exact ⟨spec, listed, (name_of_matches suits).symm⟩
  · rintro ⟨spec, listed, rfl⟩
    obtain ⟨existing, inside, suits⟩ := exists_of_forall₂ (creates id).flip listed
    exact ⟨existing, inside, name_of_matches suits⟩

/-- Carrying out a plan fills the placement problem at its targets. -/
theorem coupling_withCreated (planned : Planned order state specs scheduled)
    (creates : Creates scheduled created) : coupling (state.withCreated created) specs =
      (coupling state specs).fill (Due state specs) := by
  have hosted : ∀ (test : Machine → Prop), (∃ machine ∈ (state.withCreated created).machines,
      test machine) ↔ ∃ machine ∈ state.machines,
        test { machine with volumes := machine.volumes ++ created machine.info.id } := by
    simp [ClusterState.withCreated]
  simp only [coupling, Coupling.fill, Coupling.mk.injEq, true_and, hosted]
  refine ⟨rfl, ?_⟩
  funext id volume
  rw [eq_iff_iff, ← exists_created_iff planned creates]
  simp only [Machine.Holds, mem_append]
  constructor
  · rintro ⟨machine, member, rfl, existing, held | new, named⟩
    · exact .inl ⟨machine, member, rfl, existing, held, named⟩
    · exact .inr ⟨existing, new, named⟩
  · rintro (⟨machine, member, rfl, existing, held, named⟩ | ⟨existing, new, named⟩)
    · exact ⟨machine, member, rfl, existing, .inl held, named⟩
    · obtain ⟨_, target⟩ := (exists_created_iff planned creates id volume).mp
        ⟨existing, new, named⟩
      obtain ⟨machine, member, rfl⟩ := target.exists_machine
      exact ⟨machine, member, rfl, existing, .inr new, named⟩

/-- Once a plan was carried out, a run that is accepted has nothing to schedule. -/
theorem planning_withCreated
    (returned : planning externals order .ascending state specs = .ok scheduled)
    (creates : Creates scheduled created) {order' : HashOrder}
    (accepted : Accepted externals order' (state.withCreated created) specs) :
    planning externals order' .ascending (state.withCreated created) specs = .ok ∅ := by
  obtain ⟨_, plannable, planned⟩ := (planning_spec _ _ _ _ _).of_ok returned
  have filled := coupling_withCreated planned creates
  have solvable : Plannable (state.withCreated created) specs := by
    refine plannable.fill filled fun spec ⟨machine, hosted, allows⟩ => ?_
    exact ⟨_, mem_map_of_mem hosted, allows⟩
  have spec := planning_spec externals order' .ascending (state.withCreated created) specs
  cases outcome : planning externals order' .ascending (state.withCreated created) specs with
  | error fault => exact absurd ⟨accepted, solvable⟩ (spec.of_error outcome)
  | ok again =>
    obtain ⟨_, _, planned'⟩ := spec.of_ok outcome
    have idle : ∀ id, again.getD id [] = [] := by
      intro id
      refine eq_nil_iff_forall_not_mem.mpr fun volume inside => ?_
      have listed : volume.dockerVolumeName ∈ scheduledNames again id :=
        mem_toFinset.mpr (mem_map_of_mem inside)
      exact plannable.not_isTarget_fill filled id _ ((planned'.names id _).mp listed).2
    have empty : again = ∅ := by
      refine Std.ExtTreeMap.eq_empty_iff_forall_not_mem.mpr fun id known => ?_
      exact (planned'.occupied id).mp known (idle id)
    rw [empty]

theorem exists_firstMounting {first : VolumeSpec}
    (found : firstDefinition (definitions order specs) volume = some first) :
    ∃ spec ∈ specs, firstMounting specs volume = some spec ∧
      ∃ mounted ∈ spec.dockerVolumeMounts, first = canonical mounted ∧
        mounted.dockerVolumeName = volume := by
  induction specs with
  | nil => cases found
  | cons spec rest ih =>
    by_cases mounts : Mounts spec volume
    · have here : firstMounting (spec :: rest) volume = some spec := by
        refine find?_cons_of_pos ?_
        simpa [Mounts] using mounts
      have defined : (firstDefinition (definitions order [spec]) volume).isSome :=
        firstDefinition_isSome.mpr ⟨spec, mem_singleton_self spec, mounts⟩
      obtain ⟨leader, leads⟩ := Option.isSome_iff_exists.mp defined
      have same : first = leader := by
        have split := definitions_append order [spec] rest
        rw [singleton_append] at split
        obtain ⟨definition, seen, form⟩ := Option.map_eq_some_iff.mp leads
        rw [split, firstDefinition, find?_append, seen, Option.some_or, Option.map_some,
          form] at found
        exact (Option.some.inj found).symm
      obtain ⟨other, member, mounted, inside, form, _, named⟩ :=
        exists_mounted_of_firstDefinition leads
      rw [mem_singleton.mp member] at inside
      exact ⟨spec, mem_cons_self, here, mounted, inside, same.trans form, named⟩
    · have later : firstMounting (spec :: rest) volume = firstMounting rest volume := by
        refine find?_cons_of_neg ?_
        simpa [Mounts] using mounts
      have skipped : firstDefinition (definitions order rest) volume = some first := by
        have unseen : firstDefinition (definitions order [spec]) volume = none := by
          refine Option.not_isSome_iff_eq_none.mp fun defined => mounts ?_
          obtain ⟨other, member, here⟩ := firstDefinition_isSome.mp defined
          rwa [mem_singleton.mp member] at here
        have split := definitions_append order [spec] rest
        rw [singleton_append] at split
        rw [split, firstDefinition, find?_append,
          Option.map_eq_none_iff.mp unseen, Option.none_or] at found
        exact found
      obtain ⟨other, member, leads, rest⟩ := ih skipped
      exact ⟨other, mem_cons_of_mem _ member, later.trans leads, rest⟩

/-- With uniform aliases the volumes a plan was carried out with are accepted in any hash
order. -/
theorem Accepted.withCreated (uniform : AliasesUniform specs)
    (returned : planning externals order .ascending state specs = .ok scheduled)
    (creates : Creates scheduled created) (order' : HashOrder) :
    Accepted externals order' (state.withCreated created) specs := by
  obtain ⟨accepted, _, planned⟩ := (planning_spec _ _ _ _ _).of_ok returned
  refine ⟨accepted.valid, accepted.names, ?_, ?_⟩
  · intro left inside right inside'
    exact accepted.consistent left ((mem_definitions_perm (.refl _) left).mp inside) right
      ((mem_definitions_perm (.refl _) right).mp inside')
  · intro machine' hosted' existing held first found
    obtain ⟨machine, hosted, rfl⟩ := mem_map.mp hosted'
    obtain ⟨spec, member, leads, mounted, inside, rfl, named⟩ := exists_firstMounting found
    -- the definition the plan was made with
    have defined : (firstDefinition (definitions order specs) existing.name).isSome :=
      firstDefinition_isSome.mpr ⟨spec, member, mounted, inside, named⟩
    obtain ⟨leader, found'⟩ := Option.isSome_iff_exists.mp defined
    have suits : leader.matchesDockerVolume existing = true := by
      rcases mem_append.mp held with held | new
      · exact accepted.matching machine hosted existing held leader found'
      · obtain ⟨scheduledSpec, listed, suits⟩ := exists_of_forall₂ (creates machine.info.id) new
        have first := ((planned.listed _ _).mp listed).1
        rw [← name_of_matches suits, found'] at first
        rwa [Option.some.inj first]
    obtain ⟨spec', member', leads', mounted', inside', rfl, named'⟩ := exists_firstMounting found'
    rw [leads, Option.some.injEq] at leads'
    subst leads'
    have kind := (ServiceSpec.volume_of_mem_dockerVolumeMounts inside).2
    have kind' := (ServiceSpec.volume_of_mem_dockerVolumeMounts inside').2
    refine matches_of_driver?_eq kind' kind (named.trans named'.symm) ?_ suits
    refine uniform spec member mounted' inside' mounted inside (named.trans named'.symm) ?_
    rwa [named']

/-- The Docker volume created for a spec. -/
def volumeFor (spec : VolumeSpec) : DockerVolume :=
  let driver := spec.withDefaults.driver?.getD ⟨volumeDriverLocal, .default⟩
  ⟨spec.dockerVolumeName, driver.name, driver.options⟩

theorem matches_volumeFor (kind : spec.kind = volumeTypeVolume) :
    spec.matchesDockerVolume (volumeFor spec) = true := by
  refine (matchesDockerVolume_iff kind).mpr ⟨rfl, fun driver asked => ?_⟩
  have named : driver.name ≠ "" := by
    rw [withDefaults_driver? kind] at asked
    obtain ⟨given, _, rfl⟩ := Option.map_eq_some_iff.mp asked
    have some : volumeDriverLocal ≠ "" := by decide
    unfold Driver.withDefaults
    split_ifs with empty
    · exact some
    · exact empty
  simp only [driverOf, volumeFor, asked, Option.getD_some, if_neg named]

theorem creates_volumeFor (planned : Planned order state specs scheduled) :
    Creates scheduled fun id => (scheduled.getD id []).map volumeFor := by
  intro id
  rw [List.forall₂_map_right_iff, List.forall₂_same]
  intro spec listed
  obtain ⟨_, _, mounted, _, form, kind, _⟩ :=
    exists_mounted_of_firstDefinition ((planned.listed _ _).mp listed).1
  refine matches_volumeFor ?_
  rw [form, canonical_kind, kind]

theorem aliasesUniform_of_accepted
    (returned : planning externals order .ascending state specs = .ok scheduled)
    (creates : Creates scheduled created)
    (always : ∀ order', Accepted externals order' (state.withCreated created) specs) :
    AliasesUniform specs := by
  intro spec member mounted inside again inside' named leads
  obtain ⟨_, plannable, planned⟩ := (planning_spec _ _ _ _ _).of_ok returned
  have present := plannable.present_of_mounts member ⟨mounted, inside, rfl⟩
  rw [← coupling_withCreated planned creates] at present
  obtain ⟨_, machine, hosted, _, existing, held, name⟩ := present
  -- whichever alias comes first, the volume is accepted
  have suits : ∀ candidate ∈ spec.dockerVolumeMounts,
      candidate.dockerVolumeName = mounted.dockerVolumeName →
        (canonical candidate).matchesDockerVolume existing = true := by
    intro candidate listed same
    obtain ⟨_, before, rest, split, earliest⟩ := find?_eq_some_iff_append.mp leads
    refine (always (HashOrder.leading candidate)).matching machine hosted existing held _ ?_
    rw [split, name, ← same]
    refine firstDefinition_leading listed fun other earlier mounts => ?_
    rw [same] at mounts
    have unmounted := earliest other earlier
    obtain ⟨volume, carried, carries⟩ := mounts
    simp only [Bool.not_eq_true', any_eq_false, decide_eq_true_eq] at unmounted
    exact unmounted volume carried carries
  exact driver?_eq_of_matches (always order).consistent member member inside' inside named
    (suits again inside' named) (suits mounted inside rfl)

end Created

/-- Planning again, in whatever hash order, after a plan was carried out schedules nothing, exactly
when the first service that mounts a volume defines it with one driver. -/
theorem replanning_idempotent_iff (externals : Externals) (order : HashOrder)
    (state : ClusterState) (specs : List ServiceSpec)
    (scheduled : OrdMap String (List VolumeSpec))
    (returned : planning externals order .ascending state specs = .ok scheduled) :
    (∀ (order' : HashOrder) (created : String → List DockerVolume), Creates scheduled created →
      planning externals order' .ascending (state.withCreated created) specs = .ok ∅) ↔
      AliasesUniform specs := by
  constructor
  · intro idempotent
    have carried := creates_volumeFor ((planning_spec _ _ _ _ _).of_ok returned).2.2
    refine aliasesUniform_of_accepted returned carried fun order' => ?_
    exact ((planning_spec _ _ _ _ _).of_ok (idempotent order' _ carried)).1
  · intro uniform order' created creates
    exact planning_withCreated returned creates
      (Accepted.withCreated uniform returned creates order')

open Sample

theorem replanning_idempotent_sample : ∃ scheduled,
    planning externals .insertion .ascending cluster specs = .ok scheduled ∧
      ∀ (order' : HashOrder) (created : String → List DockerVolume), Creates scheduled created →
        planning externals order' .ascending (cluster.withCreated created)
          specs = .ok ∅ := by
  obtain ⟨scheduled, outcome, _⟩ := exists_ok_of_toOption planned
  exact ⟨scheduled, outcome, (replanning_idempotent_iff _ _ _ _ _ outcome).mpr (by decide)⟩

namespace Sample

/-- Two aliases of one Docker volume, alike up to nil and empty driver options. -/
def nilAlias : VolumeSpec :=
  ⟨"first", volumeTypeVolume, none, none,
    some ⟨some ⟨"local", .default⟩, .default, "data", false, ""⟩⟩

@[inherit_doc nilAlias]
def emptyAlias : VolumeSpec :=
  ⟨"second", volumeTypeVolume, none, none,
    some ⟨some ⟨"local", .ofMap ∅⟩, .default, "data", false, ""⟩⟩

/-- A service that mounts the volume under both aliases. -/
def aliased : List ServiceSpec := [service "web" "" [] [nilAlias, emptyAlias]]

end Sample

/-- A plan made from the nil alias and carried out is refused by a run that reads the empty alias
first. -/
theorem replanning_refused : emptyCluster.DistinctIds ∧ ∃ scheduled created,
    planning externals .insertion .ascending emptyCluster aliased =
      .ok scheduled ∧
    Creates scheduled created ∧
    planning externals (HashOrder.leading emptyAlias) .ascending
      (emptyCluster.withCreated created) aliased =
        .error (.error (.existingVolumeMismatch "data" "m1")) := by
  have run : (planning externals .insertion .ascending emptyCluster
      aliased).toOption.map (fun scheduled => (scheduled.getD "m1" []).map volumeFor) =
        some [⟨"data", "local", .default⟩] := by decide +kernel
  obtain ⟨scheduled, returned, read⟩ := exists_ok_of_toOption run
  refine ⟨by unfold ClusterState.DistinctIds; decide, scheduled, _, returned,
    creates_volumeFor ((planning_spec _ _ _ _ _).of_ok returned).2.2, ?_⟩
  have cluster : emptyCluster.withCreated
      (fun id => (scheduled.getD id []).map volumeFor) = localCluster := by
    rw [localCluster, ← read]
    rfl
  rw [cluster]
  exact eq_error_of_failure? (by decide +kernel)

end Ployz.Scheduler
