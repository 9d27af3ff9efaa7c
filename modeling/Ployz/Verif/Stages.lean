import Ployz.Verif.Problem

/-!
# The stages of planning before propagation

Three loops of `schedule` compute the sets of the placement problem: the ids each service is
allowed on, the ids that are left when the existing volumes of replicated services narrow
them, and the volumes that need no placing.
-/

namespace Ployz.Scheduler

open Api List

namespace Reads

variable {order : HashOrder} {state : ClusterState} {specs : List ServiceSpec}
  {scheduler : VolumeScheduler} (reads : Reads order state specs scheduler)

include reads

omit reads in
/-- Without mounts, a service is placed by its placement constraint alone. -/
theorem placementEligible_spec (state : ClusterState) (spec : ServiceSpec) :
    Ends (VolumeScheduler.placementEligible state spec)
      (fun ids => ids.Nonempty ∧ ∀ id, id ∈ ids ↔
        ∃ machine ∈ state.machines, machine.info.id = id ∧ Allows spec machine)
      (fun reason => reason = .serviceScheduling spec.name .noEligibleMachines ∧
        ¬ ∃ machine ∈ state.machines, Allows spec machine) := by
  let bare := { spec with container := { spec.container with volumeMounts := [] } }
  have evaluated : ∀ machine, ((constraintsFromSpec bare).all (Constraint.evaluate machine) = true)
      ↔ Allows spec machine := by
    intro machine
    rw [constraintsFromSpec_iff]
    have unmounted : bare.dockerVolumeMounts = [] := rfl
    simp [unmounted, Allows, bare]
  let available := state.machines.filter fun machine =>
    (constraintsFromSpec bare).all (Constraint.evaluate machine)
  have member : ∀ machine, machine ∈ available ↔ machine ∈ state.machines ∧ Allows spec machine := by
    intro machine
    rw [mem_filter, evaluated]
  rw [VolumeScheduler.placementEligible]
  by_cases none : available = []
  · have failed : (ServiceScheduler.new state bare).eligibleMachines = .error .noEligibleMachines :=
      if_pos none
    simp only [bare] at failed
    simp only [failed]
    refine ⟨rfl, ?_⟩
    rintro ⟨machine, inside, allows⟩
    exact ne_nil_of_mem ((member machine).mpr ⟨inside, allows⟩) none
  · have listed : (ServiceScheduler.new state bare).eligibleMachines = .ok available :=
      if_neg none
    simp only [bare] at listed
    simp only [listed]
    obtain ⟨machine, inside⟩ := exists_mem_of_ne_nil _ none
    refine ⟨⟨machine.info.id, ?_⟩, fun id => ?_⟩
    · rw [mem_toFinset]
      exact mem_map_of_mem inside
    · simp only [mem_toFinset, mem_map, member]
      constructor
      · rintro ⟨machine, ⟨inside, allows⟩, rfl⟩
        exact ⟨machine, inside, rfl, allows⟩
      · rintro ⟨machine, inside, rfl, allows⟩
        exact ⟨machine, ⟨inside, allows⟩, rfl⟩

/-- The eligible sets hold the allowed ids of the services in `known`. -/
structure Placed (state : ClusterState) (specs known : List ServiceSpec)
    (eligible : Eligibility) : Prop where
  keys : ∀ service, service ∈ eligible ↔ service ∈ known.map ServiceSpec.name
  nonempty : ∀ service ∈ eligible, (eligible.getD service ∅).Nonempty
  sets : ∀ service ∈ eligible, ∀ id,
    id ∈ eligible.getD service ∅ ↔ id ∈ (coupling state specs).allowed service

/-- The first loop of `schedule`: every service has the ids it is allowed on. -/
theorem initialEligible_spec :
    Ends scheduler.initialEligible (Placed state specs scheduler.serviceSpecs)
      (fun fault => Refusal fault ∧ ¬ Plannable state specs) := by
  refine Ends.foldlM (Placed state specs) ⟨by simp, by simp, by simp⟩ ?_
  intro done spec rest eligible split placed
  have kept : spec ∈ scheduler.serviceSpecs := by simp [split]
  obtain ⟨member, mounting⟩ := reads.mem_serviceSpecs.mp kept
  rw [reads.snapshot]
  cases outcome : VolumeScheduler.placementEligible state spec with
  | error reason =>
    obtain ⟨rfl, nowhere⟩ := (placementEligible_spec state spec).of_error outcome
    exact ⟨trivial, fun plannable => nowhere (plannable.placeable spec member mounting)⟩
  | ok ids =>
    obtain ⟨some, allowed⟩ := (placementEligible_spec state spec).of_ok outcome
    -- the new entry is the allowed set of its service, whose spec is the only one of that name
    have entry : ∀ id, id ∈ ids ↔ id ∈ (coupling state specs).allowed spec.name := by
      intro id
      rw [allowed]
      constructor
      · exact fun found => ⟨spec, member, rfl, found⟩
      · rintro ⟨other, member', named, found⟩
        exact reads.spec_eq member' member named ▸ found
    change Placed state specs (done ++ [spec]) (eligible.insert spec.name ids)
    refine ⟨fun service => ?_, fun service known => ?_, fun service known id => ?_⟩
    · rw [OrdMap.mem_insert_eq, placed.keys, map_append, mem_append, or_comm]
      simp [eq_comm]
    · rw [OrdMap.getD_insert_eq]
      split_ifs with same
      · exact some
      · exact placed.nonempty service
          (((OrdMap.mem_insert_eq _ _ _ _).mp known).resolve_left same)
    · rw [OrdMap.getD_insert_eq]
      split_ifs with same
      · exact same ▸ entry id
      · exact placed.sets service
          (((OrdMap.mem_insert_eq _ _ _ _).mp known).resolve_left same) id

/-- The eligible sets after narrowing by the entries of `visited`. -/
structure Narrowed (specs : List ServiceSpec) (visited : List (String × Finset String))
    (before after : Eligibility) : Prop where
  keys : ∀ service, service ∈ after ↔ service ∈ before
  nonempty : ∀ service ∈ after, (after.getD service ∅).Nonempty
  sets : ∀ service id, id ∈ after.getD service ∅ ↔ id ∈ before.getD service ∅ ∧
    ∀ entry ∈ visited, ¬ GlobalVolume specs entry.1 →
      (∃ spec ∈ specs, spec.name = service ∧ Mounts spec entry.1) → id ∈ entry.2

omit reads in
/-- The inner loop of the narrowing: the services of one volume keep its holders only. A service
listed twice is narrowed twice, which changes nothing. -/
theorem narrowServices_spec (volume : String) (machines : Finset String)
    (services : List String) (before : VolumeScheduler.Narrowing)
    (known : ∀ service ∈ services, service ∈ before.eligible)
    (nonempty : ∀ service ∈ before.eligible, (before.eligible.getD service ∅).Nonempty) :
    Ends (services.foldlM (VolumeScheduler.narrowService volume machines) before)
      (fun after => (∀ service, service ∈ after.eligible ↔ service ∈ before.eligible) ∧
        (∀ service ∈ after.eligible, (after.eligible.getD service ∅).Nonempty) ∧
        ∀ service id, id ∈ after.eligible.getD service ∅ ↔
          id ∈ before.eligible.getD service ∅ ∧ (service ∈ services → id ∈ machines))
      (fun fault => Refusal fault ∧ ∃ service ∈ services,
        ∀ id ∈ before.eligible.getD service ∅, id ∉ machines) := by
  refine Ends.foldlM (fun done (after : VolumeScheduler.Narrowing) =>
    (∀ service, service ∈ after.eligible ↔ service ∈ before.eligible) ∧
    (∀ service ∈ after.eligible, (after.eligible.getD service ∅).Nonempty) ∧
    ∀ service id, id ∈ after.eligible.getD service ∅ ↔
      id ∈ before.eligible.getD service ∅ ∧ (service ∈ done → id ∈ machines))
    ⟨fun _ => Iff.rfl, nonempty, by simp⟩ ?_
  rintro done service rest mid split ⟨keys, some, sets⟩
  have listed : service ∈ services := by simp [split]
  have present := (keys service).mpr (known service listed)
  rw [VolumeScheduler.narrowService, OrdMap.index_of_mem present ∅]
  change Ends (if _ ∩ machines = ∅ then _ else _) _ _
  split_ifs with apart
  · have quoted : service ∈ mid.quoted.push service volume :=
      (OrdMap.mem_push _ _ _ _).mpr (.inl rfl)
    rw [OrdMap.index_of_mem quoted []]
    refine ⟨trivial, service, listed, fun id inside held => ?_⟩
    have kept : id ∈ mid.eligible.getD service ∅ := (sets service id).mpr ⟨inside, fun _ => held⟩
    exact Finset.notMem_empty id (apart ▸ Finset.mem_inter.mpr ⟨kept, held⟩)
  · refine ⟨fun other => ?_, fun other present' => ?_, fun other id => ?_⟩
    · exact (OrdMap.mem_insert_of_mem present other _).trans (keys other)
    · rw [OrdMap.getD_insert_eq]
      split_ifs with same
      · exact Finset.nonempty_of_ne_empty apart
      · exact some other ((OrdMap.mem_insert_of_mem present other _).mp present')
    · rw [OrdMap.getD_insert_eq]
      split_ifs with same
      · subst same
        simp only [Finset.mem_inter, sets, mem_append, mem_singleton, or_true,
          forall_const]
        tauto
      · rw [sets]
        simp [Ne.symm same]

variable {initial : Eligibility}

/-- One existing volume narrows its services. -/
theorem narrowVolume_spec {visited : List (String × Finset String)}
    {before : VolumeScheduler.Narrowing} {volume : String} {machines : Finset String}
    (placed : Placed state specs scheduler.serviceSpecs initial)
    (narrowed : Narrowed specs visited initial before.eligible)
    (sound : ∀ entry ∈ visited ++ [(volume, machines)],
      (∃ spec ∈ specs, Mounts spec entry.1) ∧ (coupling state specs).Present entry.1 ∧
        ∀ id, (coupling state specs).holds id entry.1 → id ∈ entry.2) :
    Ends (scheduler.narrowVolume before (volume, machines))
      (fun after => Narrowed specs (visited ++ [(volume, machines)]) initial after.eligible)
      (fun fault => Refusal fault ∧ ¬ Plannable state specs) := by
  have mounted := (sound (volume, machines) (by simp)).1
  refine (reads.isVolumeForGlobalService_spec mounted).seq (fun _ => False.elim)
    fun global globally => ?_
  split_ifs with skip
  · have skipped := globally.mp skip
    refine ⟨narrowed.keys, narrowed.nonempty, fun service id => ?_⟩
    rw [narrowed.sets]
    refine and_congr_right fun _ => ⟨fun all entry member => ?_, fun all entry member => ?_⟩
    · rcases mem_append.mp member with earlier | last
      · exact all entry earlier
      · rw [mem_singleton.mp last]
        exact fun replicated => absurd skipped replicated
    · exact all entry (mem_append_left _ member)
  · have replicated : ¬ GlobalVolume specs volume := fun global => skip (globally.mpr global)
    have services := reads.mem_volumeServices.mpr mounted
    rw [OrdMap.index_of_mem services []]
    have known : ∀ service ∈ scheduler.volumeServices.getD volume [],
        service ∈ before.eligible := by
      intro service inside
      obtain ⟨spec, member, named, mounts⟩ := reads.mem_services.mp inside
      rw [narrowed.keys, placed.keys, ← named]
      exact mem_map_of_mem (reads.mem_serviceSpecs.mpr ⟨member, mounts.mountsAny⟩)
    refine (narrowServices_spec volume machines _ before known narrowed.nonempty).mono
      (fun after ⟨keys, nonempty, sets⟩ => ?_) ?_
    · refine ⟨fun service => (keys service).trans (narrowed.keys service), nonempty,
        fun service id => ?_⟩
      rw [sets, narrowed.sets, and_assoc]
      refine and_congr_right fun _ => ?_
      simp only [mem_append, mem_singleton, or_imp, forall_and, forall_eq,
        reads.mem_services]
      exact and_congr_right fun _ => ⟨fun all _ => all, fun all => all replicated⟩
    · rintro fault ⟨refusal, service, inside, apart⟩
      refine ⟨refusal, fun plannable => ?_⟩
      -- the service is replicated, and every id that suits it was still eligible
      obtain ⟨spec, member, rfl, mounts⟩ := reads.mem_services.mp inside
      have unglobal : ¬ IsGlobal spec := fun global => replicated ⟨spec, member, global, mounts⟩
      have uses : (coupling state specs).uses spec.name volume :=
        ⟨spec, member, rfl, unglobal, mounts⟩
      obtain ⟨id, common⟩ := plannable.common spec.name ⟨volume, uses⟩
      obtain ⟨allowed, suits⟩ := Coupling.common_subset_fit _ common
      have eligible : id ∈ before.eligible.getD spec.name ∅ := by
        refine (narrowed.sets _ _).mpr ⟨?_, fun entry earlier _ mounted' => ?_⟩
        · exact (placed.sets _ ((narrowed.keys _).mp (known _ inside)) _).mpr allowed
        · obtain ⟨other, member', named, mounts'⟩ := mounted'
          obtain ⟨_, present, holders⟩ := sound entry (mem_append_left _ earlier)
          rw [reads.spec_eq member' member named] at mounts'
          exact holders id (suits entry.1 ⟨spec, member, rfl, unglobal, mounts'⟩ present)
      obtain ⟨_, present, holders⟩ := sound (volume, machines) (by simp)
      exact apart id eligible (holders id (suits volume uses present))

/-- All existing volumes narrow their services. -/
theorem narrowing_spec (visit : VisitOrder)
    (placed : Placed state specs scheduler.serviceSpecs initial) :
    Ends ((visit.narrowing scheduler.existingVolumeMachines.toList).foldlM
        (VolumeScheduler.narrowVolume scheduler) ⟨∅, initial⟩)
      (fun after => Narrowed specs scheduler.existingVolumeMachines.toList initial after.eligible)
      (fun fault => Refusal fault ∧ ¬ Plannable state specs) := by
  let visited := visit.narrowing scheduler.existingVolumeMachines.toList
  have perm : visited.Perm scheduler.existingVolumeMachines.toList := visit.narrowing_perm _
  have sound : ∀ entry ∈ visited, (∃ spec ∈ specs, Mounts spec entry.1) ∧
      (coupling state specs).Present entry.1 ∧
        ∀ id, (coupling state specs).holds id entry.1 → id ∈ entry.2 := by
    rintro ⟨volume, machines⟩ inside
    have found := OrdMap.mem_toList.mp (perm.mem_iff.mp inside)
    have known : volume ∈ scheduler.existingVolumeMachines := by
      rw [← Std.ExtTreeMap.isSome_getElem?_iff_mem, found]
      rfl
    obtain ⟨mounted, present⟩ := reads.mem_existing.mp known
    refine ⟨mounted, present, fun id holds => ?_⟩
    rw [OrdMap.getElem?_of_mem known ∅] at found
    rw [← Option.some.inj found]
    exact reads.mem_holders.mpr ⟨mounted, holds⟩
  have loop : Ends (visited.foldlM (VolumeScheduler.narrowVolume scheduler) ⟨∅, initial⟩)
      (fun after => Narrowed specs visited initial after.eligible)
      (fun fault => Refusal fault ∧ ¬ Plannable state specs) := by
    refine Ends.foldlM (fun done (after : VolumeScheduler.Narrowing) =>
      Narrowed specs done initial after.eligible) ⟨fun _ => Iff.rfl, placed.nonempty, by simp⟩ ?_
    rintro done ⟨volume, machines⟩ rest before split narrowed
    refine reads.narrowVolume_spec placed narrowed fun entry member => sound entry ?_
    rw [split, append_cons]
    exact mem_append_left _ member
  refine loop.mono (fun after narrowed => ⟨narrowed.keys, narrowed.nonempty, ?_⟩) fun _ bad => bad
  intro service id
  rw [narrowed.sets]
  simp only [perm.mem_iff]

/-- The eligible sets when narrowing is done: what suits each service by itself. -/
structure Fitted (state : ClusterState) (specs : List ServiceSpec) (eligible : Eligibility) :
    Prop where
  keys : ∀ spec ∈ specs, mountsAny spec → spec.name ∈ eligible
  replicated : ∀ service, (coupling state specs).User service →
    ∀ id, id ∈ eligible.getD service ∅ ↔ id ∈ (coupling state specs).fit service
  everywhere : ∀ spec ∈ specs, IsGlobal spec → mountsAny spec →
    ∀ id, id ∈ eligible.getD spec.name ∅ ↔ id ∈ (coupling state specs).allowed spec.name
  nonempty : ∀ spec ∈ specs, mountsAny spec → (eligible.getD spec.name ∅).Nonempty

theorem fitted {after : Eligibility} (placed : Placed state specs scheduler.serviceSpecs initial)
    (narrowed : Narrowed specs scheduler.existingVolumeMachines.toList initial after)
    (unmixed : ∀ volume, ¬ Mixed specs volume) : Fitted state specs after := by
  have present : ∀ spec ∈ specs, mountsAny spec → spec.name ∈ initial := by
    intro spec member mounting
    rw [placed.keys]
    exact mem_map_of_mem (reads.mem_serviceSpecs.mpr ⟨member, mounting⟩)
  have present' : ∀ spec ∈ specs, mountsAny spec → spec.name ∈ after :=
    fun spec member mounting => (narrowed.keys _).mpr (present spec member mounting)
  refine ⟨present', ?_, ?_, fun spec member mounting =>
    narrowed.nonempty _ (present' spec member mounting)⟩
  · rintro service ⟨volume, spec, member, rfl, replicated, mounts⟩ id
    rw [narrowed.sets, placed.sets _ (present spec member mounts.mountsAny)]
    refine and_congr_right fun _ => ⟨fun all other uses found => ?_, fun suits entry inside => ?_⟩
    · obtain ⟨owner, member', named, _, mounts'⟩ := uses
      have known := reads.mem_existing.mpr ⟨⟨owner, member', mounts'⟩, found⟩
      have entry := OrdMap.mem_toList.mpr (OrdMap.getElem?_of_mem known ∅)
      have single : ¬ GlobalVolume specs other := fun global => unmixed other
        ⟨global, spec, member, replicated, reads.spec_eq member' member named ▸ mounts'⟩
      exact (reads.mem_holders.mp (all _ entry single ⟨owner, member', named, mounts'⟩)).2
    · rintro single ⟨owner, member', named, mounts'⟩
      have found := OrdMap.mem_toList.mp inside
      have known : entry.1 ∈ scheduler.existingVolumeMachines := by
        rw [← Std.ExtTreeMap.isSome_getElem?_iff_mem, found]
        rfl
      have uses : (coupling state specs).uses spec.name entry.1 :=
        ⟨spec, member, rfl, replicated, reads.spec_eq member' member named ▸ mounts'⟩
      have holds := suits entry.1 uses (reads.mem_existing.mp known).2
      rw [OrdMap.getElem?_of_mem known ∅] at found
      rw [← Option.some.inj found]
      exact reads.mem_holders.mpr ⟨⟨owner, member', mounts'⟩, holds⟩
  · intro spec member global mounting id
    rw [narrowed.sets, placed.sets _ (present spec member mounting)]
    refine and_iff_left_of_imp fun _ entry _ single mounted => ?_
    obtain ⟨owner, member', named, mounts⟩ := mounted
    exact absurd ⟨spec, member, global, reads.spec_eq member' member named ▸ mounts⟩ single

/-- The volumes that need no placing: the existing ones and those of global services. -/
def Settles (state : ClusterState) (specs : List ServiceSpec) (placed : Finset String) : Prop :=
  ∀ volume, volume ∈ placed ↔ (∃ spec ∈ specs, Mounts spec volume) ∧
    (GlobalVolume specs volume ∨ (coupling state specs).Present volume)

theorem existingPlaced_spec : Ends scheduler.existingPlaced
    (fun placed => ∀ volume, volume ∈ placed ↔ (∃ spec ∈ specs, Mounts spec volume) ∧
      (coupling state specs).Present volume ∧ ¬ GlobalVolume specs volume)
    (fun _ => False) := by
  have loop : Ends scheduler.existingPlaced (fun placed => ∀ volume, volume ∈ placed ↔
      volume ∈ scheduler.existingVolumeMachines.toList.map Prod.fst ∧ ¬ GlobalVolume specs volume)
      (fun _ => False) := by
    refine Ends.foldlM (fun (done : List (String × Finset String)) (placed : Finset String) =>
      ∀ volume, volume ∈ placed ↔ volume ∈ done.map Prod.fst ∧ ¬ GlobalVolume specs volume)
      (by simp) ?_
    intro done entry rest placed split held
    have listed : entry.1 ∈ scheduler.existingVolumeMachines :=
      OrdMap.mem_map_fst_toList.mp (mem_map_of_mem (by simp [split]))
    refine (reads.isVolumeForGlobalService_spec (reads.mem_existing.mp listed).1).bind
      fun global globally volume => ?_
    split_ifs with skip
    · rw [held, map_append, mem_append, map_singleton, mem_singleton, or_and_right]
      refine (or_iff_left ?_).symm
      rintro ⟨rfl, replicated⟩
      exact replicated (globally.mp skip)
    · rw [Finset.mem_insert, held, map_append, mem_append, map_singleton,
        mem_singleton, or_and_right, or_comm]
      refine or_congr_right ⟨fun same => ⟨same, ?_⟩, And.left⟩
      rw [same]
      exact fun global => skip (globally.mpr global)
  refine loop.mono (fun placed held volume => ?_) fun _ => id
  rw [held, OrdMap.mem_map_fst_toList, reads.mem_existing, and_assoc]

/-- The checks settle which volumes are placed. -/
theorem checking_spec (visit : VisitOrder) {placed : Finset String}
    (existing : ∀ volume, volume ∈ placed ↔ (∃ spec ∈ specs, Mounts spec volume) ∧
      (coupling state specs).Present volume ∧ ¬ GlobalVolume specs volume) :
    Ends ((visit.checking scheduler.volumeSpecs.toList).foldlM
        (VolumeScheduler.checkVolume scheduler) placed)
      (fun placed => Settles state specs placed ∧ ∀ volume, ¬ Mixed specs volume)
      (fun fault => Refusal fault ∧ ¬ Plannable state specs) := by
  let visited := visit.checking scheduler.volumeSpecs.toList
  have perm : visited.Perm scheduler.volumeSpecs.toList := visit.checking_perm _
  have listed : ∀ volume, volume ∈ visited.map Prod.fst ↔ ∃ spec ∈ specs, Mounts spec volume := by
    intro volume
    rw [(perm.map Prod.fst).mem_iff, OrdMap.mem_map_fst_toList, reads.mem_volumeSpecs]
  have loop : Ends (visited.foldlM (VolumeScheduler.checkVolume scheduler) placed)
      (fun after => ∀ volume, (volume ∈ after ↔ volume ∈ placed ∨
        volume ∈ visited.map Prod.fst ∧ GlobalVolume specs volume) ∧
        (volume ∈ visited.map Prod.fst → ¬ Mixed specs volume))
      (fun fault => Refusal fault ∧ ¬ Plannable state specs) := by
    refine Ends.foldlM (fun (done : List (String × VolumeSpec)) (after : Finset String) =>
      ∀ volume, (volume ∈ after ↔ volume ∈ placed ∨
        volume ∈ done.map Prod.fst ∧ GlobalVolume specs volume) ∧
        (volume ∈ done.map Prod.fst → ¬ Mixed specs volume)) (by simp) ?_
    intro done entry rest before split held
    have mounted := (listed entry.1).mp (mem_map_of_mem (by simp [visited, split]))
    refine (reads.isVolumeShared_spec mounted).seq (fun _ => False.elim) fun mixed mixing => ?_
    split_ifs with refused
    · exact ⟨trivial, fun plannable => plannable.unmixed entry.1 (mixing.mp refused)⟩
    · refine (reads.isVolumeForGlobalService_spec mounted).seq (fun _ => False.elim)
        fun global globally volume => ?_
      rw [map_append, map_singleton, mem_append, mem_singleton]
      refine ⟨?_, fun inside => ?_⟩
      · split_ifs with everywhere
        · rw [Finset.mem_insert, (held volume).1]
          have := globally.mp everywhere
          constructor
          · rintro (rfl | old | ⟨inside, global⟩)
            · exact .inr ⟨.inr rfl, this⟩
            · exact .inl old
            · exact .inr ⟨.inl inside, global⟩
          · rintro (old | ⟨inside | rfl, global⟩)
            · exact .inr (.inl old)
            · exact .inr (.inr ⟨inside, global⟩)
            · exact .inl rfl
        · rw [(held volume).1]
          refine or_congr_right ⟨fun ⟨inside, global⟩ => ⟨.inl inside, global⟩, ?_⟩
          rintro ⟨inside | rfl, global⟩
          · exact ⟨inside, global⟩
          · exact absurd (globally.mpr global) everywhere
      · rcases inside with earlier | rfl
        · exact (held volume).2 earlier
        · exact fun bad => refused (mixing.mpr bad)
  refine loop.mono (fun after held => ⟨fun volume => ?_, fun volume mixed => ?_⟩) fun _ bad => bad
  · rw [(held volume).1, listed, existing, ← and_or_left]
    refine and_congr_right fun _ => ?_
    by_cases global : GlobalVolume specs volume <;> simp [global]
  · obtain ⟨spec, member, _, mounts⟩ := mixed.1
    exact (held volume).2 ((listed volume).mpr ⟨spec, member, mounts⟩) mixed

end Reads

end Ployz.Scheduler
