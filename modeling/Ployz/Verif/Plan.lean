import Ployz.Verif.Stages

/-!
# Planning solves the placement problem

Propagation leaves each replicated service the machines common to everything it is joined to.
From there every volume is placed on the least of them: a choice made for one volume is the
least machine of its whole component, so it never takes away the choice of a later one.
-/

namespace Ployz.Scheduler

open Api VolumeScheduler List

open Classical in
/-- The specs of the volumes that go to one machine, in the order the volumes are listed. -/
noncomputable def plannedOn (state : ClusterState) (specs : List ServiceSpec)
    (entries : List (String × VolumeSpec)) (id : String) : List VolumeSpec :=
  (entries.filter fun entry => IsTarget state specs id entry.1).map Prod.snd

open Classical in
theorem plannedOn_append (state : ClusterState) (specs : List ServiceSpec)
    (entries : List (String × VolumeSpec)) (entry : String × VolumeSpec) (id : String) :
    plannedOn state specs (entries ++ [entry]) id = plannedOn state specs entries id ++
      if IsTarget state specs id entry.1 then [entry.2] else [] := by
  by_cases target : IsTarget state specs id entry.1 <;> simp [plannedOn, target]

variable {service : String}

theorem exists_isLeast_common {state : ClusterState} {specs : List ServiceSpec}
    (some : ((coupling state specs).common service).Nonempty) :
    ∃ id, IsLeast ((coupling state specs).common service) id := by
  have finite : ((coupling state specs).common service).Finite := by
    refine Set.Finite.subset (finite_toSet (state.machines.map (·.info.id))) ?_
    intro id common
    obtain ⟨_, _, _, machine, member, rfl, _⟩ := (Coupling.common_subset_fit _ common).1
    exact mem_map.mpr ⟨machine, member, rfl⟩
  obtain ⟨id, member, least⟩ := Set.exists_min_image _ (fun id => id) finite some
  exact ⟨id, member, least⟩

variable {machine : String}

section Targets

variable {state : ClusterState} {specs : List ServiceSpec} {volume : String}

theorem isTarget_iff_of_global (unmixed : ¬ Mixed specs volume)
    (global : GlobalVolume specs volume) (id : String) :
    IsTarget state specs id volume ↔ (∃ spec ∈ specs, IsGlobal spec ∧ Mounts spec volume ∧
      id ∈ (coupling state specs).allowed spec.name) ∧ ¬ (coupling state specs).holds id volume := by
  constructor
  · rintro (⟨spec, member, everywhere, mounts, allowed, missing⟩ | ⟨_, service, uses, _⟩)
    · exact ⟨⟨spec, member, everywhere, mounts, allowed⟩, missing⟩
    · obtain ⟨spec, member, _, replicated, mounts⟩ := uses
      exact absurd ⟨global, spec, member, replicated, mounts⟩ unmixed
  · rintro ⟨⟨spec, member, everywhere, mounts, allowed⟩, missing⟩
    exact .inl ⟨spec, member, everywhere, mounts, allowed, missing⟩

theorem not_isTarget_of_present (single : ¬ GlobalVolume specs volume)
    (present : (coupling state specs).Present volume) (id : String) :
    ¬ IsTarget state specs id volume := by
  rintro (⟨spec, member, global, mounts, _⟩ | ⟨absent, _⟩)
  · exact single ⟨spec, member, global, mounts⟩
  · exact absent present

theorem isTarget_iff_of_missing (single : ¬ GlobalVolume specs volume)
    (absent : ¬ (coupling state specs).Present volume)
    (uses : (coupling state specs).uses service volume)
    (least : IsLeast ((coupling state specs).common service) machine) (id : String) :
    IsTarget state specs id volume ↔ id = machine := by
  constructor
  · rintro (⟨spec, member, global, mounts, _⟩ | ⟨_, other, uses', least'⟩)
    · exact absurd ⟨spec, member, global, mounts⟩ single
    · rw [Coupling.common_eq_of_linked ⟨volume, absent, uses', uses⟩] at least'
      exact least'.unique least
  · rintro rfl
    exact .inr ⟨absent, service, uses, least⟩

end Targets

namespace Reads

variable {order : HashOrder} {state : ClusterState} {specs : List ServiceSpec}
  {scheduler : VolumeScheduler} (reads : Reads order state specs scheduler)

include reads

variable {placed : Finset String} {other : String}

theorem linked_of_couples {settled : Finset String} (settles : Settles state specs settled)
    (more : settled ⊆ placed) (couples : Couples scheduler placed service other) :
    (coupling state specs).Linked service other := by
  obtain ⟨volume, services, found, unplaced, inside, inside'⟩ := couples
  obtain ⟨mounted, listed⟩ := reads.services_of_getElem? found
  have unsettled := mt (settles volume).mpr (fun member => unplaced (more member))
  have single : ¬ GlobalVolume specs volume := fun global => unsettled ⟨mounted, .inl global⟩
  have uses : ∀ name ∈ services, (coupling state specs).uses name volume := by
    intro name listed'
    obtain ⟨spec, member, named, mounts⟩ := (listed name).mp listed'
    exact ⟨spec, member, named, fun global => single ⟨spec, member, global, mounts⟩, mounts⟩
  exact ⟨volume, fun present => unsettled ⟨mounted, .inr present⟩, uses _ inside, uses _ inside'⟩

theorem couples_of_linked (settles : Settles state specs placed)
    (unmixed : ∀ volume, ¬ Mixed specs volume)
    (linked : (coupling state specs).Linked service other) :
    Couples scheduler placed service other := by
  obtain ⟨volume, absent, ⟨spec, member, named, replicated, mounts⟩, ⟨spec', member', named', _,
    mounts'⟩⟩ := linked
  have known := reads.mem_volumeServices.mpr ⟨spec, member, mounts⟩
  refine ⟨volume, _, OrdMap.getElem?_of_mem known [], fun inside => ?_,
    reads.mem_services.mpr ⟨spec, member, named, mounts⟩,
    reads.mem_services.mpr ⟨spec', member', named', mounts'⟩⟩
  rcases ((settles volume).mp inside).2 with global | present
  · exact unmixed volume ⟨global, spec, member, replicated, mounts⟩
  · exact absent present

variable {eligible : Eligibility}

/-- Every service that mounts a volume has an entry in fitted sets. -/
theorem covers (keys : ∀ spec ∈ specs, mountsAny spec → spec.name ∈ eligible) :
    Covers scheduler eligible := by
  intro volume services found service inside
  obtain ⟨spec, member, rfl, mounts⟩ := ((reads.services_of_getElem? found).2 service).mp inside
  exact keys spec member mounts.mountsAny

/-- The eligible sets when propagation is done: what suits everything a service is joined to. -/
structure Balanced (state : ClusterState) (specs : List ServiceSpec) (eligible : Eligibility) :
    Prop where
  keys : ∀ spec ∈ specs, mountsAny spec → spec.name ∈ eligible
  replicated : ∀ service, (coupling state specs).User service →
    ∀ id, id ∈ eligible.getD service ∅ ↔ id ∈ (coupling state specs).common service
  everywhere : ∀ spec ∈ specs, IsGlobal spec → mountsAny spec →
    ∀ id, id ∈ eligible.getD spec.name ∅ ↔ id ∈ (coupling state specs).allowed spec.name
  common : ∀ service, (coupling state specs).User service →
    ((coupling state specs).common service).Nonempty

/-- The first propagation finds the common machines, or a component without one. -/
theorem propagation_spec (visit : VisitOrder) {fitting : Eligibility}
    (fitted : Fitted state specs fitting) (settles : Settles state specs placed)
    (unmixed : ∀ volume, ¬ Mixed specs volume) :
    Ends (propagateConstraints visit scheduler placed fitting) (Balanced state specs)
      (fun fault => Refusal fault ∧ ¬ Plannable state specs) := by
  let c := coupling state specs
  -- what no propagation can lose: the common machines, and all machines of the other services
  let lower : String → Set String := fun service =>
    {id | id ∈ fitting.getD service ∅ ∧ (c.User service → id ∈ c.common service)}
  have lower_user : ∀ service, c.User service → lower service = c.common service := by
    intro service user
    ext id
    refine ⟨fun inside => inside.2 user, fun common => ⟨?_, fun _ => common⟩⟩
    exact (fitted.replicated service user id).mpr (Coupling.common_subset_fit service common)
  have even : ∀ service other, Couples scheduler placed service other →
      lower service = lower other := by
    intro service other couples
    have linked := reads.linked_of_couples settles (Finset.Subset.refl _) couples
    rw [lower_user _ linked.symm.user, lower_user _ linked.user,
      Coupling.common_eq_of_linked linked]
  refine (propagateConstraints_spec visit fitting (reads.covers fitted.keys)
    (fun service id inside => inside.1) even).mono ?_ ?_
  · rintro after ⟨shrinks, kept, settled⟩
    have found : ∀ service, c.User service →
        ∀ id, id ∈ after.getD service ∅ ↔ id ∈ c.common service := by
      intro service user id
      constructor
      · intro inside
        refine Coupling.subset_common (fun name => {id | id ∈ after.getD name ∅}) ?_ ?_ inside
        · intro other joined id inside
          exact (fitted.replicated other (joined.user user) id).mp (shrinks.subset other inside)
        · intro left right linked
          simp only [(settled left right (reads.couples_of_linked settles unmixed linked)).1]
      · intro common
        exact kept service (lower_user service user ▸ common)
    refine ⟨fun spec member mounting => (shrinks.keys _).mpr (fitted.keys spec member mounting),
      found, fun spec member global mounting id => ?_, fun service user => ?_⟩
    · rw [← fitted.everywhere spec member global mounting]
      refine ⟨fun inside => shrinks.subset _ inside, fun inside => kept _ ⟨inside, fun user => ?_⟩⟩
      exact absurd global (reads.not_isGlobal member user)
    · by_cases linked : c.Linked service service
      · obtain ⟨id, inside⟩ :=
          (settled _ _ (reads.couples_of_linked settles unmixed linked)).2
        exact ⟨id, (found service user id).mp inside⟩
      · rw [Coupling.common_eq_fit_of_not_linked linked]
        obtain ⟨volume, spec, member, rfl, replicated, mounts⟩ := user
        obtain ⟨id, inside⟩ := fitted.nonempty spec member mounts.mountsAny
        exact ⟨id, (fitted.replicated _ ⟨volume, spec, member, rfl, replicated, mounts⟩ id).mp
          inside⟩
  · rintro fault ⟨volume, services, rfl, found, unplaced, service, inside, starved⟩
    refine ⟨trivial, fun plannable => ?_⟩
    have linked := reads.linked_of_couples settles (Finset.Subset.refl _)
      ⟨volume, services, found, unplaced, inside, inside⟩
    rw [lower_user service linked.user] at starved
    exact (plannable.common service linked.user).ne_empty starved

/-- What the placing loop has done after the volumes of `done`. Each replicated service keeps
the least of its common machines, and nothing but common machines. -/
structure PlacingHolds (state : ClusterState) (specs : List ServiceSpec) (settled : Finset String)
    (done : List (String × VolumeSpec)) (now : Placing) : Prop where
  keys : ∀ spec ∈ specs, mountsAny spec → spec.name ∈ now.eligible
  placed : settled ⊆ now.placed
  keeps : ∀ service, (coupling state specs).User service →
    ∀ id, IsLeast ((coupling state specs).common service) id → id ∈ now.eligible.getD service ∅
  within : ∀ service, (coupling state specs).User service →
    ∀ id ∈ now.eligible.getD service ∅, id ∈ (coupling state specs).common service
  everywhere : ∀ spec ∈ specs, IsGlobal spec → mountsAny spec →
    ∀ id, id ∈ now.eligible.getD spec.name ∅ ↔ id ∈ (coupling state specs).allowed spec.name
  occupied : OrdMap.Occupied now.scheduled
  scheduled : ∀ id, now.scheduled.getD id [] = plannedOn state specs done id

variable {settled : Finset String} {done : List (String × VolumeSpec)} {before : Placing}
  {entry : String × VolumeSpec} {services : List String}

/-- Fixing the least common machine for the services of a missing volume and propagating it
loses no other least machine, so it cannot fail. -/
theorem placeOn_spec (visit : VisitOrder) (settles : Settles state specs settled)
    (plannable : Plannable state specs) (held : PlacingHolds state specs settled done before)
    (known : ∀ service ∈ services, service ∈ before.eligible)
    (least : ∀ service ∈ services, (coupling state specs).User service ∧
      IsLeast ((coupling state specs).common service) machine)
    (target : ∀ id, IsTarget state specs id entry.1 ↔ id = machine) :
    Ends (placeOn visit scheduler before entry services machine)
      (PlacingHolds state specs settled (done ++ [entry])) (fun _ => False) := by
  let c := coupling state specs
  let chosen := services.foldl (fun (eligible : Eligibility) service =>
    eligible.insert service {machine}) before.eligible
  have sets : ∀ service, chosen.getD service ∅ =
      if service ∈ services then {machine} else before.eligible.getD service ∅ :=
    fun service => OrdMap.getD_foldl_insert services before.eligible {machine} service ∅
  have chosenKeys : ∀ service, service ∈ chosen ↔ service ∈ before.eligible :=
    OrdMap.mem_foldl_insert {machine} known
  let lower : String → Set String := fun service =>
    {id | id ∈ chosen.getD service ∅ ∧ (c.User service → IsLeast (c.common service) id)}
  have least_mem : ∀ service, c.User service → ∀ id, IsLeast (c.common service) id →
      id ∈ chosen.getD service ∅ := by
    intro service user id isLeast
    rw [sets]
    split_ifs with inside
    · exact Finset.mem_singleton.mpr (isLeast.unique (least service inside).2)
    · exact held.keeps service user id isLeast
  have lower_user : ∀ service, c.User service →
      lower service = {id | IsLeast (c.common service) id} := by
    intro service user
    ext id
    exact ⟨fun inside => inside.2 user, fun isLeast =>
      ⟨least_mem service user id isLeast, fun _ => isLeast⟩⟩
  have linked : ∀ service other, Couples scheduler (insert entry.1 before.placed) service other →
      c.Linked service other := fun service other =>
    reads.linked_of_couples settles (held.placed.trans (Finset.subset_insert _ _))
  have even : ∀ service other, Couples scheduler (insert entry.1 before.placed) service other →
      lower service = lower other := by
    intro service other couples
    have link := linked service other couples
    rw [lower_user _ link.symm.user, lower_user _ link.user, Coupling.common_eq_of_linked link]
  have keys : ∀ spec ∈ specs, mountsAny spec → spec.name ∈ chosen :=
    fun spec member mounting => (chosenKeys _).mpr (held.keys spec member mounting)
  have propagated := propagateConstraints_spec visit chosen (reads.covers keys)
    (fun service id inside => inside.1) even
  rw [placeOn]
  change Ends (Exec.mapErr _ (propagateConstraints visit scheduler _ chosen) >>= _) _ _
  cases outcome : propagateConstraints visit scheduler (insert entry.1 before.placed) chosen with
  | error fault =>
    obtain ⟨volume, others, _, found, unplaced, service, inside, starved⟩ :=
      propagated.of_error outcome
    have link := linked _ _ ⟨volume, others, found, unplaced, inside, inside⟩
    obtain ⟨id, isLeast⟩ := exists_isLeast_common (plannable.common service link.user)
    rw [lower_user service link.user] at starved
    exact absurd isLeast (Set.eq_empty_iff_forall_notMem.mp starved id)
  | ok after =>
    obtain ⟨shrinks, kept, _⟩ := propagated.of_ok outcome
    refine ⟨fun spec member mounting => (shrinks.keys _).mpr (keys spec member mounting),
      held.placed.trans (Finset.subset_insert _ _), fun service user id isLeast => ?_,
      fun service user id inside => ?_, fun spec member global mounting id => ?_,
      held.occupied.push machine entry.2, fun id => ?_⟩
    · exact kept service (lower_user service user ▸ isLeast)
    · have inside' := shrinks.subset service inside
      rw [sets] at inside'
      split_ifs at inside' with listed
      · rw [Finset.mem_singleton.mp inside']
        exact (least service listed).2.1
      · exact held.within service user id inside'
    · have foreign : spec.name ∉ services := fun listed =>
        reads.not_isGlobal member (least _ listed).1 global
      have unchanged : chosen.getD spec.name ∅ = before.eligible.getD spec.name ∅ := by
        rw [sets, if_neg foreign]
      rw [← held.everywhere spec member global mounting, ← unchanged]
      refine ⟨fun inside => shrinks.subset _ inside, fun inside => kept _ ⟨inside, fun user => ?_⟩⟩
      exact absurd global (reads.not_isGlobal member user)
    · rw [OrdMap.getD_push, held.scheduled, plannedOn_append]
      simp only [target]
      split_ifs with same other other
      · rfl
      · exact absurd same.symm other
      · exact absurd other.symm same
      · rw [append_nil]

omit reads in
theorem unionEligible_spec (known : ∀ service ∈ services, service ∈ eligible) :
    Ends (unionEligible eligible services)
      (fun ids => ∀ id, id ∈ ids ↔ ∃ service ∈ services, id ∈ eligible.getD service ∅)
      (fun _ => False) := by
  refine Ends.foldlM (fun done (ids : Finset String) => ∀ id, id ∈ ids ↔
    ∃ service ∈ done, id ∈ eligible.getD service ∅) (by simp) ?_
  intro done service rest ids split held
  rw [OrdMap.index_of_mem (known service (by simp [split])) ∅]
  intro id
  rw [Finset.mem_union, held]
  simp only [mem_append, mem_singleton, or_and_right, exists_or, exists_eq_left]

/-- A global volume is placed on the machines of its services. -/
theorem placeEverywhere_spec (plannable : Plannable state specs)
    (held : PlacingHolds state specs settled done before) (global : GlobalVolume specs entry.1)
    {machines : Finset String}
    (union : ∀ id, id ∈ machines ↔ ∃ spec ∈ specs, IsGlobal spec ∧ Mounts spec entry.1 ∧
      id ∈ (coupling state specs).allowed spec.name) :
    PlacingHolds state specs settled (done ++ [entry])
      { before with
        scheduled := placeEverywhere scheduler.existingVolumeMachines[entry.1]? entry.2 machines
          before.scheduled
        placed := insert entry.1 before.placed } := by
  have passes : ∀ id, (scheduler.existingVolumeMachines[entry.1]?.any (id ∈ ·) = false) ↔
      ¬ (coupling state specs).holds id entry.1 := by
    intro id
    obtain ⟨spec, member, _, mounts⟩ := global
    have holders : id ∈ scheduler.existingVolumeMachines.getD entry.1 ∅ ↔ _ :=
      reads.mem_holders
    by_cases known : entry.1 ∈ scheduler.existingVolumeMachines
    · rw [OrdMap.getElem?_of_mem known ∅]
      simp only [Option.any_some, decide_eq_false_iff_not, holders]
      exact not_congr (and_iff_right ⟨spec, member, mounts⟩)
    · rw [Std.ExtTreeMap.getD_eq_fallback known] at holders
      rw [Std.ExtTreeMap.getElem?_eq_none known]
      simp only [Option.any_none, true_iff]
      exact fun holds => Finset.notMem_empty id (holders.mpr ⟨⟨spec, member, mounts⟩, holds⟩)
  refine { held with
    placed := held.placed.trans (Finset.subset_insert _ _)
    occupied := held.occupied.foldl_push _ _ _, scheduled := fun id => ?_ }
  change (placeEverywhere _ _ _ _).getD id [] = _
  rw [placeEverywhere, OrdMap.getD_foldl_push _ (nodup_ascending _), held.scheduled,
    plannedOn_append]
  have same : id ∈ ascending machines ∧
      scheduler.existingVolumeMachines[entry.1]?.any (id ∈ ·) = false ↔
        IsTarget state specs id entry.1 := by
    rw [mem_ascending, union, passes, isTarget_iff_of_global (plannable.unmixed _) global]
  by_cases target : IsTarget state specs id entry.1
  · rw [if_pos target, if_pos (same.mpr target)]
  · rw [if_neg target, if_neg (mt same.mp target)]

/-- One volume is placed. -/
theorem placeVolume_spec (visit : VisitOrder) (settles : Settles state specs settled)
    (plannable : Plannable state specs) (held : PlacingHolds state specs settled done before)
    (mounted : ∃ spec ∈ specs, Mounts spec entry.1) :
    Ends (placeVolume visit scheduler before entry)
      (PlacingHolds state specs settled (done ++ [entry])) (fun _ => False) := by
  let c := coupling state specs
  have known : ∀ service ∈ scheduler.volumeServices.getD entry.1 [],
      service ∈ before.eligible := by
    intro service inside
    obtain ⟨spec, member, rfl, mounts⟩ := reads.mem_services.mp inside
    exact held.keys spec member mounts.mountsAny
  have listed : ∀ service, service ∈ scheduler.volumeServices.getD entry.1 [] ↔ _ :=
    fun _ => reads.mem_services
  rw [placeVolume, OrdMap.index_of_mem (reads.mem_volumeServices.mpr mounted) []]
  cases services : scheduler.volumeServices.getD entry.1 [] with
  | nil =>
    obtain ⟨spec, member, mounts⟩ := mounted
    have inside := (listed spec.name).mpr ⟨spec, member, rfl, mounts⟩
    rw [services] at inside
    exact absurd inside not_mem_nil
  | cons first rest =>
    rw [services] at known listed
    refine (reads.isVolumeForGlobalService_spec mounted).bind fun global globally => ?_
    cases global with
    | true =>
      have everywhere := globally.mp rfl
      -- unmixed: every service of the volume is a global one
      have globals : ∀ spec ∈ specs, Mounts spec entry.1 → IsGlobal spec := by
        intro spec member mounts
        by_contra replicated
        exact plannable.unmixed _ ⟨everywhere, spec, member, replicated, mounts⟩
      refine (unionEligible_spec known).bind fun machines union => ?_
      have union' : ∀ id, id ∈ machines ↔ ∃ spec ∈ specs, IsGlobal spec ∧ Mounts spec entry.1 ∧
          id ∈ c.allowed spec.name := by
        intro id
        rw [union]
        constructor
        · rintro ⟨service, inside, eligible⟩
          obtain ⟨spec, member, rfl, mounts⟩ := (listed service).mp inside
          have global := globals spec member mounts
          exact ⟨spec, member, global, mounts,
            (held.everywhere spec member global mounts.mountsAny id).mp eligible⟩
        · rintro ⟨spec, member, global, mounts, allowed⟩
          exact ⟨spec.name, (listed _).mpr ⟨spec, member, rfl, mounts⟩,
            (held.everywhere spec member global mounts.mountsAny id).mpr allowed⟩
      have some : machines.Nonempty := by
        obtain ⟨spec, member, global, mounts⟩ := everywhere
        obtain ⟨machine, inside, allows⟩ := plannable.placeable spec member mounts.mountsAny
        exact ⟨machine.info.id, (union' _).mpr ⟨spec, member, global, mounts, spec, member, rfl,
          machine, inside, rfl, allows⟩⟩
      change Ends (placeAmong visit scheduler before entry (first :: rest) true machines) _ _
      rw [placeAmong, dif_pos some]
      exact reads.placeEverywhere_spec plannable held everywhere union'
    | false =>
      have single : ¬ GlobalVolume specs entry.1 := fun global =>
        Bool.false_ne_true (globally.mpr global)
      have uses : ∀ service ∈ first :: rest, c.uses service entry.1 := by
        intro service inside
        obtain ⟨spec, member, named, mounts⟩ := (listed service).mp inside
        exact ⟨spec, member, named, fun global => single ⟨spec, member, global, mounts⟩, mounts⟩
      have user : c.User first := ⟨entry.1, uses first mem_cons_self⟩
      obtain ⟨machine, least⟩ := exists_isLeast_common (plannable.common first user)
      have inside := held.keeps first user machine least
      have some : (before.eligible.getD first ∅).Nonempty := ⟨machine, inside⟩
      have chosen : (before.eligible.getD first ∅).min' some = machine := by
        refine le_antisymm (Finset.min'_le _ _ inside) ?_
        exact least.2 (held.within first user _ (Finset.min'_mem _ _))
      simp only [Bool.false_eq_true, ↓reduceIte]
      rw [OrdMap.index_of_mem (known first mem_cons_self) ∅]
      change Ends (placeAmong visit scheduler before entry (first :: rest) false _) _ _
      rw [placeAmong, dif_pos some, chosen]
      simp only [Bool.false_eq_true, ↓reduceIte]
      by_cases present : c.Present entry.1
      · have exists' := reads.mem_existing.mpr ⟨mounted, present⟩
        rw [OrdMap.getElem?_of_mem exists' ∅]
        simp only [Option.any_some, decide_eq_true ((reads.occupied _).mp exists').ne_empty,
          ↓reduceIte]
        refine { held with scheduled := fun id => ?_ }
        rw [plannedOn_append, if_neg (not_isTarget_of_present single present id),
          append_nil]
        exact held.scheduled id
      · have unknown : entry.1 ∉ scheduler.existingVolumeMachines := fun inside =>
          present (reads.mem_existing.mp inside).2
        rw [Std.ExtTreeMap.getElem?_eq_none unknown]
        simp only [Option.any_none, Bool.false_eq_true, ↓reduceIte]
        refine reads.placeOn_spec visit settles plannable held known (fun service inside => ?_) ?_
        · refine ⟨⟨entry.1, uses service inside⟩, ?_⟩
          have linked : c.Linked service first :=
            ⟨entry.1, present, uses service inside, uses first mem_cons_self⟩
          exact Coupling.common_eq_of_linked linked ▸ least
        · exact isTarget_iff_of_missing single present (uses first mem_cons_self) least

/-- All volumes are placed. -/
theorem placing_spec (visit : VisitOrder) (settles : Settles state specs settled)
    (plannable : Plannable state specs) (balanced : Balanced state specs eligible) :
    Ends ((visit.placing scheduler.volumeSpecs.toList).foldlM (placeVolume visit scheduler)
        ⟨eligible, settled, ∅⟩)
      (PlacingHolds state specs settled (visit.placing scheduler.volumeSpecs.toList))
      (fun _ => False) := by
  refine Ends.foldlM (PlacingHolds state specs settled) ?_ ?_
  · refine ⟨balanced.keys, Finset.Subset.refl _, fun service user id least => ?_,
      fun service user id inside => ?_, balanced.everywhere, by simp [OrdMap.Occupied],
      by simp [plannedOn]⟩
    · exact (balanced.replicated service user id).mpr least.1
    · exact (balanced.replicated service user id).mp inside
  · intro done entry rest before split held
    refine reads.placeVolume_spec visit settles plannable held (reads.mem_volumeSpecs.mp ?_)
    rw [← OrdMap.mem_map_fst_toList, ← ((visit.placing_perm _).map Prod.fst).mem_iff]
    exact mem_map_of_mem (by simp [split])

/-- What a map returned by `schedule` holds: for each machine, the specs of the volumes it is a
target of. -/
structure Solves (state : ClusterState) (specs : List ServiceSpec)
    (entries : List (String × VolumeSpec)) (scheduled : OrdMap String (List VolumeSpec)) :
    Prop where
  occupied : OrdMap.Occupied scheduled
  lists : ∀ id, scheduled.getD id [] = plannedOn state specs entries id

omit reads in
/-- With no service that mounts a volume, there is nothing to solve. -/
theorem plannable_of_unmounted (unmounted : ∀ spec ∈ specs, ¬ mountsAny spec) :
    Plannable state specs := by
  refine ⟨fun spec member mounting => absurd mounting (unmounted spec member),
    fun volume mixed => ?_, fun service user => ?_⟩
  · obtain ⟨spec, member, _, mounts⟩ := mixed.1
    exact unmounted spec member mounts.mountsAny
  · obtain ⟨volume, spec, member, _, _, mounts⟩ := user
    exact absurd mounts.mountsAny (unmounted spec member)

/-- `schedule` solves the problem, or there is no solution and one of four errors says why. It
never panics, whatever the order of its loops. -/
theorem plan_spec (visit : VisitOrder) :
    Ends (scheduler.plan visit)
      (fun scheduled => Plannable state specs ∧
        Solves state specs (visit.placing scheduler.volumeSpecs.toList) scheduled)
      (fun fault => Refusal fault ∧ ¬ Plannable state specs) := by
  rw [plan]
  split_ifs with idle
  · have unmounted : ∀ spec ∈ specs, ¬ mountsAny spec := by
      intro spec member mounting
      have kept := reads.mem_serviceSpecs.mpr ⟨member, mounting⟩
      rw [idle] at kept
      exact not_mem_nil kept
    have untouched : scheduler.volumeSpecs.toList = [] := by
      refine eq_nil_iff_forall_not_mem.mpr fun entry inside => ?_
      have known := OrdMap.mem_map_fst_toList.mp (mem_map_of_mem inside)
      obtain ⟨spec, member, mounts⟩ := reads.mem_volumeSpecs.mp known
      exact unmounted spec member mounts.mountsAny
    have unvisited : visit.placing scheduler.volumeSpecs.toList = [] := by
      rw [untouched]
      exact perm_nil.mp (visit.placing_perm [])
    rw [unvisited]
    exact ⟨plannable_of_unmounted unmounted, by simp [OrdMap.Occupied], by simp [plannedOn]⟩
  · refine reads.initialEligible_spec.bind fun initial placed => ?_
    refine (reads.narrowing_spec visit placed).bind fun narrowing narrowed => ?_
    refine reads.existingPlaced_spec.seq (fun _ => False.elim) fun existing listed => ?_
    refine (reads.checking_spec visit listed).bind fun settled ⟨settles, unmixed⟩ => ?_
    have fitted := reads.fitted placed narrowed unmixed
    refine (reads.propagation_spec visit fitted settles unmixed).bind fun eligible balanced => ?_
    have plannable : Plannable state specs := by
      refine ⟨fun spec member mounting => ?_, unmixed, balanced.common⟩
      have known : spec.name ∈ initial := by
        rw [placed.keys]
        exact mem_map_of_mem (reads.mem_serviceSpecs.mpr ⟨member, mounting⟩)
      obtain ⟨id, inside⟩ := placed.nonempty _ known
      obtain ⟨other, member', named, machine, hosted, _, allows⟩ :=
        (placed.sets _ known id).mp inside
      exact ⟨machine, hosted, reads.spec_eq member' member named ▸ allows⟩
    refine (reads.placing_spec visit settles plannable balanced).seq (fun _ => False.elim)
      fun last held => ?_
    exact ⟨plannable, held.occupied, held.scheduled⟩

end Reads

end Ployz.Scheduler
