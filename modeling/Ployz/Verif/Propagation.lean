import Ployz.Base.Coupling
import Ployz.Scheduler.Propagate

/-!
# What constraint propagation computes

The scheduler's sweeps replace, volume by volume, the machine sets of the services that mount
a volume by their intersection. Seen as a whole this is no more than a greatest fixed point: the
services fall into components linked by unskipped volumes, and every service of a component
ends with the intersection of the sets the component started from. The sweep order, and how
often a sweep is repeated, do not matter.
-/

namespace Ployz.Scheduler.VolumeScheduler

/-- The services as users of the unskipped volumes they mount, none of which exists yet: each
may go where its set allows, and sharing a volume means going to one place. -/
def unplaced (scheduler : VolumeScheduler) (skipped : Finset String) (eligible : Eligibility) :
    Coupling String String String where
  uses service volume := volume ∉ skipped ∧
    ∃ services, scheduler.volumeServices[volume]? = some services ∧ service ∈ services
  allowed service := eligible.getD service ∅
  holds _ _ := False

/-- The families of sets below `eligible` that agree on services sharing an unskipped volume. -/
def consistentFamilies (scheduler : VolumeScheduler) (skipped : Finset String)
    (eligible : Eligibility) : Set (String → Set String) :=
  {family | (∀ service, family service ⊆ eligible.getD service ∅) ∧
    ∀ service other, Couples scheduler skipped service other → family service = family other}

variable {service : String}

section Families

variable {scheduler : VolumeScheduler} {skipped : Finset String} {eligible : Eligibility}

theorem linked_unplaced_iff {other : String} :
    (unplaced scheduler skipped eligible).Linked service other ↔
      Couples scheduler skipped service other := by
  constructor
  · rintro ⟨volume, _, ⟨unskipped, services, found, inside⟩, ⟨_, services', found', inside'⟩⟩
    have same : services' = services := Option.some.inj (found'.symm.trans found)
    exact ⟨volume, services, found, unskipped, inside, same ▸ inside'⟩
  · rintro ⟨volume, services, found, unskipped, inside, inside'⟩
    have absent : ¬ (unplaced scheduler skipped eligible).Present volume := fun ⟨_, held⟩ => held
    exact ⟨volume, absent, ⟨unskipped, services, found, inside⟩,
      ⟨unskipped, services, found, inside'⟩⟩

theorem user_unplaced_iff :
    (unplaced scheduler skipped eligible).User service ↔
      Couples scheduler skipped service service := by
  constructor
  · rintro ⟨volume, unskipped, services, found, inside⟩
    exact ⟨volume, services, found, unskipped, inside, inside⟩
  · intro couples
    exact (linked_unplaced_iff.mpr couples).user

theorem fit_unplaced (service : String) :
    (unplaced scheduler skipped eligible).fit service = eligible.getD service ∅ := by
  apply Set.Subset.antisymm
  · intro machine suits
    exact suits.1
  · intro machine allowed
    exact ⟨allowed, fun _ _ ⟨_, held⟩ => held.elim⟩

theorem common_mem_consistentFamilies :
    (unplaced scheduler skipped eligible).common ∈
      consistentFamilies scheduler skipped eligible := by
  constructor
  · intro service
    have within := (unplaced scheduler skipped eligible).common_subset_fit service
    rwa [fit_unplaced] at within
  · intro service other couples
    exact Coupling.common_eq_of_linked (linked_unplaced_iff.mpr couples)

theorem subset_common_unplaced {family : String → Set String}
    (consistent : family ∈ consistentFamilies scheduler skipped eligible) (service : String) :
    family service ⊆ (unplaced scheduler skipped eligible).common service := by
  apply Coupling.subset_common family
  · intro other _
    rw [fit_unplaced]
    exact consistent.1 other
  · intro left right linked
    exact consistent.2 left right (linked_unplaced_iff.mp linked)

end Families

section Spec

variable (visit : VisitOrder) {scheduler : VolumeScheduler} {skipped : Finset String}
  {eligible : Eligibility} (known : Covers scheduler eligible)
include known

/-- A run of the loop that is to keep the component intersections. -/
theorem propagateConstraints_common :
    Ends (propagateConstraints visit scheduler skipped eligible)
      (fun after => OrdMap.Shrinks after eligible ∧
        (∀ service, (unplaced scheduler skipped eligible).common service ⊆
          after.getD service ∅) ∧ Settled scheduler skipped after)
      (Starved scheduler skipped (unplaced scheduler skipped eligible).common) :=
  propagateConstraints_spec visit eligible known common_mem_consistentFamilies.1
    common_mem_consistentFamilies.2

variable {after : Eligibility}

theorem getD_of_propagateConstraints
    (outcome : propagateConstraints visit scheduler skipped eligible = .ok after) (service : String) :
    (after.getD service ∅ : Set String) =
      (unplaced scheduler skipped eligible).common service := by
  have ⟨shrinks, kept, settled⟩ := (propagateConstraints_common visit known).of_ok outcome
  apply Set.Subset.antisymm
  · have consistent : (fun service => (after.getD service ∅ : Set String)) ∈
        consistentFamilies scheduler skipped eligible := by
      constructor
      · intro other
        exact Finset.coe_subset.mpr (shrinks.subset other)
      · intro left right couples
        show (after.getD left ∅ : Set String) = after.getD right ∅
        rw [(settled left right couples).1]
    exact subset_common_unplaced consistent service
  · exact kept service

/-- The loop gives up exactly when a component has nothing in common. -/
theorem propagateConstraints_fails_iff :
    (∃ fault, propagateConstraints visit scheduler skipped eligible = .error fault) ↔
      ∃ service, (unplaced scheduler skipped eligible).User service ∧
        (unplaced scheduler skipped eligible).common service = ∅ := by
  constructor
  · rintro ⟨fault, outcome⟩
    have ⟨volume, services, _, found, unskipped, service, inside, nothing⟩ :=
      (propagateConstraints_common visit known).of_error outcome
    exact ⟨service, ⟨volume, unskipped, services, found, inside⟩, nothing⟩
  · rintro ⟨service, user, nothing⟩
    cases outcome : propagateConstraints visit scheduler skipped eligible with
    | error fault => exact ⟨fault, rfl⟩
    | ok after =>
      have ⟨_, _, settled⟩ := (propagateConstraints_common visit known).of_ok outcome
      have ⟨machine, member⟩ := (settled service service (user_unplaced_iff.mp user)).2
      have common : machine ∈ (unplaced scheduler skipped eligible).common service := by
        rw [← getD_of_propagateConstraints visit known outcome service]
        exact member
      rw [nothing] at common
      exact absurd common (Set.notMem_empty machine)

theorem getElem?_of_not_user
    (outcome : propagateConstraints visit scheduler skipped eligible = .ok after)
    (free : ¬ (unplaced scheduler skipped eligible).User service) :
    after[service]? = eligible[service]? := by
  have ⟨shrinks, _, _⟩ := (propagateConstraints_common visit known).of_ok outcome
  have unlinked : ¬ (unplaced scheduler skipped eligible).Linked service service := by
    intro linked
    exact free linked.user
  have same : after.getD service ∅ = eligible.getD service ∅ := by
    have sets := getD_of_propagateConstraints visit known outcome service
    rw [Coupling.common_eq_fit_of_not_linked unlinked, fit_unplaced] at sets
    exact Finset.coe_injective sets
  by_cases member : service ∈ eligible
  · have member' : service ∈ after := (shrinks.keys service).mpr member
    rw [Std.ExtTreeMap.getElem?_eq_some_getD_of_contains member',
      Std.ExtTreeMap.getElem?_eq_some_getD_of_contains member, same]
  · have member' : service ∉ after := fun inside => member ((shrinks.keys service).mp inside)
    rw [Std.ExtTreeMap.getElem?_eq_none member', Std.ExtTreeMap.getElem?_eq_none member]

end Spec

/-- `propagate_constraints` computes the greatest consistent family. It always returns; it
refuses, always with the error about the placement of a volume's services, exactly when the
services of some component have no machine in common; otherwise it returns a map with the same
services, whose sets are the greatest family below the ones it was given on which services
sharing an unskipped volume agree, and in which the other services are as they were. -/
theorem propagate_constraints_greatest (visit : VisitOrder) (scheduler : VolumeScheduler)
    (skipped : Finset String) (eligible : Eligibility) (known : Covers scheduler eligible) :
    ((∃ fault, propagateConstraints visit scheduler skipped eligible = .error fault) ↔
      ∃ service, (unplaced scheduler skipped eligible).User service ∧
        (unplaced scheduler skipped eligible).common service = ∅) ∧
    (∀ fault, propagateConstraints visit scheduler skipped eligible = .error fault →
      ∃ services volume, fault = .error (.sharedServicePlacement services volume)) ∧
    ∀ after, propagateConstraints visit scheduler skipped eligible = .ok after →
      (∀ service, service ∈ after ↔ service ∈ eligible) ∧
      IsGreatest (consistentFamilies scheduler skipped eligible)
        (fun service => (after.getD service ∅ : Set String)) ∧
      ∀ service, ¬ (unplaced scheduler skipped eligible).User service →
        after[service]? = eligible[service]? := by
  refine ⟨propagateConstraints_fails_iff visit known, ?_, ?_⟩
  · intro fault outcome
    have ⟨volume, services, shape, _⟩ :=
      (propagateConstraints_common visit known).of_error outcome
    exact ⟨services, volume, shape⟩
  · intro after outcome
    have ⟨shrinks, _, _⟩ := (propagateConstraints_common visit known).of_ok outcome
    have sets : (fun service => (after.getD service ∅ : Set String)) =
        (unplaced scheduler skipped eligible).common :=
      funext (getD_of_propagateConstraints visit known outcome)
    refine ⟨shrinks.keys, ?_, fun service => getElem?_of_not_user visit known outcome⟩
    rw [sets]
    exact ⟨common_mem_consistentFamilies, fun family consistent =>
      subset_common_unplaced consistent⟩

/-- Two services that share a volume. -/
def sharing : VolumeScheduler where
  state := ⟨[]⟩
  serviceSpecs := []
  volumeSpecs := ∅
  volumeServices := (∅ : OrdMap String (List String)).insert "data" ["api", "db"]
  existingVolumeMachines := ∅

/-- The machines of the two and of a service without a volume. -/
def sharingStart : Eligibility :=
  ((∅ : Eligibility).insert "api" {"m1", "m2"}).insert "db" {"m2"} |>.insert "web" {"m1"}

theorem covers_sharingStart : Covers sharing sharingStart := by
  intro volume services found service inside
  have entry : services = ["api", "db"] := by
    by_cases named : volume = "data"
    · simpa [sharing, named, eq_comm] using found
    · simp [sharing, Ne.symm named] at found
  rw [entry] at inside
  have either : service = "api" ∨ service = "db" := by simpa using inside
  rcases either with rfl | rfl <;> decide +kernel

theorem propagate_constraints_greatest_sharing :
    Covers sharing sharingStart ∧ ∃ after,
      propagateConstraints .ascending sharing ∅ sharingStart = .ok after ∧
      after.getD "api" ∅ = {"m2"} ∧
      IsGreatest (consistentFamilies sharing ∅ sharingStart)
        (fun service => (after.getD service ∅ : Set String)) := by
  have shape : ((propagateConstraints .ascending sharing ∅ sharingStart).toOption.map
      (·.getD "api" ∅)) = some {"m2"} := by decide +kernel
  cases outcome : propagateConstraints .ascending sharing ∅ sharingStart with
  | error fault =>
    rw [outcome] at shape
    exact absurd shape (by simp [Except.toOption])
  | ok after =>
    rw [outcome] at shape
    have greatest := propagate_constraints_greatest .ascending sharing ∅ sharingStart
      covers_sharingStart
    exact ⟨covers_sharingStart, after, rfl, Option.some.inj shape,
      (greatest.2.2 after outcome).2.1⟩

end Ployz.Scheduler.VolumeScheduler
