import Ployz.Scheduler.Volume

/-!
# Constraint propagation

`propagate_constraints` gives every service of an unskipped volume the intersection of the
eligible sets of the volume's services, pass after pass until a pass changes no size. Every
pass that changes a size makes the sets lighter, so the loop ends.
-/

namespace Ployz.Scheduler.VolumeScheduler

open Api List

/-- The intersection of the eligible sets of a volume's services. -/
def intersectEligible (eligible : Eligibility) : List String → Exec ScheduleError (Finset String)
  | [] => .error .panic
  | service :: services => do
    let machines ← eligible.index service
    services.foldlM (fun meet service => do
      let machines ← eligible.index service
      .ok (meet ∩ machines)) machines

/-- The body of the loop that gives the intersection to each service of a volume. The flag is
`changed`. -/
def assignEligible (machines : Finset String) (progress : Eligibility × Bool)
    (service : String) : Exec ScheduleError (Eligibility × Bool) := do
  let current ← progress.1.index service
  .ok (progress.1.insert service machines, progress.2 || current.card != machines.card)

/-- The body of the loop of one pass of `propagate_constraints`. -/
def propagateVolume (skipped : Finset String) (progress : Eligibility × Bool)
    (entry : String × List String) : Exec ScheduleError (Eligibility × Bool) :=
  if entry.1 ∈ skipped ∨ entry.2 = [] then .ok progress
  else do
    let machines ← intersectEligible progress.1 entry.2
    if machines = ∅ then Exec.fail (.sharedServicePlacement entry.2 entry.1)
    else entry.2.foldlM (assignEligible machines) progress

/-- One pass of `propagate_constraints`. -/
def propagatePass (visit : VisitOrder) (scheduler : VolumeScheduler) (skipped : Finset String)
    (eligible : Eligibility) : Exec ScheduleError (Eligibility × Bool) :=
  (visit.propagating skipped eligible scheduler.volumeServices.toList).foldlM
    (propagateVolume skipped) (eligible, false)

/-- The machines eligible for every one of the services. -/
def Shared (eligible : Eligibility) (services : List String) (machines : Finset String) : Prop :=
  ∀ machine, machine ∈ machines ↔ ∀ service ∈ services, machine ∈ eligible.getD service ∅

/-- `intersectEligible` returns the machines shared by the services, and panics only for a
service that has no entry. -/
theorem intersectEligible_spec (eligible : Eligibility) (services : List String)
    (used : services ≠ []) :
    Ends (intersectEligible eligible services)
      (fun machines => (∀ service ∈ services, service ∈ eligible) ∧
        Shared eligible services machines)
      (fun fault => fault = .panic ∧ ∃ service ∈ services, service ∉ eligible) := by
  cases services with
  | nil => exact absurd rfl used
  | cons head tail =>
    refine (eligible.ends_index head ∅).seq
      (fun fault bad => ⟨bad.1, head, mem_cons_self, bad.2⟩) fun machines ⟨known, read⟩ => ?_
    -- after `done`, the accumulator is shared by the head and the services of `done`
    refine Ends.foldlM (fun done meet => (∀ service ∈ head :: done, service ∈ eligible) ∧
      Shared eligible (head :: done) meet) ?_ ?_
    · subst read
      simp [known, Shared]
    · rintro done service rest meet split ⟨present, shared⟩
      refine (eligible.ends_index service ∅).seq
        (fun fault bad => ⟨bad.1, service, by simp [split], bad.2⟩)
        fun machines ⟨known, read⟩ => ⟨?_, fun machine => ?_⟩
      · intro other member
        rw [← cons_append, mem_append, mem_singleton] at member
        rcases member with earlier | same
        · exact present other earlier
        · exact same ▸ known
      · rw [Finset.mem_inter, shared machine, read, ← cons_append]
        simp only [mem_append, mem_singleton, or_imp, forall_and, forall_eq]

/-- What giving `machines` to the services of a volume does. -/
structure Assigned (services : List String) (machines : Finset String)
    (before after : Eligibility × Bool) : Prop where
  keys : ∀ service, service ∈ after.1 ↔ service ∈ before.1
  /-- The services have the machines, and no other set changes. -/
  sets : ∀ service, after.1.getD service ∅ =
    if service ∈ services then machines else before.1.getD service ∅
  changed : after.2 = true ↔ before.2 = true ∨
    ∃ service ∈ services, (before.1.getD service ∅).card ≠ machines.card

variable {mid : Eligibility × Bool}

/-- One step of the assignment loop. A service that stands twice in the list has the new set the
second time, which sets no flag. -/
theorem Assigned.step {done : List String} {machines : Finset String} {before : Eligibility × Bool}
    (assigned : Assigned done machines before mid) {service : String} (known : service ∈ mid.1) :
    Assigned (done ++ [service]) machines before (mid.1.insert service machines,
      mid.2 || (mid.1.getD service ∅).card != machines.card) := by
  refine ⟨fun other => ?_, fun other => ?_, ?_⟩
  · exact (OrdMap.mem_insert_of_mem known other machines).trans (assigned.keys other)
  · rw [OrdMap.getD_insert_eq, assigned.sets other]
    by_cases same : service = other
    · simp [same]
    · simp [same, Ne.symm same]
  · rw [Bool.or_eq_true, assigned.changed, assigned.sets service, bne_iff_ne, or_assoc]
    refine or_congr_right ?_
    simp only [mem_append, mem_singleton, or_and_right, exists_or, exists_eq_left]
    by_cases member : service ∈ done
    · simp only [member, ↓reduceIte, ne_eq, not_true_eq_false, or_false]
      exact (or_iff_left_of_imp fun differs => ⟨service, member, differs⟩).symm
    · simp only [member, ↓reduceIte]

theorem assignEligible_spec (services : List String) (machines : Finset String)
    (before : Eligibility × Bool) (known : ∀ service ∈ services, service ∈ before.1) :
    Ends (services.foldlM (assignEligible machines) before) (Assigned services machines before)
      (fun _ => False) := by
  refine Ends.foldlM (fun done => Assigned done machines before) ?_ ?_
  · exact ⟨fun _ => Iff.rfl, fun service => by simp, by simp⟩
  · intro done service rest mid split assigned
    have present : service ∈ mid.1 :=
      (assigned.keys service).mpr (known service (by simp [split]))
    rw [assignEligible, OrdMap.index_of_mem present ∅]
    exact assigned.step present

/-- What visiting one volume in a pass does. -/
inductive Propagated (skipped : Finset String) (entry : String × List String)
    (before after : Eligibility × Bool) : Prop where
  /-- A skipped or unused volume changes nothing. -/
  | pass (passed : entry.1 ∈ skipped ∨ entry.2 = []) (same : after = before)
  /-- The services of any other volume are given the machines they share. -/
  | meet (unskipped : entry.1 ∉ skipped) (machines : Finset String) (some : machines.Nonempty)
    (shared : Shared before.1 entry.2 machines)
    (assigned : Assigned entry.2 machines before after)

/-- How visiting one volume in a pass fails. -/
inductive Blocked (skipped : Finset String) (entry : String × List String)
    (eligible : Eligibility) : Fault ScheduleError → Prop where
  /-- A service of the volume has no entry. -/
  | panic (service : String) (member : service ∈ entry.2) (absent : service ∉ eligible) :
    Blocked skipped entry eligible .panic
  /-- The services of the volume share no machine. -/
  | apart (unskipped : entry.1 ∉ skipped) (used : entry.2 ≠ [])
    (shared : Shared eligible entry.2 ∅) :
    Blocked skipped entry eligible (.error (.sharedServicePlacement entry.2 entry.1))

theorem propagateVolume_spec (skipped : Finset String) (before : Eligibility × Bool)
    (entry : String × List String) :
    Ends (propagateVolume skipped before entry) (Propagated skipped entry before)
      (Blocked skipped entry before.1) := by
  rw [propagateVolume]
  split
  · rename_i passed
    exact .pass passed rfl
  · rename_i visited
    obtain ⟨unskipped, used⟩ := not_or.mp visited
    refine (intersectEligible_spec before.1 entry.2 used).seq ?_
      fun machines ⟨known, shared⟩ => ?_
    · rintro fault ⟨rfl, service, member, absent⟩
      exact .panic service member absent
    split
    · rename_i empty
      exact .apart unskipped used (empty ▸ shared)
    · rename_i nonempty
      refine (assignEligible_spec entry.2 machines before known).mono
        (fun after assigned => ?_) fun _ => False.elim
      exact .meet unskipped machines (Finset.nonempty_of_ne_empty nonempty) shared assigned

/-- What one stretch of a pass does to what it carries: the map shrinks, and a flag newly set
means that some set became strictly smaller. -/
structure Progress (before after : Eligibility × Bool) : Prop where
  shrinks : OrdMap.Shrinks after.1 before.1
  strict : after.2 = true → before.2 = true ∨
    ∃ service, (after.1.getD service ∅).card < (before.1.getD service ∅).card

theorem Progress.trans {before after : Eligibility × Bool} (first : Progress before mid)
    (second : Progress mid after) : Progress before after := by
  refine ⟨second.shrinks.trans first.shrinks, fun changed => ?_⟩
  rcases second.strict changed with earlier | ⟨service, strict⟩
  · rcases first.strict earlier with set | ⟨service, strict⟩
    · exact .inl set
    · have smaller := Finset.card_le_card (second.shrinks.subset service)
      exact .inr ⟨service, smaller.trans_lt strict⟩
  · have smaller := Finset.card_le_card (first.shrinks.subset service)
    exact .inr ⟨service, strict.trans_le smaller⟩

variable {skipped : Finset String} {before after : Eligibility × Bool}
  {entry : String × List String}

theorem Propagated.progress (propagated : Propagated skipped entry before after) :
    Progress before after := by
  cases propagated with
  | pass _ same => exact same ▸ ⟨.refl _, .inl⟩
  | meet _ machines _ shared assigned =>
    have within : ∀ service ∈ entry.2, machines ⊆ before.1.getD service ∅ :=
      fun service member machine inside => (shared machine).mp inside service member
    refine ⟨⟨assigned.keys, fun service => ?_⟩, fun changed => ?_⟩
    · rw [assigned.sets]
      split
      · rename_i member
        exact within service member
      · exact Finset.Subset.refl _
    · rcases assigned.changed.mp changed with earlier | ⟨service, member, differs⟩
      · exact .inl earlier
      · refine .inr ⟨service, ?_⟩
        rw [assigned.sets, if_pos member]
        exact lt_of_le_of_ne (Finset.card_le_card (within service member)) differs.symm

theorem propagatePass_progress (visit : VisitOrder) (scheduler : VolumeScheduler)
    (skipped : Finset String) (eligible : Eligibility) :
    Ends (propagatePass visit scheduler skipped eligible) (Progress (eligible, false))
      (fun _ => True) := by
  refine Ends.foldlM (fun _ => Progress (eligible, false)) ⟨.refl _, .inl⟩ ?_
  intro done entry rest mid _ progress
  exact (propagateVolume_spec skipped mid entry).mono
    (fun after propagated => progress.trans propagated.progress) fun _ _ => trivial

variable {eligible : Eligibility}

theorem propagatePass_lighter {visit : VisitOrder} {scheduler : VolumeScheduler}
    {after : Eligibility} {changed : Bool}
    (outcome : propagatePass visit scheduler skipped eligible = .ok (after, changed))
    (again : changed = true) : after.weight < eligible.weight := by
  have progress := (propagatePass_progress visit scheduler skipped eligible).of_ok outcome
  rcases progress.strict again with never | ⟨service, strict⟩
  · exact absurd never Bool.false_ne_true
  · exact progress.shrinks.weight_lt strict

/-- `VolumeScheduler::propagate_constraints`, with the eligible sets it leaves. -/
def propagateConstraints (visit : VisitOrder) (scheduler : VolumeScheduler)
    (skipped : Finset String) (eligible : Eligibility) : Exec ScheduleError Eligibility :=
  match outcome : propagatePass visit scheduler skipped eligible with
  | .error fault => .error fault
  | .ok (after, changed) =>
    if again : changed = true then
      have _lighter := propagatePass_lighter outcome again
      propagateConstraints visit scheduler skipped after
    else .ok after
termination_by eligible.weight

/-- Two services mount a common volume that is not skipped. -/
def Couples (scheduler : VolumeScheduler) (skipped : Finset String) (service other : String) :
    Prop :=
  ∃ volume services, scheduler.volumeServices[volume]? = some services ∧ volume ∉ skipped ∧
    service ∈ services ∧ other ∈ services

/-- What a pass has done after the entries of `done`: it kept `lower` below the sets, and as
long as nothing changed, the sets it started from agree on the volumes it visited. -/
structure PassHolds (skipped : Finset String) (eligible : Eligibility)
    (lower : String → Set String) (done : List (String × List String))
    (now : Eligibility × Bool) : Prop where
  shrinks : OrdMap.Shrinks now.1 eligible
  /-- Nothing of `lower` is lost. -/
  below : ∀ service, lower service ⊆ now.1.getD service ∅
  /-- Without a change the sets are the ones of the start. -/
  still : now.2 = false → ∀ service, now.1.getD service ∅ = eligible.getD service ∅
  /-- Without a change the services of a visited volume have one common set. -/
  agree : now.2 = false → ∀ entry ∈ done, entry.1 ∉ skipped → ∃ machines : Finset String,
    machines.Nonempty ∧ ∀ service ∈ entry.2, eligible.getD service ∅ = machines

theorem PassHolds.step {lower : String → Set String} {done : List (String × List String)}
    (held : PassHolds skipped eligible lower done before)
    (even : entry.1 ∉ skipped → ∀ service ∈ entry.2, ∀ other ∈ entry.2, lower service = lower other)
    (propagated : Propagated skipped entry before after) :
    PassHolds skipped eligible lower (done ++ [entry]) after := by
  have shrinks := propagated.progress.shrinks.trans held.shrinks
  cases propagated with
  | pass passed same =>
    subst same
    refine { held with agree := fun unchanged visited member unskipped => ?_ }
    rcases mem_append.mp member with earlier | last
    · exact held.agree unchanged visited earlier unskipped
    · rw [mem_singleton.mp last] at unskipped ⊢
      have unused : entry.2 = [] := passed.resolve_left unskipped
      exact ⟨{""}, Finset.singleton_nonempty _, by simp [unused]⟩
  | meet unskipped machines some shared assigned =>
    have below : ∀ service ∈ entry.2, lower service ⊆ machines := by
      intro service member machine inside
      refine (shared machine).mpr fun other member' => held.below other ?_
      rw [even unskipped other member' service member]
      exact inside
    -- a set of the right size that contains the shared machines is the shared set
    have unmoved : after.2 = false → before.2 = false ∧
        ∀ service ∈ entry.2, before.1.getD service ∅ = machines := by
      intro unchanged
      have quiet := mt assigned.changed.mpr (by simp [unchanged])
      push Not at quiet
      refine ⟨by simpa using quiet.1, fun service member => ?_⟩
      refine (Finset.eq_of_subset_of_card_le (fun machine inside => ?_)
        (quiet.2 service member).le).symm
      exact (shared machine).mp inside service member
    refine ⟨shrinks, fun service => ?_, fun unchanged service => ?_,
      fun unchanged visited member unskipped' => ?_⟩
    · rw [assigned.sets]
      split
      · rename_i member
        exact below service member
      · exact held.below service
    · obtain ⟨earlier, equal⟩ := unmoved unchanged
      rw [assigned.sets, ← held.still earlier service]
      split
      · rename_i member
        exact (equal service member).symm
      · rfl
    · obtain ⟨earlier, equal⟩ := unmoved unchanged
      rcases mem_append.mp member with before' | last
      · exact held.agree earlier visited before' unskipped'
      · rw [mem_singleton.mp last]
        refine ⟨machines, some, fun service member' => ?_⟩
        rw [← held.still earlier service]
        exact equal service member'

section Spec

variable (visit : VisitOrder) {scheduler : VolumeScheduler} {skipped : Finset String}
  {lower : String → Set String}

/-- The failure of a propagation that was to keep `lower`: an unskipped volume has a service of
which nothing was to be kept. -/
def Starved (scheduler : VolumeScheduler) (skipped : Finset String)
    (lower : String → Set String) (fault : Fault ScheduleError) : Prop :=
  ∃ volume services, fault = .error (.sharedServicePlacement services volume) ∧
    scheduler.volumeServices[volume]? = some services ∧ volume ∉ skipped ∧
    ∃ service ∈ services, lower service = ∅

/-- Every service that mounts a volume has an entry. -/
def Covers (scheduler : VolumeScheduler) (eligible : Eligibility) : Prop :=
  ∀ (volume : String) (services : List String),
    scheduler.volumeServices[volume]? = some services → ∀ service ∈ services, service ∈ eligible

theorem propagatePass_spec (known : Covers scheduler eligible)
    (below : ∀ service, lower service ⊆ eligible.getD service ∅)
    (even : ∀ service other, Couples scheduler skipped service other → lower service = lower other) :
    Ends (propagatePass visit scheduler skipped eligible)
      (PassHolds skipped eligible lower scheduler.volumeServices.toList)
      (Starved scheduler skipped lower) := by
  let visited := visit.propagating skipped eligible scheduler.volumeServices.toList
  have perm : visited.Perm scheduler.volumeServices.toList := visit.propagating_perm _ _ _
  have pass : Ends (propagatePass visit scheduler skipped eligible)
      (PassHolds skipped eligible lower visited) (Starved scheduler skipped lower) := by
    refine Ends.foldlM (PassHolds skipped eligible lower) ?_ ?_
    · exact ⟨.refl _, below, fun _ _ => rfl, fun _ entry member => absurd member not_mem_nil⟩
    · rintro done ⟨volume, services⟩ rest before split held
      have member : (volume, services) ∈ visited := by simp [visited, split]
      have found := OrdMap.mem_toList.mp (perm.mem_iff.mp member)
      refine (propagateVolume_spec skipped before (volume, services)).mono
        (fun after propagated => ?_) fun fault blocked => ?_
      · refine held.step (fun unskipped service inside other inside' => ?_) propagated
        exact even service other ⟨volume, services, found, unskipped, inside, inside'⟩
      · cases blocked with
        | panic service inside absent =>
          exact absurd ((held.shrinks.keys service).mpr (known volume services found service inside))
            absent
        | apart unskipped used shared =>
          obtain ⟨service, inside⟩ := exists_mem_of_ne_nil _ used
          refine ⟨volume, services, rfl, found, unskipped, service, inside, ?_⟩
          refine Set.eq_empty_of_forall_notMem fun machine kept => ?_
          refine Finset.notMem_empty machine ((shared machine).mpr fun other inside' => ?_)
          apply held.below other
          rw [even other service ⟨volume, services, found, unskipped, inside', inside⟩]
          exact kept
  refine pass.mono (fun now held => ?_) fun _ bad => bad
  exact { held with
    agree := fun unchanged entry member => held.agree unchanged entry (perm.mem_iff.mpr member) }

/-- Coupled services have the same eligible machines, and at least one. -/
def Settled (scheduler : VolumeScheduler) (skipped : Finset String) (eligible : Eligibility) :
    Prop :=
  ∀ service other, Couples scheduler skipped service other →
    eligible.getD service ∅ = eligible.getD other ∅ ∧ (eligible.getD service ∅).Nonempty

/-- `propagate_constraints` ends with sets that coupled services have in common, having kept
every such family that was below the sets it started from. -/
theorem propagateConstraints_spec (eligible : Eligibility)
    (known : Covers scheduler eligible)
    (below : ∀ service, lower service ⊆ eligible.getD service ∅)
    (even : ∀ service other, Couples scheduler skipped service other →
      lower service = lower other) :
    Ends (propagateConstraints visit scheduler skipped eligible)
      (fun after => OrdMap.Shrinks after eligible ∧
        (∀ service, lower service ⊆ after.getD service ∅) ∧ Settled scheduler skipped after)
      (Starved scheduler skipped lower) := by
  -- the recursion of the loop: by the weight of the sets it starts from
  induction weight : eligible.weight using Nat.strong_induction_on generalizing eligible with
  | _ total ih =>
    have pass := propagatePass_spec visit known below even
    rw [propagateConstraints]
    split
    · rename_i fault outcome
      exact pass.of_error outcome
    · rename_i after changed outcome
      have held := pass.of_ok outcome
      split
      · rename_i again
        have lighter := propagatePass_lighter outcome again
        refine (ih after.weight (weight ▸ lighter) after ?_ held.below rfl).mono
          (fun last ⟨shrinks, kept, settled⟩ => ⟨shrinks.trans held.shrinks, kept, settled⟩)
          fun _ bad => bad
        intro volume services found service inside
        exact (held.shrinks.keys service).mpr (known volume services found service inside)
      · rename_i unchanged
        have quiet : changed = false := Bool.eq_false_iff.mpr unchanged
        refine ⟨held.shrinks, held.below, ?_⟩
        rintro service other ⟨volume, services, found, unskipped, inside, inside'⟩
        obtain ⟨machines, some, same⟩ :=
          held.agree quiet (volume, services) (OrdMap.mem_toList.mpr found) unskipped
        simp only [held.still quiet]
        rw [same service inside, same other inside']
        exact ⟨rfl, some⟩

end Spec

end Ployz.Scheduler.VolumeScheduler
