import Mathlib

/-!
# Coupled choices

Users choose a site each. A user may only choose a site it is allowed on and that holds the
resources it uses, as far as these exist; a resource that exists nowhere will be created at one
site, so its users must choose the same. A choice for all users exists exactly when the users joined
by such resources have a site in common.
-/

namespace Ployz

/-- Users of resources, the sites they may choose, and what the sites hold. -/
structure Coupling (σ ν μ : Type) where
  uses : σ → ν → Prop
  allowed : σ → Set μ
  holds : μ → ν → Prop

namespace Coupling

variable {σ ν μ : Type} (c : Coupling σ ν μ)

/-- Some site has the resource. -/
def Present (resource : ν) : Prop := ∃ site, c.holds site resource

/-- A user that needs some resource. -/
def User (user : σ) : Prop := ∃ resource, c.uses user resource

/-- The sites that suit a user by itself. -/
def fit (user : σ) : Set μ :=
  {site | site ∈ c.allowed user ∧
    ∀ resource, c.uses user resource → c.Present resource → c.holds site resource}

/-- Two users need one resource that exists nowhere. -/
def Linked (user other : σ) : Prop :=
  ∃ resource, ¬ c.Present resource ∧ c.uses user resource ∧ c.uses other resource

/-- A chain of links leads from one user to the other. -/
def Joined : σ → σ → Prop := Relation.ReflTransGen c.Linked

/-- The sites that suit every user joined to this one. -/
def common (user : σ) : Set μ := {site | ∀ other, c.Joined user other → site ∈ c.fit other}

/-- A choice of sites that suits every user and keeps linked users together. -/
structure Assigns (choice : σ → μ) : Prop where
  fits : ∀ user, c.User user → choice user ∈ c.fit user
  together : ∀ user other, c.Linked user other → choice user = choice other

variable {c}

theorem Linked.symm {user other : σ} (linked : c.Linked user other) : c.Linked other user := by
  obtain ⟨resource, absent, left, right⟩ := linked
  exact ⟨resource, absent, right, left⟩

theorem Linked.user {user other : σ} (linked : c.Linked user other) : c.User other := by
  obtain ⟨resource, _, _, right⟩ := linked
  exact ⟨resource, right⟩

theorem Joined.user {user other : σ} (joined : c.Joined user other) (start : c.User user) :
    c.User other := by
  induction joined with
  | refl => exact start
  | tail _ linked _ => exact linked.user

theorem common_eq_of_linked {user other : σ} (linked : c.Linked user other) :
    c.common user = c.common other := by
  have half : ∀ {left right : σ}, c.Linked left right → c.common left ⊆ c.common right := by
    intro left right step site common third joined
    exact common third (Relation.ReflTransGen.head step joined)
  exact Set.Subset.antisymm (half linked) (half linked.symm)

theorem common_subset_fit (user : σ) : c.common user ⊆ c.fit user :=
  fun _ common => common user Relation.ReflTransGen.refl

theorem common_eq_fit_of_not_linked {user : σ} (free : ¬ c.Linked user user) :
    c.common user = c.fit user := by
  refine Set.Subset.antisymm (common_subset_fit user) fun site suits other joined => ?_
  have alone : other = user := by
    induction joined with
    | refl => rfl
    | tail _ linked ih =>
      subst ih
      obtain ⟨resource, absent, left, _⟩ := linked
      exact absurd ⟨resource, absent, left, left⟩ free
  rw [alone]
  exact suits

theorem subset_common (family : σ → Set μ) {user : σ}
    (suits : ∀ other, c.Joined user other → family other ⊆ c.fit other)
    (even : ∀ left right, c.Linked left right → family left = family right) :
    family user ⊆ c.common user := by
  intro site member other joined
  have moved : family user = family other := by
    clear suits
    induction joined with
    | refl => rfl
    | tail _ linked ih => exact ih.trans (even _ _ linked)
  exact suits other joined (moved ▸ member)

theorem Assigns.mem_common {choice : σ → μ} (assigns : c.Assigns choice) {user : σ}
    (start : c.User user) : choice user ∈ c.common user := by
  have within : {choice user} ⊆ c.common user := by
    refine subset_common (fun other => {choice other}) ?_ ?_
    · intro other joined
      exact Set.singleton_subset_iff.mpr (assigns.fits other (joined.user start))
    · intro left right linked
      rw [assigns.together left right linked]
  exact within rfl

theorem exists_assigns_iff [Nonempty μ] :
    (∃ choice, c.Assigns choice) ↔ ∀ user, c.User user → (c.common user).Nonempty := by
  constructor
  · rintro ⟨choice, assigns⟩ user start
    exact ⟨choice user, assigns.mem_common start⟩
  · intro nonempty
    -- chosen by the common set alone, so that linked users choose the same
    refine ⟨fun user => Classical.epsilon (· ∈ c.common user), fun user start => ?_,
      fun user other linked => ?_⟩
    · exact common_subset_fit user (Classical.epsilon_spec (nonempty user start))
    · simp only [common_eq_of_linked linked]

/-- The coupling after the resources a relation names were created at their sites. -/
def fill (c : Coupling σ ν μ) (created : μ → ν → Prop) : Coupling σ ν μ where
  uses := c.uses
  allowed := c.allowed
  holds site resource := c.holds site resource ∨ created site resource

/-- A common site at which the missing resources of a user were created is still one, and nothing
ties the user to others any more. -/
theorem mem_common_fill {created : μ → ν → Prop} {user : σ} {site : μ}
    (complete : ∀ resource, c.uses user resource → (c.fill created).Present resource)
    (common : site ∈ c.common user)
    (supplied : ∀ resource, c.uses user resource → ¬ c.Present resource → created site resource) :
    site ∈ (c.fill created).common user := by
  have free : ¬ (c.fill created).Linked user user := by
    rintro ⟨resource, absent, used, _⟩
    exact absent (complete resource used)
  rw [common_eq_fit_of_not_linked free]
  obtain ⟨allowed, holding⟩ := common_subset_fit user common
  refine ⟨allowed, fun resource used _ => ?_⟩
  by_cases present : c.Present resource
  · exact .inl (holding resource used present)
  · exact .inr (supplied resource used present)

end Coupling

end Ployz
