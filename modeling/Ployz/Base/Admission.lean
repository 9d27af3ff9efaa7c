import Mathlib

/-!
# Admission in turn

A list of items is offered one after the other to a judge, which sees the pieces admitted so far and
turns the item into one more piece or refuses it with a reason; a refused item leaves no trace in
what later items are judged against. Nothing is assumed of the judge: it need not be monotone in
what was admitted.

When the items come in ascending order of a key that their pieces keep, what an item was judged
against is the part of the final list below its key.
-/

namespace Ployz.Admission

open List

variable {α β ε : Type}

section Fold

variable (judge : List β → α → Except ε β)

/-- What is admitted, after the pieces that were admitted before. -/
def admitted : List β → List α → List β
  | sofar, [] => sofar
  | sofar, item :: rest =>
    match judge sofar item with
    | .ok piece => admitted (sofar ++ [piece]) rest
    | .error _ => admitted sofar rest

/-- The items that are refused, each with the reason. -/
def refused : List β → List α → List (α × ε)
  | _, [] => []
  | sofar, item :: rest =>
    match judge sofar item with
    | .ok piece => refused (sofar ++ [piece]) rest
    | .error reason => (item, reason) :: refused sofar rest

variable {judge}

/-- What every admission keeps, the admitted list has. -/
theorem admitted_invariant {motive : List β → Prop}
    (step : ∀ sofar item piece, judge sofar item = .ok piece → motive sofar →
      motive (sofar ++ [piece]))
    {sofar : List β} (start : motive sofar) (items : List α) :
    motive (admitted judge sofar items) := by
  induction items generalizing sofar with
  | nil => exact start
  | cons item rest ih =>
    cases verdict : judge sofar item with
    | ok piece =>
      simp only [admitted, verdict]
      exact ih (step sofar item piece verdict start)
    | error reason =>
      simp only [admitted, verdict]
      exact ih start

/-- Items are refused at most once, in the order in which they come. -/
theorem sublist_refused (sofar : List β) (items : List α) :
    ((refused judge sofar items).map Prod.fst).Sublist items := by
  induction items generalizing sofar with
  | nil => exact List.Sublist.refl _
  | cons item rest ih =>
    cases verdict : judge sofar item with
    | ok piece =>
      simp only [refused, verdict]
      exact (ih _).cons item
    | error reason =>
      simp only [refused, verdict, map_cons]
      exact (ih _).cons_cons item

end Fold

section Ascending

variable {judge : List β → α → Except ε β} {κ : Type} [LinearOrder κ] {rank : α → κ} {key : β → κ}

/-- The part of the pieces below a key. -/
def below (key : β → κ) (bound : κ) (pieces : List β) : List β :=
  pieces.filter fun piece => key piece < bound

theorem below_eq_self {pieces : List β} {bound : κ} (small : ∀ piece ∈ pieces, key piece < bound) :
    below key bound pieces = pieces := by
  apply filter_eq_self.mpr
  intro piece member
  exact decide_eq_true (small piece member)

theorem below_append_of_le {front back : List β} {bound : κ}
    (large : ∀ piece ∈ back, bound ≤ key piece) :
    below key bound (front ++ back) = below key bound front := by
  have none : below key bound back = [] := by
    apply filter_eq_nil_iff.mpr
    intro piece member
    have above := large piece member
    simpa using above
  simp only [below] at none ⊢
  rw [filter_append, none, append_nil]

/-- Every piece so far lies below every item still to come. -/
def Under (rank : α → κ) (key : β → κ) (sofar : List β) (items : List α) : Prop :=
  ∀ piece ∈ sofar, ∀ item ∈ items, key piece < rank item

variable {sofar : List β} {item : α} {rest : List α}

theorem Under.tail (under : Under rank key sofar (item :: rest)) : Under rank key sofar rest := by
  intro piece member source offered
  exact under piece member source (mem_cons_of_mem _ offered)

theorem Under.grow {fresh : β} (under : Under rank key sofar (item :: rest))
    (same : key fresh = rank item) (first : ∀ source ∈ rest, rank item < rank source) :
    Under rank key (sofar ++ [fresh]) rest := by
  intro piece member source offered
  cases mem_append.mp member with
  | inl old => exact under.tail piece old source offered
  | inr new =>
    rw [mem_singleton.mp new, same]
    exact first source offered

variable (keeps : ∀ sofar item piece, judge sofar item = .ok piece → key piece = rank item)
include keeps

omit [LinearOrder κ] in
theorem admitted_eq_append (sofar : List β) (items : List α) :
    ∃ added, admitted judge sofar items = sofar ++ added ∧
      ∀ piece ∈ added, ∃ item ∈ items, key piece = rank item := by
  induction items generalizing sofar with
  | nil => exact ⟨[], by simp [admitted], by simp⟩
  | cons item rest ih =>
    cases verdict : judge sofar item with
    | error reason =>
      have ⟨added, shape, ranked⟩ := ih sofar
      refine ⟨added, by simpa only [admitted, verdict] using shape, ?_⟩
      intro piece member
      have ⟨source, offered, same⟩ := ranked piece member
      exact ⟨source, mem_cons_of_mem _ offered, same⟩
    | ok first =>
      have ⟨added, shape, ranked⟩ := ih (sofar ++ [first])
      refine ⟨first :: added, ?_, ?_⟩
      · simpa only [admitted, verdict, append_assoc, singleton_append] using shape
      · intro piece member
        cases mem_cons.mp member with
        | inl same => exact ⟨item, mem_cons_self, same ▸ keeps _ _ _ verdict⟩
        | inr later =>
          have ⟨source, offered, same⟩ := ranked piece later
          exact ⟨source, mem_cons_of_mem _ offered, same⟩

theorem below_admitted (first : ∀ source ∈ rest, rank item < rank source)
    (under : Under rank key sofar (item :: rest)) :
    below key (rank item) (admitted judge sofar (item :: rest)) = sofar := by
  have ⟨added, grown, ranked⟩ := admitted_eq_append keeps sofar (item :: rest)
  have large : ∀ piece ∈ added, rank item ≤ key piece := by
    intro piece member
    have ⟨source, offered, same⟩ := ranked piece member
    rw [same]
    cases mem_cons.mp offered with
    | inl head => exact le_of_eq (congrArg rank head.symm)
    | inr later => exact le_of_lt (first source later)
  rw [grown, below_append_of_le large]
  exact below_eq_self fun piece member => under piece member item mem_cons_self

variable {items : List α} (ascending : items.Pairwise fun first second => rank first < rank second)
include ascending

theorem pairwise_admitted (sorted : sofar.Pairwise fun first second => key first < key second)
    (under : Under rank key sofar items) :
    (admitted judge sofar items).Pairwise fun first second => key first < key second := by
  induction items generalizing sofar with
  | nil => exact sorted
  | cons item rest ih =>
    obtain ⟨first, others⟩ := pairwise_cons.mp ascending
    cases verdict : judge sofar item with
    | error reason =>
      simp only [admitted, verdict]
      exact ih others sorted under.tail
    | ok fresh =>
      have same := keeps _ _ _ verdict
      simp only [admitted, verdict]
      apply ih others _ (under.grow same first)
      apply pairwise_append.mpr
      refine ⟨sorted, pairwise_singleton _ _, ?_⟩
      intro piece member other single
      rw [mem_singleton.mp single, same]
      exact under piece member item mem_cons_self

theorem mem_admitted (under : Under rank key sofar items) {piece : β} :
    piece ∈ admitted judge sofar items ↔ piece ∈ sofar ∨ ∃ item ∈ items,
      judge (below key (rank item) (admitted judge sofar items)) item = .ok piece := by
  induction items generalizing sofar with
  | nil => simp [admitted]
  | cons item rest ih =>
    obtain ⟨first, others⟩ := pairwise_cons.mp ascending
    rw [exists_mem_cons_iff, below_admitted keeps first under]
    cases verdict : judge sofar item with
    | error reason =>
      simp only [admitted, verdict, reduceCtorEq, false_or]
      exact ih others under.tail
    | ok fresh =>
      have later := ih others (under.grow (keeps _ _ _ verdict) first)
      simp only [admitted, verdict, Except.ok.injEq]
      rw [later, mem_append, mem_singleton, or_assoc, eq_comm]

/-- An item is refused for a reason exactly when the judge gives it next to the final list
below the item. -/
theorem mem_refused (under : Under rank key sofar items) {reason : ε} :
    (item, reason) ∈ refused judge sofar items ↔ item ∈ items ∧
      judge (below key (rank item) (admitted judge sofar items)) item = .error reason := by
  induction items generalizing sofar with
  | nil => simp [refused]
  | cons head rest ih =>
    obtain ⟨first, others⟩ := pairwise_cons.mp ascending
    have here := below_admitted keeps first under
    cases verdict : judge sofar head with
    | error why =>
      have later := ih others under.tail
      simp only [admitted, refused, verdict, mem_cons, Prod.mk.injEq] at here ⊢
      rw [later, or_and_right]
      apply or_congr _ Iff.rfl
      apply and_congr_right
      intro same
      rw [same, here, verdict, Except.error.injEq, eq_comm]
    | ok fresh =>
      have later := ih others (under.grow (keeps _ _ _ verdict) first)
      simp only [admitted, refused, verdict, mem_cons] at here ⊢
      rw [later, or_and_right, or_iff_right]
      rintro ⟨same, judged⟩
      rw [same, here, verdict] at judged
      cases judged

end Ascending

end Ployz.Admission
