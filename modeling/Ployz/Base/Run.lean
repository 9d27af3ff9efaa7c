import Mathlib.Data.List.Basic
import Mathlib.Logic.Relation

/-!
# Runs of a transition function

A server handles inputs one after another, each in the state the one before it left. What each
handled input keeps, a run keeps; the rule below also carries a condition on every input with the
state it is handled in, and a property of every answer. A system of several parties is a relation
between its states; what each step keeps, every state it reaches has. Where the steps carry events,
a trace lists them, each with the state it happens in.
-/

namespace Ployz

open List

variable {σ ι ρ : Type} (step : σ → ι → ρ × σ)

/-- The answers to a sequence of inputs, and the state it leaves. -/
def run : σ → List ι → List ρ × σ
  | state, [] => ([], state)
  | state, input :: inputs =>
    let (answer, next) := step state input
    let (answers, last) := run next inputs
    (answer :: answers, last)

/-- The inputs of a run, each with the state it is handled in. -/
def visits : σ → List ι → List (σ × ι)
  | _, [] => []
  | state, input :: inputs => (state, input) :: visits (step state input).2 inputs

variable {step}

theorem run_cons (state : σ) (input : ι) (inputs : List ι) :
    run step state (input :: inputs) =
      ((step state input).1 :: (run step (step state input).2 inputs).1,
        (run step (step state input).2 inputs).2) := rfl

variable {allowed : σ × ι → Prop}

/-- The invariant rule: what every allowed input keeps holds after a run of allowed inputs, and
what every allowed input is answered with, all answers of the run are. -/
theorem run_invariant {holds : σ → Prop} {fine : ρ → Prop}
    (keeps : ∀ state input, holds state → allowed (state, input) →
      holds (step state input).2 ∧ fine (step state input).1)
    {state : σ} {inputs : List ι} (start : holds state)
    (each : ∀ visit ∈ visits step state inputs, allowed visit) :
    holds (run step state inputs).2 ∧ ∀ answer ∈ (run step state inputs).1, fine answer := by
  induction inputs generalizing state with
  | nil => exact ⟨start, fun answer member => absurd member not_mem_nil⟩
  | cons input inputs ih =>
    obtain ⟨next, answered⟩ := keeps state input start (each _ mem_cons_self)
    obtain ⟨last, later⟩ := ih next fun visit member => each visit (mem_cons_of_mem _ member)
    exact ⟨last, forall_mem_cons.mpr ⟨answered, later⟩⟩

theorem holds_of_mem_visits {holds : σ → Prop}
    (keeps : ∀ state input, holds state → allowed (state, input) → holds (step state input).2)
    {state : σ} {inputs : List ι} (start : holds state)
    (each : ∀ visit ∈ visits step state inputs, allowed visit) :
    ∀ visit ∈ visits step state inputs, holds visit.1 := by
  induction inputs generalizing state with
  | nil => exact fun visit member => absurd member not_mem_nil
  | cons input inputs ih =>
    have next := keeps state input start (each _ mem_cons_self)
    have later := ih next fun visit member => each visit (mem_cons_of_mem _ member)
    exact forall_mem_cons.mpr ⟨start, later⟩

/-- What every step keeps, every state reached has. -/
theorem holds_of_reaches {moves : σ → σ → Prop} {holds : σ → Prop} {first last : σ}
    (reaches : Relation.ReflTransGen moves first last) (start : holds first)
    (keeps : ∀ {before after}, moves before after → holds before → holds after) : holds last := by
  induction reaches with
  | refl => exact start
  | tail _ move held => exact keeps move held

/-- A run of a relation with events: each event with the state it happens in. -/
inductive Trace (moves : σ → ι → σ → Prop) : σ → List (σ × ι) → σ → Prop
  | nil (state : σ) : Trace moves state [] state
  | cons {first next last : σ} {event : ι} {later : List (σ × ι)} (move : moves first event next)
      (rest : Trace moves next later last) : Trace moves first ((first, event) :: later) last

variable {moves : σ → ι → σ → Prop}

theorem Trace.append {first middle last : σ} {early late : List (σ × ι)}
    (trace : Trace moves first early middle) (rest : Trace moves middle late last) :
    Trace moves first (early ++ late) last := by
  induction trace with
  | nil => exact rest
  | cons move _ ih => exact .cons move (ih rest)

theorem Trace.descends {level : Nat → σ → Prop} {counts : ι → Bool}
    (keeps : ∀ {number before event after}, moves before event after → allowed (before, event) →
      level number before → level (number - if counts event then 1 else 0) after) {first last : σ}
    {visits : List (σ × ι)} (trace : Trace moves first visits last)
    (each : ∀ visit ∈ visits, allowed visit) {number : Nat} (start : level number first) :
    level (number - visits.countP fun visit => counts visit.2) last := by
  induction trace generalizing number with
  | nil => exact start
  | cons move _ ih =>
    have next := keeps move (each _ mem_cons_self) start
    have last := ih (fun visit member => each visit (mem_cons_of_mem _ member)) next
    rw [countP_cons, Nat.add_comm, Nat.sub_add_eq]
    exact last

/-- The waiting rule: what every allowed step keeps until a visit of some kind holds at the end, or
there was such a visit. -/
theorem Trace.until {holds : σ → Prop} {allowed found : σ × ι → Prop} {first last : σ}
    {visits : List (σ × ι)} (trace : Trace moves first visits last)
    (keeps : ∀ {before event after}, moves before event after → allowed (before, event) →
      holds before → found (before, event) ∨ holds after)
    (each : ∀ visit ∈ visits, allowed visit) (start : holds first) :
    (∃ visit ∈ visits, found visit) ∨ holds last := by
  induction trace with
  | nil => exact .inr start
  | cons move _ ih =>
    rcases keeps move (each _ mem_cons_self) start with here | next
    · exact .inl ⟨_, mem_cons_self, here⟩
    · apply (ih (fun visit member => each visit (mem_cons_of_mem _ member)) next).imp_left
      intro ⟨visit, member, later⟩
      exact ⟨visit, mem_cons_of_mem _ member, later⟩

theorem Trace.holds {holds : σ → Prop} {first last : σ} {visits : List (σ × ι)}
    (trace : Trace moves first visits last) (start : holds first)
    (keeps : ∀ {before event after}, moves before event after → holds before → holds after) :
    holds last := by
  induction trace with
  | nil => exact start
  | cons move _ ih => exact ih (keeps move start)

end Ployz
