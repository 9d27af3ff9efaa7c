import Mathlib.Logic.Basic

/-!
# Procedures on a state

A procedure changes a state and returns a value or fails; what it has changed before it fails
stays changed. `Meets` states what holds after either ending of a procedure that is run where
a condition holds, and the rules below carry such a statement through the steps of a procedure.
-/

namespace Ployz

/-- A procedure on states of type `σ` that returns values of type `α` and fails with `ε`. -/
abbrev Procedure (ε σ α : Type) := ExceptT ε (StateM σ) α

namespace Procedure

variable {ε σ α β : Type}

/-- How a procedure ends, and the state it leaves. -/
def outcome (procedure : Procedure ε σ α) (state : σ) : Except ε α × σ := procedure.run.run state

/-- Run where `before` holds, a procedure returns with `after` or fails with `failed`. -/
def Meets (before : σ → Prop) (procedure : Procedure ε σ α) (after : α → σ → Prop)
    (failed : ε → σ → Prop) : Prop :=
  ∀ state, before state →
    match procedure.outcome state with
    | (.ok value, next) => after value next
    | (.error reason, next) => failed reason next

variable {before : σ → Prop} {after : α → σ → Prop} {failed : ε → σ → Prop}

namespace Meets

theorem pure {value : α} (holds : ∀ state, before state → after value state) :
    Meets before (Pure.pure value : Procedure ε σ α) after failed := holds

theorem throw {reason : ε} (holds : ∀ state, before state → failed reason state) :
    Meets before (MonadExcept.throw reason : Procedure ε σ α) after failed := holds

theorem bind {first : Procedure ε σ α} {next : α → Procedure ε σ β} {after : β → σ → Prop}
    (between : α → σ → Prop) (meets : Meets before first between failed)
    (then' : ∀ value, Meets (between value) (next value) after failed) :
    Meets before (first >>= next) after failed := by
  intro state holds
  have middle := meets state holds
  have run : (first >>= next).outcome state =
      match first.outcome state with
      | (.ok value, reached) => (next value).outcome reached
      | (.error reason, reached) => (.error reason, reached) := by
    unfold outcome
    show (ExceptT.bindCont next (first.run.run state).1).run (first.run.run state).2 = _
    cases (first.run.run state) with
    | mk ending reached => cases ending <;> rfl
  rw [run]
  cases ended : first.outcome state with
  | mk ending reached =>
    rw [ended] at middle
    cases ending with
    | ok value => exact then' value reached middle
    | error reason => exact middle

theorem modifyGet {change : σ → α × σ}
    (holds : ∀ state, before state → after (change state).1 (change state).2) :
    Meets before (MonadState.modifyGet change : Procedure ε σ α) after failed := holds

theorem modifies {change : σ → σ} {after : PUnit → σ → Prop}
    (holds : ∀ state, before state → after () (change state)) :
    Meets before (modify change : Procedure ε σ PUnit) after failed := holds

theorem get {after : σ → σ → Prop} (holds : ∀ state, before state → after state state) :
    Meets before (MonadState.get : Procedure ε σ σ) after failed := holds

theorem ite {test : Prop} [Decidable test] {first second : Procedure ε σ α}
    (yes : test → Meets before first after failed)
    (no : ¬test → Meets before second after failed) :
    Meets before (if test then first else second) after failed := by
  by_cases passes : test
  · rw [if_pos passes]
    exact yes passes
  · rw [if_neg passes]
    exact no passes

theorem strengthen {stronger : σ → Prop} {procedure : Procedure ε σ α}
    (meets : Meets before procedure after failed)
    (implies : ∀ state, stronger state → before state) :
    Meets stronger procedure after failed :=
  fun state holds => meets state (implies state holds)

end Meets

end Procedure

end Ployz
