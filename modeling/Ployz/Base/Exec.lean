import Mathlib

/-!
# Results of calls

A call of the modelled code returns a value, reports an error, or panics: `Exec` is its result type;
a call that cannot panic is a plain `Except`. `Ends` states what holds of either ending of a call,
and the rules below carry such a statement through sequencing and through a loop, so that a proof
about a loop is one statement about its body.
-/

namespace Ployz

open List

/-- How a call ends without a value: an error handed to the caller, or a panic. -/
inductive Fault (ε : Type) where
  /-- The error value of the call. -/
  | error (reason : ε)
  /-- A failed `expect`, a missing index or a failed conversion. -/
  | panic
deriving DecidableEq, Repr

/-- The result of a call that may also panic. -/
abbrev Exec (ε α : Type) := Except (Fault ε) α

namespace Exec

variable {ε ε' α : Type}

/-- Hand an error to the caller. -/
def fail (reason : ε) : Exec ε α := .error (.error reason)

/-- `Option::expect` and indexing: an absent value is a panic. -/
def expect : Option α → Exec ε α
  | some value => .ok value
  | none => .error .panic

/-- A call that cannot panic, used where one may. -/
def lift : Except ε α → Exec ε α
  | .ok value => .ok value
  | .error reason => fail reason

/-- `Result::map_err`: panics pass through. -/
def mapErr (wrap : ε → ε') : Exec ε α → Exec ε' α
  | .ok value => .ok value
  | .error (.error reason) => fail (wrap reason)
  | .error .panic => .error .panic

end Exec

section Rules

variable {ε α β σ : Type}

/-- What a call failed with, if it did. -/
def failure? : Except ε α → Option ε
  | .ok _ => none
  | .error reason => some reason

variable {result : Except ε α}

theorem eq_error_of_failure? {reason : ε} (failed : failure? result = some reason) :
    result = .error reason := by
  cases result with
  | ok value => cases failed
  | error other => rw [Option.some.inj failed]

theorem exists_ok_of_toOption {read : α → β} {seen : β}
    (returned : result.toOption.map read = some seen) :
    ∃ value, result = .ok value ∧ read value = seen := by
  cases result with
  | ok value => exact ⟨value, rfl, Option.some.inj returned⟩
  | error reason => cases returned

theorem eq_ok_of_toOption {value : α} (returned : result.toOption = some value) :
    result = .ok value := by
  cases result with
  | ok other => rw [Option.some.inj returned]
  | error reason => cases returned

variable {next : α → Except ε β}

/-- A sequence returns what its second call returns for the value of the first. -/
theorem bind_eq_ok_iff {value : β} :
    (result >>= next) = .ok value ↔ ∃ first, result = .ok first ∧ next first = .ok value := by
  constructor
  · intro returned
    cases result with
    | ok first => exact ⟨first, rfl, returned⟩
    | error reason => cases returned
  · rintro ⟨first, rfl, returned⟩
    exact returned

/-- A sequence of a check and a call returns when the check passes and the call returns. -/
theorem check_bind_eq_ok_iff {check : Except ε Unit} {next : Unit → Except ε β} {value : β} :
    (check >>= next) = .ok value ↔ check = .ok () ∧ next () = .ok value := by
  rw [bind_eq_ok_iff]
  exact ⟨fun ⟨_, passed, returned⟩ => ⟨passed, returned⟩,
    fun ⟨passed, returned⟩ => ⟨(), passed, returned⟩⟩

/-- Every value returned satisfies `post`, every failure satisfies `bad`. -/
def Ends (result : Except ε α) (post : α → Prop) (bad : ε → Prop) : Prop :=
  match result with
  | .ok value => post value
  | .error reason => bad reason

/-- A returned value ends well when it satisfies the postcondition. -/
@[simp] theorem ends_ok (value : α) (post : α → Prop) (bad : ε → Prop) :
    Ends (.ok value) post bad ↔ post value := Iff.rfl

@[simp] theorem ends_error (reason : ε) (post : α → Prop) (bad : ε → Prop) :
    Ends (.error reason) post bad ↔ bad reason := Iff.rfl

variable {post : α → Prop}

theorem Ends.mono {post' : α → Prop} {bad bad' : ε → Prop} (ends : Ends result post bad)
    (weaker : ∀ value, post value → post' value) (worse : ∀ reason, bad reason → bad' reason) :
    Ends result post' bad' := by
  cases result with
  | ok value => exact weaker value ends
  | error reason => exact worse reason ends

variable {bad : ε → Prop} {mid : α → Prop}

theorem Ends.bind {post : β → Prop} (first : Ends result mid bad)
    (second : ∀ value, mid value → Ends (next value) post bad) :
    Ends (result >>= next) post bad := by
  cases result with
  | ok value => exact second value first
  | error reason => exact first

/-- A second call runs from what the first one returned, whose failures are told apart. -/
theorem Ends.seq {post : β → Prop} {early : ε → Prop} (first : Ends result mid early)
    (worse : ∀ reason, early reason → bad reason)
    (second : ∀ value, mid value → Ends (next value) post bad) : Ends (result >>= next) post bad :=
  (first.mono (fun _ held => held) worse).bind second

theorem Ends.of_ok {value : α} (ends : Ends result post bad) (returned : result = .ok value) :
    post value := by
  subst returned
  exact ends

/-- The failure of a call that failed satisfies the failure condition. -/
theorem Ends.of_error {reason : ε} (ends : Ends result post bad) (failed : result = .error reason) :
    bad reason := by
  subst failed
  exact ends

variable {items : List α}

/-- The loop rule. `holds done state` is the invariant after the items of `done`; the body
keeps it or fails as `bad` allows. -/
theorem Ends.foldlM {body : σ → α → Except ε σ} (holds : List α → σ → Prop) {init : σ}
    (start : holds [] init)
    (step : ∀ done item rest state, items = done ++ item :: rest → holds done state →
      Ends (body state item) (holds (done ++ [item])) bad) :
    Ends (items.foldlM body init) (holds items) bad := by
  -- generalised over the items already done, so that the induction runs on the rest
  suffices from_done : ∀ rest done state, items = done ++ rest → holds done state →
      Ends (rest.foldlM body state) (holds items) bad from from_done items [] init rfl start
  intro rest
  induction rest with
  | nil =>
    intro done state split held
    rw [append_nil] at split
    rw [foldlM_nil, split]
    exact held
  | cons item rest ih =>
    intro done state split held
    rw [foldlM_cons]
    refine (step done item rest state split held).bind fun state' held' => ?_
    exact ih (done ++ [item]) state' (by rw [split]; simp) held'

variable {body : α → Except ε Unit}

/-- A loop without a state returns exactly when its body returns for every item. -/
theorem forM_eq_ok_iff : items.forM body = .ok () ↔ ∀ item ∈ items, body item = .ok () := by
  induction items with
  | nil => exact ⟨fun _ _ member => absurd member not_mem_nil, fun _ => rfl⟩
  | cons item items ih =>
    show (body item >>= fun _ => items.forM body) = .ok () ↔ _
    rw [check_bind_eq_ok_iff, forall_mem_cons, ih]

theorem Ends.forM (each : ∀ item ∈ items, Ends (body item) (fun _ => True) bad) :
    Ends (items.forM body) (fun _ => True) bad := by
  induction items with
  | nil => trivial
  | cons item items ih =>
    show Ends (body item >>= fun _ => items.forM body) _ _
    refine (each item mem_cons_self).bind fun _ _ => ?_
    exact ih fun other member => each other (mem_cons_of_mem _ member)

theorem anyM_of_ok {test : α → Except ε Bool} {holds : α → Bool}
    (returns : ∀ item ∈ items, test item = .ok (holds item)) :
    items.anyM test = .ok (items.any holds) := by
  induction items with
  | nil => rfl
  | cons item items ih =>
    have later := ih fun other member => returns other (mem_cons_of_mem _ member)
    rw [List.anyM, returns item mem_cons_self, any_cons]
    cases holds item with
    | true => rfl
    | false => exact later

end Rules

end Ployz
