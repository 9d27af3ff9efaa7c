import Ployz.Base.Exec

/-!
# Calls that may panic

Arithmetic whose result does not fit its type panics, and so does a slice that is not there. A
computation of this kind settles on a value when it can only return that value or panic, and it
reads as an optional value when it returns what the option holds, reports an error where the
option is empty, and never panics. Both are carried through sequencing.
-/

namespace Ployz

variable {accept : Prop}

theorem guard_bind_eq_some_iff {α : Type} [Decidable accept] {next : Unit → Option α} {value : α} :
    (guard accept >>= next) = some value ↔ accept ∧ next () = some value := by
  by_cases passes : accept
  · rw [guard, if_pos passes]
    exact ⟨fun read => ⟨passes, read⟩, fun read => read.2⟩
  · rw [guard, if_neg passes]
    exact ⟨nofun, fun read => absurd read.1 passes⟩

namespace Exec

variable {ε α β : Type}

/-- The result of an operation of a signed type with values from `-limit` to `limit - 1`. -/
def signed (limit value : Int) : Exec ε Int :=
  if -limit ≤ value ∧ value < limit then .ok value else .error .panic

/-- The result of an operation of an unsigned type with values below the limit. -/
def unsigned (limit value : Nat) : Exec ε Nat :=
  if value < limit then .ok value else .error .panic

theorem signed_eq_ok {limit value : Int} (fits : -limit ≤ value ∧ value < limit) :
    (signed limit value : Exec ε Int) = .ok value := if_pos fits

theorem signed_bind {limit value : Int} (fits : -limit ≤ value ∧ value < limit)
    (next : Int → Exec ε β) : (signed limit value >>= next) = next value := by
  rw [signed_eq_ok fits]
  rfl

theorem unsigned_eq_ok {limit value : Nat} (fits : value < limit) :
    (unsigned limit value : Exec ε Nat) = .ok value := if_pos fits

/-- The call can only return this value or panic. -/
def Settles (result : Exec ε α) (value : α) : Prop :=
  result = .ok value ∨ result = .error .panic

theorem Settles.ok (value : α) : Settles (.ok value : Exec ε α) value := .inl rfl

theorem Settles.signed (limit value : Int) :
    Settles (Exec.signed limit value : Exec ε Int) value := by
  unfold Exec.signed
  split
  · exact .inl rfl
  · exact .inr rfl

variable {result : Exec ε α} {value : α}

theorem Settles.eq_ok (settles : Settles result value) (returns : result ≠ .error .panic) :
    result = .ok value :=
  settles.resolve_right returns

variable {next : α → Exec ε β}

theorem Settles.bind {last : β} (first : Settles result value) (second : Settles (next value) last) :
    Settles (result >>= next) last := by
  cases first with
  | inl returned =>
    rw [returned]
    exact second
  | inr panicked =>
    rw [panicked]
    exact .inr rfl

/-- The call returns what the option holds and reports an error where it is empty. -/
def Reads (result : Exec ε α) (option : Option α) : Prop :=
  match option with
  | some value => result = .ok value
  | none => ∃ reason, result = fail reason

theorem Reads.ok (value : α) : Reads (.ok value : Exec ε α) (some value) := rfl

theorem Reads.fail (reason : ε) : Reads (Exec.fail reason : Exec ε α) none := ⟨reason, rfl⟩

variable {option : Option α}

theorem Reads.bind {other : α → Option β} (first : Reads result option)
    (second : ∀ value, option = some value → Reads (next value) (other value)) :
    Reads (result >>= next) (option >>= other) := by
  cases option with
  | none =>
    have ⟨reason, failed⟩ := first
    rw [failed]
    exact ⟨reason, rfl⟩
  | some value =>
    have returned : result = .ok value := first
    rw [returned]
    exact second value rfl

variable {other : Unit → Option α}

theorem Reads.pass [Decidable accept] (passes : accept) (next : Reads result (other ())) :
    Reads result (guard accept >>= other) := by
  rw [guard, if_pos passes]
  exact next

theorem Reads.check {refuse : Prop} [Decidable refuse] [Decidable accept]
    (opposite : refuse ↔ ¬accept) (reason : ε) (next : accept → Reads result (other ())) :
    Reads (if refuse then Exec.fail reason else result) (guard accept >>= other) := by
  by_cases passes : accept
  · rw [if_neg fun refused => opposite.mp refused passes, guard, if_pos passes]
    exact next passes
  · rw [if_pos (opposite.mpr passes), guard, if_neg passes]
    exact .fail reason

theorem Reads.ne_panic (reads : Reads result option) : result ≠ .error .panic := by
  cases option with
  | none =>
    have ⟨reason, failed⟩ := reads
    rw [failed]
    exact nofun
  | some value =>
    have returned : result = .ok value := reads
    rw [returned]
    exact nofun

theorem Reads.eq_ok_iff (reads : Reads result option) :
    result = .ok value ↔ option = some value := by
  cases option with
  | none =>
    have ⟨reason, failed⟩ := reads
    rw [failed]
    exact ⟨nofun, nofun⟩
  | some other =>
    have returned : result = .ok other := reads
    rw [returned, Except.ok.injEq, Option.some.injEq]

end Exec

end Ployz
