import Mathlib.Data.List.Basic

/-!
# Values on a stream of bytes

A sender writes values one after another, each with a separator behind it. The receiver gets the
bytes in chunks that end anywhere, and skips white space. `Carries` says which values are spelled
out by the bytes a receiver has buffered together with those still on the line; it does not depend
on where the chunks end.
-/

namespace Ployz

open List

variable {α β : Type} (space : β → Bool) (text : α → List β) (separator : β)

/-- The bytes of a sequence of values. -/
def wire (values : List α) : List β := values.flatMap fun value => text value ++ [separator]

/-- The bytes in the buffer and on the line are those of the values, with white space in
front. -/
def Carries (buffer line : List β) (values : List α) : Prop :=
  ∃ gap, (∀ byte ∈ gap, space byte = true) ∧ buffer ++ line = gap ++ wire text separator values

/-- A text that does not start with white space. -/
def Solid (value : List β) : Prop := ∃ first rest, value = first :: rest ∧ space first = false

variable {space text separator}

theorem wire_append (values more : List α) :
    wire text separator (values ++ more) = wire text separator values ++ wire text separator more :=
  flatMap_append

variable {buffer line : List β} {values : List α}

theorem Carries.send (carries : Carries space text separator buffer line values) (more : List α) :
    Carries space text separator buffer (line ++ wire text separator more) (values ++ more) := by
  obtain ⟨gap, blank, bytes⟩ := carries
  refine ⟨gap, blank, ?_⟩
  rw [wire_append, ← append_assoc, bytes, append_assoc]

theorem Carries.receive {chunk : List β}
    (carries : Carries space text separator buffer (chunk ++ line) values) :
    Carries space text separator (buffer ++ chunk) line values := by
  obtain ⟨gap, blank, bytes⟩ := carries
  exact ⟨gap, blank, by rw [append_assoc, bytes]⟩

theorem Carries.trim (carries : Carries space text separator buffer line values)
    (solid : ∀ value ∈ values, Solid space (text value)) :
    Carries space text separator (buffer.dropWhile space) line values := by
  obtain ⟨gap, blank, bytes⟩ := carries
  induction gap generalizing buffer with
  | nil =>
    cases buffer with
    | nil => exact ⟨[], blank, bytes⟩
    | cons byte buffer =>
      -- the first byte is that of the first text
      cases values with
      | nil => simp [wire] at bytes
      | cons value values =>
        obtain ⟨first, rest, spelled, visible⟩ := solid value mem_cons_self
        have same : byte = first := by
          simp only [wire, flatMap_cons, spelled, nil_append, cons_append,
            List.cons.injEq] at bytes
          exact bytes.1
        rw [dropWhile_cons_of_neg (by rw [same, visible]; simp)]
        exact ⟨[], blank, bytes⟩
  | cons byte gap ih =>
    cases buffer with
    | nil => exact ⟨byte :: gap, blank, bytes⟩
    | cons head buffer =>
      obtain ⟨rfl, later⟩ := List.cons.inj bytes
      rw [dropWhile_cons_of_pos (blank head mem_cons_self)]
      exact ih (fun other member => blank other (mem_cons_of_mem _ member)) later

/-- A buffer that starts with a visible byte starts with the first value, all of it or a part. -/
theorem Carries.split (carries : Carries space text separator buffer line values)
    (visible : Solid space buffer) (blank : space separator = true) :
    ∃ value rest, values = value :: rest ∧
      ((∃ left, buffer = text value ++ left ∧ Carries space text separator left line rest) ∨
        buffer <+: text value ∧ buffer ≠ text value) := by
  obtain ⟨first, tail, rfl, firstVisible⟩ := visible
  obtain ⟨gap, gapBlank, bytes⟩ := carries
  have start : gap = [] := by
    cases gap with
    | nil => rfl
    | cons byte gap =>
      have same : first = byte := (List.cons.inj bytes).1
      have hidden := gapBlank byte mem_cons_self
      rw [← same, firstVisible] at hidden
      cases hidden
  subst start
  cases values with
  | nil => simp [wire] at bytes
  | cons value rest =>
    refine ⟨value, rest, rfl, ?_⟩
    have spelled : first :: tail ++ line =
        text value ++ ([separator] ++ wire text separator rest) := by
      rw [bytes]
      simp [wire]
    obtain ⟨missing, whole, -⟩ | ⟨left, whole, onLine⟩ := append_eq_append_iff.mp spelled
    · by_cases complete : first :: tail = text value
      · refine .inl ⟨[], by rw [complete, append_nil], [separator], by simpa using blank, ?_⟩
        rw [← complete] at spelled
        exact append_cancel_left spelled
      · exact .inr ⟨⟨missing, whole.symm⟩, complete⟩
    · exact .inl ⟨left, whole, [separator], by simpa using blank, onLine.symm⟩

theorem trim_front {gap rest : List β} (blank : ∀ byte ∈ gap, space byte = true)
    (bytes : buffer ++ line = gap ++ rest) (visible : Solid space rest) :
    ∃ left, (∀ byte ∈ left, space byte = true) ∧ buffer.dropWhile space ++ line = left ++ rest ∧
      (buffer.dropWhile space ≠ [] → left = []) := by
  induction gap generalizing buffer with
  | nil =>
    cases buffer with
    | nil => exact ⟨[], blank, bytes, fun _ => rfl⟩
    | cons byte buffer =>
      have ⟨first, tail, shape, shown⟩ := visible
      have same : byte = first := by
        rw [nil_append, shape] at bytes
        exact (List.cons.inj bytes).1
      rw [dropWhile_cons_of_neg (by rw [same, shown]; simp)]
      exact ⟨[], blank, bytes, fun _ => rfl⟩
  | cons byte gap ih =>
    cases buffer with
    | nil => exact ⟨byte :: gap, blank, bytes, fun filled => absurd rfl filled⟩
    | cons head buffer =>
      have ⟨same, later⟩ := List.cons.inj bytes
      rw [dropWhile_cons_of_pos (same ▸ blank byte mem_cons_self)]
      exact ih (fun other member => blank other (mem_cons_of_mem _ member)) later

end Ployz
