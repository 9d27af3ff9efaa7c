import Ployz.Base.Text

/-!
# Lines and comments

A text in a format whose comments are the lines that start with `#`. What counts of such a
text is its content: the lines that are neither empty nor a comment. A text that is put behind
a `#` adds no content exactly when it is quiet: each of its line breaks is followed by a
comment, by another line break, or by nothing.
-/

namespace Ployz.Lines

open List

/-- The lines of a text. -/
def lines (text : List Char) : List (List Char) := text.splitOn '\n'

/-- A line that is empty or a comment. -/
def Inert (line : List Char) : Prop := line = [] ∨ line.head? = some '#'

instance (line : List Char) : Decidable (Inert line) := inferInstanceAs (Decidable (_ ∨ _))

/-- The lines that are neither empty nor a comment. -/
def content (text : List Char) : List (List Char) := (lines text).filter fun line => ¬Inert line

/-- Every line break is followed by a comment, a line break or the end. -/
def Quiet : List Char → Prop
  | [] => True
  | c :: rest =>
    (c = '\n' → rest.head? = none ∨ rest.head? = some '\n' ∨ rest.head? = some '#') ∧ Quiet rest

instance decidableQuiet : DecidablePred Quiet
  | [] => inferInstanceAs (Decidable True)
  | _ :: rest =>
    have : Decidable (Quiet rest) := decidableQuiet rest
    inferInstanceAs (Decidable (_ ∧ _))

theorem exists_lines (text : List Char) : ∃ first others, lines text = first :: others :=
  exists_cons_of_ne_nil (splitOn_ne_nil '\n' text)

theorem lines_append (front back : List Char) :
    lines (front ++ '\n' :: back) = lines front ++ lines back :=
  splitOn_append_cons front back

theorem content_append (front back : List Char) :
    content (front ++ '\n' :: back) = content front ++ content back := by
  rw [content, lines_append, filter_append, content, content]

variable {text : List Char}

theorem content_eq_nil : content text = [] ↔ ∀ line ∈ lines text, Inert line := by
  rw [content, filter_eq_nil_iff]
  simp

theorem lines_cons {c : Char} (inner : c ≠ '\n') (text : List Char) :
    lines (c :: text) = (lines text).modifyHead (c :: ·) := by
  unfold lines
  rw [List.splitOn, splitOnP_cons_eq_if_modifyHead, if_neg (by simpa using inner)]
  rfl

theorem lines_newline (text : List Char) : lines ('\n' :: text) = [] :: lines text := by
  have cut := lines_append [] text
  rwa [nil_append] at cut

theorem inert_head {line : List Char} {rest : List (List Char)} (cut : lines text = line :: rest) :
    Inert line ↔ text.head? = none ∨ text.head? = some '\n' ∨ text.head? = some '#' := by
  cases text with
  | nil =>
    have same := (List.cons.inj cut).1
    simp [← same, Inert]
  | cons c text =>
    by_cases inner : c = '\n'
    · rw [inner, lines_newline] at cut
      have same := (List.cons.inj cut).1
      simp [← same, Inert, inner]
    · rw [lines_cons inner] at cut
      have ⟨first, others, shape⟩ := exists_lines text
      rw [shape, modifyHead_cons] at cut
      have same := (List.cons.inj cut).1
      simp [← same, Inert, inner]

theorem quiet_iff (text : List Char) : Quiet text ↔ ∀ line ∈ (lines text).tail, Inert line := by
  induction text with
  | nil => simp [Quiet, lines]
  | cons c text ih =>
    have ⟨first, others, shape⟩ := exists_lines text
    rw [shape, tail_cons] at ih
    by_cases inner : c = '\n'
    · rw [Quiet, inner, lines_newline, tail_cons, shape, forall_mem_cons, inert_head shape,
        ih]
      simp
    · rw [Quiet, lines_cons inner, shape, modifyHead_cons, tail_cons, ih]
      simp [inner]

theorem content_comment (text : List Char) : content ('#' :: text) = [] ↔ Quiet text := by
  have ⟨first, others, shape⟩ := exists_lines text
  rw [content_eq_nil, quiet_iff, lines_cons (by decide), shape, modifyHead_cons,
    forall_mem_cons, tail_cons]
  exact and_iff_right (.inr rfl)

/-- A character that is no line break separates what is quiet on its two sides. -/
theorem quiet_append {c : Char} (inner : c ≠ '\n') (front back : List Char) :
    Quiet (front ++ c :: back) ↔ Quiet (front ++ [c]) ∧ Quiet back := by
  induction front with
  | nil => simp [Quiet, inner]
  | cons d front ih =>
    have same : (front ++ c :: back).head? = (front ++ [c]).head? := by
      cases front <;> rfl
    rw [cons_append, cons_append, Quiet, Quiet, ih, same, and_assoc]

theorem quiet_append_of_notMem {front : List Char} (absent : '\n' ∉ front) (back : List Char) :
    Quiet (front ++ back) ↔ Quiet back := by
  induction front with
  | nil => rfl
  | cons c front ih =>
    have ⟨inner, later⟩ := not_or.mp (fun member => absent (mem_cons.mpr member))
    rw [cons_append, Quiet, ih later]
    exact and_iff_right fun broken => absurd broken.symm inner

theorem quiet_of_notMem (absent : '\n' ∉ text) : Quiet text := by
  have alone := (quiet_append_of_notMem absent []).mpr trivial
  rwa [append_nil] at alone

end Ployz.Lines
