import Ployz.Base.Numeral
import Ployz.Metrics.Escape

/-!
# Escaped metric names

Every scheme makes legacy names. The values scheme can be undone: each character is written as a
word that tells where it ends.
-/

namespace Ployz.Metrics

open List

section Valid

variable {escaping : Escaping} {c : Char} {index : Nat} {name rest : List Char}

theorem all_zipIdx_succ :
    ((rest.zipIdx (index + 1)).all fun place => isValidLegacyCharacter place.1 place.2) = true ↔
      ∀ c ∈ rest, isValidLegacyCharacter c 1 = true := by
  induction rest generalizing index with
  | nil => simp
  | cons c rest ih =>
    rw [zipIdx_cons, all_cons, Bool.and_eq_true, ih, forall_mem_cons]
    simp [isValidLegacyCharacter]

theorem isValidLegacyName_cons : isValidLegacyName (c :: rest) = true ↔
    isValidLegacyCharacter c 0 = true ∧ ∀ x ∈ rest, isValidLegacyCharacter x 1 = true := by
  rw [← @all_zipIdx_succ 0, ← Bool.and_eq_true]
  rfl

/-- The characters written for one character are valid where they stand. -/
theorem escapeCharacter_valid (escaping : Escaping) (c : Char) (index : Nat) :
    ∃ first rest, escapeCharacter escaping c index = first :: rest ∧
      isValidLegacyCharacter first index = true ∧
      ∀ x ∈ rest, isValidLegacyCharacter x 1 = true := by
  have underscore : isValidLegacyCharacter '_' index = true := by simp [isValidLegacyCharacter]
  have digits : ∀ value < 16, isValidLegacyCharacter (Nat.digitChar value) 1 = true := by decide
  cases escaping with
  | underscores =>
    simp only [escapeCharacter]
    split_ifs with valid
    · exact ⟨c, [], rfl, valid, by simp⟩
    · exact ⟨'_', [], rfl, underscore, by simp⟩
  | dots =>
    simp only [escapeCharacter]
    split_ifs with one dot valid
    · exact ⟨'_', _, rfl, underscore, by simp [isValidLegacyCharacter]⟩
    · exact ⟨'_', _, rfl, underscore, by simp [isValidLegacyCharacter]⟩
    · exact ⟨c, [], rfl, valid, by simp⟩
    · exact ⟨'_', _, rfl, underscore, by simp [isValidLegacyCharacter]⟩
  | values =>
    simp only [escapeCharacter]
    split_ifs with one valid
    · exact ⟨'_', _, rfl, underscore, by simp [isValidLegacyCharacter]⟩
    · exact ⟨c, [], rfl, valid, by simp⟩
    · refine ⟨'_', _, rfl, underscore, fun x member => ?_⟩
      rcases mem_append.mp member with digit | last
      · have ⟨value, below, written⟩ := exists_of_mem_toDigits (by decide) digit
        rw [written]
        exact digits value below
      · rw [mem_singleton.mp last]
        decide

theorem valid_of_mem_escapeFrom {x : Char} (member : x ∈ escapeFrom escaping index name) :
    isValidLegacyCharacter x 1 = true := by
  induction name generalizing index with
  | nil => exact nomatch member
  | cons c name ih =>
    have ⟨first, rest, written, atFirst, inRest⟩ := escapeCharacter_valid escaping c index
    rw [escapeFrom, written, cons_append] at member
    rcases mem_cons.mp member with same | later
    · rw [same]
      unfold isValidLegacyCharacter at atFirst ⊢
      grind
    · exact (mem_append.mp later).elim (inRest x) ih

theorem escapeName_of_ne_nil (some : name ≠ []) : escapeName name escaping =
    (if escaping = .values then ['U', '_', '_'] else []) ++ escapeFrom escaping 0 name := by
  simp [escapeName, some]

theorem isValidLegacyName_escapeName (escaping : Escaping) (some : name ≠ []) :
    isValidLegacyName (escapeName name escaping) = true := by
  rw [escapeName_of_ne_nil some]
  split_ifs with scheme
  · rw [cons_append, isValidLegacyName_cons]
    apply And.intro (by decide)
    intro x member
    rcases mem_append.mp member with mark | later
    · rw [@eq_of_mem_replicate _ _ _ 2 mark]
      decide
    · exact valid_of_mem_escapeFrom later
  · match name, some with
    | c :: name, _ =>
      have ⟨first, rest, piece, atFirst, inRest⟩ := escapeCharacter_valid escaping c 0
      rw [nil_append, escapeFrom, piece, cons_append, isValidLegacyName_cons]
      apply And.intro atFirst
      intro x member
      exact (mem_append.mp member).elim (inRest x) valid_of_mem_escapeFrom

theorem escapeFrom_underscores (valid : ((name.zipIdx index).all fun place =>
    isValidLegacyCharacter place.1 place.2) = true) :
    escapeFrom .underscores index name = name := by
  induction name generalizing index with
  | nil => rfl
  | cons c name ih =>
    rw [zipIdx_cons, all_cons, Bool.and_eq_true] at valid
    rw [escapeFrom, escapeCharacter, if_pos valid.1, ih valid.2, singleton_append]

end Valid

/-- Reads one character off a text of the values scheme. -/
def readEscaped : List Char → Option (Char × List Char)
  | '_' :: '_' :: rest => some ('_', rest)
  | '_' :: rest => do
    let (value, rest) ← readNumber 16 0x110000 6 true rest
    some (Char.ofNat value, rest.tail)
  | c :: rest => some (c, rest)
  | [] => none

theorem readEscaped_hex (c : Char) (rest : List Char) :
    readEscaped ('_' :: (Nat.toDigits 16 c.toNat ++ '_' :: rest)) = some (c, rest) := by
  have below : c.toNat < 0x110000 := by
    have valid : c.toNat.isValidChar := c.valid
    unfold Nat.isValidChar at valid
    omega
  have read := @readNumber_toDigits 0x110000 6 _ ('_' :: rest) 16 (by decide) (by decide) true
    (by decide) below (by omega) (by simp; decide)
  have ⟨digit, digits, written⟩ := exists_cons_of_ne_nil (@Nat.toDigits_ne_nil c.toNat 16)
  have mark : digit ≠ '_' := by
    have first : digit ∈ Nat.toDigits 16 c.toNat := by simp [written]
    have ⟨value, small, shown⟩ := exists_of_mem_toDigits (by decide) first
    have none : ∀ value < 16, Nat.digitChar value ≠ '_' := by decide
    rw [shown]
    exact none value small
  rw [written, cons_append] at read ⊢
  simp [readEscaped, mark, read]

theorem readEscaped_escapeCharacter (c : Char) (index : Nat) (rest : List Char) :
    readEscaped (escapeCharacter .values c index ++ rest) = some (c, rest) := by
  simp only [escapeCharacter]
  split_ifs with one valid
  · rw [one]
    rfl
  · rw [singleton_append]
    unfold readEscaped
    split <;> simp_all
  · simpa using readEscaped_hex c rest

theorem escapeFrom_inj {index : Nat} {name other : List Char}
    (same : escapeFrom .values index name = escapeFrom .values index other) : name = other := by
  induction name generalizing other index with
  | nil =>
    cases other with
    | nil => rfl
    | cons d other =>
      have read := congrArg readEscaped same
      rw [escapeFrom, escapeFrom, readEscaped_escapeCharacter] at read
      cases read
  | cons c name ih =>
    have read := congrArg readEscaped same
    rw [escapeFrom, readEscaped_escapeCharacter] at read
    cases other with
    | nil => cases read
    | cons d other =>
      rw [escapeFrom, readEscaped_escapeCharacter] at read
      have ⟨first, later⟩ := Prod.mk.inj (Option.some.inj read)
      rw [first, ih later]

/-- Escaped names are legacy names, of which underscores changes none, and values merges none. -/
theorem metric_name_escaping :
    (∀ (name : List Char) (escaping : Escaping), name ≠ [] →
      isValidLegacyName (escapeName name escaping) = true) ∧
    (∀ name, isValidLegacyName name = true → escapeName name .underscores = name) ∧
    ∀ name other : List Char, name ≠ [] → other ≠ [] →
      escapeName name .values = escapeName other .values → name = other := by
  apply And.intro
  · intro name escaping some
    exact isValidLegacyName_escapeName escaping some
  apply And.intro
  · intro name valid
    rw [isValidLegacyName, Bool.and_eq_true] at valid
    have some : name ≠ [] := by simpa using valid.1
    rw [escapeName_of_ne_nil some, if_neg nofun, nil_append, escapeFrom_underscores valid.2]
  · intro name other some some' same
    rw [escapeName_of_ne_nil some, escapeName_of_ne_nil some'] at same
    exact escapeFrom_inj (append_cancel_left same)

theorem metric_name_escaping_sample :
    isValidLegacyName (escapeName ['9', 'é'] .dots) = true ∧
      escapeName ['_'] .values ≠ escapeName ['é'] .values := by
  have ⟨valid, _, injective⟩ := metric_name_escaping
  apply And.intro (valid ['9', 'é'] .dots nofun)
  intro same
  have merged := injective ['_'] ['é'] nofun nofun same
  exact absurd merged (by decide)

end Ployz.Metrics
