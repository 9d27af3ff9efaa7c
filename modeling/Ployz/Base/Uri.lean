import Ployz.Base.Text

/-!
# The parts of a URI

The reading of RFC 3986, section 3: a scheme before the first colon; after two slashes an authority
up to the first slash, question mark or number sign; in it the user information before the last at
sign, and the host before a port. URIs are often cut at the first `://` instead; the two agree when
the scheme is followed by an authority.
-/

namespace Ployz.Uri

/-- The characters that end an authority. -/
def authorityEnds : List Char := ['/', '?', '#']

/-- The text before the first colon. -/
def scheme (text : List Char) : Option (List Char) := (splitOnce ':' text).map Prod.fst

/-- The part of the text that names where to connect to. -/
def authority (text : List Char) : Option (List Char) :=
  match splitOnce ':' text with
  | some (_, '/' :: '/' :: rest) => some (rest.takeWhile (· ∉ authorityEnds))
  | _ => none

/-- An authority without its user information. -/
def hostPort (authority : List Char) : List Char :=
  match rsplitOnce '@' authority with
  | some (_, hostPort) => hostPort
  | none => authority

/-- The host of an authority without user information: between brackets or before the port. -/
def hostName : List Char → List Char
  | '[' :: rest => rest.takeWhile (· ≠ ']')
  | hostPort => hostPort.takeWhile (· ≠ ':')

/-- The host of a URI. -/
def host (text : List Char) : Option (List Char) :=
  (authority text).map fun authority => hostName (hostPort authority)

/-- The user information of a URI. -/
def userinfo (text : List Char) : Option (List Char) :=
  (authority text).bind fun authority => (rsplitOnce '@' authority).map Prod.fst

/-- The text before and after the first `://`. -/
def splitMark : List Char → Option (List Char × List Char)
  | [] => none
  | c :: text =>
    match c, text with
    | ':', '/' :: '/' :: rest => some ([], rest)
    | _, _ => (splitMark text).map fun (before, after) => (c :: before, after)

variable {front back : List Char}

section Mark

variable {before after text : List Char}

/-- The text with a mark between two parts. -/
def marked (before after : List Char) : List Char := before ++ ':' :: '/' :: '/' :: after

theorem splitMark_marked_nil (after : List Char) : splitMark (marked [] after) = some ([], after) :=
  rfl

theorem splitMark_cons {c : Char} (other : ∀ rest, c :: text ≠ marked [] rest) :
    splitMark (c :: text) =
      (splitMark text).map fun (before, after) => (c :: before, after) := by
  rw [splitMark]
  intro rest mark shape
  exact other rest (by rw [mark, shape]; rfl)

theorem splitMark_eq_some (split : splitMark text = some (before, after)) :
    text = marked before after := by
  induction text generalizing before after with
  | nil => exact nomatch split
  | cons c text ih =>
    by_cases here : ∃ rest, c :: text = marked [] rest
    · have ⟨rest, shape⟩ := here
      rw [shape, splitMark_marked_nil] at split
      have ⟨first, second⟩ := Prod.mk.inj (Option.some.inj split)
      rw [shape, ← first, ← second]
    · rw [splitMark_cons fun rest shape => here ⟨rest, shape⟩] at split
      have ⟨⟨front, back⟩, later, same⟩ := Option.map_eq_some_iff.mp split
      have ⟨first, second⟩ := Prod.mk.inj same
      rw [ih later, ← first, ← second]
      rfl

theorem splitMark_marked (absent : ':' ∉ before) (after : List Char) :
    splitMark (marked before after) = some (before, after) := by
  induction before with
  | nil => rfl
  | cons c before ih =>
    have ⟨inner, later⟩ := not_or.mp (fun member => absent (List.mem_cons.mpr member))
    have other : ∀ rest, c :: marked before after ≠ marked [] rest := by
      intro rest shape
      exact inner (List.cons.inj shape).1.symm
    refine (splitMark_cons other).trans ?_
    rw [ih later]
    rfl

theorem length_le_of_splitMark (split : splitMark (marked front back) = some (before, after)) :
    before.length ≤ front.length := by
  induction front generalizing before after with
  | nil =>
    have ⟨first, _⟩ := Prod.mk.inj (Option.some.inj split)
    rw [← first]
  | cons c front ih =>
    by_cases here : ∃ rest, c :: marked front back = marked [] rest
    · have ⟨rest, shape⟩ := here
      have found : splitMark (marked (c :: front) back) = some ([], rest) :=
        (congrArg splitMark shape).trans (splitMark_marked_nil rest)
      have ⟨first, _⟩ := Prod.mk.inj (Option.some.inj (found.symm.trans split))
      rw [← first]
      exact Nat.zero_le _
    · have found : splitMark (marked (c :: front) back) = _ :=
        splitMark_cons fun rest shape => here ⟨rest, shape⟩
      rw [found] at split
      have ⟨⟨start, rest⟩, later, same⟩ := Option.map_eq_some_iff.mp split
      have ⟨first, _⟩ := Prod.mk.inj same
      rw [← first]
      exact Nat.succ_le_succ (ih later)

variable {found : List Char}

theorem exists_of_authority (there : authority text = some found) :
    ∃ scheme rest, text = marked scheme rest ∧ ':' ∉ scheme := by
  unfold authority at there
  split at there
  · rename_i scheme rest cut
    have ⟨shape, absent⟩ := splitOnce_eq_some cut
    exact ⟨scheme, rest, shape, absent⟩
  · exact nomatch there

/-- The first mark of a text follows its scheme if the text has an authority, also when the
text after the mark is another one. -/
theorem colon_notMem_of_splitMark (split : splitMark text = some (before, after))
    {other : List Char} (there : authority (marked before other) = some found) : ':' ∉ before := by
  have ⟨scheme, rest, shape, absent⟩ := exists_of_authority there
  intro member
  have ⟨front, back, inside, clear⟩ := List.eq_append_cons_of_mem member
  have first : splitOnce ':' (marked before other) =
      some (front, back ++ ':' :: '/' :: '/' :: other) := by
    rw [marked, inside, List.append_assoc, List.cons_append, splitOnce_append clear]
  rw [shape, marked, splitOnce_append absent] at first
  have slashes := (Prod.mk.inj (Option.some.inj first)).2
  -- two slashes after the first colon are a mark before the one that was found
  match back, inside, slashes with
  | [], _, slashes => exact absurd (List.cons.inj slashes).1 (by decide)
  | [_], _, slashes =>
    exact absurd (List.cons.inj (List.cons.inj slashes).2).1 (by decide)
  | one :: two :: later, inside, slashes =>
    have ⟨oneSlash, tail⟩ := List.cons.inj slashes
    have ⟨twoSlash, _⟩ := List.cons.inj tail
    have earlier : text = marked front (later ++ ':' :: '/' :: '/' :: after) := by
      rw [splitMark_eq_some split, marked, inside, ← oneSlash, ← twoSlash, marked]
      simp
    rw [earlier] at split
    have short := length_le_of_splitMark split
    rw [inside, List.length_append, List.length_cons] at short
    omega

variable {scheme : List Char}

theorem authority_marked (absent : ':' ∉ scheme) (rest : List Char) :
    authority (marked scheme rest) = some (rest.takeWhile (· ∉ authorityEnds)) := by
  rw [authority, marked, splitOnce_append absent]
  rfl

theorem scheme_marked (absent : ':' ∉ scheme) (rest : List Char) :
    Uri.scheme (marked scheme rest) = some scheme := by
  rw [Uri.scheme, marked, splitOnce_append absent]
  rfl

end Mark

section Authority

theorem rsplitOnce_cases (separator : Char) (text : List Char) :
    (∃ before after, rsplitOnce separator text = some (before, after) ∧
      text = before ++ separator :: after ∧ separator ∉ after) ∨
    (rsplitOnce separator text = none ∧ separator ∉ text) := by
  by_cases present : separator ∈ text
  · have ⟨front, last, shape, absent⟩ := exists_last_piece present
    left
    exact ⟨front, last, by rw [shape, rsplitOnce_append front absent], shape, absent⟩
  · right
    exact ⟨rsplitOnce_eq_none present, present⟩

theorem hostPort_spec (authority : List Char) :
    '@' ∉ hostPort authority ∧ ∃ front, authority = front ++ hostPort authority := by
  unfold hostPort
  cases rsplitOnce_cases '@' authority with
  | inl found =>
    have ⟨before, after, split, shape, absent⟩ := found
    rw [split]
    exact ⟨absent, before ++ ['@'], by rw [shape]; simp⟩
  | inr none =>
    rw [none.1]
    exact ⟨none.2, [], rfl⟩

theorem hostPort_of_notMem {authority : List Char} (absent : '@' ∉ authority) :
    hostPort authority = authority := by
  rw [hostPort, rsplitOnce_eq_none absent]

/-- The part of a text up to some characters, when they come next or the text ends. -/
theorem takeWhile_append_of {stops : List Char} (clear : ∀ c ∈ front, c ∉ stops)
    (stopped : ∀ c ∈ back.head?, c ∈ stops) : (front ++ back).takeWhile (· ∉ stops) = front := by
  rw [List.takeWhile_append_of_pos fun c member => decide_eq_true (clear c member)]
  cases back with
  | nil => simp
  | cons c back =>
    have stop := stopped c rfl
    simp [stop]

/-- A text is cut in front of the first occurrence of a character. -/
theorem cut_at {stop : Char} (absent : stop ∉ front) (back : List Char) :
    (front ++ stop :: back).takeWhile (· ≠ stop) = front ∧
      (front ++ stop :: back).dropWhile (· ≠ stop) = stop :: back := by
  have passes : ∀ c ∈ front, decide (c ≠ stop) = true := by
    intro c member
    exact decide_eq_true fun same => absent (same ▸ member)
  rw [List.takeWhile_append_of_pos passes, List.dropWhile_append_of_pos passes]
  simp

end Authority

end Ployz.Uri
