import Ployz.Base.Exec
import Ployz.Grpc.Version

/-!
# The order of protocol versions

Versions are ordered by a key: their numbers, then their pre-release part, of which none at all
comes last. An identifier that is a `u64` comes before every other and is ordered by its value, so
that two identifiers have one key only when leading zeros tell them apart. What is sent for a
version is parsed as that version.
-/

namespace Ployz.Grpc

open List

/-- A numeric identifier has no leading zeros. -/
def Canonical (part : List Char) : Prop :=
  part.all Char.isDigit → part.head? = some '0' → part = ['0']

instance : DecidablePred Canonical := fun part =>
  inferInstanceAs (Decidable (part.all Char.isDigit → part.head? = some '0' → part = ['0']))

/-- The order of identifiers: numbers by value, then all others by their text. -/
def identifierKey (part : List Char) : ℕ ⊕ₗ List Char :=
  match parseUnsigned (2 ^ 64) part with
  | .ok number => toLex (.inl number)
  | .error _ => toLex (.inr part)

variable {c : Char}

theorem isDigit_of_toDigit (digit : (toDigit 10 c).isSome = true) : c.isDigit = true := by
  have ⟨value, found⟩ := Option.isSome_iff_exists.mp digit
  have digits : ∀ digit < 10, (Nat.digitChar digit).isDigit = true := by decide
  rw [← digitChar_of_toDigit found]
  exact digits value (lt_of_toDigit found)

variable {left right : List Char}

theorem eq_of_parse_eq {number : Nat} (plain : '+' ∉ left) (plain' : '+' ∉ right)
    (canonical : Canonical left) (canonical' : Canonical right)
    (read : parseUnsigned (2 ^ 64) left = .ok number)
    (read' : parseUnsigned (2 ^ 64) right = .ok number) : left = right := by
  have written : ∀ {part : List Char}, '+' ∉ part → Canonical part →
      parseUnsigned (2 ^ 64) part = .ok number → part = Nat.toDigits 10 number := by
    intro part plain canonical read
    have ⟨digits, shape, filled, all, value, _⟩ := parseUnsigned_eq_ok_iff.mp read
    rcases shape with same | signed
    · rw [same] at canonical ⊢
      rw [value, toDigits_digitsValue filled all]
      apply canonical
      rw [all_eq_true]
      exact fun c member => isDigit_of_toDigit (all c member)
    · rw [signed] at plain
      exact absurd mem_cons_self plain
  rw [written plain canonical read, written plain' canonical' read']

section Identifiers

variable {left right : List Char} (plain : '+' ∉ left ∧ Canonical left)
  (plain' : '+' ∉ right ∧ Canonical right)

include plain plain'

theorem identifierKey_inj (same : identifierKey left = identifierKey right) : left = right := by
  unfold identifierKey at same
  cases read : parseUnsigned (2 ^ 64) left with
  | ok number =>
    cases read' : parseUnsigned (2 ^ 64) right with
    | ok number' =>
      rw [read, read'] at same
      have equal : number = number' := Sum.inl.inj (toLex.injective same)
      exact eq_of_parse_eq plain.1 plain'.1 plain.2 plain'.2 read (equal ▸ read')
    | error _ =>
      rw [read, read'] at same
      exact nomatch toLex.injective same
  | error _ =>
    cases read' : parseUnsigned (2 ^ 64) right with
    | ok number' =>
      rw [read, read'] at same
      exact nomatch toLex.injective same
    | error _ =>
      rw [read, read'] at same
      exact Sum.inr.inj (toLex.injective same)

theorem compareIdentifiers_single (apart : left ≠ right) (lefts rights : List (List Char)) :
    compareIdentifiers (left :: lefts) (right :: rights) = .lt ↔
      identifierKey left < identifierKey right := by
  have keys := fun same => apart (identifierKey_inj plain plain' same)
  rw [compareIdentifiers, if_neg apart]
  unfold identifierKey at keys ⊢
  cases read : parseUnsigned (2 ^ 64) left <;> cases read' : parseUnsigned (2 ^ 64) right <;>
    simp only [read, read', Sum.Lex.inl_lt_inl_iff, Sum.Lex.inr_lt_inr_iff, Sum.Lex.inl_lt_inr,
      Sum.Lex.not_inr_lt_inl, reduceCtorEq] at keys ⊢
  case error.error =>
    unfold cmp cmpUsing
    split_ifs with less more
    · exact iff_of_true rfl less
    · exact iff_of_false nofun less
    · exact iff_of_false nofun less
  case ok.ok number number' =>
    have other : number ≠ number' := fun same => keys (congrArg (fun n => toLex (Sum.inl n)) same)
    split_ifs with more
    · exact iff_of_false nofun (by omega)
    · exact iff_of_true rfl (by omega)

end Identifiers

/-- Identifiers of a pre-release part without leading zeros. -/
def Ordered (parts : List (List Char)) : Prop := ∀ part ∈ parts, '+' ∉ part ∧ Canonical part

variable {lefts rights : List (List Char)}

theorem map_identifierKey_inj (ordered : Ordered lefts) (ordered' : Ordered rights)
    (same : lefts.map identifierKey = rights.map identifierKey) : lefts = rights := by
  induction lefts generalizing rights with
  | nil => exact (map_eq_nil_iff.mp same.symm).symm
  | cons left lefts ih =>
    cases rights with
    | nil => exact nomatch same
    | cons right rights =>
      have ⟨first, rest⟩ := List.cons.inj same
      have ⟨here, later⟩ := forall_mem_cons.mp ordered
      have ⟨here', later'⟩ := forall_mem_cons.mp ordered'
      rw [identifierKey_inj here here' first, ih later later' rest]

theorem compareIdentifiers_eq_lt_iff (ordered : Ordered lefts) (ordered' : Ordered rights) :
    compareIdentifiers lefts rights = .lt ↔
      lefts.map identifierKey < rights.map identifierKey := by
  induction lefts generalizing rights with
  | nil => cases rights <;> simp [compareIdentifiers]
  | cons left lefts ih =>
    cases rights with
    | nil => simp [compareIdentifiers]
    | cons right rights =>
      have ⟨here, later⟩ := forall_mem_cons.mp ordered
      have ⟨here', later'⟩ := forall_mem_cons.mp ordered'
      rw [map_cons, map_cons, cons_lt_cons_iff]
      by_cases same : left = right
      · rw [compareIdentifiers, if_pos same, ih later later', same]
        simp
      · have keys := fun equal => same (identifierKey_inj here here' equal)
        rw [compareIdentifiers_single here here' same]
        exact (or_iff_left fun both => keys both.1).symm

/-- The order of pre-release parts: a version without one comes last. -/
def prereleaseKey (prerelease : List Char) : WithTop (List (ℕ ⊕ₗ List Char)) :=
  if prerelease = [] then ⊤ else ((prerelease.splitOn '.').map identifierKey : List _)

theorem prereleaseKey_inj (ordered : Ordered (left.splitOn '.'))
    (ordered' : Ordered (right.splitOn '.')) (same : prereleaseKey left = prereleaseKey right) :
    left = right := by
  unfold prereleaseKey at same
  split_ifs at same with none none' none'
  · rw [none, none']
  · exact absurd same WithTop.top_ne_coe
  · exact absurd same WithTop.coe_ne_top
  · have pieces := map_identifierKey_inj ordered ordered' (WithTop.coe_injective same)
    rw [← @intercalate_splitOn _ left _ _ '.', pieces, intercalate_splitOn]

theorem comparePrerelease_eq_lt_iff (ordered : Ordered (left.splitOn '.'))
    (ordered' : Ordered (right.splitOn '.')) :
    comparePrerelease left right = .lt ↔ prereleaseKey left < prereleaseKey right := by
  unfold comparePrerelease prereleaseKey
  by_cases none : left = [] <;> by_cases none' : right = [] <;>
    simp [none, none', compareIdentifiers_eq_lt_iff ordered ordered']

namespace ProtocolVersion

/-- A version that was parsed from a text without leading zeros in numeric identifiers. -/
structure Accepted (library : List Char → Option Version) where
  version : ProtocolVersion
  value : List Char
  parsed : parse library value = some version
  canonical : ∀ part ∈ version.prerelease.splitOn '.', Canonical part

/-- The three numbers that a version text states. -/
def statedNumbers (value : List Char) : Option (Nat × Nat × Nat) := do
  let (withoutBuild, _) ← splitBuild value
  let (core, _) ← splitPrerelease withoutBuild
  coreNumbers core

/-- The `semver` crate reads back the three numbers of the text it accepts. -/
def ReadsNumbers (library : List Char → Option Version) : Prop :=
  ∀ numbers : Nat × Nat × Nat, numbers.1 < 2 ^ 63 ∧ numbers.2.1 < 2 ^ 63 ∧ numbers.2.2 < 2 ^ 63 →
    ∀ prerelease build semantic, library (text numbers prerelease build) = some semantic →
      semantic = ⟨numbers.1, numbers.2.1, numbers.2.2⟩

variable {library : List Char → Option Version} {value : List Char} {version : ProtocolVersion}

/-- What an accepted text is made of. -/
theorem exists_of_parse (parsed : parse library value = some version) :
    ∃ (numbers : Nat × Nat × Nat) (build : Option (List Char)),
      (numbers.1 < 2 ^ 63 ∧ numbers.2.1 < 2 ^ 63 ∧ numbers.2.2 < 2 ^ 63) ∧
      (version.prerelease = [] ∨ identifiersValid version.prerelease = true) ∧
      (∀ text ∈ build, '+' ∉ text ∧ identifiersValid text = true) ∧
      library (text numbers (normalizedPrerelease version.prerelease) build) =
        some version.semantic ∧
      version.wire = text numbers version.prerelease build ∧
      statedNumbers value = some numbers := by
  have small : ∀ {part number}, coreNumber part = some number → number < 2 ^ 63 := by
    intro part number read
    unfold coreNumber at read
    split_ifs at read
    have ⟨_, _, _, _, _, below⟩ := parseUnsigned_eq_ok_iff.mp (eq_ok_of_toOption read)
    exact below
  have bounded : ∀ {core numbers}, coreNumbers core = some numbers →
      numbers.1 < 2 ^ 63 ∧ numbers.2.1 < 2 ^ 63 ∧ numbers.2.2 < 2 ^ 63 := by
    intro core numbers read
    unfold coreNumbers at read
    generalize (if core.head? = some 'v' then core.tail else core) = rest at read
    dsimp only at read
    split_ifs at read
    split at read <;>
      simp only [Option.bind_eq_bind, Option.bind_eq_some_iff, Option.some.injEq,
        reduceCtorEq] at read
    case h_1 =>
      have ⟨_, first, same⟩ := read
      exact same ▸ ⟨small first, Nat.two_pow_pos 63, Nat.two_pow_pos 63⟩
    case h_2 =>
      have ⟨_, first, _, second, same⟩ := read
      exact same ▸ ⟨small first, small second, Nat.two_pow_pos 63⟩
    case h_3 =>
      have ⟨_, first, _, second, _, third, same⟩ := read
      exact same ▸ ⟨small first, small second, small third⟩
  simp only [parse, Option.bind_eq_bind, Option.bind_eq_some_iff, Option.some.injEq] at parsed
  obtain ⟨⟨withoutBuild, build⟩, cut, ⟨core, prerelease⟩, cut', numbers, read, semantic, found,
    rfl⟩ := parsed
  have stated : statedNumbers value = some numbers := by
    simp only [statedNumbers, cut, cut', Option.bind_eq_bind, Option.bind_some, read]
  refine ⟨numbers, build, bounded read, ?_, ?_, found, rfl, stated⟩
  · unfold splitPrerelease at cut'
    split at cut'
    · split_ifs at cut' with valid
      exact .inr ((Prod.mk.inj (Option.some.inj cut')).2 ▸ valid)
    · exact .inl (Prod.mk.inj (Option.some.inj cut')).2.symm
  · unfold splitBuild at cut
    split at cut
    · split_ifs at cut with valid
      rw [← (Prod.mk.inj (Option.some.inj cut)).2]
      exact fun text same => Option.some.inj same ▸ valid
    · rw [← (Prod.mk.inj (Option.some.inj cut)).2]
      exact nofun

section Wire

variable {numbers : Nat × Nat × Nat}

/-- The numbers of a core as they are sent. -/
def coreText (numbers : Nat × Nat × Nat) : List Char :=
  Nat.toDigits 10 numbers.1 ++ '.' :: (Nat.toDigits 10 numbers.2.1 ++
    '.' :: Nat.toDigits 10 numbers.2.2)

theorem text_eq (numbers : Nat × Nat × Nat) (prerelease : List Char)
    (build : Option (List Char)) :
    text numbers prerelease build =
      coreText numbers ++ (if prerelease = [] then [] else '-' :: prerelease) ++
        (build.map ('+' :: ·)).getD [] := by
  simp [text, coreText]

theorem notMem_coreText (strange : toDigit 10 c = none) (other : c ≠ '.') :
    c ∉ coreText numbers := by
  simp [coreText, notMem_toDigits strange, other]

theorem coreNumber_toDigits {number : Nat} (small : number < 2 ^ 63) :
    coreNumber (Nat.toDigits 10 number) = some number := by
  have digits : (Nat.toDigits 10 number).all Char.isDigit = true :=
    all_eq_true.mpr fun c member =>
      Nat.isDigit_of_mem_toDigits (by decide) (by decide) member
  have filled : Nat.toDigits 10 number ≠ [] := Nat.toDigits_ne_nil
  rw [coreNumber, if_neg (by simp [digits, filled]), parseUnsigned_toDigits small]
  rfl

theorem coreNumbers_coreText (small : numbers.1 < 2 ^ 63)
    (small' : numbers.2.1 < 2 ^ 63 ∧ numbers.2.2 < 2 ^ 63) :
    coreNumbers (coreText numbers) = some numbers := by
  have point : ∀ number, '.' ∉ Nat.toDigits 10 number := notMem_toDigits (by decide)
  have pieces : (coreText numbers).splitOn '.' = [Nat.toDigits 10 numbers.1,
      Nat.toDigits 10 numbers.2.1, Nat.toDigits 10 numbers.2.2] := by
    rw [coreText, splitOn_append_cons, splitOn_append_cons, splitOn_eq_singleton (point _),
      splitOn_eq_singleton (point _), splitOn_eq_singleton (point _)]
    rfl
  have head : ∀ c, toDigit 10 c = none → c ≠ '.' → (coreText numbers).head? ≠ some c :=
    fun c strange other first => notMem_coreText strange other (mem_of_mem_head? first)
  have filled : coreText numbers ≠ [] := by simp [coreText]
  unfold coreNumbers
  rw [if_neg (head 'v' (by decide) (by decide))]
  dsimp only
  rw [if_neg (not_or.mpr ⟨filled, head 'V' (by decide) (by decide)⟩), pieces]
  simp only [coreNumber_toDigits small, coreNumber_toDigits small'.1,
    coreNumber_toDigits small'.2]
  rfl

/-- The pieces of a valid part hold letters, digits and hyphens only. -/
theorem notMem_of_identifiersValid (valid : identifiersValid value = true)
    (strange : (c.isAlphanum || c = '-') = false) : ∀ part ∈ value.splitOn '.', c ∉ part := by
  intro part inside member
  have allowed := (all_eq_true.mp (Bool.and_eq_true_iff.mp valid).2) part inside
  have each := all_eq_true.mp (Bool.and_eq_true_iff.mp allowed).2 c member
  rw [strange] at each
  contradiction

/-- What is sent for a version is parsed as that version. -/
theorem parse_wire (parsed : parse library value = some version) :
    parse library version.wire = some version := by
  have ⟨numbers, build, ⟨small, small'⟩, valid, built, found, wire, _⟩ := exists_of_parse parsed
  have plus : '+' ∉ coreText numbers ++
      (if version.prerelease = [] then [] else '-' :: version.prerelease) := by
    have free : version.prerelease = [] ∨ '+' ∉ version.prerelease := by
      refine valid.imp_right fun valid member => ?_
      have ⟨piece, inside, found⟩ := exists_piece_of_mem (by decide : '+' ≠ '.') member
      exact notMem_of_identifiersValid valid (by decide) piece inside found
    rw [mem_append, not_or]
    refine ⟨notMem_coreText (by decide) (by decide), ?_⟩
    split_ifs with none
    · exact not_mem_nil
    · simp [free.resolve_left none]
  have cut : splitBuild version.wire = some (coreText numbers ++
      (if version.prerelease = [] then [] else '-' :: version.prerelease), build) := by
    rw [wire, text_eq, splitBuild]
    cases build with
    | none =>
      rw [Option.map_none, Option.getD_none, append_nil, splitOnce_eq_none plus]
    | some metadata =>
      rw [Option.map_some, Option.getD_some, splitOnce_append plus]
      exact if_pos (built metadata rfl)
  have cut' : splitPrerelease (coreText numbers ++
      (if version.prerelease = [] then [] else '-' :: version.prerelease)) =
        some (coreText numbers, version.prerelease) := by
    have hyphen : '-' ∉ coreText numbers := notMem_coreText (by decide) (by decide)
    unfold splitPrerelease
    split_ifs with none
    · rw [append_nil, splitOnce_eq_none hyphen, none]
    · rw [splitOnce_append hyphen]
      exact if_pos (valid.resolve_left none)
  simp only [parse, cut, cut', coreNumbers_coreText small small', found, Option.bind_eq_bind,
    Option.bind_some, ← wire]

end Wire

/-- The order of versions. -/
def key (self : ProtocolVersion) : (ℕ ×ₗ ℕ ×ₗ ℕ) ×ₗ WithTop (List (ℕ ⊕ₗ List Char)) :=
  toLex (self.core, prereleaseKey self.prerelease)

theorem Accepted.ordered (self : Accepted library) :
    Ordered (self.version.prerelease.splitOn '.') := by
  have ⟨_, _, _, valid, _⟩ := exists_of_parse self.parsed
  intro part inside
  refine ⟨?_, self.canonical part inside⟩
  rcases valid with none | valid
  · rw [none] at inside
    rw [mem_singleton.mp inside]
    exact not_mem_nil
  · exact notMem_of_identifiersValid valid (by decide) part inside

theorem Accepted.lessThan_iff (left right : Accepted library) :
    left.version.lessThan right.version = true ↔ left.version.key < right.version.key := by
  unfold lessThan key
  simp only [Prod.Lex.toLex_lt_toLex, Bool.or_eq_true, Bool.and_eq_true, beq_iff_eq,
    cmp_eq_lt_iff, cmp_eq_eq_iff, comparePrerelease_eq_lt_iff left.ordered right.ordered]

/-- The numbers that are compared are those of the text. -/
theorem Accepted.stated (reads : ReadsNumbers library) (self : Accepted library) :
    statedNumbers self.value =
      some (self.version.semantic.major, self.version.semantic.minor,
        self.version.semantic.patch) := by
  have ⟨numbers, build, small, _, _, found, _, stated⟩ := exists_of_parse self.parsed
  rw [stated, reads numbers small _ _ _ found]

/-- Versions compare equal in their numbers just when their texts state the same. -/
theorem Accepted.core_eq_iff (reads : ReadsNumbers library) (left right : Accepted library) :
    left.version.core = right.version.core ↔
      statedNumbers left.value = statedNumbers right.value := by
  rw [left.stated reads, right.stated reads]
  simp [core]

/-- `less_than` is a strict weak order of the accepted versions, in which versions are incomparable
just when their texts state the same numbers and pre-release parts; and what is sent for a version
is parsed again, with the same text, and compares as the version does. -/
theorem version_order (library : List Char → Option Version) (reads : ReadsNumbers library) :
    IsStrictWeakOrder (Accepted library)
        (fun left right => left.version.lessThan right.version = true) ∧
      (∀ left right : Accepted library,
        left.version.lessThan right.version = false ∧
            right.version.lessThan left.version = false ↔
          statedNumbers left.value = statedNumbers right.value ∧
            left.version.prerelease = right.version.prerelease) ∧
      ∀ version : Accepted library, ∃ again : Accepted library,
        again.value = version.version.wire ∧
          parse library version.version.wire = some again.version ∧
          again.version.wire = version.version.wire ∧
          ∀ third : Accepted library,
            again.version.lessThan third.version = version.version.lessThan third.version ∧
              third.version.lessThan again.version = third.version.lessThan version.version := by
  have less : ∀ left right : Accepted library,
      left.version.lessThan right.version = false ↔ ¬ left.version.key < right.version.key := by
    intro left right
    rw [← left.lessThan_iff right, Bool.not_eq_true]
  have equal : ∀ left right : Accepted library,
      ¬ left.version.key < right.version.key ∧ ¬ right.version.key < left.version.key ↔
        left.version.key = right.version.key := fun left right =>
    ⟨fun both => le_antisymm (not_lt.mp both.2) (not_lt.mp both.1),
      fun same => ⟨same.not_lt, same.symm.not_lt⟩⟩
  refine ⟨?_, fun left right => ?_, fun version => ?_⟩
  · simp only [Accepted.lessThan_iff]
    exact { irrefl := fun _ => lt_irrefl _, trans := fun _ _ _ => lt_trans,
            incomp_trans := fun left middle right first second =>
              (equal left right).mpr (((equal left middle).mp first).trans
                ((equal middle right).mp second)) }
  · rw [less, less, equal, key, key, toLex_inj, Prod.mk.injEq, left.core_eq_iff reads right]
    exact and_congr_right fun _ => ⟨prereleaseKey_inj left.ordered right.ordered, congrArg _⟩
  · have parsed := parse_wire version.parsed
    exact ⟨⟨version.version, version.version.wire, parsed, version.canonical⟩, rfl, parsed, rfl,
      fun _ => ⟨rfl, rfl⟩⟩

namespace Sample

/-- A reader of the numbers at the front of a text. -/
def semver (text : List Char) : Option Version :=
  (coreNumbers (text.takeWhile fun c => c.isDigit || c = '.')).map fun numbers =>
    ⟨numbers.1, numbers.2.1, numbers.2.2⟩

theorem semver_readsNumbers : ReadsNumbers semver := by
  intro numbers small prerelease build semantic found
  have digits : ∀ number, ∀ c ∈ Nat.toDigits 10 number, c.isDigit = true := fun number c member =>
    Nat.isDigit_of_mem_toDigits (by decide) (by decide) member
  have front : ∀ c ∈ coreText numbers, (c.isDigit || c = '.') = true := by
    intro c member
    simp only [coreText, mem_append, mem_cons] at member
    rcases member with first | rfl | second | rfl | third
    · rw [digits _ c first, Bool.true_or]
    · decide
    · rw [digits _ c second, Bool.true_or]
    · decide
    · rw [digits _ c third, Bool.true_or]
  have cut : (text numbers prerelease build).takeWhile (fun c => c.isDigit || c = '.') =
      coreText numbers := by
    rw [text_eq, append_assoc, takeWhile_append_of_pos front]
    by_cases none : prerelease = [] <;> cases build <;> simp [none]
  rw [semver, cut, coreNumbers_coreText small.1 small.2] at found
  exact (Option.some.inj found).symm

/-- A release candidate. -/
def candidate : Accepted semver :=
  ⟨⟨⟨1, 2, 0⟩, "1.2.0-rc.2".toList, "rc.2".toList⟩, "v1.2-rc.2".toList, by decide +kernel,
    by decide +kernel⟩

/-- The release. -/
def release : Accepted semver :=
  ⟨⟨⟨1, 2, 0⟩, "1.2.0".toList, []⟩, "1.2".toList, by decide +kernel, by decide +kernel⟩

/-- A build of the release. -/
def built : Accepted semver :=
  ⟨⟨⟨1, 2, 0⟩, "1.2.0+linux".toList, []⟩, "1.2.0+linux".toList, by decide +kernel,
    by decide +kernel⟩

/-- The release after it. -/
def next : Accepted semver :=
  ⟨⟨⟨1, 10, 0⟩, "1.10.0".toList, []⟩, "1.10.0".toList, by decide +kernel, by decide +kernel⟩

end Sample

open Sample

/-- A candidate, its release, a build of it and the next release in their order. -/
theorem version_order_sample :
    candidate.version.lessThan release.version = true ∧
      release.version.lessThan next.version = true ∧
      candidate.version.lessThan next.version = true ∧
      statedNumbers release.value = some (1, 2, 0) ∧
      release.version.lessThan built.version = false ∧
      built.version.lessThan release.version = false := by
  have order := version_order semver semver_readsNumbers
  have first : candidate.version.lessThan release.version = true := by decide +kernel
  have second : release.version.lessThan next.version = true := by decide +kernel
  have equal := (order.2.1 release built).mpr ⟨by decide +kernel, by decide +kernel⟩
  exact ⟨first, second, order.1.trans candidate release next first second, by decide +kernel, equal⟩

end ProtocolVersion

end Ployz.Grpc
