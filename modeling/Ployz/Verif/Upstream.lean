import Ployz.Base.Panic
import Ployz.Upstream.Port
import Ployz.Verif.Port

/-!
# The port parser against upstream

Every port spec that upstream accepts is accepted with the same result. The parsers of numbers
of the standard library also take a plus sign, and leading zeros in the length of a prefix, which
those of upstream refuse; a spec without them is accepted by both or by neither.
-/

namespace Ployz.Upstream

open Port

section Shared

variable {ε α : Type} {result : Except ε α} {value : α}

theorem some_eq_iff_ok_eq {found : α} :
    some found = some value ↔ (.ok found : Except ε α) = .ok value := by
  rw [Option.some.injEq, Except.ok.injEq]

theorem toOption_eq_some_iff : result.toOption = some value ↔ result = .ok value := by
  cases result with
  | error error => exact ⟨nofun, nofun⟩
  | ok found => exact some_eq_iff_ok_eq

/-- Upstream reads the numbers that are read here without a plus sign. -/
theorem parseUint_eq_some_iff {limit value : Nat} {text : List Char} :
    parseUint limit text = some value ↔
      parseUnsigned limit text = .ok value ∧ text.head? ≠ some '+' := by
  have plus : (toDigit 10 '+').isSome = false := by decide
  rw [parseUint, Option.ite_none_right_eq_some, parseUnsigned_eq_ok_iff, List.all_eq_true]
  constructor
  · intro ⟨⟨filled, digits, fits⟩, same⟩
    have total := (Option.some.inj same).symm
    refine ⟨⟨text, .inl rfl, filled, digits, total, total ▸ fits⟩, fun sign => ?_⟩
    have digit := digits '+' (List.mem_of_mem_head? sign)
    rw [plus] at digit
    exact nomatch digit
  · intro ⟨⟨digits, shape, filled, all, total, fits⟩, plain⟩
    rcases shape with same | same
    · rw [same]
      exact ⟨⟨filled, all, total ▸ fits⟩, congrArg some total.symm⟩
    · rw [same] at plain
      exact absurd rfl plain

/-- Upstream reads the ports that are read here without a plus sign. -/
theorem parsePort_eq_some_iff {text : List Char} {port : UInt16} :
    parsePort text = some port ↔ Port.parsePort text = .ok port ∧ text.head? ≠ some '+' := by
  rw [parsePort, Option.map_eq_some_iff, Port.parsePort]
  constructor
  · rintro ⟨value, read, same⟩
    obtain ⟨parsed, plain⟩ := parseUint_eq_some_iff.mp read
    rw [parsed, ← same]
    exact ⟨rfl, plain⟩
  · rintro ⟨read, plain⟩
    cases parsed : parseUnsigned (2 ^ 16) text with
    | error error =>
      rw [parsed] at read
      cases read
    | ok value =>
      rw [parsed] at read
      exact ⟨value, parseUint_eq_some_iff.mpr ⟨parsed, plain⟩, Except.ok.inj read⟩

/-- Both cut a spec at the same colons. -/
theorem splitPortParts_eq (port : List Char) :
    splitPortParts port = Port.splitPortParts port := by
  unfold splitPortParts Port.splitPortParts
  generalize port.splitOn ':' = parts
  dsimp only
  by_cases many : 3 < parts.length
  · rw [if_pos many, if_pos many]
    congr 1
    rw [List.drop_eq_getElem_cons (by omega), List.drop_eq_getElem_cons (by omega),
      List.drop_eq_nil_of_le (by omega), List.getD_eq_getElem _ _ (by omega),
      List.getD_eq_getElem _ _ (by omega)]
  · rw [if_neg many, if_neg many]

/-- The cases of a switch over words. -/
def switch {α : Type} (branch : String → α) (word : String) : List String → Option α
  | [] => none
  | first :: words => if word = first then some (branch first) else switch branch word words

/-- A switch takes the branch of a word that it lists. -/
theorem switch_eq (branch : String → α) (word : String) (words : List String) :
    switch branch word words = if word ∉ words then none else some (branch word) := by
  induction words with
  | nil => rfl
  | cons first words ih =>
    rw [switch, ih]
    by_cases same : word = first
    · rw [if_pos same, if_neg (not_not.mpr (same ▸ List.mem_cons_self)), same]
    · simp only [List.mem_cons, same, false_or, ↓reduceIte]

/-- Both read the end of a spec alike. -/
theorem parseMode_eq (mode : List Char) : parseMode mode = (parseTerminal mode).toOption := by
  unfold parseMode parseTerminal
  cases splitOnce '@' mode with
  | some halves =>
    by_cases host : String.ofList halves.2 = modeHost
    · simp only [host, ne_eq, not_true_eq_false, ↓reduceIte]
      cases splitOnce '/' halves.1 with
      | none => rfl
      | some ends =>
        refine (switch_eq (fun protocol => Terminal.mk modeHost protocol "" ends.1)
          (String.ofList ends.2) [protocolTcp, protocolUdp]).trans ?_
        dsimp only
        split <;> rfl
    · simp only [host, ne_eq, not_false_eq_true, ↓reduceIte]
      rfl
  | none =>
    cases splitOnce '/' mode with
    | none => rfl
    | some ends =>
      refine (switch_eq (fun protocol => Terminal.mk modeIngress protocol protocol ends.1)
        (String.ofList ends.2) [protocolTcp, protocolUdp, protocolHttp, protocolHttps]).trans ?_
      dsimp only
      split <;> rfl

/-- Both take brackets off alike. -/
theorem stripBrackets_eq (ip : List Char) : stripBrackets ip = (unbracket ip).toOption := by
  unfold stripBrackets unbracket
  split
  · cases splitOnce ']' ip with
    | none => rfl
    | some halves =>
      by_cases opened : ip.head? = some '['
      · simp only [opened, ne_eq, not_true_eq_false, ↓reduceIte]
        rfl
      · simp only [opened, ne_eq, not_false_eq_true, ↓reduceIte]
        rfl
  · rfl

/-- Both find the same protocol for a hostname. -/
theorem defaultProtocol_eq (specified : String) (spec : PortSpec) :
    defaultProtocol specified spec = (hostnameProtocol specified spec).toOption := by
  unfold defaultProtocol hostnameProtocol
  by_cases named : spec.hostname = ""
  · simp only [named, ne_eq, not_true_eq_false, ↓reduceIte]
    rfl
  · simp only [named, ne_eq, not_false_eq_true, ↓reduceIte]
    split
    · rfl
    · split <;> rfl

theorem ite_error_eq_ok_iff {refuse : Prop} [Decidable refuse] {error : ε} :
    (if refuse then .error error else result) = .ok value ↔ ¬refuse ∧ result = .ok value := by
  by_cases refused : refuse
  · rw [if_pos refused]
    exact ⟨nofun, fun fine => absurd refused fine.1⟩
  · rw [if_neg refused]
    exact ⟨fun same => ⟨refused, same⟩, fun fine => fine.2⟩

theorem guard_eq_some_iff {accept : Prop} [Decidable accept] :
    (guard accept : Option Unit) = some () ↔ accept := by
  rw [guard]
  split
  case isTrue passes => exact ⟨fun _ => passes, fun _ => rfl⟩
  case isFalse fails => exact ⟨nofun, fun passes => absurd passes fails⟩

/-- Both validate the same specs. -/
theorem validate_eq_some_iff {spec : PortSpec} :
    validate spec = some () ↔ spec.validate = .ok () := by
  unfold validate PortSpec.validate
  simp only [guard_bind_eq_some_iff, ite_error_eq_ok_iff, not_not]
  refine and_congr_right fun _ => and_congr_right fun _ => and_congr_right fun _ =>
    and_congr_right fun _ => ?_
  by_cases ingress : spec.mode = modeIngress
  · rw [if_pos ingress, if_pos ingress]
    unfold PortSpec.validateIngress
    simp only [guard_bind_eq_some_iff, ite_error_eq_ok_iff, Bool.not_eq_true,
      Option.isSome_eq_false_iff]
    refine and_congr_right fun _ => and_congr_right fun _ => ?_
    by_cases named : spec.hostname = ""
    · simp only [named, ne_eq, not_true_eq_false, ↓reduceIte]
      exact ⟨fun _ => trivial, fun _ => rfl⟩
    · unfold validateHostname Port.validateHostname
      simp only [named, ne_eq, not_false_eq_true, ↓reduceIte, guard_bind_eq_some_iff,
        guard_eq_some_iff, ite_error_eq_ok_iff, not_and_or, not_not, true_and]
      refine and_congr_right fun _ => ?_
      split
      case isTrue dot => exact ⟨fun _ => rfl, fun _ => dot⟩
      case isFalse none => exact ⟨fun dot => absurd dot none, nofun⟩
  · rw [if_neg ingress, if_neg ingress]
    by_cases host : spec.mode = modeHost
    · rw [if_pos host, if_pos host]
      unfold PortSpec.validateHost
      simp only [guard_bind_eq_some_iff, guard_eq_some_iff, ite_error_eq_ok_iff, ne_eq,
        not_and_or, not_not, and_true]
    · rw [if_neg host, if_neg host]
      exact ⟨nofun, nofun⟩

end Shared

section Addresses

variable {text : List Char}

/-- Without a zone, an address is what the standard library reads as one. -/
theorem fromStr_iff_parse {address : Api.IpAddr} :
    ScopedIpAddr.fromStr text = .ok ⟨address, []⟩ ↔ Api.IpAddr.parse text = some address := by
  have whole : (ScopedIpAddr.parseAddress text).map
      (fun address => (⟨address, []⟩ : ScopedIpAddr)) = .ok ⟨address, []⟩ ↔
      Api.IpAddr.parse text = some address := by
    rw [← parseAddress_eq_ok_iff]
    cases ScopedIpAddr.parseAddress text with
    | error error => exact ⟨nofun, nofun⟩
    | ok found => simp [Except.map]
  constructor
  · intro read
    apply whole.mp
    unfold ScopedIpAddr.fromStr at read
    split at read
    · exact read
    · split at read
      · exact nomatch read
      · split at read
        case isTrue zoned =>
          exact absurd (ScopedIpAddr.mk.inj (Except.ok.inj read)).2 zoned.2
        case isFalse => exact read
  · intro read
    have plain : '%' ∉ text := fun member =>
      absurd (Api.IpAddr.plain_of_parse read '%' member) (by decide)
    unfold ScopedIpAddr.fromStr
    rw [splitOnce_eq_none plain]
    exact whole.mpr read

/-- A prefix is an address, a slash and a length that suits the address. -/
theorem prefix_eq_ok_iff {range : IpPrefix} :
    IpPrefix.fromStr text = .ok range ↔ ∃ front bits, splitOnce '/' text = some (front, bits) ∧
      Api.IpAddr.parse front = some range.address ∧ parseUnsigned (2 ^ 8) bits = .ok range.bits := by
  unfold IpPrefix.fromStr
  split
  case h_1 none =>
    constructor
    · exact nofun
    · intro ⟨front, bits, split, _⟩
      rw [none] at split
      exact nomatch split
  case h_2 front bits split =>
    simp only [bind_eq_ok_iff, mapError_eq_ok_iff, parseAddress_eq_ok_iff]
    constructor
    · intro ⟨found, parsed, length, number, made⟩
      unfold IpPrefix.new at made
      split at made
      · rw [← Except.ok.inj made]
        exact ⟨front, bits, split, parsed, number⟩
      · exact nomatch made
    · intro ⟨front', bits', split', parsed, number⟩
      rw [split] at split'
      have ⟨sameFront, sameBits⟩ := Prod.mk.inj (Option.some.inj split')
      rw [← sameFront] at parsed
      rw [← sameBits] at number
      exact ⟨range.address, parsed, range.bits, number, dif_pos range.fits⟩

theorem parseUnsigned_of_lt {limit other value : Nat}
    (read : parseUnsigned limit text = .ok value) (fits : value < other) :
    parseUnsigned other text = .ok value := by
  have ⟨digits, shape, filled, all, total, _⟩ := parseUnsigned_eq_ok_iff.mp read
  exact parseUnsigned_eq_ok_iff.mpr ⟨digits, shape, filled, all, total, fits⟩

theorem rsplitOnce_eq_some {separator : Char} {before after : List Char}
    (split : rsplitOnce separator text = some (before, after)) :
    text = before ++ separator :: after ∧ separator ∉ after := by
  by_cases present : separator ∈ text
  · have ⟨front, last, shape, absent⟩ := exists_last_piece present
    rw [shape, rsplitOnce_append front absent] at split
    have ⟨sameFront, sameLast⟩ := Prod.mk.inj (Option.some.inj split)
    rw [← sameFront, ← sameLast]
    exact ⟨shape, absent⟩
  · rw [rsplitOnce_eq_none present] at split
    exact nomatch split

theorem bounds_of_digit {c : Char} (digit : (toDigit 10 c).isSome = true) : '0' ≤ c ∧ c ≤ '9' := by
  unfold toDigit digitValue at digit
  split_ifs at digit with decimal
  · exact decimal
  all_goals simp [Option.filter] at digit

theorem one_le_of_digit {c : Char} (digit : (toDigit 10 c).isSome = true) (other : c ≠ '0') :
    '1' ≤ c := by
  have low : '0'.toNat ≤ c.toNat := (bounds_of_digit digit).1
  have apart : c.toNat ≠ '0'.toNat := fun same => other (Char.toNat_inj.mp same)
  show '1'.toNat ≤ c.toNat
  have zero : '0'.toNat = 48 := rfl
  have one : '1'.toNat = 49 := rfl
  omega

/-- The length of a prefix without a sign and without zeros in front. -/
def PlainLength (text : List Char) : Prop :=
  ∀ halves ∈ splitOnce '/' text,
    halves.2.head? ≠ some '+' ∧ (halves.2.head? = some '0' → halves.2 = ['0'])

instance (text : List Char) : Decidable (PlainLength text) :=
  inferInstanceAs (Decidable (∀ halves ∈ splitOnce '/' text, _))

/-- A host part whose prefix, if it has one, has a plain length. -/
def PlainHost (part : List Char) : Prop := ∀ inner ∈ (unbracket part).toOption, PlainLength inner

instance (part : List Char) : Decidable (PlainHost part) :=
  inferInstanceAs (Decidable (∀ inner ∈ (unbracket part).toOption, _))

/-- A port number with a sign. -/
def Signed (text : List Char) : Prop :=
  text.head? = some '+' ∧ (Port.parsePort text).toOption.isSome = true

instance (text : List Char) : Decidable (Signed text) := inferInstanceAs (Decidable (_ ∧ _))

/-- No number in front of the container port has a sign or zeros in front that upstream
refuses. -/
def PlainParts (mode : String) : List (List Char) → Prop
  | [first, _] => ¬Signed first
  | [first, published, _] => ¬Signed published ∧ (mode = modeHost → PlainHost first)
  | _ => True

instance (mode : String) : ∀ parts, Decidable (PlainParts mode parts)
  | [first, _] => inferInstanceAs (Decidable ¬Signed first)
  | [first, published, _] =>
    inferInstanceAs (Decidable (¬Signed published ∧ (mode = modeHost → PlainHost first)))
  | [] | [_] | _ :: _ :: _ :: _ :: _ => isTrue trivial

/-- No number has a sign or zeros in front that upstream refuses. -/
def Canonical (port : String) : Prop :=
  ∀ terminal ∈ (parseTerminal ((Port.splitPortParts port.toList).getLast?.getD [])).toOption,
    ¬Signed terminal.port ∧ PlainParts terminal.mode (Port.splitPortParts port.toList)

instance (port : String) : Decidable (Canonical port) :=
  inferInstanceAs (Decidable (∀ terminal ∈ Except.toOption _, _))

/-- Upstream reads the ports that are read here, but for signed ones. -/
theorem parsePort_iff_not_signed {port : UInt16} :
    parsePort text = some port ↔ Port.parsePort text = .ok port ∧ ¬Signed text := by
  rw [parsePort_eq_some_iff]
  refine and_congr_right fun read => ?_
  have found : (Port.parsePort text).toOption.isSome = true := by
    rw [read]
    rfl
  simp [Signed, found]

variable {parseAddr : List Char → Option ScopedIpAddr}
  (agree : ∀ text, parseAddr text = (ScopedIpAddr.fromStr text).toOption)

include agree

/-- Upstream reads the prefixes with a plain length. -/
theorem parsePrefix_eq_some_iff {range : IpPrefix} :
    parsePrefix parseAddr text = some range ↔
      IpPrefix.fromStr text = .ok range ∧ PlainLength text := by
  have small : ∀ address, maximumBits address < 2 ^ 8 := by
    intro address
    unfold maximumBits
    split <;> decide
  unfold parsePrefix
  constructor
  · intro read
    have ⟨⟨front, bits⟩, split, read⟩ := Option.bind_eq_some_iff.mp read
    have ⟨⟨address, zone⟩, ofFront, read⟩ := Option.bind_eq_some_iff.mp read
    have ⟨noZone, read⟩ := guard_bind_eq_some_iff.mp read
    have ⟨first, read⟩ := guard_bind_eq_some_iff.mp read
    have ⟨length, ofBits, read⟩ := Option.bind_eq_some_iff.mp read
    have ⟨shape, free⟩ := rsplitOnce_eq_some split
    have ⟨number, unsigned⟩ := parseUint_eq_some_iff.mp ofBits
    have ⟨fits, made⟩ := Option.dite_none_right_eq_some.mp read
    have parsed : Api.IpAddr.parse front = some address := by
      apply fromStr_iff_parse.mp
      apply toOption_eq_some_iff.mp
      rw [← agree, ofFront]
      exact congrArg (fun zone => some (ScopedIpAddr.mk address zone)) noZone
    have outside : '/' ∉ front := fun member =>
      absurd (Api.IpAddr.plain_of_parse parsed '/' member) (by decide)
    have cut : splitOnce '/' text = some (front, bits) := by
      rw [shape]
      exact splitOnce_append outside bits
    refine ⟨prefix_eq_ok_iff.mpr ⟨front, bits, cut, ?_, ?_⟩, ?_⟩
    · rw [parsed, ← Option.some.inj made]
    · rw [← Option.some.inj made]
      exact parseUnsigned_of_lt number (Nat.lt_of_le_of_lt fits (small address))
    · intro halves split
      rw [Option.mem_def, cut] at split
      rw [← Option.some.inj split]
      refine ⟨unsigned, fun zero => ?_⟩
      cases bits with
      | nil => exact nomatch zero
      | cons c rest =>
        cases rest with
        | nil => rw [Option.some.inj zero]
        | cons next rest =>
          have low := first (by simp)
          rw [zero] at low
          exact absurd low (by decide)
  · intro ⟨read, plain⟩
    have ⟨front, bits, cut, parsed, number⟩ := prefix_eq_ok_iff.mp read
    have unsigned : bits.head? ≠ some '+' := (plain (front, bits) cut).1
    have zero : bits.head? = some '0' → bits = ['0'] := (plain (front, bits) cut).2
    have known : parseAddr front = some ⟨range.address, []⟩ := by
      rw [agree]
      exact toOption_eq_some_iff.mpr (fromStr_iff_parse.mpr parsed)
    have ⟨shape, outside⟩ := splitOnce_eq_some cut
    have free : '/' ∉ bits := fun member =>
      absurd (digits_of_parseUnsigned number '/' member) (by decide)
    have first : 1 < bits.length →
        (bits.head?.any fun c => decide ('1' ≤ c ∧ c ≤ '9')) = true := by
      intro long
      cases bits with
      | nil => exact nomatch long
      | cons c rest =>
        have digit := (digits_of_parseUnsigned number c List.mem_cons_self).resolve_left
          fun sign => unsigned (congrArg some sign)
        have other : c ≠ '0' := by
          intro same
          rw [same] at zero long
          rw [zero rfl] at long
          exact absurd long (by decide)
        exact decide_eq_true ⟨one_le_of_digit digit other, (bounds_of_digit digit).2⟩
    have large : range.bits < 2 ^ 63 := by
      have bound := small range.address
      have fits := range.fits
      omega
    have length : parseUint (2 ^ 63) bits = some range.bits :=
      parseUint_eq_some_iff.mpr ⟨parseUnsigned_of_lt number large, unsigned⟩
    have back : rsplitOnce '/' text = some (front, bits) := by
      rw [shape]
      exact rsplitOnce_append front free
    refine Option.bind_eq_some_iff.mpr ⟨_, back, Option.bind_eq_some_iff.mpr ⟨_, known, ?_⟩⟩
    refine guard_bind_eq_some_iff.mpr ⟨rfl, guard_bind_eq_some_iff.mpr ⟨first, ?_⟩⟩
    exact Option.bind_eq_some_iff.mpr ⟨_, length, dif_pos range.fits⟩

variable {start read : PortSpec}

/-- Upstream reads the host parts with a plain prefix. -/
theorem parseHost_eq_some_iff {part : List Char} :
    parseHost parseAddr start part = some read ↔
      Port.parseHost start part = .ok read ∧ PlainHost part := by
  unfold parseHost PlainHost
  rw [stripBrackets_eq]
  constructor
  · intro found
    have ⟨inner, stripped, found⟩ := Option.bind_eq_some_iff.mp found
    have brackets := toOption_eq_some_iff.mp stripped
    rw [brackets]
    by_cases slash : '/' ∈ inner
    · rw [if_pos slash] at found
      have ⟨range, parsed, same⟩ := Option.bind_eq_some_iff.mp found
      have ⟨known, plain⟩ := (parsePrefix_eq_some_iff agree).mp parsed
      rw [← Option.some.inj same]
      refine ⟨parseHost_eq_ok_iff.mpr ⟨inner, brackets, .inl ⟨slash, range, known, rfl⟩⟩,
        fun other same => ?_⟩
      rw [← Option.some.inj same]
      exact plain
    · rw [if_neg slash] at found
      have ⟨address, parsed, same⟩ := Option.bind_eq_some_iff.mp found
      rw [agree] at parsed
      rw [← Option.some.inj same]
      have found := toOption_eq_some_iff.mp parsed
      refine ⟨parseHost_eq_ok_iff.mpr ⟨inner, brackets, .inr ⟨slash, address, found, rfl⟩⟩, ?_⟩
      intro other same halves split
      rw [← Option.some.inj same, splitOnce_eq_none slash] at split
      exact nomatch split
  · intro ⟨found, plain⟩
    have ⟨inner, brackets, cases⟩ := parseHost_eq_ok_iff.mp found
    have plain := plain inner (toOption_eq_some_iff.mpr brackets)
    refine Option.bind_eq_some_iff.mpr ⟨inner, toOption_eq_some_iff.mpr brackets, ?_⟩
    rcases cases with ⟨slash, range, parsed, same⟩ | ⟨slash, address, parsed, same⟩
    · rw [if_pos slash, (parsePrefix_eq_some_iff agree).mpr ⟨parsed, plain⟩, same]
      rfl
    · rw [if_neg slash, agree, parsed, same]
      rfl

omit agree in
/-- Of two parts the first is a port number or a hostname. A hostname has a dot, so that it is no
number. -/
theorem parseParts_two_iff {first last : List Char}
    (dotted : read.hostname = "" ∨ '.' ∈ read.hostname.toList) :
    parseParts parseAddr start [first, last] = some read ↔
      Port.parseParts start [first, last] = .ok read ∧ ¬Signed first := by
  show (if first = [] then none else _) = _ ↔ (if first = [] then _ else _) = _ ∧ ¬Signed first
  by_cases empty : first = []
  · rw [if_pos empty, if_pos empty]
    exact ⟨nofun, fun ⟨failed, _⟩ => nomatch failed⟩
  rw [if_neg empty, if_neg empty]
  cases number : Port.parsePort first with
  | error error =>
    have refused : parsePort first = none := by
      apply Option.eq_none_iff_forall_ne_some.mpr
      intro port found
      have known := (parsePort_iff_not_signed.mp found).1
      rw [number] at known
      exact nomatch known
    have plain : ¬Signed first := by
      intro signed
      rw [Signed, number] at signed
      exact nomatch signed.2
    rw [refused]
    simp only [plain, not_false_eq_true, and_true]
    split
    · exact ⟨nofun, nofun⟩
    · exact some_eq_iff_ok_eq
  | ok value =>
    by_cases signed : Signed first
    · have refused : parsePort first = none := by
        apply Option.eq_none_iff_forall_ne_some.mpr
        intro port found
        exact (parsePort_iff_not_signed.mp found).2 signed
      rw [refused]
      refine ⟨fun named => ?_, fun ⟨_, plain⟩ => absurd signed plain⟩
      -- upstream takes the number for a hostname, which then has no dot
      dsimp only at named
      split at named
      · exact nomatch named
      · have name : read.hostname = String.ofList first := by rw [← Option.some.inj named]
        rw [name, String.toList_ofList] at dotted
        rcases dotted with none | dot
        · have characters := congrArg String.toList none
          rw [String.toList_ofList] at characters
          exact absurd characters empty
        · have ⟨error, failed⟩ := parsePort_hostname dot
          rw [number] at failed
          exact nomatch failed
    · rw [parsePort_iff_not_signed.mpr ⟨number, signed⟩]
      simp only [signed, not_false_eq_true, and_true]
      exact some_eq_iff_ok_eq

/-- Of three parts the first is an address in host mode, and a hostname else. -/
theorem parseParts_three_iff {first published last : List Char} :
    parseParts parseAddr start [first, published, last] = some read ↔
      Port.parseParts start [first, published, last] = .ok read ∧
        ¬Signed published ∧ (start.mode = modeHost → PlainHost first) := by
  constructor
  · intro found
    obtain ⟨value, number, found⟩ := Option.bind_eq_some_iff.mp found
    obtain ⟨known, plain⟩ := parsePort_iff_not_signed.mp number
    have rest : Port.parseParts start [first, published, last] =
        if start.mode = modeHost then
          Port.parseHost { start with publishedPort := value } first
        else .ok { start with publishedPort := value, hostname := String.ofList first } := by
      rw [Port.parseParts, known]
      rfl
    rw [rest]
    by_cases host : start.mode = modeHost
    · obtain ⟨parsed, plainHost⟩ :=
        (parseHost_eq_some_iff agree).mp ((if_pos host).symm.trans found)
      rw [if_pos host]
      exact ⟨parsed, plain, fun _ => plainHost⟩
    · have same := (if_neg host).symm.trans found
      rw [if_neg host]
      exact ⟨congrArg _ (Option.some.inj same), plain, fun isHost => absurd isHost host⟩
  · rintro ⟨found, plain, plainHost⟩
    obtain ⟨value, number, cases⟩ := parseParts_three found
    refine Option.bind_eq_some_iff.mpr ⟨value, parsePort_iff_not_signed.mpr ⟨number, plain⟩, ?_⟩
    rcases cases with ⟨host, parsed⟩ | ⟨other, same⟩
    · exact (if_pos host).trans ((parseHost_eq_some_iff agree).mpr ⟨parsed, plainHost host⟩)
    · exact (if_neg other).trans (congrArg some same.symm)

/-- Upstream reads the parts whose numbers are plain. -/
theorem parseParts_eq_some_iff {parts : List (List Char)}
    (dotted : read.hostname = "" ∨ '.' ∈ read.hostname.toList) :
    parseParts parseAddr start parts = some read ↔
      Port.parseParts start parts = .ok read ∧ PlainParts start.mode parts := by
  match parts with
  | [] => exact ⟨nofun, fun ⟨failed, _⟩ => nomatch failed⟩
  | [_] => exact some_eq_iff_ok_eq.trans (and_iff_left trivial).symm
  | [first, last] => exact parseParts_two_iff dotted
  | [first, published, last] => exact parseParts_three_iff agree
  | _ :: _ :: _ :: _ :: _ => exact ⟨nofun, fun ⟨failed, _⟩ => nomatch failed⟩

omit agree in
/-- The hostname of a valid spec has a dot. -/
theorem dotted_of_valid {specified : String} {spec : PortSpec}
    (settled : hostnameProtocol specified read = .ok spec) (valid : spec.validate = .ok ()) :
    read.hostname = "" ∨ '.' ∈ read.hostname.toList := by
  have same : spec.hostname = read.hostname := by rw [hostnameProtocol_eq_ok settled]
  rw [← same]
  rcases validate_eq_ok valid with ⟨ingress, _⟩ | ⟨host, _⟩
  · rcases (validate_ingress valid ingress).2.2.1 with none | ⟨_, dot⟩
    · exact .inl none
    · exact .inr dot
  · exact .inl (validate_host valid host).2.2

/-- Upstream accepts the canonical specs among those accepted here, with the same result. -/
theorem parsePortSpec_eq_some_iff {port : String} {spec : PortSpec} :
    parsePortSpec parseAddr port = some spec ↔
      Port.parsePortSpec port = .ok spec ∧ Canonical port := by
  rw [Port.parsePortSpec_eq_ok_iff]
  unfold parsePortSpec Canonical
  rw [splitPortParts_eq]
  by_cases many : port.toList.count '@' > 1
  · rw [if_pos many]
    exact ⟨nofun, fun ⟨⟨few, _⟩, _⟩ => absurd many (Nat.not_lt.mpr few)⟩
  rw [if_neg many]
  have few := Nat.not_lt.mp many
  constructor
  · intro found
    have ⟨terminal, ends, found⟩ := Option.bind_eq_some_iff.mp found
    have ⟨containerPort, number, found⟩ := Option.bind_eq_some_iff.mp found
    have ⟨read, parts, found⟩ := Option.bind_eq_some_iff.mp found
    have ⟨settled, protocol, found⟩ := Option.bind_eq_some_iff.mp found
    have ⟨_, valid, same⟩ := Option.bind_eq_some_iff.mp found
    have sameSpec := Option.some.inj same
    rw [sameSpec] at protocol valid
    rw [parseMode_eq] at ends
    rw [defaultProtocol_eq] at protocol
    have ends := toOption_eq_some_iff.mp ends
    have protocol := toOption_eq_some_iff.mp protocol
    have valid := validate_eq_some_iff.mp valid
    have ⟨port, plain⟩ := parsePort_iff_not_signed.mp number
    have ⟨parsed, plainParts⟩ :=
      (parseParts_eq_some_iff agree (dotted_of_valid protocol valid)).mp parts
    refine ⟨⟨few, terminal, containerPort, read, ends, port, parsed, protocol, valid⟩, ?_⟩
    intro other same
    rw [ends] at same
    rw [← Option.some.inj same]
    exact ⟨plain, plainParts⟩
  · intro ⟨⟨_, terminal, containerPort, read, ends, number, parts, protocol, valid⟩, canonical⟩
    have ⟨plain, plainParts⟩ := canonical terminal (toOption_eq_some_iff.mpr ends)
    refine Option.bind_eq_some_iff.mpr ⟨terminal, ?_, ?_⟩
    · rw [parseMode_eq, ends]
      rfl
    refine Option.bind_eq_some_iff.mpr
      ⟨containerPort, parsePort_iff_not_signed.mpr ⟨number, plain⟩, ?_⟩
    refine Option.bind_eq_some_iff.mpr ⟨read, (parseParts_eq_some_iff agree
      (dotted_of_valid protocol valid)).mpr ⟨parts, plainParts⟩, ?_⟩
    refine Option.bind_eq_some_iff.mpr ⟨spec, ?_, ?_⟩
    · rw [defaultProtocol_eq, protocol]
      rfl
    · exact Option.bind_eq_some_iff.mpr ⟨(), validate_eq_some_iff.mpr valid, rfl⟩

end Addresses

/-- Where the parsers of addresses agree, a spec is parsed as upstream parses it exactly when no
number in it has a sign, nor the length of a prefix zeros in front. -/
theorem parse_port_spec_upstream_iff {parseAddr : List Char → Option ScopedIpAddr}
    (agree : ∀ text, parseAddr text = (ScopedIpAddr.fromStr text).toOption) (port : String) :
    (∀ spec, Port.parsePortSpec port = .ok spec ↔ parsePortSpec parseAddr port = some spec) ↔
      ((∃ spec, Port.parsePortSpec port = .ok spec) → Canonical port) := by
  constructor
  · intro same ⟨spec, parsed⟩
    exact ((parsePortSpec_eq_some_iff agree).mp ((same spec).mp parsed)).2
  · intro canonical spec
    rw [parsePortSpec_eq_some_iff agree]
    exact ⟨fun parsed => ⟨parsed, canonical ⟨spec, parsed⟩⟩, fun both => both.1⟩

/-- Both read a spec in host mode behind a prefix. -/
theorem parse_port_spec_upstream_sample :
    parsePortSpec (fun text => (ScopedIpAddr.fromStr text).toOption) "10.0.0.0/8:80:8080@host" =
      some { hostPrefix := some ⟨.v4 0x0a000000, 8, by decide⟩, publishedPort := 80,
             containerPort := 8080, protocol := "tcp", mode := "host" } := by
  apply ((parse_port_spec_upstream_iff (fun _ => rfl) "10.0.0.0/8:80:8080@host").mpr ?_ _).mp
  · decide +kernel
  · exact fun _ => by decide +kernel

/-- A container port with a plus sign is accepted here and refused by upstream. -/
theorem parse_port_spec_accepts_sign :
    Port.parsePortSpec "+80" =
        .ok { containerPort := 80, protocol := "tcp", mode := "ingress" } ∧
      parsePortSpec (fun text => (ScopedIpAddr.fromStr text).toOption) "+80" = none := by
  decide +kernel

end Ployz.Upstream
