import Ployz.Verif.IpText
import Ployz.Api.Port

/-!
# Reading a port spec back

The text of a parsed spec is parsed again. Where the parser lets a separator into a part, the
text may be cut at another place: a hostname may hold colons, which is noticed when no published
port follows it, and a zone may hold closing brackets, of which the parser takes the first.
-/

namespace Ployz.Api

open List

/-- The characters of textual addresses. -/
def Plain (c : Char) : Prop := c = '.' ∨ c = ':' ∨ (toDigit 16 c).isSome = true

instance : DecidablePred Plain := fun c =>
  inferInstanceAs (Decidable (c = '.' ∨ c = ':' ∨ (toDigit 16 c).isSome = true))

variable {radix : Nat}

/-- Digits are characters of addresses. -/
theorem plain_of_toDigit (small : radix ≤ 16) {c : Char} (digit : (toDigit radix c).isSome = true) :
    Plain c := by
  refine .inr (.inr ?_)
  obtain ⟨value, found⟩ := Option.isSome_iff_exists.mp digit
  rw [toDigit, Option.filter_eq_some_iff, decide_eq_true_eq] at found
  rw [toDigit, found.1]
  have below : value < 16 := Nat.lt_of_lt_of_le found.2 small
  simp [below]

variable {separator : Char} {address : IpAddr}

section Written

variable {c : Char} {parts : List Nat}

/-- The characters of numbers are the separator and those of the numerals. -/
theorem mem_partsText {first : Bool} (member : c ∈ partsText separator radix first parts) :
    c = separator ∨ ∃ part, c ∈ Nat.toDigits radix part := by
  induction parts generalizing first with
  | nil => exact absurd member not_mem_nil
  | cons part parts ih =>
    rw [partsText, mem_append, mem_append] at member
    obtain (front | written) | later := member
    · cases first with
      | true => exact absurd front not_mem_nil
      | false => exact .inl (mem_singleton.mp front)
    · exact .inr ⟨part, written⟩
    · exact ih later

theorem plain_of_mem_partsText (large : 1 < radix) (small : radix ≤ 16) (plain : Plain separator)
    {first : Bool} (member : c ∈ partsText separator radix first parts) : Plain c := by
  obtain rfl | ⟨part, written⟩ := mem_partsText member
  · exact plain
  · obtain ⟨digit, below, rfl⟩ := exists_of_mem_toDigits large written
    exact plain_of_toDigit small (by rw [toDigit_digitChar small below]; rfl)

variable {octets : List UInt8}

theorem plain_of_mem_ipv4Text (member : c ∈ ipv4Text octets) : Plain c :=
  plain_of_mem_partsText (by decide) (by decide) (.inl rfl) member

theorem plain_of_mem_ipv6Text (member : c ∈ ipv6Text octets) : Plain c := by
  have groups : ∀ {first : Bool} {parts : List Nat}, c ∈ partsText ':' 16 first parts → Plain c :=
    plain_of_mem_partsText (by decide) (by decide) (.inr (.inl rfl))
  simp only [ipv6Text] at member
  split_ifs at member with mapped shortened
  · rw [mem_append] at member
    obtain front | back := member
    · have each : ∀ c ∈ [':', ':', 'f', 'f', 'f', 'f', ':'], c = ':' ∨ c = 'f' := by simp
      obtain rfl | rfl := each c front
      · exact .inr (.inl rfl)
      · exact .inr (.inr rfl)
    · exact plain_of_mem_ipv4Text back
  · rw [mem_append, mem_append] at member
    obtain (front | middle) | back := member
    · exact groups front
    · have each : ∀ c ∈ [':', ':'], c = ':' := by simp
      exact .inr (.inl (each c middle))
    · exact groups back
  · exact groups member

/-- The text of an address is plain. -/
theorem IpAddr.plain_of_mem_text (member : c ∈ address.text) : Plain c := by
  cases address with
  | v4 bits => exact plain_of_mem_ipv4Text member
  | v6 bits => exact plain_of_mem_ipv6Text member

theorem IpAddr.notMem_text (strange : ¬ Plain c) (address : IpAddr) : c ∉ address.text :=
  fun member => strange (plain_of_mem_text member)

theorem colon_notMem_ipv4Text (octets : List UInt8) : ':' ∉ ipv4Text octets := by
  intro member
  obtain same | ⟨part, written⟩ := mem_partsText member
  · exact absurd same (by decide)
  · exact notMem_toDigits (by decide) part written

/-- The text of an IPv6 address has a colon. -/
theorem colon_mem_ipv6Text (sixteen : octets.length = 16) : ':' ∈ ipv6Text octets := by
  have groups : (segments octets).length = 8 := by rw [length_segments, sixteen]
  simp only [ipv6Text]
  split_ifs
  · simp
  · simp
  · match segments octets, groups with
    | first :: second :: rest, _ => simp [partsText]

end Written

section Read

variable {α : Type}

/-- What a reader takes off its input is made of the characters of addresses. -/
def Takes (read : List Char → Option (α × List Char)) : Prop :=
  ∀ {input value rest}, read input = some (value, rest) →
    ∃ used, input = used ++ rest ∧ ∀ c ∈ used, Plain c

theorem takes_readNumber {limit maxDigits : Nat} {zeroFirst : Bool} (small : radix ≤ 16) :
    Takes (readNumber radix limit maxDigits zeroFirst) := by
  intro input value rest read
  obtain rfl := rest_of_readNumber read
  refine ⟨input.takeWhile fun c => (toDigit radix c).isSome,
    (takeWhile_append_dropWhile ..).symm, fun c member => ?_⟩
  have digit : (toDigit radix c).isSome = true :=
    @mem_takeWhile_imp _ (fun c => (toDigit radix c).isSome) _ _ member
  exact plain_of_toDigit small digit

variable {inner : List Char → Option (α × List Char)}

/-- A reader behind a separator takes the separator too. -/
theorem takes_readSeparated (plain : Plain separator) {first : Bool} (takes : Takes inner) :
    Takes (readSeparated separator first inner) := by
  intro input value rest read
  cases first with
  | true => exact takes read
  | false =>
    cases input with
    | nil => cases read
    | cons c input =>
      simp only [readSeparated, readGiven, Bool.false_eq_true, ↓reduceIte] at read
      split_ifs at read with same
      · obtain ⟨used, rfl, each⟩ := takes read
        exact ⟨c :: used, rfl, forall_mem_cons.mpr ⟨same ▸ plain, each⟩⟩
      · cases read

theorem takes_readOctets (count : Nat) (first : Bool) : Takes (readOctets count first) := by
  induction count generalizing first with
  | zero =>
    intro input value rest read
    obtain ⟨_, rfl⟩ := Prod.mk.inj (Option.some.inj read)
    exact ⟨[], rfl, forall_mem_nil _⟩
  | succ count ih =>
    intro input value rest read
    simp only [readOctets, Option.bind_eq_bind, Option.bind_eq_some_iff] at read
    obtain ⟨⟨octet, middle⟩, head, ⟨octets, last⟩, tail, same⟩ := read
    obtain ⟨_, rfl⟩ := Prod.mk.inj (Option.some.inj same)
    obtain ⟨front, rfl, early⟩ :=
      takes_readSeparated (.inl rfl) (takes_readNumber (by decide)) head
    obtain ⟨back, rfl, late⟩ := ih false tail
    exact ⟨front ++ back, (append_assoc ..).symm, forall_mem_append.mpr ⟨early, late⟩⟩

theorem takes_readIpv4 : Takes readIpv4 := by
  intro input value rest read
  obtain ⟨⟨octets, last⟩, found, same⟩ := Option.map_eq_some_iff.mp read
  obtain ⟨_, rfl⟩ := Prod.mk.inj same
  exact takes_readOctets 4 true found

/-- The groups that are read are plain. -/
theorem takes_readGroups (count : Nat) (first : Bool) (input : List Char) :
    ∃ used, input = used ++ (readGroups count first input).2.2 ∧ ∀ c ∈ used, Plain c := by
  induction count generalizing first input with
  | zero => exact ⟨[], rfl, forall_mem_nil _⟩
  | succ count ih =>
    rw [readGroups]
    split
    case h_1 octets rest found =>
      split_ifs at found
      exact takes_readSeparated (.inr (.inl rfl)) takes_readIpv4 found
    case h_2 =>
      split
      case h_1 group rest found =>
        obtain ⟨front, rfl, early⟩ :=
          takes_readSeparated (.inr (.inl rfl)) (takes_readNumber (by decide)) found
        obtain ⟨back, split, late⟩ := ih false rest
        refine ⟨front ++ back, ?_, forall_mem_append.mpr ⟨early, late⟩⟩
        rw [append_assoc]
        exact congrArg (front ++ ·) split
      case h_2 => exact ⟨[], rfl, forall_mem_nil _⟩

variable {input rest : List Char}

theorem readGiven_eq_some {given : Char} (read : readGiven given input = some rest) :
    input = given :: rest := by
  cases input with
  | nil => exact nomatch read
  | cons c input =>
    simp only [readGiven] at read
    split_ifs at read with same
    rw [same, Option.some.inj read]

theorem takes_readIpv6 : Takes readIpv6 := by
  intro input value rest read
  obtain ⟨front, split, early⟩ := takes_readGroups 8 true input
  simp only [readIpv6] at read
  split_ifs at read
  · obtain ⟨_, rfl⟩ := Prod.mk.inj (Option.some.inj read)
    exact ⟨front, split, early⟩
  · simp only [Option.bind_eq_bind, Option.bind_eq_some_iff] at read
    obtain ⟨one, first, two, second, same⟩ := read
    obtain ⟨_, rfl⟩ := Prod.mk.inj (Option.some.inj same)
    obtain ⟨back, later, late⟩ := takes_readGroups
      (8 - ((readGroups 8 true input).1.length + 1)) true two
    refine ⟨front ++ [':', ':'] ++ back, ?_, ?_⟩
    · rw [append_assoc, append_assoc, ← later]
      rw [readGiven_eq_some first, readGiven_eq_some second] at split
      exact split
    · refine forall_mem_append.mpr ⟨forall_mem_append.mpr ⟨early, ?_⟩, late⟩
      have each : ∀ c ∈ [':', ':'], c = ':' := by simp
      exact fun c member => .inr (.inl (each c member))

/-- A text that is read as an address is plain. -/
theorem IpAddr.plain_of_parse (read : IpAddr.parse input = some address) :
    ∀ c ∈ input, Plain c := by
  rw [IpAddr.parse] at read
  split at read
  case h_1 octets rest found =>
    split_ifs at read with done
    obtain ⟨used, rfl, each⟩ := takes_readIpv4 found
    rw [done, append_nil]
    exact each
  case h_2 =>
    split at read
    case h_1 octets rest found =>
      split_ifs at read with done
      obtain ⟨used, rfl, each⟩ := takes_readIpv6 found
      rw [done, append_nil]
      exact each
    case h_2 => cases read

theorem colon_mem_of_readSeparated {value : α}
    (read : readSeparated ':' false inner input = some (value, rest)) : ':' ∈ input := by
  obtain ⟨tail, given, _⟩ := Option.bind_eq_some_iff.mp read
  rw [readGiven_eq_some given]
  exact mem_cons_self

theorem colon_mem_of_readGroups {count : Nat} (some : (readGroups count false input).1 ≠ []) :
    ':' ∈ input := by
  cases count with
  | zero => exact absurd rfl some
  | succ count =>
    rw [readGroups] at some
    split at some
    case h_1 octets rest found =>
      split_ifs at found
      exact colon_mem_of_readSeparated found
    case h_2 =>
      split at some
      case h_1 group rest found => exact colon_mem_of_readSeparated found
      case h_2 => exact absurd rfl some

theorem colon_mem_of_readIpv6 {octets : List UInt8} (unread : readIpv4 input = none)
    (read : readIpv6 input = some (octets, rest)) : ':' ∈ input := by
  simp only [readIpv6] at read
  split_ifs at read with full
  · rw [readGroups] at full
    simp only [Nat.reduceLT, ↓reduceIte, readSeparated, unread] at full
    split at full
    case h_1 group tail found =>
      obtain ⟨used, rfl, _⟩ := takes_readNumber (by decide) found
      have some : (readGroups 7 false tail).1 ≠ [] := by
        intro none
        rw [length_cons, none] at full
        exact absurd full (by decide)
      exact mem_append_right used (colon_mem_of_readGroups some)
    case h_2 => cases full
  · simp only [Option.bind_eq_bind, Option.bind_eq_some_iff] at read
    obtain ⟨one, first, _⟩ := read
    obtain ⟨used, split, _⟩ := takes_readGroups 8 true input
    rw [split, readGiven_eq_some first]
    exact mem_append_right used mem_cons_self

/-- A text that is read as an IPv6 address has a colon. -/
theorem IpAddr.colon_mem_of_parse {bits : BitVec 128} (read : IpAddr.parse input = some (.v6 bits)) :
    ':' ∈ input := by
  rw [IpAddr.parse] at read
  split at read
  case h_1 octets rest found =>
    split_ifs at read
    cases read
  case h_2 unread =>
    split at read
    case h_1 octets rest found => exact colon_mem_of_readIpv6 unread found
    case h_2 => cases read

end Read

end Ployz.Api

namespace Ployz.Port

open Api List

variable {first middle : List Char}

section Parts

theorem splitPortParts_one {last : List Char} (plain : ':' ∉ last) :
    splitPortParts last = [last] := by
  simp [splitPortParts, splitOn_eq_singleton plain]

theorem splitPortParts_two {last : List Char} (plain : ':' ∉ first) (lastPlain : ':' ∉ last) :
    splitPortParts (first ++ ':' :: last) = [first, last] := by
  simp [splitPortParts, splitOn_append_cons, splitOn_eq_singleton plain,
    splitOn_eq_singleton lastPlain]

/-- The last two colons cut a spec; the first part may hold others. -/
theorem splitPortParts_three (first : List Char) {last : List Char} (plain : ':' ∉ middle)
    (lastPlain : ':' ∉ last) :
    splitPortParts (first ++ ':' :: (middle ++ ':' :: last)) = [first, middle, last] := by
  have pieces : (first ++ ':' :: (middle ++ ':' :: last)).splitOn ':' =
      first.splitOn ':' ++ [middle, last] := by
    rw [splitOn_append_cons, splitOn_append_cons, splitOn_eq_singleton plain,
      splitOn_eq_singleton lastPlain]
    rfl
  have length : (first.splitOn ':' ++ [middle, last]).length = (first.splitOn ':').length + 2 :=
    length_append
  simp only [splitPortParts, pieces]
  split_ifs with many
  · have split : (first.splitOn ':' ++ [middle, last]).length - 2 =
        (first.splitOn ':').length := by omega
    rw [split, take_left, intercalate_splitOn]
    simp
  · -- a first part with a colon would make more pieces
    have single : ':' ∉ first := by
      intro present
      have more := one_lt_length_splitOn present
      omega
    rw [splitOn_eq_singleton single]
    rfl

/-- Every text is one, two or three parts, of which only the first may hold colons. -/
theorem exists_parts (text : List Char) :
    ':' ∉ text ∨
      (∃ first last, text = first ++ ':' :: last ∧ ':' ∉ first ∧ ':' ∉ last) ∨
      ∃ first middle last, text = first ++ ':' :: (middle ++ ':' :: last) ∧
        ':' ∉ middle ∧ ':' ∉ last := by
  by_cases some : ':' ∈ text
  · obtain ⟨front, last, rfl, lastPlain⟩ := exists_last_piece some
    by_cases more : ':' ∈ front
    · obtain ⟨first, middle, rfl, plain⟩ := exists_last_piece more
      exact .inr (.inr ⟨first, middle, last, by simp, plain, lastPlain⟩)
    · exact .inr (.inl ⟨front, last, rfl, more, lastPlain⟩)
  · exact .inl some

end Parts

theorem mapError_eq_ok_iff {ε δ α : Type} {f : ε → δ} {result : Except ε α} {value : α} :
    result.mapError f = .ok value ↔ result = .ok value := by
  cases result with
  | error error => exact iff_of_false nofun nofun
  | ok found => simp [Except.mapError]

/-- What a spec is read from, part by part. -/
theorem parsePortSpec_eq_ok_iff {port : String} {spec : PortSpec} :
    parsePortSpec port = .ok spec ↔ port.toList.count '@' ≤ 1 ∧
      ∃ terminal containerPort read,
        parseTerminal ((splitPortParts port.toList).getLast?.getD []) = .ok terminal ∧
        parsePort terminal.port = .ok containerPort ∧
        parseParts { containerPort, protocol := terminal.protocol, mode := terminal.mode }
          (splitPortParts port.toList) = .ok read ∧
        hostnameProtocol terminal.specifiedProtocol read = .ok spec ∧
        spec.validate = .ok () := by
  rw [parsePortSpec]
  split_ifs with many
  · exact iff_of_false nofun fun ⟨few, _⟩ => absurd many (Nat.not_lt.mpr few)
  · simp only [bind_eq_ok_iff, mapError_eq_ok_iff]
    constructor
    · rintro ⟨terminal, ends, port, container, read, parts, named, protocol, _, valid, same⟩
      obtain rfl := Except.ok.inj same
      exact ⟨Nat.not_lt.mp many, terminal, port, read, ends, container, parts, protocol, valid⟩
    · rintro ⟨_, terminal, port, read, ends, container, parts, protocol, valid⟩
      exact ⟨terminal, ends, port, container, read, parts, spec, protocol, (), valid, rfl⟩

section Written

/-- A port is read back. -/
theorem parsePort_portText (port : UInt16) : parsePort (PortSpec.portText port) = .ok port := by
  rw [parsePort, PortSpec.portText, parseUnsigned_toDigits port.toNat_lt]
  exact congrArg Except.ok (UInt16.ofNat_toNat)

theorem notMem_portText {c : Char} (strange : toDigit 10 c = none) (port : UInt16) :
    c ∉ PortSpec.portText port :=
  notMem_toDigits strange _

theorem count_portText (port : UInt16) : (PortSpec.portText port).count '@' = 0 :=
  count_eq_zero.mpr (notMem_portText (by decide) port)

theorem colon_notMem_portText (port : UInt16) : ':' ∉ PortSpec.portText port :=
  notMem_portText (by decide) port

theorem isIpv6_iff : isIpv6 address = true ↔ ∃ bits, address = .v6 bits := by
  cases address with
  | v4 bits => exact iff_of_false Bool.false_ne_true fun ⟨_, same⟩ => nomatch same
  | v6 bits => exact iff_of_true rfl ⟨bits, rfl⟩

/-- An address is what the standard library reads as one. -/
theorem parseAddress_eq_ok_iff {text : List Char} :
    ScopedIpAddr.parseAddress text = .ok address ↔ IpAddr.parse text = some address := by
  unfold ScopedIpAddr.parseAddress
  cases IpAddr.parse text with
  | none => exact ⟨nofun, nofun⟩
  | some found => rw [Option.some.injEq, Except.ok.injEq]

theorem parseAddress_text (address : IpAddr) :
    ScopedIpAddr.parseAddress address.text = .ok address :=
  parseAddress_eq_ok_iff.mpr (IpAddr.parse_text address)

/-- Only IPv6 addresses are written with colons. -/
theorem colon_mem_text : ':' ∈ address.text ↔ isIpv6 address = true := by
  cases address with
  | v4 bits => exact iff_of_false (colon_notMem_ipv4Text _) Bool.false_ne_true
  | v6 bits => exact iff_of_true (colon_mem_ipv6Text (length_toBytes 16 _)) rfl

/-- An IPv6 address with a zone is read back. -/
theorem fromStr_zone (six : isIpv6 address = true) {zone : List Char} (some : zone ≠ []) :
    ScopedIpAddr.fromStr (address.text ++ '%' :: zone) = .ok ⟨address, zone⟩ := by
  have plain : '%' ∉ address.text := IpAddr.notMem_text (by decide) address
  simp only [ScopedIpAddr.fromStr, splitOnce_append plain, parseAddress_text, six, ne_eq, some,
    not_false_eq_true, and_self, ↓reduceIte]

/-- An address without a zone is read back. -/
theorem fromStr_address (address : IpAddr) :
    ScopedIpAddr.fromStr address.text = .ok ⟨address, []⟩ := by
  have plain : '%' ∉ address.text := IpAddr.notMem_text (by decide) address
  simp only [ScopedIpAddr.fromStr, splitOnce_eq_none plain, parseAddress_text]
  rfl

/-- A prefix is read back. -/
theorem IpPrefix.fromStr_text (range : IpPrefix) :
    IpPrefix.fromStr (range.address.text ++ '/' :: Nat.toDigits 10 range.bits) = .ok range := by
  have plain : '/' ∉ range.address.text := IpAddr.notMem_text (by decide) range.address
  have small : range.bits < 2 ^ 8 := by
    have fits := range.fits
    rw [maximumBits] at fits
    split_ifs at fits <;> omega
  rw [IpPrefix.fromStr, splitOnce_append plain]
  simp only [parseAddress_text, parseUnsigned_toDigits small]
  exact dif_pos range.fits

end Written

variable {host : List Char}

section Brackets

/-- A closing bracket with something other than closing brackets after it. -/
def Tangled (text : List Char) : Bool := (text.dropWhile (· ≠ ']')).any (· ≠ ']')

/-- Characters before the first closing bracket do not matter. -/
theorem tangled_append {front : List Char} (plain : ']' ∉ front) (back : List Char) :
    Tangled (front ++ back) = Tangled back := by
  rw [Tangled, Tangled, dropWhile_append_of_pos]
  intro c member
  rw [decide_eq_true_eq]
  exact fun same => plain (same ▸ member)

variable {text : List Char}

theorem tangled_eq_false (plain : ']' ∉ text) : Tangled text = false := by
  have all := tangled_append plain []
  rwa [append_nil] at all

theorem tangled_cons_bracket (text : List Char) :
    Tangled (']' :: text) = text.any (· ≠ ']') := by
  simp [Tangled]

/-- The text with its first closing bracket moved to its end. -/
def rotate (text : List Char) : List Char :=
  match splitOnce ']' text with
  | none => text
  | some (before, after) => before ++ after ++ [']']

theorem append_singleton_eq_cons_iff {c : Char} : text ++ [c] = c :: text ↔ ∀ d ∈ text, d = c := by
  induction text with
  | nil => simp
  | cons d text ih =>
    rw [cons_append, List.cons.injEq, forall_mem_cons]
    refine and_congr_right fun same => ?_
    rw [same]
    exact ih

/-- Moving the bracket changes just the texts in which it is tangled. -/
theorem rotate_eq_self_iff : rotate text = text ↔ Tangled text = false := by
  by_cases present : ']' ∈ text
  · obtain ⟨before, after, rfl, plain⟩ := eq_append_cons_of_mem present
    rw [rotate, splitOnce_append plain, tangled_append plain, tangled_cons_bracket]
    simp only [append_assoc, append_cancel_left_eq, append_singleton_eq_cons_iff,
      any_eq_false, decide_eq_true_eq, not_not]
  · rw [rotate, splitOnce_eq_none present]
    exact iff_of_true rfl (tangled_eq_false present)

theorem rotate_ne_nil (some : text ≠ []) : rotate text ≠ [] := by
  rw [rotate]
  split
  · exact some
  · exact append_ne_nil_of_right_ne_nil _ (cons_ne_nil _ _)

/-- The first closing bracket is taken off together with the opening one. -/
theorem unbracket_closing {before after : List Char} (plain : ']' ∉ before)
    (colon : ':' ∈ before) :
    unbracket ('[' :: before ++ ']' :: after) = .ok (before ++ after) := by
  have present : ':' ∈ '[' :: before ++ ']' :: after :=
    mem_append_left _ (mem_cons_of_mem _ colon)
  have first : ']' ∉ '[' :: before := not_mem_cons_of_ne_of_not_mem (by decide) plain
  simp only [unbracket, if_pos present, splitOnce_append first]
  exact if_pos rfl

/-- Around an address with a zone, a closing bracket in the zone is taken for the outer one. -/
theorem unbracket_brackets {front zone : List Char} (plain : ']' ∉ front) (colon : ':' ∈ front) :
    unbracket ('[' :: (front ++ zone) ++ [']']) = .ok (front ++ rotate zone) := by
  by_cases closing : ']' ∈ zone
  · obtain ⟨before, after, rfl, free⟩ := eq_append_cons_of_mem closing
    have taken := @unbracket_closing (front ++ before) (after ++ [']'])
      (not_mem_append plain free) (mem_append_left _ colon)
    rw [rotate, splitOnce_append free]
    simpa using taken
  · have taken := @unbracket_closing (front ++ zone) [] (not_mem_append plain closing)
      (mem_append_left _ colon)
    rw [rotate, splitOnce_eq_none closing, taken, append_nil]

theorem notMem_rotate {c : Char} (absent : c ∉ text) (other : c ≠ ']') : c ∉ rotate text := by
  rw [rotate]
  split
  case h_1 => exact absent
  case h_2 before after split =>
    obtain ⟨rfl, _⟩ := splitOnce_eq_some split
    simp only [mem_append, mem_cons, not_or] at absent ⊢
    exact ⟨⟨absent.1, absent.2.2⟩, other, not_mem_nil⟩

theorem unbracket_plain (plain : ':' ∉ host) : unbracket host = .ok host :=
  if_neg plain

/-- Brackets are taken off a part with a colon. -/
theorem unbracket_eq_ok {inner : List Char} (read : unbracket host = .ok inner) :
    (':' ∉ host ∧ inner = host) ∨
      ∃ before after, host = '[' :: before ++ ']' :: after ∧ ']' ∉ before ∧
        inner = before ++ after := by
  simp only [unbracket] at read
  split_ifs at read with colon opening
  · split at read
    case h_1 => exact nomatch read
    case h_2 before after split =>
      obtain ⟨rfl, plain⟩ := splitOnce_eq_some split
      obtain rfl := Except.ok.inj read
      cases before with
      | nil => exact nomatch opening
      | cons c before =>
        obtain rfl : c = '[' := Option.some.inj opening
        rw [mem_cons, not_or] at plain
        exact .inr ⟨before, after, rfl, plain.2, rfl⟩
  · split at read <;> exact nomatch read
  · exact .inl ⟨colon, (Except.ok.inj read).symm⟩

end Brackets

variable {range : IpPrefix} {ip : ScopedIpAddr}

section Format

variable {spec : PortSpec}

/-- A valid spec is valid in one of the two modes. -/
theorem validate_eq_ok (valid : spec.validate = .ok ()) :
    (spec.mode = modeIngress ∧ spec.validateIngress = .ok () ∧
      spec.protocol ∈ [protocolTcp, protocolUdp, protocolHttp, protocolHttps]) ∨
    (spec.mode = modeHost ∧ spec.validateHost = .ok ()) := by
  rw [PortSpec.validate] at valid
  split_ifs at valid with zero empty unknown unset ingress host
  · refine .inl ⟨ingress, valid, ?_⟩
    simp only [mem_cons, not_mem_nil, or_false] at unknown ⊢
    tauto
  · exact .inr ⟨host, valid⟩

/-- A valid spec in ingress mode has no host address. -/
theorem validate_ingress (valid : spec.validate = .ok ()) (mode : spec.mode = modeIngress) :
    spec.hostIp = none ∧ spec.hostPrefix = none ∧
      (spec.hostname = "" ∨ (spec.protocol = protocolHttp ∨ spec.protocol = protocolHttps) ∧
        '.' ∈ spec.hostname.toList) ∧
      spec.protocol ∈ [protocolTcp, protocolUdp, protocolHttp, protocolHttps] := by
  obtain ⟨_, checked, known⟩ | ⟨host, _⟩ := validate_eq_ok valid
  swap
  · exact absurd (mode.symm.trans host) (by decide)
  rw [PortSpec.validateIngress] at checked
  split_ifs at checked with ip range empty protocol
  · exact ⟨by simpa using ip, by simpa using range, .inl empty, known⟩
  · refine ⟨by simpa using ip, by simpa using range, .inr ⟨by tauto, ?_⟩, known⟩
    rw [validateHostname] at checked
    split_ifs at checked with dot
    exact dot

/-- A valid spec in host mode has one host address at most, and no hostname. -/
theorem validate_host (valid : spec.validate = .ok ()) (mode : spec.mode = modeHost) :
    (spec.hostIp = none ∨ spec.hostPrefix = none) ∧ spec.protocol ∈ [protocolTcp, protocolUdp] ∧
      spec.hostname = "" := by
  obtain ⟨ingress, _⟩ | ⟨_, checked⟩ := validate_eq_ok valid
  · exact absurd (mode.symm.trans ingress) (by decide)
  rw [PortSpec.validateHost] at checked
  split_ifs at checked with both zero protocol named
  refine ⟨?_, ?_, not_not.mp named⟩
  · rw [not_and_or, Bool.not_eq_true, Bool.not_eq_true, Option.isSome_eq_false_iff,
      Option.isSome_eq_false_iff, Option.isNone_iff_eq_none, Option.isNone_iff_eq_none] at both
    exact both
  · simp only [mem_cons, not_mem_nil, or_false]
    tauto

/-- A hostname with a dot is no port. -/
theorem parsePort_hostname {hostname : List Char} (dot : '.' ∈ hostname) :
    ∃ error, parsePort hostname = .error error := by
  rw [parsePort]
  cases read : parseUnsigned (2 ^ 16) hostname with
  | error error => exact ⟨error, rfl⟩
  | ok value => exact absurd (digits_of_parseUnsigned read '.' dot) (by decide)

/-- The text of a spec in ingress mode. -/
def ingressText (spec : PortSpec) : List Char :=
  [':'].intercalate spec.ingressParts ++ '/' :: spec.protocol.toList

/-- A valid spec in ingress mode is formatted. -/
theorem format_ingress (valid : spec.validate = .ok ()) (mode : spec.mode = modeIngress) :
    spec.format = .ok (String.ofList (ingressText spec)) := by
  rw [PortSpec.format, valid]
  exact if_pos mode

/-- The hostname decides about the protocol alone. -/
theorem hostnameProtocol_eq_ok {specified : String} {read : PortSpec}
    (settled : hostnameProtocol specified read = .ok spec) :
    spec = { read with protocol := spec.protocol } := by
  rw [hostnameProtocol] at settled
  split_ifs at settled <;> obtain rfl := Except.ok.inj settled <;> rfl

variable {start read : PortSpec}

/-- Of three parts, the second is a port and the first a host. -/
theorem parseParts_three {last : List Char}
    (parts : parseParts start [first, middle, last] = .ok read) :
    ∃ value, parsePort middle = .ok value ∧
      ((start.mode = modeHost ∧ parseHost { start with publishedPort := value } first = .ok read) ∨
        (start.mode ≠ modeHost ∧
          read = { start with publishedPort := value, hostname := String.ofList first })) := by
  simp only [parseParts, bind_eq_ok_iff, mapError_eq_ok_iff] at parts
  obtain ⟨value, published, rest⟩ := parts
  refine ⟨value, published, ?_⟩
  split_ifs at rest with host
  · exact .inl ⟨host, rest⟩
  · exact .inr ⟨host, (Except.ok.inj rest).symm⟩

/-- Of two parts, the first is a port or a hostname. -/
theorem parseParts_two {last : List Char} (parts : parseParts start [first, last] = .ok read) :
    (∃ value, read = { start with publishedPort := value }) ∨
      read = { start with hostname := String.ofList first } := by
  cases published : parsePort first with
  | ok value =>
    simp only [parseParts, published] at parts
    split_ifs at parts
    exact .inl ⟨value, (Except.ok.inj parts).symm⟩
  | error error =>
    simp only [parseParts, published] at parts
    split_ifs at parts
    exact .inr (Except.ok.inj parts).symm

/-- A host part with a slash is a prefix, and one without is an address. -/
theorem parseHost_eq_ok_iff {part : List Char} :
    parseHost start part = .ok read ↔ ∃ inner, unbracket part = .ok inner ∧
      (('/' ∈ inner ∧ ∃ range, IpPrefix.fromStr inner = .ok range ∧
          read = { start with hostPrefix := some range }) ∨
        ('/' ∉ inner ∧ ∃ address, ScopedIpAddr.fromStr inner = .ok address ∧
          read = { start with hostIp := some address })) := by
  have done : ∀ {spec : PortSpec}, (pure spec : Except String PortSpec) = .ok read ↔ read = spec :=
    (Except.ok.injEq ..).to_iff.trans eq_comm
  rw [parseHost, bind_eq_ok_iff]
  refine exists_congr fun inner => and_congr_right fun _ => ?_
  by_cases slash : '/' ∈ inner <;>
    simp [slash, -bind_pure_comp, bind_eq_ok_iff, mapError_eq_ok_iff, done]

/-- The parts before the last leave the protocol alone. -/
theorem parseParts_protocol {parts : List (List Char)} (parsed : parseParts start parts = .ok read) :
    read.protocol = start.protocol := by
  match parts, parsed with
  | [_], parsed => rw [← Except.ok.inj parsed]
  | [_, _], parsed => obtain ⟨_, rfl⟩ | rfl := parseParts_two parsed <;> rfl
  | [_, _, _], parsed =>
    obtain ⟨_, _, ⟨_, host⟩ | ⟨_, rfl⟩⟩ := parseParts_three parsed
    · obtain ⟨_, _, ⟨_, _, _, rfl⟩ | ⟨_, _, _, rfl⟩⟩ := parseHost_eq_ok_iff.mp host <;> rfl
    · rfl

/-- What the last part says of a spec. -/
def blank (spec : PortSpec) : PortSpec :=
  { containerPort := spec.containerPort, protocol := spec.protocol, mode := spec.mode }

/-- A last part that is read as the container port, the protocol and the mode of a spec. -/
structure Ending (spec : PortSpec) (last : List Char) (signs : Nat) : Prop where
  colon : ':' ∉ last
  counted : last.count '@' = signs
  parsed : ∃ specified, parseTerminal last =
      .ok ⟨spec.mode, spec.protocol, specified, PortSpec.portText spec.containerPort⟩ ∧
    hostnameProtocol specified spec = .ok spec

section Ending

variable {last : List Char} {signs : Nat} (ending : Ending spec last signs)
  (valid : spec.validate = .ok ())

include ending valid

/-- A text with such a last part is read as the spec just if the parts before it are. -/
theorem Ending.parse_iff {text : List Char} {parts : List (List Char)}
    (split : splitPortParts text = parts) (ends : parts.getLast? = some last) :
    parsePortSpec (String.ofList text) = .ok spec ↔
      text.count '@' ≤ 1 ∧ parseParts (blank spec) parts = .ok spec := by
  obtain ⟨specified, terminal, named⟩ := ending.parsed
  rw [parsePortSpec_eq_ok_iff, String.toList_ofList, split, ends, Option.getD_some]
  refine and_congr_right fun _ => ⟨?_, fun read =>
    ⟨_, _, spec, terminal, parsePort_portText _, read, named, valid⟩⟩
  rintro ⟨other, port, read, found, container, parsed, settled, _⟩
  obtain rfl := Except.ok.inj (found.symm.trans terminal)
  obtain rfl := Except.ok.inj (container.symm.trans (parsePort_portText _))
  change parseParts (blank spec) parts = .ok read at parsed
  have same : (blank spec).protocol = read.protocol := (parseParts_protocol parsed).symm
  have whole := hostnameProtocol_eq_ok settled
  rw [show spec.protocol = read.protocol from same] at whole
  rw [parsed, whole]

/-- A published port before the last part is read back. -/
theorem Ending.parse_published (few : signs ≤ 1) (unnamed : spec.hostname = "")
    (noIp : spec.hostIp = none) (noPrefix : spec.hostPrefix = none) :
    parsePortSpec (String.ofList (PortSpec.portText spec.publishedPort ++ ':' :: last)) =
      .ok spec := by
  have some : PortSpec.portText spec.publishedPort ≠ [] := Nat.toDigits_ne_nil
  rw [ending.parse_iff valid (splitPortParts_two (colon_notMem_portText _) ending.colon) rfl]
  refine ⟨by simpa [count_append, count_portText, ending.counted] using few, ?_⟩
  simp only [parseParts, if_neg some, parsePort_portText, blank]
  rw [← unnamed, ← noIp, ← noPrefix]

end Ending

section Ingress

/-- The last part of a spec in ingress mode. -/
def ingressEnd (spec : PortSpec) : List Char :=
  PortSpec.portText spec.containerPort ++ '/' :: spec.protocol.toList

variable (valid : spec.validate = .ok ()) (mode : spec.mode = modeIngress)

include valid mode

/-- The last part of a spec in ingress mode is read back. -/
theorem ingressEnd_ending : Ending spec (ingressEnd spec) 0 := by
  obtain ⟨_, _, hostname, known⟩ := validate_ingress valid mode
  have free : ∀ protocol ∈ [protocolTcp, protocolUdp, protocolHttp, protocolHttps],
      ':' ∉ '/' :: protocol.toList ∧ '@' ∉ '/' :: protocol.toList ∧ protocol ≠ "" := by decide
  obtain ⟨colon, sign, named⟩ := free _ known
  have plain : '@' ∉ ingressEnd spec := not_mem_append (notMem_portText (by decide) _) sign
  have slash : '/' ∉ PortSpec.portText spec.containerPort := notMem_portText (by decide) _
  refine ⟨not_mem_append (colon_notMem_portText _) colon, count_eq_zero.mpr plain, spec.protocol,
    ?_, ?_⟩
  · rw [parseTerminal, splitOnce_eq_none plain]
    simp only [ingressEnd, splitOnce_append slash, String.ofList_toList, known, not_true_eq_false,
      ↓reduceIte, mode]
  · rw [hostnameProtocol, if_neg named]
    obtain empty | ⟨web, _⟩ := hostname
    · exact if_pos empty
    · have fine : ¬ (spec.protocol ≠ protocolHttp ∧ spec.protocol ≠ protocolHttps) := by tauto
      rw [if_neg fine, ite_self]

/-- The text of a spec in ingress mode is read back unless a hostname with a colon stands right
before the container port. -/
theorem parse_ingressText (signs : spec.hostname.toList.count '@' ≤ 1)
    (plain : spec.publishedPort = 0 → ':' ∉ spec.hostname.toList) :
    parsePortSpec (String.ofList (ingressText spec)) = .ok spec := by
  obtain ⟨noIp, noPrefix, hostname, _⟩ := validate_ingress valid mode
  have ending := ingressEnd_ending valid mode
  have other : (blank spec).mode ≠ modeHost := fun host => absurd (mode.symm.trans host) (by decide)
  have whole : (⟨spec.hostname, none, none, spec.publishedPort, spec.containerPort,
      spec.protocol, spec.mode⟩ : PortSpec) = spec := by
    rw [← noIp, ← noPrefix]
  by_cases empty : spec.hostname = "" <;> by_cases zero : spec.publishedPort = 0
  · have text : ingressText spec = ingressEnd spec := by
      simp [ingressText, ingressEnd, PortSpec.ingressParts, empty, zero, List.intercalate]
    rw [empty, zero] at whole
    rw [text, ending.parse_iff valid (splitPortParts_one ending.colon) rfl, ending.counted]
    exact ⟨Nat.zero_le 1, congrArg Except.ok whole⟩
  · have text : ingressText spec =
        PortSpec.portText spec.publishedPort ++ ':' :: ingressEnd spec := by
      simp [ingressText, ingressEnd, PortSpec.ingressParts, empty, zero, List.intercalate]
    rw [text]
    exact ending.parse_published valid (Nat.zero_le 1) empty noIp noPrefix
  · have text : ingressText spec = spec.hostname.toList ++ ':' :: ingressEnd spec := by
      simp [ingressText, ingressEnd, PortSpec.ingressParts, empty, zero, List.intercalate]
    obtain ⟨_, dot⟩ := hostname.resolve_left empty
    obtain ⟨error, unread⟩ := parsePort_hostname dot
    rw [zero] at whole
    rw [text, ending.parse_iff valid (splitPortParts_two (plain zero) ending.colon) rfl]
    refine ⟨by simpa [count_append, ending.counted] using signs, ?_⟩
    simp only [parseParts, if_neg (ne_nil_of_mem dot), unread, if_neg other,
      String.ofList_toList]
    exact congrArg Except.ok whole
  · have text : ingressText spec = spec.hostname.toList ++
        ':' :: (PortSpec.portText spec.publishedPort ++ ':' :: ingressEnd spec) := by
      simp [ingressText, ingressEnd, PortSpec.ingressParts, empty, zero, List.intercalate]
    rw [text, ending.parse_iff valid
      (splitPortParts_three _ (colon_notMem_portText _) ending.colon) rfl]
    refine ⟨by simpa [count_append, count_portText, ending.counted] using signs, ?_⟩
    simp only [parseParts, parsePort_portText, String.ofList_toList]
    exact (if_neg other).trans (congrArg Except.ok whole)

/-- A hostname with a colon right before the container port is cut. -/
theorem parse_ingressText_ne (zero : spec.publishedPort = 0)
    (colon : ':' ∈ spec.hostname.toList) :
    parsePortSpec (String.ofList (ingressText spec)) ≠ .ok spec := by
  intro parsed
  obtain ⟨front, last, cut, plain⟩ := exists_last_piece colon
  have ending := ingressEnd_ending valid mode
  have some : spec.hostname ≠ "" := by
    rintro empty
    rw [empty] at colon
    exact absurd colon (by decide)
  have text : ingressText spec = front ++ ':' :: (last ++ ':' :: ingressEnd spec) := by
    simp [ingressText, ingressEnd, PortSpec.ingressParts, some, zero, List.intercalate, cut]
  rw [text, ending.parse_iff valid (splitPortParts_three _ plain ending.colon) rfl] at parsed
  obtain ⟨value, _, ⟨host, _⟩ | ⟨_, read⟩⟩ := parseParts_three parsed.2
  · exact absurd (mode.symm.trans host) (by decide)
  -- the hostname that is read is a proper part of the one that was written
  have shorter : spec.hostname = String.ofList front := congrArg PortSpec.hostname read
  rw [shorter, String.toList_ofList] at cut
  have length := congrArg List.length cut
  rw [length_append, length_cons] at length
  omega

end Ingress

/-- The text of a spec in host mode. -/
def hostText (spec : PortSpec) : List Char :=
  [':'].intercalate spec.hostParts ++ '/' :: spec.protocol.toList ++ '@' :: modeHost.toList

/-- A valid spec in host mode is formatted. -/
theorem format_host (valid : spec.validate = .ok ()) (mode : spec.mode = modeHost) :
    spec.format = .ok (String.ofList (hostText spec)) := by
  have other : ¬ spec.mode = modeIngress := by rw [mode]; decide
  rw [PortSpec.format, valid]
  simp only [if_neg other, if_pos mode]
  rfl

section Host

/-- The last part of a spec in host mode. -/
def hostEnd (spec : PortSpec) : List Char :=
  PortSpec.portText spec.containerPort ++ '/' :: spec.protocol.toList ++ '@' :: modeHost.toList

variable (valid : spec.validate = .ok ()) (mode : spec.mode = modeHost)

include valid mode

/-- The last part of a spec in host mode is read back. -/
theorem hostEnd_ending : Ending spec (hostEnd spec) 1 := by
  obtain ⟨_, known, unnamed⟩ := validate_host valid mode
  have free : ∀ protocol ∈ [protocolTcp, protocolUdp], '@' ∉ '/' :: protocol.toList ∧
      ':' ∉ '/' :: protocol.toList ++ '@' :: modeHost.toList ∧
        ('/' :: protocol.toList ++ '@' :: modeHost.toList).count '@' = 1 := by decide
  obtain ⟨sign, colon, counted⟩ := free _ known
  have plain : '@' ∉ PortSpec.portText spec.containerPort ++ '/' :: spec.protocol.toList :=
    not_mem_append (notMem_portText (by decide) _) sign
  have slash : '/' ∉ PortSpec.portText spec.containerPort := notMem_portText (by decide) _
  refine ⟨?_, ?_, "", ?_, if_pos unnamed⟩
  · rw [hostEnd, append_assoc]
    exact not_mem_append (colon_notMem_portText _) colon
  · rw [hostEnd, append_assoc, count_append, count_portText, counted]
  · rw [parseTerminal, hostEnd, splitOnce_append plain]
    simp only [splitOnce_append slash, String.ofList_toList, known, ne_eq, not_true_eq_false,
      ↓reduceIte, mode]

/-- A text in host mode is read as its host part is. -/
theorem parse_hostText_of_part {part : List Char} (sign : '@' ∉ part) (text : hostText spec =
      part ++ ':' :: (PortSpec.portText spec.publishedPort ++ ':' :: hostEnd spec))
    (host : parseHost ⟨"", none, none, spec.publishedPort, spec.containerPort, spec.protocol,
      spec.mode⟩ part = .ok read) :
    parsePortSpec (String.ofList (hostText spec)) = .ok spec ↔ read = spec := by
  have ending := hostEnd_ending valid mode
  have parts : parseParts (blank spec)
      [part, PortSpec.portText spec.publishedPort, hostEnd spec] = .ok read := by
    simp only [parseParts, parsePort_portText]
    exact (if_pos mode).trans host
  rw [text, ending.parse_iff valid
    (splitPortParts_three _ (colon_notMem_portText _) ending.colon) rfl, parts]
  have few : (part ++ ':' :: (PortSpec.portText spec.publishedPort ++
      ':' :: hostEnd spec)).count '@' ≤ 1 := by
    simp [count_append, count_portText, ending.counted, count_eq_zero.mpr sign]
  exact ⟨fun both => Except.ok.inj both.2, fun same => ⟨few, congrArg _ same⟩⟩

/-- A spec in host mode without a host is read back. -/
theorem parse_hostText_none (noIp : spec.hostIp = none) (noPrefix : spec.hostPrefix = none) :
    parsePortSpec (String.ofList (hostText spec)) = .ok spec := by
  have text : hostText spec = PortSpec.portText spec.publishedPort ++ ':' :: hostEnd spec := by
    simp [hostText, hostEnd, PortSpec.hostParts, noIp, noPrefix, List.intercalate]
  rw [text]
  exact (hostEnd_ending valid mode).parse_published valid le_rfl
    (validate_host valid mode).2.2 noIp noPrefix

/-- A spec in host mode with a prefix is read back. -/
theorem parse_hostText_range (known : spec.hostPrefix = some range) :
    parsePortSpec (String.ofList (hostText spec)) = .ok spec := by
  obtain ⟨one, _, unnamed⟩ := validate_host valid mode
  have noIp : spec.hostIp = none := one.resolve_right (by rw [known]; exact nofun)
  have text : hostText spec = PortSpec.hostPrefixText range ++
      ':' :: (PortSpec.portText spec.publishedPort ++ ':' :: hostEnd spec) := by
    simp [hostText, hostEnd, PortSpec.hostParts, noIp, known, List.intercalate]
  have plain : ∀ {c}, ¬ Plain c → toDigit 10 c = none → c ≠ '/' → c ≠ '[' → c ≠ ']' →
      c ∉ PortSpec.hostPrefixText range := by
    intro c strange digit slash opening closing
    have address := IpAddr.notMem_text strange range.address
    have bits := notMem_toDigits digit range.bits
    rw [PortSpec.hostPrefixText]
    split_ifs <;> simp [address, bits, slash, opening, closing]
  have brackets : unbracket (PortSpec.hostPrefixText range) =
      .ok (range.address.text ++ '/' :: Nat.toDigits 10 range.bits) := by
    rw [PortSpec.hostPrefixText]
    split_ifs with six
    · exact unbracket_closing (IpAddr.notMem_text (by decide) _) (colon_mem_text.mpr six)
    · refine unbracket_plain ?_
      rw [mem_append, mem_cons, not_or, not_or]
      exact ⟨mt colon_mem_text.mp six, by decide, notMem_toDigits (by decide) _⟩
  refine (parse_hostText_of_part valid mode ?_ text (parseHost_eq_ok_iff.mpr
    ⟨_, brackets, .inl ⟨by simp, _, IpPrefix.fromStr_text range, rfl⟩⟩)).mpr ?_
  · exact plain (by decide) (by decide) (by decide) (by decide) (by decide)
  · rw [← known, ← noIp, ← unnamed]

/-- A spec in host mode with an address is read back unless its zone is tangled. -/
theorem parse_hostText_ip (known : spec.hostIp = some ip)
    (zoned : ip.zone ≠ [] → isIpv6 ip.address = true) (slash : '/' ∉ ip.zone) (sign : '@' ∉ ip.zone) :
    parsePortSpec (String.ofList (hostText spec)) = .ok spec ↔ Tangled ip.zone = false := by
  obtain ⟨one, _, unnamed⟩ := validate_host valid mode
  have noPrefix : spec.hostPrefix = none := one.resolve_left (by rw [known]; exact nofun)
  have text : hostText spec = PortSpec.hostIpText ip ++
      ':' :: (PortSpec.portText spec.publishedPort ++ ':' :: hostEnd spec) := by
    simp [hostText, hostEnd, PortSpec.hostParts, noPrefix, known, List.intercalate]
  have closing : ']' ∉ ip.address.text := IpAddr.notMem_text (by decide) _
  have addressSign : '@' ∉ ip.address.text := IpAddr.notMem_text (by decide) _
  have addressSlash : '/' ∉ ip.address.text := IpAddr.notMem_text (by decide) _
  have partSign : '@' ∉ PortSpec.hostIpText ip := by
    rw [PortSpec.hostIpText, ScopedIpAddr.text]
    split_ifs <;> simp [addressSign, sign]
  have whole : ∀ zone, (⟨"", some ⟨ip.address, zone⟩, none, spec.publishedPort,
      spec.containerPort, spec.protocol, spec.mode⟩ : PortSpec) = spec ↔ zone = ip.zone := by
    intro zone
    constructor
    · intro same
      have both := (congrArg PortSpec.hostIp same).trans known
      exact congrArg ScopedIpAddr.zone (Option.some.inj both)
    · rintro rfl
      rw [← unnamed, ← noPrefix]
      exact congrArg (fun hostIp => { spec with hostIp }) known.symm
  by_cases empty : ip.zone = []
  · have brackets : unbracket (PortSpec.hostIpText ip) = .ok ip.address.text := by
      rw [PortSpec.hostIpText, ScopedIpAddr.text, if_pos empty, append_nil]
      split_ifs with six
      · have taken := @unbracket_closing ip.address.text [] closing (colon_mem_text.mpr six)
        rwa [append_nil] at taken
      · exact unbracket_plain (mt colon_mem_text.mp six)
    rw [parse_hostText_of_part valid mode partSign text (parseHost_eq_ok_iff.mpr
      ⟨_, brackets, .inr ⟨addressSlash, _, fromStr_address _, rfl⟩⟩), whole, empty]
    exact iff_of_true rfl rfl
  · have six := zoned empty
    have front : ']' ∉ ip.address.text ++ ['%'] := not_mem_append closing (by decide)
    have brackets : unbracket (PortSpec.hostIpText ip) =
        .ok (ip.address.text ++ '%' :: rotate ip.zone) := by
      have taken := @unbracket_brackets (ip.address.text ++ ['%']) ip.zone front
        (mem_append_left _ (colon_mem_text.mpr six))
      rw [PortSpec.hostIpText, if_pos six, ScopedIpAddr.text, if_neg empty]
      simpa using taken
    have inner : '/' ∉ ip.address.text ++ '%' :: rotate ip.zone := by
      rw [mem_append, mem_cons, not_or, not_or]
      exact ⟨addressSlash, by decide, notMem_rotate slash (by decide)⟩
    rw [parse_hostText_of_part valid mode partSign text (parseHost_eq_ok_iff.mpr
      ⟨_, brackets, .inr ⟨inner, _, fromStr_zone six (rotate_ne_nil empty), rfl⟩⟩), whole]
    exact rotate_eq_self_iff

end Host

end Format

/-- A spec whose text is read as another one: a hostname with a colon is followed by the published
port 0, which is not written, or a zone holds a closing bracket that is not at its end. -/
def Ambiguous (port : String) : Bool :=
  match splitPortParts port.toList with
  | [host, published, terminal] =>
    if '@' ∈ terminal then (splitOnce ']' host).any fun (_, after) => Tangled after
    else decide (':' ∈ host) && decide (parsePort published = .ok 0)
  | _ => false

section Parsed

variable {port : String} {spec : PortSpec}

/-- The last part has a sign just in host mode. -/
theorem parseTerminal_eq_ok {text : List Char} {terminal : Terminal}
    (ends : parseTerminal text = .ok terminal) :
    ('@' ∈ text ∧ terminal.mode = modeHost) ∨ ('@' ∉ text ∧ terminal.mode = modeIngress) := by
  rw [parseTerminal] at ends
  split at ends
  case h_1 before mode split =>
    have present : '@' ∈ text := by
      rw [(splitOnce_eq_some split).1]
      simp
    refine .inl ⟨present, ?_⟩
    split_ifs at ends
    split at ends
    · rw [← Except.ok.inj ends]
    · split_ifs at ends
      rw [← Except.ok.inj ends]
  case h_2 split =>
    refine .inr ⟨notMem_of_splitOnce split, ?_⟩
    split at ends
    · rw [← Except.ok.inj ends]
    · split_ifs at ends
      rw [← Except.ok.inj ends]

/-- A text is read as an address, with a zone if it is an IPv6 address. -/
theorem ScopedIpAddr.fromStr_eq_ok {value : List Char} (read : ScopedIpAddr.fromStr value = .ok ip) :
    (ip.zone = [] ∧ IpAddr.parse value = some ip.address) ∨
      ∃ front, value = front ++ '%' :: ip.zone ∧ isIpv6 ip.address = true ∧
        IpAddr.parse front = some ip.address := by
  have whole : (ScopedIpAddr.parseAddress value).map
      (fun address => (⟨address, []⟩ : ScopedIpAddr)) = .ok ip →
      ip.zone = [] ∧ IpAddr.parse value = some ip.address := by
    intro done
    cases address : ScopedIpAddr.parseAddress value with
    | error error =>
      rw [address] at done
      exact nomatch done
    | ok found =>
      rw [address] at done
      obtain rfl := Except.ok.inj done
      exact ⟨rfl, parseAddress_eq_ok_iff.mp address⟩
  rw [ScopedIpAddr.fromStr] at read
  split at read
  case h_1 => exact .inl (whole read)
  case h_2 front zone split =>
    split at read
    case h_1 => exact nomatch read
    case h_2 address found =>
      split_ifs at read with six
      · obtain rfl := Except.ok.inj read
        exact .inr ⟨front, (splitOnce_eq_some split).1, six.1, parseAddress_eq_ok_iff.mp found⟩
      · exact .inl (whole read)

variable {part inner : List Char}

theorem any_tangled_eq_false (brackets : unbracket part = .ok inner) (plain : ']' ∉ inner) :
    ((splitOnce ']' part).any fun (_, after) => Tangled after) = false := by
  obtain ⟨_, rfl⟩ | ⟨before, after, rfl, free, rfl⟩ := unbracket_eq_ok brackets
  · rw [splitOnce_eq_none plain]
    rfl
  · rw [splitOnce_append (not_mem_cons_of_ne_of_not_mem (by decide) free)]
    exact tangled_eq_false fun member => plain (mem_append_right _ member)

/-- A host part is tangled as the zone that is read from it. -/
theorem any_tangled_eq (brackets : unbracket part = .ok inner)
    (read : ScopedIpAddr.fromStr inner = .ok ip) :
    ((splitOnce ']' part).any fun (_, after) => Tangled after) = Tangled ip.zone := by
  obtain ⟨empty, address⟩ | ⟨front, rfl, six, address⟩ := ScopedIpAddr.fromStr_eq_ok read
  · rw [empty, any_tangled_eq_false brackets]
    · rfl
    · exact fun member => absurd (IpAddr.plain_of_parse address _ member) (by decide)
  · obtain ⟨bits, v6⟩ := isIpv6_iff.mp six
    have colon : ':' ∈ front := IpAddr.colon_mem_of_parse (address.trans (congrArg some v6))
    have closing : ']' ∉ front ++ ['%'] := not_mem_append
      (fun member => absurd (IpAddr.plain_of_parse address _ member) (by decide)) (by decide)
    have zone := tangled_append closing ip.zone
    rw [append_assoc, singleton_append] at zone
    obtain ⟨none, rfl⟩ | ⟨before, after, rfl, free, split⟩ := unbracket_eq_ok brackets
    · exact absurd (mem_append_left _ colon) none
    · rw [splitOnce_append (not_mem_cons_of_ne_of_not_mem (by decide) free), ← zone, split,
        tangled_append free]
      rfl

/-- A prefix has no brackets inside. -/
theorem notMem_of_range (read : IpPrefix.fromStr inner = .ok range) : ']' ∉ inner := by
  rw [IpPrefix.fromStr] at read
  split at read
  case h_1 => exact nomatch read
  case h_2 address bits split =>
    simp only [bind_eq_ok_iff, mapError_eq_ok_iff, parseAddress_eq_ok_iff] at read
    obtain ⟨found, parsed, value, number, _⟩ := read
    rw [(splitOnce_eq_some split).1, mem_append, mem_cons, not_or, not_or]
    refine ⟨fun member => ?_, by decide, fun member => ?_⟩
    · exact absurd (IpAddr.plain_of_parse parsed _ member) (by decide)
    · exact absurd (digits_of_parseUnsigned number _ member) (by decide)

theorem mem_of_unbracket (brackets : unbracket part = .ok inner) {c : Char} (member : c ∈ inner) :
    c ∈ part := by
  obtain ⟨_, rfl⟩ | ⟨before, after, rfl, _, rfl⟩ := unbracket_eq_ok brackets
  · exact member
  · simp only [mem_append, mem_cons] at member ⊢
    tauto

theorem exists_format_iff {text : String} (formatted : spec.format = .ok text) :
    (∃ text, spec.format = .ok text ∧ parsePortSpec text = .ok spec) ↔
      parsePortSpec text = .ok spec := by
  constructor
  · rintro ⟨other, same, read⟩
    rwa [Except.ok.inj (formatted.symm.trans same)]
  · exact fun read => ⟨text, formatted, read⟩

/-- A spec without a host address is read back, but for a colon in its hostname. -/
theorem round_trip_bare (valid : spec.validate = .ok ()) (noIp : spec.hostIp = none)
    (noPrefix : spec.hostPrefix = none) (signs : spec.hostname.toList.count '@' ≤ 1)
    (plain : spec.publishedPort = 0 → ':' ∉ spec.hostname.toList) :
    ∃ text, spec.format = .ok text ∧ parsePortSpec text = .ok spec := by
  obtain ⟨ingress, _⟩ | ⟨host, _⟩ := validate_eq_ok valid
  · exact ⟨_, format_ingress valid ingress, parse_ingressText valid ingress signs plain⟩
  · exact ⟨_, format_host valid host, parse_hostText_none valid host noIp noPrefix⟩

/-- A spec with a host part is read back unless the part is tangled. -/
theorem round_trip_host (valid : spec.validate = .ok ()) (mode : spec.mode = modeHost)
    (few : host.count '@' = 0) {start read : PortSpec} (parsed : parseHost start host = .ok read)
    (rest : spec = { read with protocol := spec.protocol }) :
    (∃ text, spec.format = .ok text ∧ parsePortSpec text = .ok spec) ↔
      ((splitOnce ']' host).any fun (_, after) => Tangled after) = false := by
  rw [exists_format_iff (format_host valid mode)]
  obtain ⟨inner, brackets, ⟨slash, range, found, rfl⟩ | ⟨slash, ip, found, rfl⟩⟩ :=
    parseHost_eq_ok_iff.mp parsed
  · have known : spec.hostPrefix = some range := by rw [rest]
    exact iff_of_true (parse_hostText_range valid mode known)
      (any_tangled_eq_false brackets (notMem_of_range found))
  · have known : spec.hostIp = some ip := by rw [rest]
    have within : ∀ {c}, c ∈ ip.zone → c ∈ inner := by
      intro c member
      obtain ⟨empty, _⟩ | ⟨front, rfl, _, _⟩ := ScopedIpAddr.fromStr_eq_ok found
      · rw [empty] at member
        exact absurd member not_mem_nil
      · exact mem_append_right _ (mem_cons_of_mem _ member)
    have zoned : ip.zone ≠ [] → isIpv6 ip.address = true := by
      intro some
      obtain ⟨empty, _⟩ | ⟨_, _, six, _⟩ := ScopedIpAddr.fromStr_eq_ok found
      · exact absurd empty some
      · exact six
    rw [any_tangled_eq brackets found]
    exact parse_hostText_ip valid mode known zoned (fun member => slash (within member))
      fun member => absurd (mem_of_unbracket brackets (within member)) (count_eq_zero.mp few)

/-- In ingress mode three parts are read back unless the first has a colon and the second is 0. -/
theorem round_trip_ingress (valid : spec.validate = .ok ()) (mode : spec.mode = modeIngress)
    (signs : spec.hostname.toList.count '@' ≤ 1) :
    (∃ text, spec.format = .ok text ∧ parsePortSpec text = .ok spec) ↔
      ¬ (':' ∈ spec.hostname.toList ∧ spec.publishedPort = 0) := by
  rw [exists_format_iff (format_ingress valid mode)]
  constructor
  · rintro parsed ⟨colon, zero⟩
    exact parse_ingressText_ne valid mode zero colon parsed
  · intro fine
    exact parse_ingressText valid mode signs fun zero colon => fine ⟨colon, zero⟩

end Parsed

/-- For every text that is parsed, the spec can be formatted, and its text is parsed as the same
spec just if the original text is not ambiguous. -/
theorem port_spec_round_trip {port : String} {spec : PortSpec}
    (parsed : parsePortSpec port = .ok spec) :
    (∃ text, spec.format = .ok text ∧ parsePortSpec text = .ok spec) ↔
      Ambiguous port = false := by
  obtain ⟨signs, terminal, container, read, ends, _, parts, named, valid⟩ :=
    parsePortSpec_eq_ok_iff.mp parsed
  have rest := hostnameProtocol_eq_ok named
  obtain plain | ⟨first, last, cut, plain, lastPlain⟩ |
      ⟨first, middle, last, cut, plain, lastPlain⟩ := exists_parts port.toList
  · have split := splitPortParts_one plain
    rw [split] at parts
    obtain rfl := Except.ok.inj parts
    refine iff_of_true (round_trip_bare valid ?_ ?_ ?_ ?_) (by rw [Ambiguous, split])
    all_goals rw [rest]
    · exact Nat.zero_le 1
    · exact fun _ => not_mem_nil
  · have split := splitPortParts_two plain lastPlain
    rw [← cut] at split
    rw [split] at parts
    refine iff_of_true ?_ (by rw [Ambiguous, split])
    have few : first.count '@' ≤ 1 := by
      rw [cut, count_append] at signs
      omega
    obtain ⟨value, rfl⟩ | rfl := parseParts_two parts
    · refine round_trip_bare valid ?_ ?_ ?_ ?_ <;> rw [rest]
      · exact Nat.zero_le 1
      · exact fun _ => not_mem_nil
    · refine round_trip_bare valid ?_ ?_ ?_ ?_ <;> rw [rest]
      · rwa [String.toList_ofList]
      · rw [String.toList_ofList]
        exact fun _ => plain
  · have split := splitPortParts_three first plain lastPlain
    rw [← cut] at split
    rw [split] at parts ends
    change parseTerminal last = .ok terminal at ends
    have fewer : first.count '@' + last.count '@' ≤ 1 := by
      simp only [cut, count_append, count_cons] at signs
      omega
    obtain ⟨value, published, ⟨host, here⟩ | ⟨other, rfl⟩⟩ := parseParts_three parts
    · obtain ⟨sign, _⟩ | ⟨_, ingress⟩ := parseTerminal_eq_ok ends
      swap
      · exact absurd (ingress.symm.trans host) (by decide)
      have few : first.count '@' = 0 := by
        have one := count_pos_iff.mpr sign
        omega
      have mode : spec.mode = modeHost := by
        obtain ⟨_, _, ⟨_, _, _, rfl⟩ | ⟨_, _, _, rfl⟩⟩ := parseHost_eq_ok_iff.mp here <;>
          · rw [rest]
            exact host
      have ambiguous : Ambiguous port =
          (splitOnce ']' first).any fun (_, after) => Tangled after := by
        simp only [Ambiguous, split, if_pos sign]
      rw [ambiguous]
      exact round_trip_host valid mode few here rest
    · obtain ⟨_, host⟩ | ⟨sign, ingress⟩ := parseTerminal_eq_ok ends
      · exact absurd host other
      have mode : spec.mode = modeIngress := by
        rw [rest]
        exact ingress
      have hostname : spec.hostname.toList = first := by rw [rest, String.toList_ofList]
      have zero : spec.publishedPort = value := by rw [rest]
      have ambiguous : Ambiguous port =
          (decide (':' ∈ first) && decide (parsePort middle = .ok 0)) := by
        simp only [Ambiguous, split, if_neg sign]
      rw [round_trip_ingress valid mode (by rw [hostname]; omega), hostname, zero, ambiguous,
        published]
      simp

namespace Sample

/-- `127.0.0.1:80:8080@host`. -/
def hostSpec : PortSpec where
  hostIp := some ⟨.v4 0x7f000001#32, []⟩
  publishedPort := 80
  containerPort := 8080
  protocol := "tcp"
  mode := "host"

/-- `a.b:80:0:8080`. -/
def colonSpec : PortSpec where
  hostname := "a.b:80"
  containerPort := 8080
  protocol := "https"
  mode := "ingress"

end Sample

open Sample

theorem port_spec_round_trip_sample :
    parsePortSpec "127.0.0.1:80:8080@host" = .ok hostSpec ∧
      Ambiguous "127.0.0.1:80:8080@host" = false ∧
      ∃ text, hostSpec.format = .ok text ∧ parsePortSpec text = .ok hostSpec := by
  have parsed : parsePortSpec "127.0.0.1:80:8080@host" = .ok hostSpec := by decide +kernel
  have plain : Ambiguous "127.0.0.1:80:8080@host" = false := by decide +kernel
  exact ⟨parsed, plain, (port_spec_round_trip parsed).mpr plain⟩

/-- A hostname with a colon and no published port loses its end to the published port. -/
theorem port_spec_misread :
    parsePortSpec "a.b:80:0:8080" = .ok colonSpec ∧
      colonSpec.format = .ok "a.b:80:8080/https" ∧
      parsePortSpec "a.b:80:8080/https" =
        .ok { colonSpec with hostname := "a.b", publishedPort := 80 } ∧
      { colonSpec with hostname := "a.b", publishedPort := 80 } ≠ colonSpec := by
  decide +kernel

end Ployz.Port
