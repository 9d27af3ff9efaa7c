import Ployz.Cluster.Prefix

/-!
# Addresses and prefixes are read back from their text

The text of an address is a sequence of numerals, maybe with a `::`. The reader of groups stops
where the numerals stop, at the end of the text or at the `::`, and no part of the text of an IPv6
address but an embedded address reads as IPv4, since its first numeral is not followed by a dot.
-/

namespace Ployz.Api

open List

variable {octets : List UInt8}

section Parts

variable {rest : List Char} {separator : Char}

theorem stops_partsText (radix : Nat) (parts : List Nat) {stop : Char → Prop}
    (separates : stop separator) (ends : ∀ c ∈ rest.head?, stop c) :
    ∀ c ∈ (partsText separator radix false parts ++ rest).head?, stop c := by
  cases parts with
  | nil => exact ends
  | cons part parts =>
    intro c first
    have same : separator = c := by simpa [partsText] using first
    exact same ▸ separates

theorem readSeparated_partsText {radix limit maxDigits : Nat} {zeroFirst : Bool} (large : 1 < radix)
    (small : radix ≤ 16) (room : 0 < maxDigits) (limited : limit ≤ radix ^ maxDigits)
    (separates : toDigit radix separator = none) (first : Bool) {part : Nat} (below : part < limit)
    (parts : List Nat) (ends : ∀ c ∈ rest.head?, toDigit radix c = none) :
    readSeparated separator first (readNumber radix limit maxDigits zeroFirst)
        (partsText separator radix first (part :: parts) ++ rest) =
      some (part, partsText separator radix false parts ++ rest) := by
  have read := readNumber_toDigits large small zeroFirst room below (lt_of_lt_of_le below limited)
    (stops_partsText radix parts separates ends)
  cases first with
  | true => simpa [readSeparated, partsText] using read
  | false => simpa [readSeparated, partsText, readGiven] using read

theorem readOctets_partsText {octets : List Nat} (below : ∀ octet ∈ octets, octet < 256)
    (first : Bool) (ends : ∀ c ∈ rest.head?, toDigit 10 c = none) :
    readOctets octets.length first (partsText '.' 10 first octets ++ rest) =
      some (octets, rest) := by
  induction octets generalizing first with
  | nil => rfl
  | cons octet octets ih =>
    have here : octet < 256 := below octet mem_cons_self
    have later : ∀ other ∈ octets, other < 256 :=
      fun other member => below other (mem_cons_of_mem _ member)
    rw [length_cons, readOctets, readSeparated_partsText (by decide) (by decide) (by decide)
      (by decide) (by decide) first here octets ends]
    simp [ih later false]

theorem readIpv4_ipv4Text (four : octets.length = 4) (ends : ∀ c ∈ rest.head?, toDigit 10 c = none) :
    readIpv4 (ipv4Text octets ++ rest) = some (octets, rest) := by
  have below : ∀ octet ∈ octets.map UInt8.toNat, octet < 256 := by
    intro octet member
    obtain ⟨byte, _, rfl⟩ := mem_map.mp member
    exact byte.toNat_lt
  have read := readOctets_partsText below true ends
  have back : (UInt8.ofNat ∘ UInt8.toNat) = id := funext fun byte => UInt8.ofNat_toNat
  rw [length_map, four] at read
  simp only [readIpv4, ipv4Text, read, Option.map_some, map_map, back, map_id]

end Parts

variable {groups : List Nat}

section Groups

/-- What follows the numerals of the front or the back of an address. -/
def Closes (rest : List Char) : Prop := rest = [] ∨ ∃ more, rest = ':' :: ':' :: more

variable {rest : List Char}

theorem Closes.stops (closes : Closes rest) (radix : Nat) :
    ∀ c ∈ rest.head?, toDigit radix c = none := by
  have colon : digitValue ':' = none := by decide
  rcases closes with rfl | ⟨more, rfl⟩
  · simp
  · simp [toDigit, colon]

/-- A numeral that no dot follows does not start an IPv4 address. -/
theorem readIpv4_eq_none {digits : List Char} (plain : '.' ∉ digits)
    (stops : ∀ c ∈ rest.head?, toDigit 10 c = none ∧ c ≠ '.') :
    readIpv4 (digits ++ rest) = none := by
  have left : (digits ++ rest).dropWhile (fun c => (toDigit 10 c).isSome) = rest ∨
      ∃ c ∈ digits, ∃ more,
        (digits ++ rest).dropWhile (fun c => (toDigit 10 c).isSome) = c :: more := by
    rw [dropWhile_append]
    cases dropped : digits.dropWhile (fun c => (toDigit 10 c).isSome) with
    | nil =>
      left
      cases rest with
      | nil => rfl
      | cons c rest => simp [(stops c rfl).1]
    | cons c more =>
      right
      refine ⟨c, ?_, more ++ rest, rfl⟩
      apply (dropWhile_sublist _).subset
      rw [dropped]
      exact mem_cons_self
  have undotted : readGiven '.' ((digits ++ rest).dropWhile
      (fun c => (toDigit 10 c).isSome)) = none := by
    rcases left with same | ⟨c, member, more, same⟩
    · rw [same]
      cases rest with
      | nil => rfl
      | cons c rest => exact if_neg (stops c rfl).2
    · rw [same]
      refine if_neg fun dot => plain ?_
      rwa [← dot]
  rw [readIpv4, readOctets]
  cases read : readNumber 10 256 3 false (digits ++ rest) with
  | none => simp [readSeparated, read]
  | some pair =>
    -- whatever numeral was read, the next octet needs a dot
    have leftover : pair.2 = _ := rest_of_readNumber read
    rw [← leftover] at undotted
    simp [readSeparated, read, readOctets, undotted]

/-- Hexadecimal groups before a `::` or the end are no IPv4 address. -/
theorem readIpv4_partsText (groups : List Nat) (closes : Closes rest) :
    readIpv4 (partsText ':' 16 true groups ++ rest) = none := by
  have ends : ∀ c ∈ rest.head?, toDigit 10 c = none ∧ c ≠ '.' := by
    intro c first
    refine ⟨closes.stops 10 c first, ?_⟩
    rcases closes with rfl | ⟨more, rfl⟩
    · cases first
    · rw [← Option.some.inj first]
      decide
  cases groups with
  | nil => exact readIpv4_eq_none not_mem_nil ends
  | cons group groups =>
    have plain : '.' ∉ Nat.toDigits 16 group := by
      intro member
      obtain ⟨digit, below, same⟩ := exists_of_mem_toDigits (by decide) member
      have letters : ∀ digit < 16, '.' ≠ Nat.digitChar digit := by decide
      exact letters digit below same
    have separated : ∀ c ∈ (partsText ':' 16 false groups ++ rest).head?,
        toDigit 10 c = none ∧ c ≠ '.' := stops_partsText 16 groups (by decide) ends
    have text : partsText ':' 16 true (group :: groups) ++ rest =
        Nat.toDigits 16 group ++ (partsText ':' 16 false groups ++ rest) := by simp [partsText]
    rw [text]
    exact readIpv4_eq_none plain separated

/-- Groups are read as they were written, up to a `::` or the end. -/
theorem readGroups_partsText (below : ∀ group ∈ groups, group < 65536) {count : Nat}
    (room : groups.length ≤ count) (first : Bool) (closes : Closes rest) :
    readGroups count first (partsText ':' 16 first groups ++ rest) = (groups, false, rest) := by
  induction groups generalizing count first with
  | nil =>
    cases count with
    | zero => rfl
    | succ count =>
      -- what closes the groups starts neither a group nor an address
      have heads : ∀ c ∈ rest.head?, c = ':' := by
        rcases closes with rfl | ⟨more, rfl⟩ <;> simp
      have unread : ∀ {α : Type} (inner : List Char → Option (α × List Char)),
          (∀ input : List Char, (∀ c ∈ input.head?, c = ':') → inner input = none) →
            readSeparated ':' first inner rest = none := by
        intro α inner fails
        cases first with
        | true => exact fails rest heads
        | false =>
          rcases closes with rfl | ⟨more, rfl⟩
          · rfl
          · exact fails _ (by simp)
      have address : readSeparated ':' first readIpv4 rest = none := by
        refine unread readIpv4 fun input colons => ?_
        have none : readIpv4 ([] ++ input) = none := by
          refine readIpv4_eq_none not_mem_nil fun c head => ?_
          rw [colons c head]
          decide
        exact none
      have group : readSeparated ':' first (readNumber 16 65536 4 true) rest = none := by
        refine unread (readNumber 16 65536 4 true) fun input colons => ?_
        refine readNumber_eq_none fun c head => ?_
        rw [colons c head]
        decide
      simp [partsText, readGroups, address, group]
  | cons group groups ih =>
    obtain ⟨left, rfl⟩ : ∃ left, count = left + 1 := ⟨count - 1, by simp at room; omega⟩
    have here : group < 65536 := below group mem_cons_self
    have later := ih (fun other member => below other (mem_cons_of_mem _ member))
      (Nat.le_of_succ_le_succ room) false
    have address : readSeparated ':' first readIpv4
        (partsText ':' 16 first (group :: groups) ++ rest) = none := by
      have plain := readIpv4_partsText (group :: groups) closes
      cases first with
      | true => exact plain
      | false => simpa [readSeparated, partsText, readGiven] using plain
    have read : readSeparated ':' first (readNumber 16 65536 4 true)
        (partsText ':' 16 first (group :: groups) ++ rest) =
          some (group, partsText ':' 16 false groups ++ rest) :=
      readSeparated_partsText (by decide) (by decide) (by decide) (by decide) (by decide) first
        here groups (closes.stops 16)
    simp only [readGroups, address, ite_self, read, later]

end Groups

section Segments

theorem segments_lt : ∀ (octets : List UInt8), ∀ group ∈ segments octets, group < 65536
  | [], _, member => by cases member
  | [_], _, member => by cases member
  | high :: low :: octets, group, member => by
    rw [segments, mem_cons] at member
    rcases member with rfl | later
    · have upper := high.toNat_lt
      have lower := low.toNat_lt
      omega
    · exact segments_lt octets group later

theorem length_segments : ∀ octets : List UInt8, (segments octets).length = octets.length / 2
  | [] => rfl
  | [_] => by simp [segments]
  | _ :: _ :: octets => by
    rw [segments, length_cons, length_segments octets]
    simp only [length_cons]
    omega

theorem segmentOctets_segments : ∀ {octets : List UInt8}, octets.length % 2 = 0 →
    segmentOctets (segments octets) = octets
  | [], _ => rfl
  | [_], odd => by simp at odd
  | high :: low :: octets, even => by
    have rest : octets.length % 2 = 0 := by
      simp only [length_cons] at even
      omega
    have upper : (high.toNat * 256 + low.toNat) / 256 = high.toNat := by
      have below := low.toNat_lt
      omega
    have lower : (high.toNat * 256 + low.toNat) % 256 = low.toNat := by
      have below := low.toNat_lt
      omega
    have later := segmentOctets_segments rest
    unfold segmentOctets at later ⊢
    rw [segments, flatMap_cons, later, upper, lower, UInt8.ofNat_toNat, UInt8.ofNat_toNat]
    rfl

theorem segments_append : ∀ {front : List UInt8} (back : List UInt8), front.length % 2 = 0 →
    segments (front ++ back) = segments front ++ segments back
  | [], _, _ => rfl
  | [_], _, odd => by simp at odd
  | high :: low :: front, back, even => by
    have rest : front.length % 2 = 0 := by
      simp only [length_cons] at even
      omega
    simp only [cons_append, segments, segments_append back rest]

end Segments

section Zeroes

/-- The run consists of zero groups. -/
def ZeroRun (groups : List Nat) (span : Span) : Prop :=
  ∀ i, span.start ≤ i → i < span.start + span.len → groups[i]? = some 0

theorem ZeroRun.append {done : List Nat} {span : Span} (run : ZeroRun done span)
    (more : List Nat) : ZeroRun (done ++ more) span := by
  intro i above below
  have here := run i above below
  have inside : i < done.length := by
    by_contra outside
    rw [getElem?_eq_none (by omega)] at here
    cases here
  rw [getElem?_append_left inside]
  exact here

theorem zeroSpan_run {longest current : Span} (done groups : List Nat)
    (run : ZeroRun done longest) (last : ZeroRun done current)
    (ends : current.len = 0 ∨ current.start + current.len = done.length) :
    ZeroRun (done ++ groups) (zeroSpan longest current done.length groups) := by
  induction groups generalizing done longest current with
  | nil => simpa [zeroSpan] using run
  | cons group groups ih =>
    have moved : done ++ group :: groups = (done ++ [group]) ++ groups := by simp
    have index : done.length + 1 = (done ++ [group]).length := by simp
    rw [moved]
    cases group with
    | zero =>
      have grown : ZeroRun (done ++ [0])
          ⟨if current.len = 0 then done.length else current.start, current.len + 1⟩ := by
        intro i above below
        simp only at above below
        by_cases new : i = done.length
        · simp [new]
        · refine last.append [0] i ?_ ?_ <;> split_ifs at above below <;> omega
      rw [zeroSpan, index]
      refine ih (done ++ [0]) ?_ grown (.inr ?_)
      · by_cases longer : longest.len < current.len + 1
        · rw [if_pos longer]
          exact grown
        · rw [if_neg longer]
          exact run.append [0]
      · simp only [length_append, length_singleton]
        split_ifs <;> omega
    | succ previous =>
      rw [zeroSpan, index]
      · refine ih (done ++ [previous + 1]) (run.append _) ?_ (.inl rfl)
        intro i above below
        simp only at above below
        omega
      · simp

theorem ZeroRun.split {span : Span} (run : ZeroRun groups span) (some : 0 < span.len) :
    span.start + span.len ≤ groups.length ∧
      groups.take span.start ++ List.replicate span.len 0 ++
        groups.drop (span.start + span.len) = groups := by
  have bound : span.start + span.len ≤ groups.length := by
    have last := run (span.start + span.len - 1) (by omega) (by omega)
    by_contra outside
    rw [getElem?_eq_none (by omega)] at last
    cases last
  have zeros : (groups.drop span.start).take span.len = List.replicate span.len 0 := by
    apply ext_getElem?
    intro i
    by_cases inside : i < span.len
    · rw [getElem?_take_of_lt inside, getElem?_drop,
        run (span.start + i) (by omega) (by omega), getElem?_replicate_of_lt inside]
    · rw [getElem?_eq_none (by simp; omega), getElem?_eq_none (by simp; omega)]
  refine ⟨bound, ?_⟩
  rw [← zeros, append_assoc, ← drop_drop, take_append_drop, take_append_drop]

end Zeroes

section Addresses

theorem readIpv6_full (below : ∀ group ∈ groups, group < 65536) (eight : groups.length = 8) :
    readIpv6 (partsText ':' 16 true groups) = some (segmentOctets groups, []) := by
  have read := readGroups_partsText below (le_of_eq eight) true (.inl rfl : Closes [])
  rw [append_nil] at read
  simp only [readIpv6, read, eight, ↓reduceIte]

theorem readIpv6_shortened {front back : List Nat} (below : ∀ group ∈ front, group < 65536)
    (below' : ∀ group ∈ back, group < 65536) (short : front.length + back.length < 8) :
    readIpv6 (partsText ':' 16 true front ++ [':', ':'] ++ partsText ':' 16 true back) =
      some (segmentOctets (front ++ List.replicate (8 - front.length - back.length) 0 ++ back),
        []) := by
  have closes : Closes ([':', ':'] ++ partsText ':' 16 true back) := .inr ⟨_, rfl⟩
  have head : readGroups 8 true (partsText ':' 16 true front ++
      ([':', ':'] ++ partsText ':' 16 true back)) =
        (front, false, [':', ':'] ++ partsText ':' 16 true back) :=
    readGroups_partsText below (by omega) true closes
  have tail : readGroups (8 - (front.length + 1)) true (partsText ':' 16 true back ++ []) =
      (back, false, []) := readGroups_partsText below' (by omega) true (.inl rfl)
  have few : front.length ≠ 8 := by omega
  rw [append_nil] at tail
  rw [append_assoc]
  simp only [cons_append, nil_append] at head ⊢
  simp only [readIpv6, head, few, ↓reduceIte, Bool.false_eq_true, readGiven,
    Option.bind_eq_bind, Option.bind_some, tail]

theorem readIpv6_mapped (four : octets.length = 4) :
    readIpv6 ([':', ':', 'f', 'f', 'f', 'f', ':'] ++ ipv4Text octets) =
      some (segmentOctets ([0, 0, 0, 0, 0, 0xffff] ++ segments octets), []) := by
  have digits : Nat.toDigits 16 0xffff = ['f', 'f', 'f', 'f'] := by decide
  have head : readGroups 8 true (partsText ':' 16 true [] ++
      ([':', ':', 'f', 'f', 'f', 'f', ':'] ++ ipv4Text octets)) =
        ([], false, [':', ':', 'f', 'f', 'f', 'f', ':'] ++ ipv4Text octets) :=
    readGroups_partsText (by simp) (by simp) true (.inr ⟨_, rfl⟩)
  have address : readIpv4 (['f', 'f', 'f', 'f'] ++ ':' :: ipv4Text octets) = none :=
    readIpv4_eq_none (by decide) (by simp; decide)
  have group : readNumber 16 65536 4 true (Nat.toDigits 16 0xffff ++ ':' :: ipv4Text octets) =
      some (0xffff, ':' :: ipv4Text octets) :=
    readNumber_toDigits (by decide) (by decide) true (by decide) (by decide) (by decide)
      (by simp; decide)
  have embedded : readIpv4 (ipv4Text octets ++ []) = some (octets, []) :=
    readIpv4_ipv4Text four (by simp)
  have count : (segments octets).length = 2 := by rw [length_segments, four]
  rw [append_nil] at embedded
  rw [digits] at group
  rw [partsText, nil_append] at head
  have tail : readGroups 7 true (['f', 'f', 'f', 'f'] ++ ':' :: ipv4Text octets) =
      (0xffff :: segments octets, true, []) := by
    rw [readGroups]
    simp only [Nat.ofNat_pos, ↓reduceIte, readSeparated, address, group, readGroups, readGiven,
      Option.bind_some, embedded, Bool.false_eq_true]
  simp only [cons_append, nil_append] at head tail ⊢
  simp only [readIpv6, head, length_nil, OfNat.zero_ne_ofNat, ↓reduceIte,
    Bool.false_eq_true, readGiven, Option.bind_eq_bind, Option.bind_some, Nat.zero_add,
    Nat.reduceSub, tail, length_cons, count]
  rfl

/-- An IPv6 address is read back. -/
theorem readIpv6_ipv6Text (sixteen : octets.length = 16) :
    readIpv4 (ipv6Text octets) = none ∧ readIpv6 (ipv6Text octets) = some (octets, []) := by
  have below := segments_lt octets
  have eight : (segments octets).length = 8 := by rw [length_segments, sixteen]
  have back : segmentOctets (segments octets) = octets := segmentOctets_segments (by omega)
  unfold ipv6Text
  by_cases mapped : (segments octets).take 6 = [0, 0, 0, 0, 0, 0xffff]
  · have four : (octets.drop 12).length = 4 := by rw [length_drop, sixteen]
    have split : segments octets = segments (octets.take 12) ++ segments (octets.drop 12) := by
      rw [← segments_append _ (by simp [sixteen]), take_append_drop]
    have six : (segments (octets.take 12)).length = 6 := by simp [length_segments, sixteen]
    have whole : [0, 0, 0, 0, 0, 0xffff] ++ segments (octets.drop 12) = segments octets := by
      rw [← mapped, split, take_left' six]
    have unread : readIpv4 (partsText ':' 16 true [] ++
        ([':', ':', 'f', 'f', 'f', 'f', ':'] ++ ipv4Text (octets.drop 12))) = none :=
      readIpv4_partsText [] (.inr ⟨_, rfl⟩)
    have read := readIpv6_mapped four
    rw [whole, back] at read
    rw [if_pos mapped]
    exact ⟨unread, read⟩
  · rw [if_neg mapped]
    have run : ZeroRun (segments octets) (zeroSpan ⟨0, 0⟩ ⟨0, 0⟩ 0 (segments octets)) := by
      have none : ZeroRun [] ⟨0, 0⟩ := fun i above below => absurd below (by simp)
      exact zeroSpan_run [] (segments octets) none none (.inl rfl)
    generalize zeroSpan ⟨0, 0⟩ ⟨0, 0⟩ 0 (segments octets) = zeroes at run
    by_cases long : 1 < zeroes.len
    · obtain ⟨bound, whole⟩ := run.split (by omega)
      have front : ∀ group ∈ (segments octets).take zeroes.start, group < 65536 :=
        fun group member => below group (mem_of_mem_take member)
      have rear : ∀ group ∈ (segments octets).drop (zeroes.start + zeroes.len), group < 65536 :=
        fun group member => below group (mem_of_mem_drop member)
      have lengths : ((segments octets).take zeroes.start).length = zeroes.start ∧
          ((segments octets).drop (zeroes.start + zeroes.len)).length =
            8 - (zeroes.start + zeroes.len) := by
        rw [length_take, length_drop]
        omega
      have unread : readIpv4 (partsText ':' 16 true ((segments octets).take zeroes.start) ++
          ([':', ':'] ++
            partsText ':' 16 true ((segments octets).drop (zeroes.start + zeroes.len)))) = none :=
        readIpv4_partsText _ (.inr ⟨_, rfl⟩)
      have read := readIpv6_shortened front rear (by omega)
      have left : 8 - zeroes.start - (8 - (zeroes.start + zeroes.len)) = zeroes.len := by omega
      rw [lengths.1, lengths.2, left, whole, back] at read
      rw [← append_assoc] at unread
      simp only [if_pos long]
      exact ⟨unread, read⟩
    · have unread := readIpv4_partsText (segments octets) (.inl rfl : Closes [])
      have read := readIpv6_full below eight
      rw [append_nil] at unread
      rw [back] at read
      simp only [if_neg long]
      exact ⟨unread, read⟩

theorem IpAddr.parse_text (address : IpAddr) : IpAddr.parse address.text = some address := by
  cases address with
  | v4 bits =>
    have four : (octets (.v4 bits)).length = 4 := length_toBytes 4 _
    have read : readIpv4 (ipv4Text (octets (.v4 bits)) ++ []) =
        some (octets (.v4 bits), []) := readIpv4_ipv4Text four (by simp)
    rw [append_nil] at read
    simp only [IpAddr.parse, IpAddr.text, read, ↓reduceIte, ofOctets4_octets]
  | v6 bits =>
    have sixteen : (octets (.v6 bits)).length = 16 := length_toBytes 16 _
    obtain ⟨unread, read⟩ := readIpv6_ipv6Text sixteen
    simp only [IpAddr.parse, IpAddr.text, unread, read, ↓reduceIte, ofOctets16_octets]

end Addresses

end Ployz.Api

namespace Ployz.Cluster

open Api

theorem IpPrefix.fromStr_display (self : IpPrefix) : fromStr self.display = .ok self := by
  have digits : ∀ c ∈ Nat.toDigits 10 self.bits, c.isDigit = true := fun c member =>
    Nat.isDigit_of_mem_toDigits (by decide) (by decide) member
  have unslashed : '/' ∉ Nat.toDigits 10 self.bits := fun member =>
    absurd (digits '/' member) (by decide)
  have split := rsplitOnce_append self.address.text unslashed
  have plain : ¬ (Nat.toDigits 10 self.bits = [] ∨
      ¬ (Nat.toDigits 10 self.bits).all Char.isDigit ∨
      (1 < (Nat.toDigits 10 self.bits).length ∧
        (Nat.toDigits 10 self.bits).head? = some '0')) := by
    rintro (empty | strange | ⟨long, padded⟩)
    · exact Nat.toDigits_ne_nil empty
    · exact strange (List.all_eq_true.mpr digits)
    · rcases Nat.eq_zero_or_pos self.bits with zero | positive
      · rw [zero] at long
        exact absurd long (by decide)
      · exact head?_toDigits (by decide) positive padded
  have small : self.bits < 2 ^ 8 := by
    have width := bitLen_le self.address
    have fits := self.fits
    omega
  rw [fromStr, display, String.toList_ofList, split]
  simp only [if_neg plain, IpAddr.parse_text, digitsValue_toDigits (by decide : 1 < 10)
    (by decide) self.bits, if_pos small]
  exact dif_pos self.fits

end Ployz.Cluster
