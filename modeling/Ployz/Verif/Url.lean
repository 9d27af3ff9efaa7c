import Ployz.Dns.Client

/-!
# The host a request goes to

The client decides about credentials by the host it cuts out of a URL itself. For every URL that
parses and that a request is sent to, that host is the host of the requested URL by the reading
of RFC 3986; the requested URL has no user information and no fragment, and the referer of the
next request is that URL.
-/

namespace Ployz.Dns

open Uri List

/-- What is taken from the libraries: the IRI library accepts an authority only if its host is
closed by a bracket or followed by a port of digits, and the URI type accepts a text that holds
a slash, but does not start with one, only with an authority after its scheme. -/
structure Library.Conforms (library : Library) : Prop where
  bracket : ∀ text found, library.iri text = .ok () → authority text = some found →
    (hostPort found).head? = some '[' → ']' ∈ hostPort found
  port : ∀ text found, library.iri text = .ok () → authority text = some found →
    (hostPort found).head? ≠ some '[' →
      ∀ c ∈ ((hostPort found).dropWhile (· ≠ ':')).tail, (toDigit 10 c).isSome
  absolute : ∀ text, library.uri text = .ok () → '/' ∈ text → text.head? ≠ some '/' →
    (authority text).isSome

variable {text : List Char}

section Scheme

/-- The characters of a scheme. -/
def SchemeChar (c : Char) : Prop := c ∉ [':', '/', '?', '#']

/-- A text that starts with a scheme. -/
def Schemed (text : List Char) : Prop :=
  ∃ scheme, Uri.scheme text = some scheme ∧ scheme ≠ [] ∧ ∀ c ∈ scheme, SchemeChar c

theorem scheme_cons_colon {scheme : List Char} (clear : ':' ∉ scheme) (rest : List Char) :
    Uri.scheme (scheme ++ ':' :: rest) = some scheme := by
  rw [Uri.scheme, splitOnce_append clear]
  rfl

theorem Schemed.exists_eq (schemed : Schemed text) :
    ∃ scheme rest, text = scheme ++ ':' :: rest ∧ scheme ≠ [] ∧ ∀ c ∈ scheme, SchemeChar c := by
  have ⟨scheme, found, nonempty, clear⟩ := schemed
  have ⟨⟨before, after⟩, split, same⟩ := Option.map_eq_some_iff.mp found
  have shape := (splitOnce_eq_some split).1
  rw [show before = scheme from same] at shape
  exact ⟨scheme, after, shape, nonempty, clear⟩

theorem colon_notMem {scheme : List Char} (clear : ∀ c ∈ scheme, SchemeChar c) : ':' ∉ scheme := by
  intro member
  exact clear ':' member (by decide)

theorem Schemed.append (schemed : Schemed text) (more : List Char) : Schemed (text ++ more) := by
  have ⟨scheme, rest, shape, nonempty, clear⟩ := schemed.exists_eq
  refine ⟨scheme, ?_, nonempty, clear⟩
  rw [shape, append_assoc, cons_append]
  exact scheme_cons_colon (colon_notMem clear) _

theorem splitOnce_front {separator : Char} {front : List Char} (absent : separator ∉ front)
    (text : List Char) :
    splitOnce separator (front ++ text) =
      (splitOnce separator text).map fun (before, after) => (front ++ before, after) := by
  cases cut : splitOnce separator text with
  | none =>
    have later := notMem_of_splitOnce cut
    rw [splitOnce_eq_none fun member => (mem_append.mp member).elim absent later]
    rfl
  | some parts =>
    have ⟨before, after⟩ := parts
    have ⟨shape, clear⟩ := splitOnce_eq_some cut
    rw [shape, ← append_assoc, splitOnce_append fun member =>
      (mem_append.mp member).elim absent clear]
    rfl

theorem Schemed.before {separator : Char} (ends : separator ∈ ['/', '?', '#'])
    {before after : List Char} (schemed : Schemed text)
    (split : splitOnce separator text = some (before, after)) : Schemed before := by
  have ⟨scheme, rest, shape, nonempty, clear⟩ := schemed.exists_eq
  have absent : separator ∉ scheme ++ [':'] := by
    intro member
    cases mem_append.mp member with
    | inl inside => exact clear separator inside (mem_cons_of_mem _ ends)
    | inr colon =>
      rw [mem_singleton.mp colon] at ends
      exact absurd ends (by decide)
  have whole : text = (scheme ++ [':']) ++ rest := by simp [shape]
  rw [whole, splitOnce_front absent] at split
  have ⟨⟨front, back⟩, _, same⟩ := Option.map_eq_some_iff.mp split
  have first := (Prod.mk.inj same).1
  refine ⟨scheme, ?_, nonempty, clear⟩
  rw [← first, append_assoc]
  exact scheme_cons_colon (colon_notMem clear) _

theorem Schemed.marked {before after : List Char} (schemed : Schemed (marked before after))
    (other : List Char) : Schemed (Uri.marked before other) := by
  have ⟨scheme, found, nonempty, clear⟩ := schemed
  refine ⟨scheme, ?_, nonempty, clear⟩
  rw [← found]
  by_cases inside : ':' ∈ before
  · have ⟨front, back, shape, absent⟩ := eq_append_cons_of_mem inside
    have cut : ∀ rest, Uri.scheme (Uri.marked before rest) = some front := by
      intro rest
      rw [Uri.marked, shape, append_assoc, cons_append]
      exact scheme_cons_colon absent _
    rw [cut, cut]
  · rw [scheme_marked inside, scheme_marked inside]

end Scheme

section Parse

variable {library : Library}

/-- The text before a separator, or all of it. -/
def upTo (separator : Char) (text : List Char) : List Char :=
  match splitOnce separator text with
  | some (before, _) => before
  | none => text

theorem components_core (value : List Char) : (components value).1 = upTo '?' (upTo '#' value) := by
  unfold components upTo
  cases splitOnce '#' value with
  | none => cases cut : splitOnce '?' value <;> simp only [cut]
  | some parts => cases cut : splitOnce '?' parts.1 <;> simp only [cut]

theorem Schemed.upTo {separator : Char} (ends : separator ∈ ['/', '?', '#'])
    (schemed : Schemed text) : Schemed (Dns.upTo separator text) := by
  unfold Dns.upTo
  cases cut : splitOnce separator text with
  | none => exact schemed
  | some parts => exact schemed.before ends cut

theorem schemed_components {value : List Char} (schemed : Schemed value) :
    Schemed (components value).1 := by
  rw [components_core]
  exact (schemed.upTo (by decide)).upTo (by decide)

theorem schemed_escapePath {core : List Char} (schemed : Schemed core) :
    Schemed (escapePath core) := by
  unfold escapePath
  cases cut : splitMark core with
  | none => exact schemed
  | some parts =>
    rw [splitMark_eq_some cut] at schemed
    exact schemed.marked _

theorem schemed_dropEmptyPort {result : List Char} (schemed : Schemed result) :
    Schemed (dropEmptyPort result) := by
  unfold dropEmptyPort
  cases cut : splitMark result with
  | none => exact schemed
  | some parts =>
    have again := schemed
    rw [splitMark_eq_some cut] at again
    simp only
    split
    · exact again.marked _
    · exact schemed

theorem toLower_cases (c : Char) : c.toLower = c ∨ c.toLower.isAlpha = true := by
  unfold Char.toLower
  split
  · right
    rename_i upper
    simp [Char.isAlpha, Char.isLower, Char.isUpper] at *
    simp [UInt32.le_iff_toNat_le, UInt32.toNat_add] at *
    omega
  · exact .inl rfl

theorem schemeChar_of_isScheme {scheme : List Char} (accepted : isScheme scheme = true) :
    scheme.map Char.toLower ≠ [] ∧ ∀ c ∈ scheme.map Char.toLower, SchemeChar c := by
  have each : ∀ c ∈ scheme, c ∉ [':', '/', '?', '#'] := by
    cases scheme with
    | nil => exact nomatch accepted
    | cons first rest =>
      have ⟨alpha, others⟩ := Bool.and_eq_true_iff.mp accepted
      intro c member ending
      have allowed : (c.isAlphanum || c = '+' || c = '-' || c = '.') = true := by
        cases mem_cons.mp member with
        | inl same => rw [same, Char.isAlphanum, alpha]; rfl
        | inr later => exact all_eq_true.mp others c later
      simp only [mem_cons, not_mem_nil, or_false] at ending
      rcases ending with same | same | same | same <;> exact absurd (same ▸ allowed) (by decide)
  constructor
  · cases scheme with
    | nil => exact nomatch accepted
    | cons first rest => exact cons_ne_nil _ _
  · intro c member ending
    have ⟨source, inside, lowered⟩ := mem_map.mp member
    cases toLower_cases source with
    | inl same => exact each source inside (same ▸ lowered ▸ ending)
    | inr alpha =>
      rw [lowered] at alpha
      simp only [mem_cons, not_mem_nil, or_false] at ending
      rcases ending with same | same | same | same <;> exact absurd (same ▸ alpha) (by decide)

theorem schemed_escapeForGo {raw escaped : List Char}
    (done : escapeForGo library raw = .ok escaped) : Schemed escaped := by
  unfold escapeForGo at done
  split at done
  · exact nomatch done
  · rename_i scheme rest _
    split at done
    · exact nomatch done
    · rename_i rejected
      have accepted : isScheme scheme = true := by simpa using rejected
      have ⟨nonempty, clear⟩ := schemeChar_of_isScheme accepted
      have start : Schemed (scheme.map Char.toLower ++ ':' :: rest) :=
        ⟨_, scheme_cons_colon (colon_notMem clear) rest, nonempty, clear⟩
      have ⟨_, _, later⟩ := bind_eq_ok_iff.mp done
      have ⟨_, _, last⟩ := bind_eq_ok_iff.mp later
      have ⟨_, _, made⟩ := bind_eq_ok_iff.mp last
      rw [← Except.ok.inj made]
      apply schemed_dropEmptyPort
      unfold assemble
      exact ((schemed_escapePath (schemed_components start)).append _).append _

/-- What parsing gives: a text that starts with a scheme and whose core the library accepts. -/
theorem parse_eq_ok {raw : List Char} {url : CompatibleUrl}
    (parsed : CompatibleUrl.parse library raw = .ok url) :
    Schemed url.full ∧
      library.iri (url.full.takeWhile fun c => c ≠ '?' ∧ c ≠ '#') = .ok () := by
  have ⟨escaped, done, checked⟩ := bind_eq_ok_iff.mp parsed
  split at checked
  · exact nomatch checked
  · rename_i accepted
    rw [← Except.ok.inj checked]
    exact ⟨schemed_escapeForGo done, accepted⟩

end Parse

/-- A URL that a request is sent to, in its parts: the scheme, the authority, the path with the
query, and the fragment with its sign. -/
structure Parts (url : CompatibleUrl) (clean scheme found rest ending : List Char) : Prop where
  full : url.full = marked scheme (found ++ rest ++ ending)
  clean : clean = marked scheme (hostPort found ++ rest)
  colon : ':' ∉ scheme
  clear : ∀ c ∈ found, c ∉ authorityEnds
  stop : ∀ c ∈ rest.head?, c ∈ authorityEnds
  sign : '#' ∉ scheme ∧ '#' ∉ rest
  ending : ending = [] ∨ ∃ fragment, ending = '#' :: fragment

section Request

variable {library : Library} {url : CompatibleUrl} {clean : List Char}

theorem noFragment_spec (url : CompatibleUrl) :
    '#' ∉ url.noFragment ∧ ∃ ending, url.full = url.noFragment ++ ending ∧
      (ending = [] ∨ ∃ fragment, ending = '#' :: fragment) := by
  unfold CompatibleUrl.noFragment
  cases cut : splitOnce '#' url.full with
  | none => exact ⟨notMem_of_splitOnce cut, [], by simp, .inl rfl⟩
  | some parts =>
    have ⟨shape, absent⟩ := splitOnce_eq_some cut
    exact ⟨absent, '#' :: parts.2, shape, .inr ⟨parts.2, rfl⟩⟩

theorem requestUri_eq_ok (sent : url.requestUri library = .ok clean) :
    ∃ before after, splitMark url.noFragment = some (before, after) ∧
      clean = marked before (hostPort (after.takeWhile fun c => c ≠ '/' ∧ c ≠ '?') ++
        after.dropWhile fun c => c ≠ '/' ∧ c ≠ '?') ∧
      library.uri clean = .ok () := by
  unfold CompatibleUrl.requestUri at sent
  split at sent
  · exact nomatch sent
  · rename_i before after cut
    simp only at sent
    split at sent
    · exact nomatch sent
    · split at sent
      · exact nomatch sent
      · rename_i accepted
        have same := Except.ok.inj sent
        exact ⟨before, after, cut, same.symm, same ▸ accepted⟩

theorem exists_parts (conforms : library.Conforms) (schemed : Schemed url.full)
    (sent : url.requestUri library = .ok clean) :
    ∃ scheme found rest ending, Parts url clean scheme found rest ending := by
  obtain ⟨before, after, cut, shape, accepted⟩ := requestUri_eq_ok sent
  obtain ⟨unsigned, ending, whole, last⟩ := noFragment_spec url
  have text := splitMark_eq_some cut
  rw [text] at unsigned whole
  have signs : '#' ∉ before ∧ '#' ∉ after := by
    simp only [marked, mem_append, mem_cons, not_or] at unsigned
    exact ⟨unsigned.1, unsigned.2.2.2.2⟩
  have slash : '/' ∈ clean := by
    rw [shape, marked]
    simp
  have start : clean.head? ≠ some '/' := by
    obtain ⟨scheme, tail, form, nonempty, allowed⟩ := schemed.exists_eq
    rw [shape]
    cases before with
    | nil => rintro ⟨⟩
    | cons c before =>
      cases scheme with
      | nil => exact absurd rfl nonempty
      | cons d scheme =>
        have same : c = d := (List.cons.inj (whole.symm.trans form)).1
        intro first
        have slashed : d = '/' := same.symm.trans (Option.some.inj first)
        exact allowed d mem_cons_self (by rw [slashed]; decide)
  obtain ⟨host, there⟩ := Option.isSome_iff_exists.mp (conforms.absolute clean accepted slash start)
  have colon : ':' ∉ before := colon_notMem_of_splitMark cut (shape ▸ there)
  refine ⟨before, after.takeWhile fun c => c ≠ '/' ∧ c ≠ '?',
    after.dropWhile fun c => c ≠ '/' ∧ c ≠ '?', ending, ?_, shape, colon, ?_, ?_, ?_, last⟩
  · rw [takeWhile_append_dropWhile, whole, marked, marked]
    simp
  · intro c member
    have passed := mem_takeWhile_imp member
    have inner := of_decide_eq_true passed
    have unsigned : c ≠ '#' := by
      intro same
      exact signs.2 (same ▸ (takeWhile_sublist _).mem member)
    simp [authorityEnds, inner, unsigned]
  · intro c first
    have outer := head?_dropWhile_not (fun c => decide (c ≠ '/' ∧ c ≠ '?')) after
    rw [Option.mem_def.mp first] at outer
    simp only [decide_eq_false_iff_not] at outer
    simp only [authorityEnds, mem_cons, not_mem_nil, or_false]
    tauto
  · exact ⟨signs.1, fun member => signs.2 ((dropWhile_sublist _).mem member)⟩

/-- A port of digits ends at the first colon. -/
theorem cutPort_eq {hostport : List Char}
    (port : ∀ c ∈ (hostport.dropWhile (· ≠ ':')).tail, (toDigit 10 c).isSome) :
    CompatibleUrl.cutPort hostport = hostport.takeWhile (· ≠ ':') := by
  unfold CompatibleUrl.cutPort
  by_cases present : ':' ∈ hostport
  · have ⟨host, digits, shape, absent⟩ := eq_append_cons_of_mem present
    have ⟨before, after⟩ := cut_at absent digits
    rw [shape, after, tail_cons] at port
    have single : ':' ∉ digits := by
      intro again
      exact absurd (port ':' again) (by decide)
    rw [shape, before, rsplitOnce_append host single]
    exact if_pos (all_eq_true.mpr port)
  · rw [rsplitOnce_eq_none present]
    symm
    apply takeWhile_eq_self_iff.mpr
    intro c member
    exact decide_eq_true fun same => present (same ▸ member)

/-- The client cuts the host of a well-formed authority as RFC 3986 does. -/
theorem cutHost_eq {hostport : List Char} (bracket : hostport.head? = some '[' → ']' ∈ hostport)
    (port : hostport.head? ≠ some '[' →
      ∀ c ∈ (hostport.dropWhile (· ≠ ':')).tail, (toDigit 10 c).isSome) :
    CompatibleUrl.cutHost hostport = hostName hostport := by
  unfold CompatibleUrl.cutHost
  by_cases open' : hostport.head? = some '['
  · have ⟨front, back, shape, absent⟩ := eq_append_cons_of_mem (bracket open')
    rw [if_pos open']
    cases front with
    | nil =>
      rw [shape] at open'
      exact absurd open' (by simp)
    | cons first inner =>
      have same : first = '[' := by
        rw [shape] at open'
        exact Option.some.inj open'
      have clear : ']' ∉ inner := fun member => absent (mem_cons_of_mem _ member)
      rw [shape, splitOnce_append absent, same]
      exact (cut_at clear back).1.symm
  · rw [if_neg open', cutPort_eq (port open')]
    unfold hostName
    split
    · exact absurd rfl open'
    · rfl

namespace Parts

variable {scheme found rest ending : List Char} (parts : Parts url clean scheme found rest ending)
include parts

theorem stop_ending : ∀ c ∈ (rest ++ ending).head?, c ∈ authorityEnds := by
  intro c first
  cases rest with
  | cons d rest => exact parts.stop c first
  | nil =>
    rcases parts.ending with none | ⟨fragment, shape⟩
    · rw [none] at first
      exact nomatch first
    · rw [shape] at first
      rw [← Option.some.inj first]
      decide

/-- The authority is cut out alike with and without the fragment. -/
theorem takeWhile_full :
    (found ++ rest ++ ending).takeWhile (· ∉ authorityEnds) = found := by
  rw [append_assoc]
  exact takeWhile_append_of parts.clear parts.stop_ending

theorem splitMark_full : splitMark url.full = some (scheme, found ++ rest ++ ending) := by
  rw [parts.full, splitMark_marked parts.colon]

theorem authority_clean : authority clean = some (hostPort found) := by
  have ⟨_, front, shape⟩ := hostPort_spec found
  have clear : ∀ c ∈ hostPort found, c ∉ authorityEnds := by
    intro c member
    apply parts.clear c
    rw [shape]
    exact mem_append_right _ member
  rw [parts.clean, authority_marked parts.colon, takeWhile_append_of clear parts.stop]

theorem host_clean : Uri.host clean = some (hostName (hostPort found)) := by
  rw [Uri.host, parts.authority_clean, Option.map_some,
    hostPort_of_notMem (hostPort_spec found).1]

theorem userinfo_clean : Uri.userinfo clean = none := by
  rw [Uri.userinfo, parts.authority_clean, Option.bind_some,
    rsplitOnce_eq_none (hostPort_spec found).1]
  rfl

theorem scheme_clean : Uri.scheme clean = some url.scheme := by
  rw [parts.clean, scheme_marked parts.colon, CompatibleUrl.scheme, parts.full, marked,
    splitOnce_append parts.colon]

theorem sign_notMem_clean : '#' ∉ clean := by
  have ⟨_, front, shape⟩ := hostPort_spec found
  have host : '#' ∉ hostPort found := by
    intro member
    apply parts.clear '#' _ (by decide)
    rw [shape]
    exact mem_append_right _ member
  rw [parts.clean, marked]
  simp [parts.sign.1, parts.sign.2, host]

/-- Without the user information the URL is the requested one with the fragment. -/
theorem withoutUserinfo_eq : url.withoutUserinfo = clean ++ ending := by
  have rest : (found ++ rest ++ ending).dropWhile (· ∉ authorityEnds) = rest ++ ending := by
    have whole : (found ++ rest ++ ending).takeWhile (· ∉ authorityEnds) ++
        (found ++ rest ++ ending).dropWhile (· ∉ authorityEnds) = found ++ (rest ++ ending) := by
      rw [takeWhile_append_dropWhile, append_assoc]
    rw [parts.takeWhile_full] at whole
    exact append_cancel_left whole
  unfold CompatibleUrl.withoutUserinfo
  rw [parts.splitMark_full]
  simp only [parts.takeWhile_full, rest]
  rw [parts.clean, parts.full]
  cases rsplitOnce_cases '@' found with
  | inl cut =>
    have ⟨before, after, split, _, _⟩ := cut
    simp [split, hostPort, marked]
  | inr none => simp [none.1, hostPort, marked]

theorem referer_eq : url.referer = clean := by
  rw [CompatibleUrl.referer, parts.withoutUserinfo_eq]
  rcases parts.ending with none | ⟨fragment, shape⟩
  · rw [none, append_nil, splitOnce_eq_none parts.sign_notMem_clean]
  · rw [shape, splitOnce_append parts.sign_notMem_clean]

theorem authority_core (schemed : Schemed url.full) :
    authority (url.full.takeWhile fun c => c ≠ '?' ∧ c ≠ '#') = some found := by
  have ⟨other, tail, form, _, allowed⟩ := schemed.exists_eq
  have same : other = scheme := by
    have cut := splitOnce_append (colon_notMem allowed) tail
    rw [← form, parts.full, marked, splitOnce_append parts.colon] at cut
    exact (Prod.mk.inj (Option.some.inj cut)).1.symm
  have passes : ∀ c ∈ scheme ++ ':' :: '/' :: '/' :: found,
      decide (c ≠ '?' ∧ c ≠ '#') = true := by
    intro c member
    apply decide_eq_true
    cases mem_append.mp member with
    | inl inside =>
      have fine := allowed c (same ▸ inside)
      simp only [SchemeChar, mem_cons, not_mem_nil, or_false, not_or] at fine
      exact ⟨fine.2.2.1, fine.2.2.2⟩
    | inr later =>
      simp only [mem_cons] at later
      rcases later with first | second | third | inside
      · exact ⟨by rw [first]; decide, by rw [first]; decide⟩
      · exact ⟨by rw [second]; decide, by rw [second]; decide⟩
      · exact ⟨by rw [third]; decide, by rw [third]; decide⟩
      · have fine := parts.clear c inside
        simp only [authorityEnds, mem_cons, not_mem_nil, or_false, not_or] at fine
        exact ⟨fine.2.1, fine.2.2⟩
  have shape : url.full = (scheme ++ ':' :: '/' :: '/' :: found) ++ (rest ++ ending) := by
    rw [parts.full, marked]
    simp
  have core : url.full.takeWhile (fun c => c ≠ '?' ∧ c ≠ '#') = marked scheme (found ++
      (rest ++ ending).takeWhile fun c => c ≠ '?' ∧ c ≠ '#') := by
    rw [shape, takeWhile_append_of_pos passes, marked]
    simp
  rw [core, authority_marked parts.colon, takeWhile_append_of parts.clear]
  intro c first
  rw [head?_takeWhile, Option.mem_def, Option.filter_eq_some_iff] at first
  exact parts.stop_ending c first.1

theorem host_eq (conforms : library.Conforms) (schemed : Schemed url.full)
    (checked : library.iri (url.full.takeWhile fun c => c ≠ '?' ∧ c ≠ '#') = .ok ()) :
    url.host = hostName (hostPort found) := by
  have there := parts.authority_core schemed
  have hostport : hostPort (url.afterMark.takeWhile (· ∉ authorityEnds)) = hostPort found := by
    rw [CompatibleUrl.afterMark, parts.splitMark_full]
    simp only [parts.takeWhile_full]
  have bracket := conforms.bracket _ _ checked there
  have port := conforms.port _ _ checked there
  unfold CompatibleUrl.host
  rw [hostport]
  exact cutHost_eq bracket port

end Parts

/-- The URL of a request, as the client knows it. -/
structure Requested (url : CompatibleUrl) (clean : List Char) : Prop where
  host : Uri.host clean = some url.host
  scheme : Uri.scheme clean = some url.scheme
  userinfo : Uri.userinfo clean = none
  sign : '#' ∉ clean
  referer : url.referer = clean

theorem requested (conforms : library.Conforms) {raw : List Char}
    (parsed : CompatibleUrl.parse library raw = .ok url)
    (sent : url.requestUri library = .ok clean) : Requested url clean := by
  have ⟨schemed, checked⟩ := parse_eq_ok parsed
  have ⟨_, _, _, _, parts⟩ := exists_parts conforms schemed sent
  have host : Uri.host clean = some url.host := by
    rw [parts.host_clean, parts.host_eq conforms schemed checked]
  exact ⟨host, parts.scheme_clean, parts.userinfo_clean, parts.sign_notMem_clean,
    parts.referer_eq⟩

theorem exists_parse_of_resolve {reference : List Char} {next : CompatibleUrl}
    (resolved : url.resolve library reference = .ok next) :
    ∃ raw, CompatibleUrl.parse library raw = .ok next := by
  obtain ⟨_, _, later⟩ := bind_eq_ok_iff.mp resolved
  simp only at later
  split at later <;> obtain ⟨_, _, merged⟩ := bind_eq_ok_iff.mp later
  all_goals
    rw [pure_bind] at merged
    split at merged
    · cases merged
    · rename_i parsed
      exact ⟨_, Except.ok.inj merged ▸ parsed⟩

end Request

end Ployz.Dns
