import Ployz.Verif.Url

/-!
# Redirects

What the requests of one redirect chain carry, wherever the answers point to. A step lemma says
what a leg needs for its request to be careful, and that the leg to the next URL has it again
with that request among the earlier ones; the chain follows by induction on the requests left.
-/

namespace Ployz.Dns

open Uri List

/-- A URL whose host is the initial host, or a subdomain of it, whatever the case. -/
def Within (initial url : List Char) : Prop :=
  ∃ host, Uri.host url = some host ∧
    (host.map Char.toLower = initial.map Char.toLower ∨
      ∃ labels, host.map Char.toLower = labels ++ '.' :: initial.map Char.toLower)

/-- A step from a URL with encryption to one without. -/
def Downgrade (sent next : List Char) : Prop :=
  (Uri.scheme sent).map (List.map Char.toLower) = some "https".toList ∧
    (Uri.scheme next).map (List.map Char.toLower) = some "http".toList

/-- The `Authorization` header with a token. -/
def Header.IsBearer (self : Header) : Prop :=
  eqIgnoreAsciiCase self.name "Authorization" = true ∧ "Bearer ".toList <+: self.value.toList

def Header.IsReferer (self : Header) : Prop := eqIgnoreAsciiCase self.name "Referer" = true

/-- No body, and no headers about one. -/
def Bare (body : Option (List UInt8)) (headers : List Header) : Prop :=
  body = none ∧ ∀ header ∈ headers, isContent header.name = false

/-- What a request may carry after earlier ones. -/
structure Careful (initial : List Char) (earlier : List Request) (request : Request) : Prop where
  bearer : (∃ header ∈ request.headers, header.IsBearer) →
    ∀ sent ∈ earlier ++ [request], Within initial sent.url
  bare : (∃ sent ∈ earlier ++ [request], sent.method ≠ "POST") →
    Bare request.body request.headers
  referer : ∀ header ∈ request.headers, header.IsReferer →
    '#' ∉ header.value.toList ∧ Uri.userinfo header.value.toList = none
  downgrade : ∀ sent ∈ earlier.getLast?, Downgrade sent.url request.url →
    ∀ header ∈ request.headers, ¬header.IsReferer

variable {next : CompatibleUrl}

section Headers

variable {library : Library} {leg : Leg} {header : Header}

theorem sameOrSubdomain_iff {host initial : List Char} :
    sameOrSubdomain host initial = true ↔ host.map Char.toLower = initial ∨
      ∃ labels, host.map Char.toLower = labels ++ '.' :: initial := by
  simp only [sameOrSubdomain, Bool.or_eq_true, Bool.and_eq_true, decide_eq_true_eq,
    isSuffixOf_iff_suffix]
  apply or_congr_right
  constructor
  · intro ⟨⟨front, shape⟩, dot⟩
    rw [← shape, length_append, Nat.add_sub_cancel, take_left'] at dot
    · have ⟨labels, cut⟩ := getLast?_eq_some_iff.mp dot
      exact ⟨labels, by rw [← shape, cut, append_assoc]; rfl⟩
    · rfl
  · intro ⟨labels, shape⟩
    have cut : host.map Char.toLower = (labels ++ ['.']) ++ initial := by
      rw [shape, append_assoc]
      rfl
    rw [cut, length_append, Nat.add_sub_cancel, take_left' rfl]
    exact ⟨suffix_append _ _, getLast?_concat⟩

theorem isSensitive_of_isBearer (bearer : header.IsBearer) : isSensitive header.name = true := by
  have name : lowercase header.name = lowercase "Authorization" := of_decide_eq_true bearer.1
  rw [isSensitive, name]
  decide

/-- A header of a request comes from the leg, or has no token, no referer and nothing about a
body. -/
theorem mem_requestHeaders (member : header ∈ leg.requestHeaders library) :
    header ∈ leg.headers ∨
      ¬header.IsBearer ∧ ¬header.IsReferer ∧ isContent header.name = false := by
  have plain : ∀ name value, ¬(Header.mk name value).IsBearer →
      eqIgnoreAsciiCase name "Referer" = false → isContent name = false →
      ¬(Header.mk name value).IsBearer ∧ ¬(Header.mk name value).IsReferer ∧
        isContent (Header.mk name value).name = false := by
    intro name value bearer referer content
    exact ⟨bearer, Bool.eq_false_iff.mp referer, content⟩
  unfold Leg.requestHeaders at member
  rcases mem_append.mp member with first | last
  · rcases mem_append.mp first with carried | basic
    · exact .inl carried
    · right
      split at basic
      · exact nomatch basic
      · split at basic
        · exact nomatch basic
        · rw [mem_singleton.mp basic]
          apply plain _ _ _ (by decide) (by decide)
          -- `Basic` and `Bearer` differ in the second letter.
          intro ⟨_, rest, shape⟩
          rw [String.toList_append] at shape
          exact absurd (congrArg (·[1]?) shape) (by simp)
  · right
    simp only [mem_cons, not_mem_nil, or_false] at last
    rcases last with agent | encoding
    · rw [agent]
      exact plain _ _ (fun bearer => absurd bearer.1 (by decide)) (by decide) (by decide)
    · rw [encoding]
      exact plain _ _ (fun bearer => absurd bearer.1 (by decide)) (by decide) (by decide)

variable {status : UInt16}

theorem mem_rewrite (member : header ∈ (leg.rewrite status).headers) : header ∈ leg.headers := by
  unfold Leg.rewrite at member
  split at member
  · exact (mem_filter.mp member).1
  · exact member

theorem rewrite_url (status : UInt16) : (leg.rewrite status).url = leg.url := by
  unfold Leg.rewrite
  split <;> rfl

theorem rewrite_method (other : leg.method ≠ "POST") : (leg.rewrite status).method ≠ "POST" := by
  unfold Leg.rewrite
  rw [if_neg fun rewritten => other rewritten.2.2]
  exact other

theorem rewrite_bare (bare : leg.method ≠ "POST" → Bare leg.body leg.headers)
    (other : (leg.rewrite status).method ≠ "POST") :
    Bare (leg.rewrite status).body (leg.rewrite status).headers := by
  unfold Leg.rewrite at other ⊢
  split at other
  · rename_i rewritten
    rw [if_pos rewritten]
    refine ⟨rfl, ?_⟩
    intro header member
    simpa using (mem_filter.mp member).2
  · rename_i kept
    rw [if_neg kept]
    exact bare other

/-- A header of the next leg is carried, and then it is no referer and leads to the initial host
if it is sensitive, or it is the referer. -/
theorem mem_redirect {initialHost : List Char}
    (member : header ∈ (leg.redirect initialHost next).headers) :
    (header ∈ leg.headers ∧ ¬header.IsReferer ∧
        (isSensitive header.name = true → sameOrSubdomain next.host initialHost = true)) ∨
      (header = ⟨"Referer", String.ofList leg.url.referer⟩ ∧
        ¬(leg.url.scheme.map Char.toLower = "https".toList ∧
          next.scheme.map Char.toLower = "http".toList)) := by
  have carried : ∀ header ∈ (if sameOrSubdomain next.host initialHost then leg.headers
      else leg.headers.filter fun header => !isSensitive header.name).filter
        (fun header => !eqIgnoreAsciiCase header.name "referer"),
      header ∈ leg.headers ∧ ¬header.IsReferer ∧
        (isSensitive header.name = true → sameOrSubdomain next.host initialHost = true) := by
    intro header member
    have ⟨kept, name⟩ := mem_filter.mp member
    have other : ¬header.IsReferer := by
      intro referer
      have same : eqIgnoreAsciiCase header.name "referer" = true := referer
      simp [same] at name
    split at kept
    · rename_i same
      exact ⟨kept, other, fun _ => same⟩
    · have ⟨inside, plain⟩ := mem_filter.mp kept
      exact ⟨inside, other, fun sensitive => by simp [sensitive] at plain⟩
  unfold Leg.redirect at member
  simp only at member
  split at member
  · exact .inl (carried header member)
  · rename_i steady
    rcases mem_append.mp member with old | new
    · exact .inl (carried header old)
    · exact .inr ⟨mem_singleton.mp new, steady⟩

end Headers

/-- What a leg has after earlier requests. -/
structure Leg.Ready (library : Library) (initial : List Char) (earlier : List Request)
    (leg : Leg) : Prop where
  parsed : ∃ raw, CompatibleUrl.parse library raw = .ok leg.url
  credentials : (∃ header ∈ leg.headers, isSensitive header.name = true) →
    sameOrSubdomain leg.url.host (initial.map Char.toLower) = true ∧
      ∀ sent ∈ earlier, Within initial sent.url
  rewritten : (∃ sent ∈ earlier, sent.method ≠ "POST") → leg.method ≠ "POST"
  bare : leg.method ≠ "POST" → Bare leg.body leg.headers
  referer : ∀ header ∈ leg.headers, header.IsReferer →
    '#' ∉ header.value.toList ∧ Uri.userinfo header.value.toList = none
  downgrade : ∀ sent ∈ earlier.getLast?,
    (Uri.scheme sent.url).map (List.map Char.toLower) = some "https".toList →
    leg.url.scheme.map Char.toLower = "http".toList → ∀ header ∈ leg.headers, ¬header.IsReferer

namespace Leg.Ready

variable {library : Library} {initial : List Char} {earlier : List Request} {leg : Leg}
  {request : Request} (sent : leg.request library = .ok request)

include sent

theorem request_eq_ok :
    ∃ clean, leg.url.requestUri library = .ok clean ∧
      request = ⟨leg.method, clean, leg.requestHeaders library, leg.body⟩ := by
  have ⟨clean, cut, made⟩ := bind_eq_ok_iff.mp sent
  exact ⟨clean, cut, (Except.ok.inj made).symm⟩

variable (ready : leg.Ready library initial earlier)

include ready

/-- A leg with a sensitive header stays with the initial host, like the requests before it. -/
theorem within (conforms : library.Conforms) {header : Header} (member : header ∈ leg.headers)
    (sensitive : isSensitive header.name = true) :
    ∀ other ∈ earlier ++ [request], Within initial other.url := by
  have ⟨_, parsed⟩ := ready.parsed
  have ⟨clean, cut, shape⟩ := request_eq_ok sent
  have ⟨same, before⟩ := ready.credentials ⟨header, member, sensitive⟩
  intro other chained
  rcases mem_append.mp chained with old | new
  · exact before other old
  · rw [mem_singleton.mp new, shape]
    exact ⟨leg.url.host, (requested conforms parsed cut).host, sameOrSubdomain_iff.mp same⟩

theorem method_ne (rewritten : ∃ other ∈ earlier ++ [request], other.method ≠ "POST") :
    leg.method ≠ "POST" := by
  have ⟨clean, cut, shape⟩ := request_eq_ok sent
  have ⟨other, chained, method⟩ := rewritten
  rcases mem_append.mp chained with old | new
  · exact ready.rewritten ⟨other, old, method⟩
  · rw [mem_singleton.mp new, shape] at method
    exact method

theorem careful (conforms : library.Conforms) : Careful initial earlier request := by
  have ⟨_, parsed⟩ := ready.parsed
  have ⟨clean, cut, shape⟩ := request_eq_ok sent
  have known := requested conforms parsed cut
  have referers : ∀ header ∈ request.headers, header.IsReferer → header ∈ leg.headers := by
    intro header member referer
    rw [shape] at member
    exact (mem_requestHeaders member).resolve_right fun plain => plain.2.1 referer
  constructor
  case bearer =>
    intro ⟨header, member, bearer⟩
    rw [shape] at member
    have carried := (mem_requestHeaders member).resolve_right fun plain => plain.1 bearer
    exact ready.within sent conforms carried (isSensitive_of_isBearer bearer)
  case bare =>
    intro rewritten
    have bare := ready.bare (ready.method_ne sent rewritten)
    rw [shape]
    refine ⟨bare.1, ?_⟩
    intro header member
    cases mem_requestHeaders member with
    | inl carried => exact bare.2 header carried
    | inr plain => exact plain.2.2
  case referer =>
    intro header member referer
    exact ready.referer header (referers header member referer) referer
  case downgrade =>
    intro other last ⟨secure, open'⟩ header member referer
    have carried := referers header member referer
    rw [shape, known.scheme] at open'
    exact ready.downgrade other last secure (Option.some.inj open') header carried referer

/-- The leg to the next URL is ready again. -/
theorem redirect (conforms : library.Conforms) {reference : List Char}
    (resolved : leg.url.resolve library reference = .ok next) (status : UInt16) :
    ((leg.rewrite status).redirect (initial.map Char.toLower) next).Ready library initial
      (earlier ++ [request]) := by
  have ⟨_, parsed⟩ := ready.parsed
  have ⟨clean, cut, shape⟩ := request_eq_ok sent
  have known := requested conforms parsed cut
  constructor
  case parsed => exact exists_parse_of_resolve resolved
  case credentials =>
    intro ⟨header, member, sensitive⟩
    rcases mem_redirect member with ⟨kept, _, leads⟩ | ⟨referer, _⟩
    · exact ⟨leads sensitive, ready.within sent conforms (mem_rewrite kept) sensitive⟩
    · rw [referer] at sensitive
      have plain : isSensitive "Referer" = false := by decide
      exact absurd sensitive (Bool.eq_false_iff.mp plain)
  case rewritten =>
    intro rewritten
    exact rewrite_method (ready.method_ne sent rewritten)
  case bare =>
    intro method
    have bare := rewrite_bare ready.bare method
    refine ⟨bare.1, ?_⟩
    intro header member
    rcases mem_redirect member with ⟨kept, _, _⟩ | ⟨referer, _⟩
    · exact bare.2 header kept
    · have plain : isContent "Referer" = false := by decide
      rw [referer]
      exact plain
  case referer =>
    intro header member isReferer
    rcases mem_redirect member with ⟨_, other, _⟩ | ⟨referer, _⟩
    · exact absurd isReferer other
    · rw [referer, String.toList_ofList, rewrite_url, known.referer]
      exact ⟨known.sign, known.userinfo⟩
  case downgrade =>
    intro other last secure plain header member isReferer
    rcases mem_redirect member with ⟨_, other, _⟩ | ⟨_, steady⟩
    · exact other isReferer
    · apply steady
      rw [getLast?_concat] at last
      rw [← Option.some.inj last, shape, known.scheme] at secure
      rw [rewrite_url]
      exact ⟨Option.some.inj secure, plain⟩

end Leg.Ready

section Chain

variable {library : Library} {answers : Nat → Except TransportError Response}
  {initialHost : List Char} {leg : Leg} {left number : Nat}

/-- What one round of the loop sends: nothing, one request, or one request and then what the leg
to the next URL sends. -/
theorem followLoop_succ {trace : List Request}
    (sent : (followLoop library answers initialHost (left + 1) number leg).1 = trace) :
    trace = [] ∨ ∃ request, leg.request library = .ok request ∧ (trace = [request] ∨
      ∃ status reference next, leg.url.resolve library reference = .ok next ∧
        trace = request :: (followLoop library answers initialHost left (number + 1)
          ((leg.rewrite status).redirect initialHost next)).1) := by
  rw [followLoop] at sent
  split at sent
  · exact .inl sent.symm
  · rename_i request made
    refine .inr ⟨request, made, ?_⟩
    split at sent
    · exact .inl sent.symm
    · rename_i response _
      split at sent
      · exact .inl sent.symm
      · rename_i location _
        split at sent
        · exact .inl sent.symm
        · split at sent
          · exact .inl sent.symm
          · rename_i next resolved
            exact .inr ⟨response.status, location.toList, next, resolved, sent.symm⟩

theorem length_followLoop (left number : Nat) :
    (followLoop library answers initialHost left number leg).1.length ≤ left := by
  induction left generalizing number leg with
  | zero => exact Nat.le_refl 0
  | succ left ih =>
    rcases followLoop_succ rfl with none | ⟨request, _, one | ⟨status, _, next, _, more⟩⟩
    · rw [none]
      exact Nat.zero_le _
    · rw [one]
      exact Nat.le_add_left 1 left
    · rw [more, length_cons]
      exact Nat.succ_le_succ (ih _)

theorem request_of_head {first : Request}
    (head : first ∈ (followLoop library answers initialHost left number leg).1.head?) :
    leg.request library = .ok first := by
  cases left with
  | zero => exact nomatch head
  | succ left =>
    rcases followLoop_succ rfl with none | ⟨request, made, one | ⟨status, _, next, _, more⟩⟩
    · rw [none] at head
      exact nomatch head
    · rw [one] at head
      exact Option.some.inj head ▸ made
    · rw [more] at head
      exact Option.some.inj head ▸ made

theorem careful_of_followLoop (conforms : library.Conforms) {initial : List Char}
    {earlier before after : List Request} {request : Request}
    (ready : leg.Ready library initial earlier)
    (sent : (followLoop library answers (initial.map Char.toLower) left number leg).1 =
      before ++ request :: after) : Careful initial (earlier ++ before) request := by
  induction left generalizing number leg earlier before with
  | zero => exact absurd sent.symm (by simp [followLoop])
  | succ left ih =>
    rcases followLoop_succ sent with none | ⟨first, made, chain⟩
    · exact absurd none (by simp)
    · have step := ready.careful made conforms
      rcases chain with one | ⟨status, _, next, resolved, more⟩
      · cases before with
        | nil =>
          rw [(List.cons.inj one).1, append_nil]
          exact step
        | cons head before => exact absurd (List.cons.inj one).2 (by simp)
      · cases before with
        | nil =>
          rw [(List.cons.inj more).1, append_nil]
          exact step
        | cons head before =>
          have ⟨same, rest⟩ := List.cons.inj more
          have later := ih (ready.redirect made conforms resolved status) rest.symm
          rwa [← same, append_assoc] at later

end Chain

/-- The first leg of a request with a token. -/
def firstLeg (url : CompatibleUrl) (body : Option (List UInt8)) (token : String) : Leg :=
  ⟨url, "POST", body, ⟨"Content-Type", "application/json"⟩ ::
    if token = "" then [] else [⟨"Authorization", "Bearer " ++ token⟩]⟩

theorem post_eq (library : Library) (answers : Nat → Except TransportError Response)
    (url : CompatibleUrl) (body : Option (List UInt8)) (token : String) :
    post library answers url body token =
      followLoop library answers (url.host.map Char.toLower) 10 1 (firstLeg url body token) := by
  rw [post, follow, firstLeg]

variable {url : CompatibleUrl}

theorem ready_firstLeg {library : Library} {raw : List Char}
    (parsed : CompatibleUrl.parse library raw = .ok url) (body : Option (List UInt8))
    (token : String) : (firstLeg url body token).Ready library url.host [] := by
  constructor
  case parsed => exact ⟨raw, parsed⟩
  case credentials =>
    intro _
    exact ⟨sameOrSubdomain_iff.mpr (.inl rfl), fun sent member => nomatch member⟩
  case rewritten => exact fun ⟨sent, member, _⟩ => nomatch member
  case bare => exact fun other => absurd rfl other
  case referer =>
    intro header member referer
    have content : eqIgnoreAsciiCase "Content-Type" "Referer" = false := by decide
    have authorization : eqIgnoreAsciiCase "Authorization" "Referer" = false := by decide
    cases mem_cons.mp member with
    | inl first =>
      rw [first] at referer
      exact absurd referer (Bool.eq_false_iff.mp content)
    | inr second =>
      split at second
      · exact nomatch second
      · rw [mem_singleton.mp second] at referer
        exact absurd referer (Bool.eq_false_iff.mp authorization)
  case downgrade => exact fun sent last => nomatch last

/-- Redirects do not leak the token: wherever the answers point to, ten requests are sent at
most, and each of them is careful with regard to the ones before it and the host of the first. -/
theorem post_redirects_carefully {library : Library} (conforms : library.Conforms)
    {endpoint suffix : List Char} {url : CompatibleUrl}
    (parsed : CompatibleUrl.append library endpoint suffix = .ok url)
    (answers : Nat → Except TransportError Response) (body : Option (List UInt8))
    (token : String) :
    (post library answers url body token).1.length ≤ 10 ∧
      ∃ initial, (∀ first ∈ (post library answers url body token).1.head?,
          Uri.host first.url = some initial) ∧
        ∀ earlier request later,
          (post library answers url body token).1 = earlier ++ request :: later →
            Careful initial earlier request := by
  have ready := ready_firstLeg parsed body token
  rw [post_eq]
  refine ⟨length_followLoop 10 1, url.host, ?_, ?_⟩
  · intro first head
    have ⟨clean, cut, shape⟩ := Leg.Ready.request_eq_ok (request_of_head head)
    rw [shape]
    exact (requested conforms parsed cut).host
  · intro earlier request later sent
    exact careful_of_followLoop conforms ready sent

namespace Sample

/-- An authority whose host is closed by a bracket or followed by digits. -/
def closed (found : List Char) : Bool :=
  if (hostPort found).head? = some '[' then ']' ∈ hostPort found
  else ((hostPort found).dropWhile (· ≠ ':')).tail.all fun c => (toDigit 10 c).isSome

/-- Libraries that look at nothing but the authority and resolve absolute references. -/
def library : Library where
  iri text := if (authority text).all closed then .ok () else .error "Invalid port character"
  iriRef _ := .ok ()
  resolve _ reference := if (splitMark reference).isSome then .ok reference else .error "No scheme"
  uri text :=
    if '/' ∈ text ∧ text.head? ≠ some '/' → (authority text).isSome then .ok ()
    else .error "invalid format"
  debug text := String.ofList text
  lossy bytes := String.ofList (bytes.map fun byte => Char.ofNat byte.toNat)

theorem library_conforms : library.Conforms := by
  have accepted : ∀ text found, library.iri text = .ok () → authority text = some found →
      closed found = true := by
    intro text found checked there
    by_contra open'
    simp [library, there, open'] at checked
  constructor
  case bracket =>
    intro text found checked there start
    have shut := accepted text found checked there
    rw [closed, if_pos start] at shut
    exact of_decide_eq_true shut
  case port =>
    intro text found checked there start
    have shut := accepted text found checked there
    rw [closed, if_neg start] at shut
    exact all_eq_true.mp shut
  case absolute =>
    intro text checked slash start
    by_contra missing
    have refused : ¬('/' ∈ text ∧ text.head? ≠ some '/' → (authority text).isSome) :=
      fun there => missing (there ⟨slash, start⟩)
    simp only [library, if_neg refused] at checked
    exact nomatch checked

/-- A redirect to a subdomain and one away from the host, without encryption. -/
def answers : Nat → Except TransportError Response
  | 1 => .ok ⟨307, [⟨"location", "https://Eu.api.test/v2#part"⟩], []⟩
  | 2 => .ok ⟨302, [⟨"Location", "http://me@evil.test:80/api.test"⟩], []⟩
  | _ => .ok ⟨200, [], []⟩

def first : Request where
  method := "POST"
  url := "https://API.test:443/domains".toList
  headers := [⟨"Content-Type", "application/json"⟩, ⟨"Authorization", "Bearer secret"⟩,
    ⟨"User-Agent", "Go-http-client/1.1"⟩, ⟨"Accept-Encoding", "gzip"⟩]
  body := some [1]

def second : Request where
  method := "POST"
  url := "https://Eu.api.test/v2".toList
  headers := [⟨"Content-Type", "application/json"⟩, ⟨"Authorization", "Bearer secret"⟩,
    ⟨"Referer", "https://API.test:443/domains"⟩,
    ⟨"User-Agent", "Go-http-client/1.1"⟩, ⟨"Accept-Encoding", "gzip"⟩]
  body := some [1]

def third : Request where
  method := "GET"
  url := "http://evil.test:80/api.test".toList
  headers := [⟨"Authorization", "Basic bWU6"⟩, ⟨"User-Agent", "Go-http-client/1.1"⟩,
    ⟨"Accept-Encoding", "gzip"⟩]
  body := none

end Sample

open Sample

/-- The token goes along to the subdomain and not beyond. -/
theorem post_redirects_carefully_sample :
    (post library answers ⟨"https://API.test:443/domains".toList⟩ (some [1])
        "secret").1 = [first, second, third] ∧
      Careful "API.test".toList [first] second ∧
      Careful "API.test".toList [first, second] third := by
  have trace : (post library answers ⟨"https://API.test:443/domains".toList⟩
      (some [1]) "secret").1 = [first, second, third] := by decide +kernel
  have parsed : CompatibleUrl.append library "https://API.test:443".toList
      "domains".toList = .ok ⟨"https://API.test:443/domains".toList⟩ := by decide +kernel
  have ⟨_, initial, host, careful⟩ := post_redirects_carefully library_conforms parsed
    answers (some [1]) "secret"
  rw [trace] at host careful
  have same : initial = "API.test".toList := by
    have known : Uri.host first.url = some "API.test".toList := by decide +kernel
    exact Option.some.inj ((host first rfl).symm.trans known)
  rw [same] at careful
  exact ⟨trace, careful [first] second [third] rfl,
    careful [first, second] third [] rfl⟩

end Ployz.Dns
