import Ployz.Docker.Image
import Ployz.Verif.Port

/-!
# Which registry gets the credentials

The registry of a pulled image is derived twice: once for the name Docker is asked for, once for
the credentials that go along. The two agree, Docker Hub's two names taken as one, except for a
registry that is recognised by its upper case letters alone: the credentials are then those of
Docker Hub.
-/

namespace Ployz.Api

variable {rest : List Char}

theorem length_readOctets {count : Nat} {first : Bool} {input : List Char} {octets : List Nat}
    (read : readOctets count first input = some (octets, rest)) : octets.length = count := by
  induction count generalizing first input rest octets with
  | zero =>
    simp only [readOctets, Option.some.injEq, Prod.mk.injEq] at read
    rw [← read.1]
    rfl
  | succ count ih =>
    simp only [readOctets, Option.bind_eq_bind, Option.bind_eq_some_iff, Prod.exists,
      Option.some.injEq, Prod.mk.injEq] at read
    obtain ⟨octet, behind, _, others, left, later, same, _⟩ := read
    rw [← same, List.length_cons, ih later]

theorem readIpv4_eq_none_of_readIpv6 {input : List Char} {octets : List UInt8}
    (read : readIpv6 input = some (octets, rest)) : readIpv4 input = none := by
  cases embedded : readIpv4 input with
  | none => rfl
  | some front =>
    obtain ⟨quad, behind⟩ := front
    have four : quad.length = 4 := by
      simp only [readIpv4, Option.map_eq_some_iff, Prod.exists, Prod.mk.injEq] at embedded
      obtain ⟨numbers, _, found, same, _⟩ := embedded
      rw [← same, List.length_map, length_readOctets found]
    have groups : readGroups 8 true input = (segments quad, true, behind) := by
      simp only [readGroups, Nat.reduceLT, ↓reduceIte, readSeparated, embedded]
    have short : (segments quad).length ≠ 8 := by
      obtain ⟨a, b, c, d, rfl⟩ := List.length_eq_four.mp four
      simp [segments]
    simp [readIpv6, groups, short] at read

/-- An IPv6 address in a text: its characters, and the colon among them. -/
theorem plain_of_parseIpv6 {input : List Char} {bits : BitVec 128}
    (read : parseIpv6 input = some bits) : (∀ c ∈ input, Plain c) ∧ ':' ∈ input := by
  unfold parseIpv6 at read
  split at read
  · next octets found =>
    have ⟨used, whole, plain⟩ := takes_readIpv6 found
    rw [List.append_nil] at whole
    exact ⟨whole ▸ plain, colon_mem_of_readIpv6 (readIpv4_eq_none_of_readIpv6 found) found⟩
  · exact nomatch read

end Ployz.Api

namespace Ployz.Docker

open Api

/-- Docker Hub has two names. -/
def canonicalRegistry (registry : String) : String :=
  if registry = "index.docker.io" then "docker.io" else registry

def SameRegistry (left right : String) : Prop := canonicalRegistry left = canonicalRegistry right

/-- The registry of a normalised name. -/
def registryPart (name : String) : String :=
  String.ofList (((splitOnce '/' name.toList).map Prod.fst).getD name.toList)

/-- The registry that the OCI library takes from a name: its first component if that has a dot or
a colon or is `localhost`, and Docker Hub otherwise. -/
def ociRegistry (input : String) : String :=
  match splitOnce '/' input.toList with
  | some (first, _) =>
    if '.' ∈ first ∨ ':' ∈ first ∨ first = "localhost".toList then
      canonicalRegistry (String.ofList first)
    else "docker.io"
  | none => "docker.io"

/-- What is known of the OCI library. -/
def Libraries.Splits (libraries : Libraries) : Prop :=
  ∀ input reference, libraries.parse input = .ok reference → reference.registry = ociRegistry input

section Registry

variable {registry : List Char}

theorem registryPart_append (unbroken : '/' ∉ registry) (repository : String) :
    registryPart (String.ofList registry ++ "/" ++ repository) = String.ofList registry := by
  have whole : (String.ofList registry ++ "/" ++ repository).toList =
      registry ++ '/' :: repository.toList := by
    simp
  rw [registryPart, whole, splitOnce_append unbroken]
  rfl

variable {text : List Char}

theorem notMem_slash_of_plain (plain : ∀ c ∈ text, Plain c) : '/' ∉ text := by
  intro member
  have slash := plain '/' member
  revert slash
  decide

variable {input : String} {remainder : List Char}

theorem compatBracketed_eq_ok (found : compatBracketed input text = .ok (registry, remainder)) :
    splitOnce '/' ('[' :: text) = some (registry, remainder) ∧ ':' ∈ registry := by
  unfold compatBracketed at found
  split at found
  · exact nomatch found
  · next address behind bracketed =>
    split at found
    · exact nomatch found
    · next valid =>
      split at found
      · exact nomatch found
      · next suffix rest slashed =>
        split at found
        · exact nomatch found
        · have ⟨bits, read⟩ := Option.ne_none_iff_exists'.mp
            (show parseIpv6 address ≠ none from fun none => valid (by rw [none]; rfl))
          have ⟨plain, colon⟩ := plain_of_parseIpv6 read
          have ⟨closed, _⟩ := splitOnce_eq_some bracketed
          have ⟨cut, unbroken⟩ := splitOnce_eq_some slashed
          cases found
          have whole : '[' :: text = ('[' :: address ++ ']' :: suffix) ++ '/' :: remainder := by
            rw [closed, cut]
            simp
          have free : '/' ∉ '[' :: address ++ ']' :: suffix := by
            have inner := notMem_slash_of_plain plain
            simp [inner, unbroken]
          rw [whole]
          exact ⟨splitOnce_append free remainder, by simp [colon]⟩

theorem compatRegistry_some (found : compatRegistry input = .ok (some (registry, remainder))) :
    splitOnce '/' input.toList = some (registry, remainder) ∧
      ((input.toList.head? = some '[' ∧ ':' ∈ registry) ∨
        (input.toList.head? ≠ some '[' ∧ registry.any isAsciiUppercase = true)) := by
  unfold compatRegistry at found
  split at found
  · next text start =>
    rw [start]
    cases bracketed : compatBracketed input text with
    | error fault =>
      rw [bracketed] at found
      exact nomatch found
    | ok parts =>
      rw [bracketed] at found
      have same : parts = (registry, remainder) := Option.some.inj (Except.ok.inj found)
      rw [same] at bracketed
      have ⟨slashed, colon⟩ := compatBracketed_eq_ok bracketed
      exact ⟨slashed, .inl ⟨rfl, colon⟩⟩
  · next other =>
    have unbracketed : input.toList.head? ≠ some '[' := by
      intro start
      have ⟨text, whole⟩ := List.head?_eq_some_iff.mp start
      exact other text whole
    unfold compatUppercase at found
    split at found
    · exact nomatch found
    · next first rest slashed =>
      split at found
      · next upper =>
        split at found
        · exact nomatch found
        · cases found
          exact ⟨slashed, .inr ⟨unbracketed, upper⟩⟩
      · exact nomatch found

theorem compatRegistry_none (found : compatRegistry input = .ok none) {first : List Char}
    (slashed : splitOnce '/' input.toList = some (first, remainder)) :
    first.any isAsciiUppercase = false := by
  unfold compatRegistry at found
  split at found
  · next text start =>
    cases bracketed : compatBracketed input text with
    | error | ok =>
      rw [bracketed] at found
      exact nomatch found
  · unfold compatUppercase at found
    rw [slashed] at found
    by_cases upper : first.any isAsciiUppercase = true
    · simp only [upper, ↓reduceIte] at found
      split at found <;> exact nomatch found
    · exact Bool.eq_false_iff.mpr upper

/-- The name of an accepted image: the registry that stands in for the parsed one, or the one the
OCI library found. -/
theorem name_of_parse {libraries : Libraries} {image : String} {reference : ImageReference}
    (accepted : ImageReference.parse libraries image = .ok reference) :
    (∃ registry remainder repository, compatRegistry image = .ok (some (registry, remainder)) ∧
      reference.name = String.ofList registry ++ "/" ++ repository) ∨
    (∃ parsed, compatRegistry image = .ok none ∧ libraries.parse image = .ok parsed ∧
      reference.name = parsed.registry ++ "/" ++ parsed.repository) := by
  unfold ImageReference.parse at accepted
  split at accepted
  · exact nomatch accepted
  · have ⟨⟨parsed, standIn⟩, compatible, rest⟩ := bind_eq_ok_iff.mp accepted
    have ⟨_, _, rest⟩ := bind_eq_ok_iff.mp rest
    have ⟨_, _, made⟩ := bind_eq_ok_iff.mp rest
    have named : reference.name = standIn.getD parsed.registry ++ "/" ++ parsed.repository := by
      rw [← Except.ok.inj made]
    have ⟨choice, compat, chosen⟩ := bind_eq_ok_iff.mp compatible
    cases choice with
    | some parts =>
      have ⟨registry, remainder⟩ := parts
      have ⟨_, _, same⟩ := bind_eq_ok_iff.mp chosen
      cases same
      exact .inl ⟨registry, remainder, parsed.repository, compat, named⟩
    | none =>
      have ⟨found, read, same⟩ := bind_eq_ok_iff.mp chosen
      cases same
      have library : libraries.parse image = .ok parsed := Port.mapError_eq_ok_iff.mp read
      exact .inr ⟨parsed, compat, library, named⟩

theorem canonicalRegistry_idem (registry : String) :
    canonicalRegistry (canonicalRegistry registry) = canonicalRegistry registry := by
  unfold canonicalRegistry
  by_cases hub : registry = "index.docker.io"
  · simp [hub]
  · simp [hub]

theorem sameRegistry_ociRegistry (image : String) :
    SameRegistry (registryForImage image) (ociRegistry image) := by
  unfold SameRegistry registryForImage ociRegistry
  cases slashed : splitOnce '/' image.toList with
  | none => rfl
  | some parts =>
    have ⟨first, rest⟩ := parts
    by_cases registry : '.' ∈ first ∨ ':' ∈ first ∨ first = "localhost".toList
    · simp only [if_pos registry, canonicalRegistry_idem]
    · simp only [if_neg registry]
      rfl

theorem notMem_slash_ociRegistry (image : String) : '/' ∉ (ociRegistry image).toList := by
  have hub : '/' ∉ "docker.io".toList := by decide
  unfold ociRegistry
  split
  · next first rest slashed =>
    have ⟨_, unbroken⟩ := splitOnce_eq_some slashed
    split
    · unfold canonicalRegistry
      split
      · exact hub
      · rw [String.toList_ofList]
        exact unbroken
    · exact hub
  · exact hub

/-- A registry that only its upper case letters give away. -/
def Unrecognised (image : String) : Prop :=
  ∃ first remainder, splitOnce '/' image.toList = some (first, remainder) ∧
    image.toList.head? ≠ some '[' ∧ first.any isAsciiUppercase = true ∧ '.' ∉ first ∧ ':' ∉ first

variable {libraries : Libraries} (splits : libraries.Splits) {image : String}
  {reference : ImageReference} (accepted : ImageReference.parse libraries image = .ok reference)

include splits accepted in
theorem sameRegistry_of_recognised (recognised : ¬ Unrecognised image) :
    SameRegistry (registryForImage image) (registryPart reference.name) := by
  rcases name_of_parse accepted with
    ⟨registry, remainder, repository, compat, named⟩ | ⟨parsed, compat, read, named⟩
  · have ⟨slashed, kind⟩ := compatRegistry_some compat
    have ⟨_, unbroken⟩ := splitOnce_eq_some slashed
    have marked : '.' ∈ registry ∨ ':' ∈ registry := by
      rcases kind with ⟨_, colon⟩ | ⟨unbracketed, upper⟩
      · exact .inr colon
      · by_contra neither
        rw [not_or] at neither
        exact recognised ⟨registry, remainder, slashed, unbracketed, upper, neither⟩
    have looked : registryForImage image = String.ofList registry := by
      rw [registryForImage, slashed]
      exact if_pos (by tauto)
    rw [named, registryPart_append unbroken, looked]
    rfl
  · have found := splits image parsed read
    have part : registryPart reference.name = ociRegistry image := by
      rw [named, found, ← String.ofList_toList (s := ociRegistry image),
        registryPart_append (notMem_slash_ociRegistry image)]
    rw [part]
    exact sameRegistry_ociRegistry image

include accepted in
theorem registryPart_of_unrecognised (unrecognised : Unrecognised image) :
    (registryPart reference.name).toList.any isAsciiUppercase = true ∧
      registryForImage image = "index.docker.io" := by
  obtain ⟨first, remainder, slashed, unbracketed, upper, dot, colon⟩ := unrecognised
  obtain ⟨_, unbroken⟩ := splitOnce_eq_some slashed
  have other : first ≠ "localhost".toList := by
    rintro rfl
    exact absurd upper (by decide)
  constructor
  · rcases name_of_parse accepted with
      ⟨registry, remainder', repository, compat, named⟩ | ⟨parsed, compat, _⟩
    · obtain ⟨slashed', _⟩ := compatRegistry_some compat
      have same : (first, remainder) = (registry, remainder') :=
        Option.some.inj (slashed.symm.trans slashed')
      rw [Prod.mk.injEq] at same
      rw [named, ← same.1, registryPart_append unbroken, String.toList_ofList]
      exact upper
    · have lower := compatRegistry_none compat slashed
      rw [upper] at lower
      cases lower
  · rw [registryForImage, slashed]
    exact if_neg (by tauto)

end Registry

/-- The credentials that go with a pull are the ones stored for the registry of the name Docker is
asked for, whatever is stored. -/
def CredentialsMatch (libraries : Libraries) (image : String) (options : PullOptions) : Prop :=
  ∀ credentials failure request,
    pullImage libraries credentials failure image options = .ok request →
    ∃ registry name, ("fromImage", name) ∈ request.query ∧
      SameRegistry registry (registryPart name) ∧
      request.registryAuth = ((registryAuth credentials registry).toOption.join).getD ""

section Pull

variable {libraries : Libraries} {image : String} {options : PullOptions}
  {reference : ImageReference}

theorem pullImage_eq (implicit : options.registryAuth.filter (· ≠ "") = none)
    (accepted : ImageReference.parse libraries image = .ok reference)
    (credentials : CredentialStore) (failure : Option String) :
    pullImage libraries credentials failure image options =
      (resolveRegistryAuth credentials failure image).map fun auth =>
        ⟨pullQuery reference options, auth.getD ""⟩ := by
  simp only [pullImage, accepted, implicit, bind, Except.bind]
  cases resolveRegistryAuth credentials failure image <;> rfl

theorem eq_of_mem_pullQuery {name : String}
    (member : ("fromImage", name) ∈ pullQuery reference options) : name = reference.name := by
  simp only [pullQuery, List.cons_append, List.mem_cons, Prod.mk.injEq, true_and, List.mem_append,
    Option.mem_toList, Option.map_eq_some_iff] at member
  rcases member with same | ⟨_, _, tag, _⟩ | ⟨_, _, platform, _⟩
  · exact same
  · exact absurd tag (by decide)
  · exact absurd platform (by decide)

theorem credentialsMatch_of_sameRegistry
    (implicit : options.registryAuth.filter (· ≠ "") = none)
    (accepted : ImageReference.parse libraries image = .ok reference)
    (same : SameRegistry (registryForImage image) (registryPart reference.name)) :
    CredentialsMatch libraries image options := by
  intro credentials failure request pulled
  rw [pullImage_eq implicit accepted] at pulled
  cases failure with
  | some error => exact nomatch pulled
  | none =>
    cases pulled
    exact ⟨registryForImage image, reference.name, List.mem_cons_self, same, rfl⟩

/-- A user who is logged in to Docker Hub only. -/
def hubOnly : CredentialStore := fun registry =>
  if registry = "index.docker.io" then .ok (.identityToken "t")
  else .error .noCredentialConfigured

theorem ne_hub_of_sameRegistry {registry other : String}
    (upper : other.toList.any isAsciiUppercase = true) (same : SameRegistry registry other) :
    registry ≠ "index.docker.io" := by
  have lower : ∀ hub ∈ ["docker.io", "index.docker.io"], hub.toList.any isAsciiUppercase = false := by
    decide
  have legacy : other ≠ "index.docker.io" := by
    rintro rfl
    rw [lower _ (by simp)] at upper
    exact nomatch upper
  rintro rfl
  have hub : other = "docker.io" := by
    unfold SameRegistry canonicalRegistry at same
    rw [if_pos rfl, if_neg legacy] at same
    exact same.symm
  rw [hub, lower _ (by simp)] at upper
  exact nomatch upper

theorem not_credentialsMatch_of_unrecognised
    (implicit : options.registryAuth.filter (· ≠ "") = none)
    (accepted : ImageReference.parse libraries image = .ok reference)
    (unrecognised : Unrecognised image) : ¬ CredentialsMatch libraries image options := by
  intro matching
  have ⟨upper, looked⟩ := registryPart_of_unrecognised accepted unrecognised
  have attached : ((registryAuth hubOnly "index.docker.io").toOption.join).getD "" ≠ "" := by
    decide +kernel
  have pulled : pullImage libraries hubOnly none image options =
      .ok ⟨pullQuery reference options,
        ((registryAuth hubOnly "index.docker.io").toOption.join).getD ""⟩ := by
    rw [pullImage_eq implicit accepted, resolveRegistryAuth, retrieveLocalRegistryAuth, looked]
    rfl
  have ⟨registry, name, member, same, sent⟩ := matching hubOnly none _ pulled
  rw [eq_of_mem_pullQuery member] at same
  have other := ne_hub_of_sameRegistry upper same
  have nothing : ((registryAuth hubOnly registry).toOption.join).getD "" = "" := by
    simp [registryAuth, hubOnly, other, Except.toOption]
  rw [nothing] at sent
  exact attached sent

end Pull

/-- The credentials that go with a pull are those of the registry it asks, for every image that is
accepted and every pull without credentials of its own, exactly unless the first component of the
name has upper case letters and neither a dot nor a colon. -/
theorem pull_credentials_match_iff (libraries : Libraries) (splits : libraries.Splits)
    (image : String) (options : PullOptions)
    (implicit : options.registryAuth.filter (· ≠ "") = none) (reference : ImageReference)
    (accepted : ImageReference.parse libraries image = .ok reference) :
    CredentialsMatch libraries image options ↔
      ¬ ∃ first remainder, splitOnce '/' image.toList = some (first, remainder) ∧
        image.toList.head? ≠ some '[' ∧ first.any isAsciiUppercase = true ∧
        '.' ∉ first ∧ ':' ∉ first := by
  constructor
  · intro matching unrecognised
    exact not_credentialsMatch_of_unrecognised implicit accepted unrecognised matching
  · intro recognised
    exact credentialsMatch_of_sameRegistry implicit accepted
      (sameRegistry_of_recognised splits accepted recognised)

namespace Sample

/-- What is behind the registry of a name. -/
def behindRegistry (input : String) : List Char :=
  match splitOnce '/' input.toList with
  | some (first, rest) =>
    if '.' ∈ first ∨ ':' ∈ first ∨ first = "localhost".toList then rest else input.toList
  | none => input.toList

/-- A reader of names with a tag. -/
def parse (input : String) : Except String OciReference :=
  let (repository, tag) := (splitOnce ':' (behindRegistry input)).getD
    (behindRegistry input, "latest".toList)
  let space := if ociRegistry input = "docker.io" ∧ '/' ∉ repository then "library/" else ""
  .ok ⟨ociRegistry input, space ++ String.ofList repository, some (String.ofList tag), none⟩

def libraries : Libraries := ⟨parse, fun text => "\"" ++ text ++ "\""⟩

theorem libraries_splits : libraries.Splits := by
  intro input reference read
  rw [← Except.ok.inj read]

def options : PullOptions := ⟨false, none, none⟩

end Sample

open Sample

theorem pull_credentials_match_iff_sample :
    ImageReference.parse libraries "ghcr.io/acme/app:v1" =
      .ok ⟨"ghcr.io/acme/app", some "v1", none⟩ ∧
    CredentialsMatch libraries "ghcr.io/acme/app:v1" options := by
  have accepted : ImageReference.parse libraries "ghcr.io/acme/app:v1" =
      .ok ⟨"ghcr.io/acme/app", some "v1", none⟩ := by decide +kernel
  refine ⟨accepted, ?_⟩
  apply (pull_credentials_match_iff libraries libraries_splits _ options rfl _
    accepted).mpr
  rintro ⟨first, remainder, slashed, _, upper, _⟩
  have split : splitOnce '/' "ghcr.io/acme/app:v1".toList =
      some ("ghcr.io".toList, "acme/app:v1".toList) := by decide +kernel
  rw [split, Option.some.injEq, Prod.mk.injEq] at slashed
  rw [← slashed.1] at upper
  exact absurd upper (by decide)

/-- The registry `Foo` is asked with the credentials of Docker Hub. -/
theorem pull_credentials_mismatch :
    ImageReference.parse libraries "Foo/repo:tag" = .ok ⟨"Foo/repo", some "tag", none⟩ ∧
    registryForImage "Foo/repo:tag" = "index.docker.io" ∧
    ¬ CredentialsMatch libraries "Foo/repo:tag" options := by
  have accepted : ImageReference.parse libraries "Foo/repo:tag" =
      .ok ⟨"Foo/repo", some "tag", none⟩ := by decide +kernel
  have unrecognised : Unrecognised "Foo/repo:tag" :=
    ⟨"Foo".toList, "repo:tag".toList, by decide +kernel, by decide, by decide, by decide, by decide⟩
  exact ⟨accepted, by decide +kernel,
    not_credentialsMatch_of_unrecognised rfl accepted unrecognised⟩

end Ployz.Docker
