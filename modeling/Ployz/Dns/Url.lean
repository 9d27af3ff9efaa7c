import Ployz.Base.Base64
import Ployz.Base.Exec
import Ployz.Base.Uri

/-!
# The URLs of the DNS client

The client keeps a URL as a text and cuts it by hand: the request is sent to the text without
user information and fragment, and the host that decides about credentials is cut from the same
text. The IRI library, which checks and resolves, and the URI type of the HTTP library are
parameters, as are the debug form of a text and the lossy reading of bytes.
-/

namespace Ployz.Dns

open Uri

/-- The code the client calls, each with the text of its error. -/
structure Library where
  /-- `Iri::parse`. -/
  iri : List Char → Except String Unit
  /-- `IriRef::parse`. -/
  iriRef : List Char → Except String Unit
  /-- `Iri::resolve`. -/
  resolve : List Char → List Char → Except String (List Char)
  /-- `parse::<http::Uri>`. -/
  uri : List Char → Except String Unit
  debug : List Char → String
  /-- `String::from_utf8_lossy`. -/
  lossy : List UInt8 → String

/-- `Error`, as far as requests are concerned. -/
inductive Error where
  | invalidUrl (message : String)
  | transport (message : String)
  | readResponse (message : String)
  | tooManyRedirects
  | invalidRedirect (message : String)
deriving DecidableEq

/-- `Display for Error`. -/
def Error.display : Error → String
  | invalidUrl message => message
  | transport message => message
  | readResponse message => "read response body: " ++ message
  | tooManyRedirects => "stopped after 10 redirects"
  | invalidRedirect message => "failed to parse Location header: " ++ message

section Text

/-- `components`: the core, the query and the fragment. -/
def components (value : List Char) : List Char × Option (List Char) × Option (List Char) :=
  let (beforeFragment, fragment) :=
    match splitOnce '#' value with
    | some (head, tail) => (head, some tail)
    | none => (value, none)
  match splitOnce '?' beforeFragment with
  | some (head, tail) => (head, some tail, fragment)
  | none => (beforeFragment, none, fragment)

def assemble (core : List Char) (query fragment : Option (List Char)) : List Char :=
  core ++ (match query with
    | some query => '?' :: query
    | none => []) ++
    match fragment with
    | some fragment => '#' :: fragment
    | none => []

def isHexDigit (c : Char) : Bool := (toDigit 16 c).isSome

def validatePercent (library : Library) (raw : List Char) : List Char → Except Error Unit
  | [] => .ok ()
  | '%' :: first :: second :: rest =>
    if isHexDigit first && isHexDigit second then validatePercent library raw rest
    else .error (.invalidUrl ("parse " ++ library.debug raw ++ ": invalid URL escape"))
  | '%' :: _ => .error (.invalidUrl ("parse " ++ library.debug raw ++ ": invalid URL escape"))
  | _ :: rest => validatePercent library raw rest

/-- `format!("%{byte:02X}")`. -/
def escapeByte (byte : UInt8) : List Char :=
  ['%', (Nat.digitChar (byte.toNat / 16)).toUpper, (Nat.digitChar (byte.toNat % 16)).toUpper]

def percentEscape (value : List Char) : List Char :=
  value.flatMap fun c =>
    if c = ' ' ∨ c = '\\' ∨ 128 ≤ c.toNat then
      (String.singleton c).toUTF8.data.toList.flatMap escapeByte
    else [c]

def hexValue (byte : UInt8) : UInt8 :=
  if 48 ≤ byte ∧ byte ≤ 57 then byte - 48
  else if 97 ≤ byte ∧ byte ≤ 102 then byte - 97 + 10
  else if 65 ≤ byte ∧ byte ≤ 70 then byte - 65 + 10
  else 0

/-- `percent_decode`, up to the reading of the bytes. -/
def percentDecode : List UInt8 → List UInt8
  | byte :: first :: second :: rest =>
    if byte = 37 then ((hexValue first <<< 4) ||| hexValue second) :: percentDecode rest
    else byte :: percentDecode (first :: second :: rest)
  | bytes => bytes

def validateHost (library : Library) (raw core : List Char) : Except Error Unit :=
  match splitMark core with
  | none => .ok ()
  | some (_, after) =>
    let host := hostPort (after.takeWhile (· ≠ '/'))
    if host.head? ≠ some '[' ∧ '%' ∈ host then
      .error (.invalidUrl ("parse " ++ library.debug raw ++ ": invalid URL escape in host"))
    else .ok ()

/-- The scheme that `escape_for_go` accepts. -/
def isScheme : List Char → Bool
  | [] => false
  | first :: rest =>
    first.isAlpha && rest.all fun c => c.isAlphanum || c = '+' || c = '-' || c = '.'

/-- The end of `escape_for_go`: a colon without a port is dropped. -/
def dropEmptyPort (result : List Char) : List Char :=
  match splitMark result with
  | none => result
  | some (before, after) =>
    let authority := after.takeWhile (· ∉ authorityEnds)
    let rest := after.dropWhile (· ∉ authorityEnds)
    if authority.getLast? = some ':' then marked before (authority.dropLast ++ rest) else result

/-- The path of a core is escaped, what comes before it is not. -/
def escapePath (core : List Char) : List Char :=
  match splitMark core with
  | none => core
  | some (before, after) =>
    marked before (after.takeWhile (· ≠ '/') ++ percentEscape (after.dropWhile (· ≠ '/')))

def escapeForGo (library : Library) (raw : List Char) : Except Error (List Char) :=
  match splitOnce ':' raw with
  | none => .error (.invalidUrl ("parse " ++ library.debug raw ++ ": missing protocol scheme"))
  | some (scheme, rest) =>
    if !isScheme scheme then
      .error (.invalidUrl ("parse " ++ library.debug raw ++ ": invalid URL scheme"))
    else do
      let (core, query, fragment) := components (scheme.map Char.toLower ++ ':' :: rest)
      validatePercent library raw core
      (fragment.toList).forM (validatePercent library raw)
      validateHost library raw core
      return dropEmptyPort (assemble (escapePath core) query (fragment.map percentEscape))

def escapeReference (library : Library) (raw : List Char) : Except Error (List Char) := do
  let (core, query, fragment) := components raw
  validatePercent library raw core
  (fragment.toList).forM (validatePercent library raw)
  if (splitMark core).isSome then validateHost library raw core
  return assemble (percentEscape core) query (fragment.map percentEscape)

end Text

/-- `CompatibleUrl`. -/
structure CompatibleUrl where
  full : List Char
deriving DecidableEq

namespace CompatibleUrl

def parse (library : Library) (raw : List Char) : Except Error CompatibleUrl := do
  let escaped ← escapeForGo library raw
  match library.iri (escaped.takeWhile fun c => c ≠ '?' ∧ c ≠ '#') with
  | .error error => .error (.invalidUrl ("parse " ++ library.debug raw ++ ": " ++ error))
  | .ok () => .ok ⟨escaped⟩

def append (library : Library) (endpoint suffix : List Char) : Except Error CompatibleUrl :=
  parse library (endpoint ++ '/' :: suffix)

variable (self : CompatibleUrl)

/-- The text before the fragment. -/
def noFragment : List Char :=
  match splitOnce '#' self.full with
  | some (head, _) => head
  | none => self.full

def requestUri (library : Library) : Except Error (List Char) :=
  match splitMark self.noFragment with
  | none =>
    .error (.invalidUrl ("unsupported protocol scheme in " ++ library.debug self.noFragment))
  | some (before, after) =>
    let host := hostPort (after.takeWhile fun c => c ≠ '/' ∧ c ≠ '?')
    if host = [] then .error (.invalidUrl ("missing host in " ++ library.debug self.full))
    else
      let clean := marked before (host ++ after.dropWhile fun c => c ≠ '/' ∧ c ≠ '?')
      match library.uri clean with
      | .error error =>
        .error (.invalidUrl ("parse " ++ library.debug self.full ++ ": " ++ error))
      | .ok () => .ok clean

/-- The authority that `host`, `userinfo` and `without_userinfo` cut out, in front of the rest. -/
def afterMark : List Char :=
  match splitMark self.full with
  | some (_, after) => after
  | none => self.full

/-- The host before a port. -/
def cutPort (hostport : List Char) : List Char :=
  match rsplitOnce ':' hostport with
  | some (host, port) => if port.all fun c => (toDigit 10 c).isSome then host else hostport
  | none => hostport

/-- The host of an authority without user information. -/
def cutHost (hostport : List Char) : List Char :=
  if hostport.head? = some '[' then
    match splitOnce ']' hostport with
    | some (host, _) => host.drop 1
    | none => hostport
  else cutPort hostport

def host : List Char := cutHost (hostPort (self.afterMark.takeWhile (· ∉ authorityEnds)))

def scheme : List Char :=
  match splitOnce ':' self.full with
  | some (scheme, _) => scheme
  | none => []

def userinfo (library : Library) : Option (String × String) := do
  let (_, after) ← splitMark self.full
  let (userinfo, _) ← rsplitOnce '@' (after.takeWhile (· ∉ authorityEnds))
  let (username, password) := (splitOnce ':' userinfo).getD (userinfo, [])
  let decode (text : List Char) :=
    library.lossy (percentDecode (String.ofList text).toUTF8.data.toList)
  return (decode username, decode password)

def withoutUserinfo : List Char :=
  match splitMark self.full with
  | none => self.full
  | some (before, after) =>
    match rsplitOnce '@' (after.takeWhile (· ∉ authorityEnds)) with
    | none => self.full
    | some (_, host) => marked before (host ++ after.dropWhile (· ∉ authorityEnds))

def referer : List Char :=
  match splitOnce '#' self.withoutUserinfo with
  | some (head, _) => head
  | none => self.withoutUserinfo

/-- A base core and a reference core, parsed and resolved. -/
def resolveCores (library : Library) (base reference : List Char) : Except Error (List Char) :=
  match library.iri base, library.iriRef reference with
  | .error error, _ => .error (.invalidRedirect error)
  | .ok (), .error error => .error (.invalidRedirect error)
  | .ok (), .ok () =>
    match library.resolve base reference with
    | .error error => .error (.invalidRedirect error)
    | .ok core => .ok core

def normalizeBaseCore (library : Library) (core : List Char) : Except Error (List Char) :=
  match splitMark core with
  | none => .ok core
  | some (before, after) =>
    let authority := after.takeWhile (· ≠ '/')
    let path := after.dropWhile (· ≠ '/')
    if path = [] then .ok core
    else resolveCores library (marked before (authority ++ ['/'])) path

def resolve (library : Library) (reference : List Char) : Except Error CompatibleUrl := do
  let escaped ← escapeReference library reference
  let (baseCore, baseQuery, baseFragment) := components self.full
  let (core, query, fragment) := components escaped
  let resolved ←
    if core = [] then do
      let normalized ← normalizeBaseCore library baseCore
      pure (assemble normalized (query.or baseQuery) (fragment.or
        (if query.isSome then none else baseFragment)))
    else do
      let merged ← resolveCores library baseCore core
      pure (assemble merged query fragment)
  match parse library resolved with
  | .error error => .error (.invalidRedirect error.display)
  | .ok url => .ok url

end CompatibleUrl

end Ployz.Dns
