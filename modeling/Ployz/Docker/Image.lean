import Ployz.Api.IpText
import Ployz.Base.Base64
import Ployz.Base.JsonText
import Ployz.Base.Text

/-!
# Pulling an image

`ImageReference::parse` normalises the name of an image before Docker is asked to pull it. Names
whose registry the OCI library would not take, an IPv6 address in brackets or a host with upper
case letters, are parsed with another registry in its place. The registry whose stored credentials
go with the request is taken from the name as it was given.
-/

namespace Ployz.Docker

open Api

/-- The errors of `DockerError` that arise here. -/
inductive DockerError where
  | configuration (message : String)
  | credential (error : String)
  /-- The task that reads the credentials panicked or was cancelled. -/
  | task (error : String)
deriving DecidableEq, Repr

/-- `oci_spec::distribution::Reference`. -/
structure OciReference where
  registry : String
  repository : String
  tag : Option String
  digest : Option String
deriving DecidableEq, Repr

/-- The parts of other crates in use. -/
structure Libraries where
  /-- `str::parse::<Reference>` of the `oci_spec` crate. -/
  parse : String → Except String OciReference
  /-- `{:?}` of a string. -/
  debug : String → String

/-- `ImageReference`. -/
structure ImageReference where
  name : String
  tag : Option String
  digest : Option String
deriving DecidableEq, Repr

def ImageReference.apiTag (self : ImageReference) : Option String := self.digest <|> self.tag

def invalidReference (input : String) : DockerError :=
  .configuration ("invalid image reference: " ++ input)

def isAsciiUppercase (c : Char) : Bool := 'A' ≤ c && c ≤ 'Z'

def isAsciiDigit (c : Char) : Bool := '0' ≤ c && c ≤ '9'

def isAsciiAlphanumeric (c : Char) : Bool :=
  isAsciiDigit c || ('a' ≤ c && c ≤ 'z') || isAsciiUppercase c

/-- The lower-case hexadecimal digits. -/
def isLowerHex (c : Char) : Bool := isAsciiDigit c || ('a' ≤ c && c ≤ 'f')

/-- A label of a domain in `valid_domain_and_port`. -/
def validComponent (component : List Char) : Bool :=
  component.head?.any isAsciiAlphanumeric && component.getLast?.any isAsciiAlphanumeric &&
    component.all fun c => isAsciiAlphanumeric c || c = '-'

def validDomainAndPort (value : List Char) : Bool :=
  let (domain, port) :=
    match rsplitOnce ':' value with
    | some (domain, port) => (domain, some port)
    | none => (value, none)
  if domain = [] ∨ port.any (fun port => port = [] || !port.all isAsciiDigit) then false
  else (domain.splitOn '.').all validComponent

/-- The port behind a bracketed address in `compat_registry`. -/
def validPortSuffix (suffix : List Char) : Bool :=
  suffix = [] || (suffix.head? = some ':' && suffix.length ≠ 1 && suffix.tail.all isAsciiDigit)

/-- `compat_registry` of an input that starts with a bracket; the argument is what follows it. -/
def compatBracketed (input : String) (text : List Char) :
    Except DockerError (List Char × List Char) :=
  match splitOnce ']' text with
  | none => .error (invalidReference input)
  | some (address, behind) =>
    if (parseIpv6 address).isNone then .error (invalidReference input)
    else
      match splitOnce '/' behind with
      | none => .error (invalidReference input)
      | some (suffix, remainder) =>
        if !validPortSuffix suffix || remainder = [] then .error (invalidReference input)
        else .ok ('[' :: address ++ ']' :: suffix, remainder)

/-- `compat_registry` of another input. -/
def compatUppercase (input : String) : Except DockerError (Option (List Char × List Char)) :=
  match splitOnce '/' input.toList with
  | none => .ok none
  | some (first, remainder) =>
    if first.any isAsciiUppercase then
      if remainder = [] || !validDomainAndPort first then .error (invalidReference input)
      else .ok (some (first, remainder))
    else .ok none

def compatRegistry (input : String) : Except DockerError (Option (List Char × List Char)) :=
  match input.toList with
  | '[' :: text => (compatBracketed input text).map some
  | _ => compatUppercase input

def validateTag (tag : Option String) (input : String) : Except DockerError Unit :=
  if tag.any fun tag => !tag.toList.all (·.toNat < 128) then .error (invalidReference input)
  else .ok ()

/-- The length of a digest by its algorithm. -/
def digestLength : List Char → Option Nat
  | ['s', 'h', 'a', '2', '5', '6'] => some 64
  | ['s', 'h', 'a', '3', '8', '4'] => some 96
  | ['s', 'h', 'a', '5', '1', '2'] => some 128
  | _ => none

def validateDigest (digest : Option String) (input : String) : Except DockerError Unit :=
  match digest with
  | none => .ok ()
  | some digest =>
    match splitOnce ':' digest.toList with
    | none => .error (invalidReference input)
    | some (algorithm, encoded) =>
      match digestLength algorithm with
      | none => .error (invalidReference input)
      | some expected =>
        if (String.ofList encoded).utf8ByteSize ≠ expected || !encoded.all isLowerHex then
          .error (invalidReference input)
        else .ok ()

section Parse

variable (libraries : Libraries)

def parseReference (original parseable : String) : Except DockerError OciReference :=
  (libraries.parse parseable).mapError fun error =>
    .configuration ("invalid image reference " ++ libraries.debug original ++ ": " ++ error)

/-- The parsed reference with the registry that stands in for the parsed one. -/
def parseCompatible (input : String) : Except DockerError (OciReference × Option String) := do
  match ← compatRegistry input with
  | some (registry, remainder) =>
    let parsed ← parseReference libraries input ("compat.invalid/" ++ String.ofList remainder)
    pure (parsed, some (String.ofList registry))
  | none => pure (← parseReference libraries input input, none)

def ImageReference.parse (input : String) : Except DockerError ImageReference :=
  if input.utf8ByteSize = 64 ∧ input.toList.all isLowerHex then .error (invalidReference input)
  else do
    let (parsed, registryOverride) ← parseCompatible libraries input
    validateTag parsed.tag input
    validateDigest parsed.digest input
    let registry := registryOverride.getD parsed.registry
    pure ⟨registry ++ "/" ++ parsed.repository, parsed.tag, parsed.digest⟩

end Parse

section Credentials

/-- `docker_credential::DockerCredential`. -/
inductive DockerCredential where
  | identityToken (token : String)
  | usernamePassword (username password : String)
deriving DecidableEq, Repr

/-- `docker_credential::CredentialRetrievalError`. -/
inductive CredentialRetrievalError where
  | noCredentialConfigured
  | configNotFound
  | configReadError
  | other (error : String)
deriving DecidableEq, Repr

/-- `AuthPayload` as JSON. -/
def authPayload (registry : String) : DockerCredential → Json
  | .identityToken token => .obj [("identitytoken", .str token), ("serveraddress", .str registry)]
  | .usernamePassword username password =>
    .obj [("username", .str username), ("password", .str password),
      ("serveraddress", .str registry)]

def encodeCredential (registry : String) (credential : DockerCredential) : String :=
  let json := String.ofList (authPayload registry credential).write
  String.ofList (Base64.encode Base64.urlSafe json.toUTF8.data.toList)

def registryForImage (image : String) : String :=
  match splitOnce '/' image.toList with
  | some (first, _) =>
    if '.' ∈ first ∨ ':' ∈ first ∨ first = "localhost".toList then String.ofList first
    else "index.docker.io"
  | none => "index.docker.io"

/-- The credentials of a user: `docker_credential::get_credential` of a registry. -/
abbrev CredentialStore := String → Except CredentialRetrievalError DockerCredential

/-- `retrieve_local_registry_auth` from the registry on. -/
def registryAuth (credentials : CredentialStore) (registry : String) :
    Except DockerError (Option String) :=
  match credentials registry with
  | .ok credential => .ok (some (encodeCredential registry credential))
  | .error (.other error) => .error (.credential error)
  | .error _ => .ok none

def retrieveLocalRegistryAuth (credentials : CredentialStore) (image : String) :
    Except DockerError (Option String) :=
  registryAuth credentials (registryForImage image)

/-- `resolve_registry_auth`; the failure is the one of the task. -/
def resolveRegistryAuth (credentials : CredentialStore) (failure : Option String) (image : String) :
    Except DockerError (Option String) :=
  match failure with
  | some error => .error (.task error)
  | none => .ok (retrieveLocalRegistryAuth credentials image).toOption.join

end Credentials

/-- `PullOptions`. -/
structure PullOptions where
  all : Bool
  platform : Option String
  registryAuth : Option String
deriving DecidableEq, Repr

/-- The request `pull_image` sends: its query and its `X-Registry-Auth` header. -/
structure PullRequest where
  query : List (String × String)
  registryAuth : String
deriving DecidableEq, Repr

/-- The query of `pull_image`. -/
def pullQuery (reference : ImageReference) (options : PullOptions) : List (String × String) :=
  ("fromImage", reference.name) ::
    ((if options.all then none else reference.apiTag).map ("tag", ·)).toList ++
    (options.platform.map fun platform =>
      ("platform", String.ofList (platform.toList.map Char.toLower))).toList

/-- `pull_image` up to the request it sends. -/
def pullImage (libraries : Libraries) (credentials : CredentialStore) (failure : Option String)
    (image : String) (options : PullOptions) : Except DockerError PullRequest := do
  let reference ← ImageReference.parse libraries image
  let auth ←
    match options.registryAuth.filter (· ≠ "") with
    | some auth => pure (some auth)
    | none => resolveRegistryAuth credentials failure image
  pure ⟨pullQuery reference options, auth.getD ""⟩

end Ployz.Docker
