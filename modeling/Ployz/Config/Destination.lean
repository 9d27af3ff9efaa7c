import Ployz.Base.Text

/-!
# SSH destinations

The `user@host:port` form in which the configuration of the command line names a machine. The
user and the port may be left out, and a host with colons is put in brackets before a port. A
text whose host and port cannot be told apart is a host without a port; only a port that is set
apart and is no integer is an error.
-/

namespace Ployz.Config

/-- `Display` of a signed integer. -/
def integerText (value : Int) : List Char :=
  (if value < 0 then ['-'] else []) ++ Nat.toDigits 10 value.natAbs

/-- `ParseSshDestinationError`. -/
structure ParseSshDestinationError where
  port : List Char
  source : String

/-- `Display for ParseSshDestinationError`. -/
def ParseSshDestinationError.text (self : ParseSshDestinationError) : String :=
  "parse SSH port '" ++ String.ofList self.port ++ "': " ++ self.source

def splitHostPort : List Char → Option (List Char × List Char)
  | '[' :: bracketed =>
    match splitOnce ']' bracketed with
    | some (host, ':' :: port) => if ':' ∈ port then none else some (host, port)
    | _ => none
  | destination =>
    match destination.splitOn ':' with
    | [host, port] => some (host, port)
    | _ => none

/-- `SshDestination`. -/
structure SshDestination where
  text : List Char

/-- `SshDestination::parse`; `isize` has 64 bits. -/
def SshDestination.parse (self : SshDestination) :
    Except ParseSshDestinationError (List Char × List Char × Int64) :=
  let (user, host) := (splitOnce '@' self.text).getD ([], self.text)
  match splitHostPort host with
  | none => .ok (user, host, 0)
  | some (host, port) =>
    match parseSigned (2 ^ 63) port with
    | .ok value => .ok (user, host, Int64.ofInt value)
    | .error source => .error ⟨port, source⟩

/-- The host and the port of `new_ssh_destination`. -/
def hostPort (host : List Char) (port : Int64) : List Char :=
  if port = 0 then host
  else if ':' ∈ host then '[' :: host ++ ']' :: ':' :: integerText port.toInt
  else host ++ ':' :: integerText port.toInt

def newSshDestination (user host : List Char) (port : Int64) : SshDestination :=
  ⟨if user = [] then hostPort host port else user ++ '@' :: hostPort host port⟩

end Ployz.Config
