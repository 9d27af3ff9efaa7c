/-!
# Escaping metric names

`escape_name` of the metrics encoder, for clients that take legacy names only.
-/

namespace Ployz.Metrics

/-- The schemes that rewrite names; with `allow-utf-8` nothing is escaped. -/
inductive Escaping where
  | underscores
  | dots
  | values
  deriving DecidableEq, Repr

def isValidLegacyCharacter (character : Char) (index : Nat) : Bool :=
  character.isAlpha || character == '_' || character == ':' ||
    (decide (0 < index) && character.isDigit)

def isValidLegacyName (name : List Char) : Bool :=
  !name.isEmpty && name.zipIdx.all fun place => isValidLegacyCharacter place.1 place.2

/-- What `escape_name` writes for one character. -/
def escapeCharacter (escaping : Escaping) (character : Char) (index : Nat) : List Char :=
  match escaping with
  | .underscores => if isValidLegacyCharacter character index then [character] else ['_']
  | .dots =>
    if character = '_' then ['_', '_']
    else if character = '.' then ['_', 'd', 'o', 't', '_']
    else if isValidLegacyCharacter character index then [character]
    else ['_', '_']
  | .values =>
    if character = '_' then ['_', '_']
    else if isValidLegacyCharacter character index then [character]
    else '_' :: (Nat.toDigits 16 character.toNat ++ ['_'])

/-- The loop of `escape_name`, from a character on. -/
def escapeFrom (escaping : Escaping) (index : Nat) : List Char → List Char
  | [] => []
  | character :: rest =>
    escapeCharacter escaping character index ++ escapeFrom escaping (index + 1) rest

def escapeName (name : List Char) (escaping : Escaping) : List Char :=
  if name.isEmpty then []
  else (if escaping = .values then ['U', '_', '_'] else []) ++ escapeFrom escaping 0 name

end Ployz.Metrics
