import Mathlib.Data.List.Basic

/-!
# Quoting of remote commands

The arguments of a command that is run over SSH become one line for the shell of the remote
machine. An argument of harmless characters stands as it is; any other is put in single quotes.
-/

namespace Ployz.Ssh

/-- `is_unquoted_byte`, of a character: the bytes of a character beyond ASCII are none of these. -/
def isUnquotedByte (byte : Char) : Bool :=
  byte.isAlphanum || byte ∈ ['_', '@', '%', '+', '=', ':', ',', '.', '/', '-']

/-- `str::replace` of the single quote in `quote`. -/
def replaceQuote (c : Char) : List Char :=
  if c = '\'' then ['\'', '"', '\'', '"', '\''] else [c]

def quote (value : List Char) : List Char :=
  if value = [] then ['\'', '\'']
  else if value.all isUnquotedByte then value
  else '\'' :: value.flatMap replaceQuote ++ ['\'']

def quoteCommand (arguments : List (List Char)) : List Char :=
  [' '].intercalate (arguments.map quote)

end Ployz.Ssh
