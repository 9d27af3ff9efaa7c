import Mathlib.Data.List.Basic

/-!
# Words of the POSIX shell

Token recognition as the shell command language describes it, one character at a time: blanks
delimit words, operators are as long as they can be, a comment starts only where no word has, and
quotes and backslashes take characters out of all of this. A word keeps with every character whether
it was quoted, since tilde and pathname expansion look only at characters that were not. Recognition
stops where an expansion is introduced, with a dollar sign or a backquote that is not quoted.
-/

namespace Ployz.Shell

/-- A character of a word. -/
structure Piece where
  char : Char
  quoted : Bool
  deriving DecidableEq

/-- A token; a comment is kept as a mark. -/
inductive Token
  | word (pieces : List Piece)
  | operator (text : List Char)
  | comment
  deriving DecidableEq

/-- Why recognition stops. -/
inductive Stop
  | expansion
  | unterminated
  deriving DecidableEq

/-- The quoting that the next character is under. -/
inductive Mode
  | unquoted
  | escaped
  | single
  | double
  | doubleEscaped
  | comment
  deriving DecidableEq

/-- The token that is being recognised. -/
inductive Current
  | idle
  | word (pieces : List Piece)
  | operator (text : List Char)

namespace Current

/-- The token, when it is delimited. -/
def tokens : Current → List Token
  | .idle => []
  | .word pieces => [.word pieces]
  | .operator text => [.operator text]

/-- The pieces so far, once it is known that there is a word. -/
def pieces : Current → List Piece
  | .word pieces => pieces
  | _ => []

/-- The token is an operator. -/
def isOperator : Current → Bool
  | .operator _ => true
  | _ => false

/-- No token has been started. -/
def isIdle : Current → Bool
  | .idle => true
  | _ => false

/-- The word with another character. -/
def push (current : Current) (char : Char) (quoted : Bool) : Current :=
  .word (current.pieces ++ [⟨char, quoted⟩])

end Current

/-- The operators of more than one character, and all that they start with. -/
def operators : List (List Char) :=
  ["&", "&&", ";", ";;", ";&", "|", "||", "<", ">", "<<", ">>", "<&", ">&", "<>", "<<-", ">|",
    "(", ")", "\n"].map String.toList

/-- The operator that another character makes of the current one. -/
def Current.extended : Current → Char → Option (List Char)
  | .operator text, char => if text ++ [char] ∈ operators then some (text ++ [char]) else none
  | _, _ => none

/-- The tokens of the input from here on. -/
def recognise : Mode → Current → List Char → Except Stop (List Token)
  | .unquoted, current, [] => .ok current.tokens
  | .comment, _, [] => .ok [.comment]
  | _, _, [] => .error .unterminated
  | .single, current, char :: rest =>
    if char = '\'' then recognise .unquoted current rest
    else recognise .single (current.push char true) rest
  | .double, current, char :: rest =>
    if char = '"' then recognise .unquoted current rest
    else if char = '\\' then recognise .doubleEscaped current rest
    else if char = '$' ∨ char = '\x60' then .error .expansion
    else recognise .double (current.push char true) rest
  | .doubleEscaped, current, char :: rest =>
    if char = '\n' then recognise .double current rest
    else if char ∈ ['$', '"', '\\', '\x60'] then
      recognise .double (current.push char true) rest
    else recognise .double ((current.push '\\' true).push char true) rest
  | .escaped, current, char :: rest =>
    if char = '\n' then recognise .unquoted current rest
    else recognise .unquoted (current.push char true) rest
  | .comment, _, char :: rest =>
    if char = '\n' then (.comment :: ·) <$> recognise .unquoted (.operator [char]) rest
    else recognise .comment .idle rest
  | .unquoted, current, char :: rest =>
    match current.extended char with
    | some text => recognise .unquoted (.operator text) rest
    | none =>
      let delimits := [char] ∈ operators ∨ char = ' ' ∨ char = '\t'
      -- an operator ends where it cannot go on, a word only at a delimiter
      let (ended, current) : List Token × Current :=
        match current with
        | .word pieces => if delimits then ([.word pieces], .idle) else ([], .word pieces)
        | other => (other.tokens, .idle)
      (ended ++ ·) <$>
        if [char] ∈ operators then recognise .unquoted (.operator [char]) rest
        else if char = ' ' ∨ char = '\t' then recognise .unquoted .idle rest
        else if char = '\'' then recognise .single (.word current.pieces) rest
        else if char = '"' then recognise .double (.word current.pieces) rest
        else if char = '\\' then recognise .escaped current rest
        else if char = '$' ∨ char = '\x60' then .error .expansion
        else if char = '#' ∧ current.isIdle then recognise .comment .idle rest
        else recognise .unquoted (current.push char false) rest

/-- The tokens of a command line; a NUL ends the text that is handed to the shell. -/
def tokens (input : List Char) : Except Stop (List Token) :=
  recognise .unquoted .idle (input.takeWhile (· ≠ '\x00'))

/-- Quote removal. -/
def removeQuotes (word : List Piece) : List Char := word.map Piece.char

/-- A word in which no character that is not quoted asks for tilde or pathname expansion. -/
def Inert (word : List Piece) : Prop :=
  ∀ piece ∈ word, piece.quoted = false → piece.char ∉ ['~', '*', '?', '[']

/-- The characters that have a meaning where they are not quoted. -/
def special : List Char :=
  [' ', '\t', '\'', '"', '\\', '$', '\x60', '#', '&', ';', '|', '<', '>', '(', ')', '\n', '~', '*',
    '?', '[']

theorem notMem_operators {char : Char} (plain : char ∉ special) : [char] ∉ operators := by
  have heads : operators.all (fun text => text.head?.all (· ∈ special)) = true := by decide
  intro member
  have head := List.all_eq_true.mp heads [char] member
  exact plain (of_decide_eq_true head)

section Recognise

variable {current : Current} {char : Char} {rest : List Char}

theorem recognise_plain (plain : char ∉ special) (open_ : current.isOperator = false) :
    recognise .unquoted current (char :: rest) =
      recognise .unquoted (current.push char false) rest := by
  have free := notMem_operators plain
  simp only [special, List.mem_cons, not_or] at plain
  have ⟨blank, tab, single, double, escape, dollar, backquote, hash, _⟩ := plain
  cases current with
  | operator text => contradiction
  | idle =>
    rw [recognise]
    simp [Current.extended, free, blank, tab, single, double, escape, dollar, backquote, hash,
      Current.tokens]
  | word pieces =>
    rw [recognise]
    simp [Current.extended, free, blank, tab, single, double, escape, dollar, backquote, hash]

theorem recognise_plains {text : List Char} (plain : ∀ char ∈ text, char ∉ special)
    (pieces : List Piece) :
    recognise .unquoted (.word pieces) (text ++ rest) =
      recognise .unquoted (.word (pieces ++ text.map (⟨·, false⟩))) rest := by
  induction text generalizing pieces with
  | nil => simp
  | cons char text ih =>
    rw [List.cons_append, recognise_plain (plain char List.mem_cons_self) rfl]
    show recognise .unquoted (.word (pieces ++ [⟨char, false⟩])) (text ++ rest) = _
    rw [ih fun c member => plain c (List.mem_cons_of_mem _ member)]
    simp

theorem recognise_open (open_ : current.isOperator = false) :
    recognise .unquoted current ('\'' :: rest) = recognise .single (.word current.pieces) rest := by
  have free : ['\''] ∉ operators := by decide
  cases current with
  | operator text => contradiction
  | idle =>
    rw [recognise]
    simp [Current.extended, free, Current.tokens]
  | word pieces =>
    rw [recognise]
    simp [Current.extended, free]

theorem recognise_single (char_ne : char ≠ '\'') :
    recognise .single current (char :: rest) = recognise .single (current.push char true) rest := by
  rw [recognise, if_neg char_ne]

/-- A single quote within single quotes is written by leaving them for double quotes. -/
theorem recognise_single_quote (pieces : List Piece) :
    recognise .single (.word pieces) ('\'' :: '"' :: '\'' :: '"' :: '\'' :: rest) =
      recognise .single (.word (pieces ++ [⟨'\'', true⟩])) rest := by
  have free : ['"'] ∉ operators := by decide
  rw [recognise, if_pos rfl, recognise]
  simp only [Current.extended, free, Char.reduceEq, if_false, if_true, or_self,
    List.nil_append, id_map']
  rw [recognise]
  simp only [Char.reduceEq, if_false, or_self]
  rw [recognise, if_pos rfl, recognise_open rfl]
  rfl

theorem recognise_blank (pieces : List Piece) :
    recognise .unquoted (.word pieces) (' ' :: rest) =
      (.word pieces :: ·) <$> recognise .unquoted .idle rest := by
  have free : [' '] ∉ operators := by decide
  rw [recognise]
  simp [Current.extended, free]

end Recognise

end Ployz.Shell
