import Mathlib.Data.List.TakeWhile
import Ployz.Base.Shell
import Ployz.Ssh.Quote

/-!
# A quoted command is split into its arguments

The shell reads the line of `quote_command` as one word for every argument. The characters that
`quote` leaves as they are mean only themselves, and between single quotes there is nothing but
the argument, so no token of the line is an operator or a comment and nothing in it is expanded.
-/

namespace Ployz.Ssh

open Shell List

/-- The word that the shell reads for an argument. -/
def wordOf (value : List Char) : List Piece :=
  value.map fun c => ⟨c, !value.all isUnquotedByte⟩

theorem removeQuotes_wordOf (value : List Char) : removeQuotes (wordOf value) = value := by
  rw [removeQuotes, wordOf, map_map]
  exact map_id'' (fun _ => rfl) value

theorem notMem_special {c : Char} (harmless : isUnquotedByte c = true) : c ∉ special := by
  have harmful : special.all (fun c => !isUnquotedByte c) = true := by decide
  intro member
  have harms := all_eq_true.mp harmful c member
  rw [harmless] at harms
  contradiction

theorem inert_wordOf (value : List Char) : Inert (wordOf value) := by
  intro piece member unquoted meaning
  have ⟨c, present, same⟩ := mem_map.mp member
  rw [← same, Bool.not_eq_false', all_eq_true] at unquoted
  have expanding : ['~', '*', '?', '['] ⊆ special :=
    (drop_suffix 16 special).subset
  rw [← same] at meaning
  exact notMem_special (unquoted c present) (expanding meaning)

/-- Within single quotes, the argument is read as it was before its quotes were replaced. -/
theorem recognise_replaceQuote (value rest : List Char) (pieces : List Piece) :
    recognise .single (.word pieces) (value.flatMap replaceQuote ++ '\'' :: rest) =
      recognise .unquoted (.word (pieces ++ value.map (⟨·, true⟩))) rest := by
  induction value generalizing pieces with
  | nil =>
    rw [flatMap_nil, nil_append, recognise, if_pos rfl, map_nil, append_nil]
  | cons c value ih =>
    have shape : pieces ++ (c :: value).map (⟨·, true⟩) =
        pieces ++ [⟨c, true⟩] ++ value.map (⟨·, true⟩) := by simp
    rw [flatMap_cons, append_assoc, shape, ← ih]
    by_cases quote : c = '\''
    · rw [quote]
      exact recognise_single_quote pieces
    · rw [replaceQuote, if_neg quote]
      exact recognise_single quote

/-- An argument is read as one word, whatever follows it. -/
theorem recognise_quote (value rest : List Char) :
    recognise .unquoted .idle (quote value ++ rest) =
      recognise .unquoted (.word (wordOf value)) rest := by
  unfold quote
  split_ifs with empty harmless
  · rw [empty]
    show recognise .unquoted .idle ('\'' :: '\'' :: rest) = _
    rw [recognise_open rfl, recognise, if_pos rfl]
    rfl
  · cases value with
    | nil => contradiction
    | cons c value =>
      have plain : ∀ char ∈ c :: value, char ∉ special :=
        fun char member => notMem_special (all_eq_true.mp harmless char member)
      rw [cons_append, recognise_plain (plain c mem_cons_self) rfl]
      show recognise .unquoted (.word [⟨c, false⟩]) (value ++ rest) = _
      rw [recognise_plains fun char member => plain char (mem_cons_of_mem _ member)]
      simp only [wordOf, harmless, map_cons, Bool.not_true, singleton_append]
  · have quoted : (!value.all isUnquotedByte) = true := by simpa using harmless
    rw [append_assoc, cons_append, recognise_open rfl]
    show recognise .single (.word []) (value.flatMap replaceQuote ++ '\'' :: rest) = _
    rw [recognise_replaceQuote, wordOf, quoted, nil_append]

theorem recognise_quoteCommand (arguments : List (List Char)) :
    recognise .unquoted .idle (quoteCommand arguments) =
      .ok (arguments.map fun argument => .word (wordOf argument)) := by
  unfold quoteCommand
  induction arguments with
  | nil => rfl
  | cons first arguments ih =>
    cases arguments with
    | nil =>
      have alone := recognise_quote first []
      rw [append_nil] at alone
      simpa [recognise, Current.tokens] using alone
    | cons second arguments =>
      rw [map_cons, map_cons, intercalate_cons_cons, ← map_cons,
        append_assoc, recognise_quote, singleton_append, recognise_blank, ih]
      rfl

theorem notMem_quote {value : List Char} (clean : '\x00' ∉ value) : '\x00' ∉ quote value := by
  unfold quote
  split_ifs
  · decide
  · exact clean
  · have replaced : '\x00' ∉ value.flatMap replaceQuote := by
      intro found
      have ⟨c, member, inside⟩ := mem_flatMap.mp found
      unfold replaceQuote at inside
      split_ifs at inside
      · simp at inside
      · exact clean (mem_singleton.mp inside ▸ member)
    simp [replaced]

theorem quoteCommand_clean {arguments : List (List Char)}
    (clean : ∀ argument ∈ arguments, '\x00' ∉ argument) : '\x00' ∉ quoteCommand arguments := by
  unfold quoteCommand
  induction arguments with
  | nil => decide
  | cons first arguments ih =>
    have later := ih fun argument member => clean argument (mem_cons_of_mem _ member)
    have now := notMem_quote (clean first mem_cons_self)
    cases arguments with
    | nil => simpa using now
    | cons second arguments =>
      rw [map_cons, map_cons, intercalate_cons_cons, ← map_cons]
      simp only [mem_append, mem_singleton, Char.reduceEq, now, later, or_self,
        not_false_eq_true]

/-- The shell splits a quoted command into exactly its arguments: every token is a word, quote
removal gives back the argument, and nothing is expanded. -/
theorem tokens_quoteCommand {arguments : List (List Char)}
    (clean : ∀ argument ∈ arguments, '\x00' ∉ argument) :
    ∃ words : List (List Piece), tokens (quoteCommand arguments) = .ok (words.map .word) ∧
      words.map removeQuotes = arguments ∧ ∀ word ∈ words, Inert word := by
  refine ⟨arguments.map wordOf, ?_, ?_, ?_⟩
  · have whole : (quoteCommand arguments).takeWhile (· ≠ '\x00') = quoteCommand arguments := by
      rw [takeWhile_eq_self_iff]
      intro c member
      exact decide_eq_true fun same => quoteCommand_clean clean (same ▸ member)
    rw [tokens, whole, recognise_quoteCommand, map_map]
    rfl
  · rw [map_map]
    exact map_id'' removeQuotes_wordOf arguments
  · intro word member
    have ⟨argument, _, same⟩ := mem_map.mp member
    exact same ▸ inert_wordOf argument

/-- An argument that tries to end its quotes, and an empty one. -/
theorem tokens_quoteCommand_sample :
    ∃ words : List (List Piece), tokens (quoteCommand ["echo".toList, "'; rm -rf ~ #".toList, []]) =
        .ok (words.map .word) ∧
      words.map removeQuotes = ["echo".toList, "'; rm -rf ~ #".toList, []] ∧
      ∀ word ∈ words, Inert word :=
  tokens_quoteCommand (by decide)

end Ployz.Ssh
