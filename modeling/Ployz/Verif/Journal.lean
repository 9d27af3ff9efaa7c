import Ployz.Journal.Reader

/-!
# The entries of a journal

What the reader yields depends on the bytes and on the error that ends them, if one does, and not
on the reads that deliver them. Between calls the reader holds the rest of the stream; within a
call, the bytes of the line so far stand before it.
-/

namespace Ployz.Journal

open List

/-- The bytes that are delivered before the end or a failed read. -/
def content : List Delivery → List UInt8
  | [] | .fail _ :: _ => []
  | .data first rest :: reader => first :: rest ++ content reader

/-- The error of the first failed read. -/
def ending : List Delivery → Option String
  | [] => none
  | .fail error :: _ => some error
  | .data _ _ :: reader => ending reader

/-- The entries for the pieces between line breaks: one for each line that is ended, up to a line
that is too long; what follows the last line break is a line if it is not empty; a failed read ends
the entries with its error. -/
def entriesOf (ending : Option String) : List (List UInt8) → List LogEntry
  | [] => []
  | [last] =>
    if maxScanTokenSize ≤ last.length then [failure tokenTooLong]
    else (if last = [] then [] else [entry (stripReturn last)]) ++ (ending.map failure).toList
  | line :: next :: pieces =>
    if maxScanTokenSize ≤ line.length then [failure tokenTooLong]
    else entry (stripReturn line) :: entriesOf ending (next :: pieces)

/-- The entries of a stream. -/
def entries (bytes : List UInt8) (ending : Option String) : List LogEntry :=
  entriesOf ending (bytes.splitOn 10)

section Pieces

variable {ending : Option String} {line rest : List UInt8}

theorem entries_last (plain : 10 ∉ line) (short : line.length < maxScanTokenSize) :
    entries line ending =
      (if line = [] then [] else [entry (stripReturn line)]) ++ (ending.map failure).toList := by
  rw [entries, splitOn_eq_singleton plain, entriesOf, if_neg (Nat.not_le.mpr short)]

theorem entries_line (plain : 10 ∉ line) :
    entries (line ++ 10 :: rest) ending =
      if maxScanTokenSize ≤ line.length then [failure tokenTooLong]
      else entry (stripReturn line) :: entries rest ending := by
  have ⟨next, pieces, shape⟩ := exists_cons_of_ne_nil (splitOn_ne_nil 10 rest)
  rw [entries, splitOn_append_cons, splitOn_eq_singleton plain, singleton_append, entries,
    shape, entriesOf]

theorem entries_long (plain : 10 ∉ line) (long : maxScanTokenSize ≤ line.length) :
    entries (line ++ rest) ending = [failure tokenTooLong] := by
  by_cases ended : 10 ∈ rest
  · have ⟨front, back, shape, absent⟩ := eq_append_cons_of_mem ended
    have whole : 10 ∉ line ++ front := by simp [plain, absent]
    rw [shape, ← append_assoc, entries_line whole, if_pos]
    rw [length_append]
    omega
  · have whole : 10 ∉ line ++ rest := by simp [plain, ended]
    rw [entries, splitOn_eq_singleton whole, entriesOf, if_pos]
    rw [length_append]
    omega

end Pieces

theorem content_consume (available : List UInt8) (reader : List Delivery) (count : Nat) :
    content (consume available reader count) = available.drop count ++ content reader := by
  unfold consume
  cases available.drop count with
  | nil => rfl
  | cons first rest => rfl

theorem ending_consume (available : List UInt8) (reader : List Delivery) (count : Nat) :
    ending (consume available reader count) = ending reader := by
  unfold consume
  cases available.drop count with
  | nil => rfl
  | cons first rest => rfl

/-- The bytes before the first line break and those after it. -/
theorem cut_of_findIdx? {bytes : List UInt8} {newline : Nat}
    (found : bytes.findIdx? (· = 10) = some newline) :
    bytes.take newline ++ 10 :: bytes.drop (newline + 1) = bytes ∧ 10 ∉ bytes.take newline := by
  have ⟨bound, isBreak, earlier⟩ := findIdx?_eq_some_iff_getElem.mp found
  constructor
  · rw [← of_decide_eq_true isBreak, ← drop_eq_getElem_cons, take_append_drop]
  · intro member
    have ⟨place, inside, same⟩ := mem_take_iff_getElem.mp member
    have := earlier place (by omega)
    simp [same] at this

theorem notMem_of_findIdx? {bytes : List UInt8} (found : bytes.findIdx? (· = 10) = none) :
    10 ∉ bytes := by
  intro member
  have := findIdx?_eq_none_iff.mp found 10 member
  simp at this

/-- The entries that a scanner has yet to yield. -/
def ScanLines.remaining (self : ScanLines) : List LogEntry :=
  match self.pendingError with
  | some error => [failure error]
  | none => entries (content self.reader) (ending self.reader)

/-- The next entry is the one that a scan returns. -/
theorem ScanLines.scan_spec (line : List UInt8) (reader : List Delivery) (plain : 10 ∉ line)
    (short : line.length < maxScanTokenSize) :
    entries (line ++ content reader) (ending reader) =
      match scan line reader with
      | (.ok (some found), after) => entry found :: after.remaining
      | (.ok none, _) => []
      | (.error error, _) => [failure error] := by
  induction reader generalizing line with
  | nil =>
    rw [content, append_nil, entries_last plain short, scan]
    by_cases empty : line = []
    · rw [if_pos empty, if_pos empty]
      rfl
    · rw [if_neg empty, if_neg empty]
      rfl
  | cons delivery reader ih =>
    cases delivery with
    | fail error =>
      rw [content, append_nil, entries_last plain short, scan]
      by_cases empty : line = []
      · rw [if_pos empty, if_neg (not_not.mpr empty)]
        rfl
      · rw [if_neg empty, if_pos empty]
        rfl
    | data first rest =>
      show entries (line ++ (first :: rest ++ content reader)) (ending reader) = _
      rw [scan]
      cases found : (first :: rest).findIdx? (· = 10) with
      | some newline =>
        have ⟨bound, _⟩ := findIdx?_eq_some_iff_getElem.mp found
        have ⟨shape, before⟩ := cut_of_findIdx? found
        have absent : 10 ∉ line ++ (first :: rest).take newline := not_mem_append plain before
        have size : (line ++ (first :: rest).take newline).length = line.length + newline := by
          rw [length_append, length_take, Nat.min_eq_left (Nat.le_of_lt bound)]
        conv_lhs => rw [← shape]
        rw [append_assoc, cons_append, ← append_assoc, entries_line absent, size]
        dsimp only
        by_cases long : maxScanTokenSize ≤ line.length + newline
        · rw [if_pos long, if_pos (by omega)]
        · rw [if_neg long, if_neg (by omega)]
          dsimp only [remaining]
          rw [content_consume, ending_consume]
      | none =>
        have absent : 10 ∉ line ++ first :: rest := not_mem_append plain (notMem_of_findIdx? found)
        rw [← append_assoc]
        dsimp only
        by_cases long : maxScanTokenSize ≤ line.length + (first :: rest).length
        · rw [if_pos long, entries_long absent (by rwa [length_append])]
        · rw [if_neg long]
          exact ih _ absent (by rw [length_append]; omega)

/-- The entries that a reader has yet to yield. -/
def EntryReader.remaining (self : EntryReader) : List LogEntry :=
  if self.finished then [] else self.lines.remaining

/-- A call returns the next entry. -/
theorem EntryReader.next_spec (self : EntryReader) :
    self.next.1 = self.remaining.head? ∧ self.next.2.remaining = self.remaining.tail := by
  have ⟨⟨reader, pending⟩, finished⟩ := self
  cases finished with
  | true => exact ⟨rfl, rfl⟩
  | false =>
    cases pending with
    | some error => exact ⟨rfl, rfl⟩
    | none =>
      have spec := ScanLines.scan_spec [] reader not_mem_nil (by decide)
      have whole : remaining ⟨⟨reader, none⟩, false⟩ =
          entries ([] ++ content reader) (ending reader) := rfl
      rw [whole, spec]
      unfold next ScanLines.nextLine
      rw [if_neg Bool.false_ne_true]
      dsimp only
      cases ScanLines.scan [] reader with
      | mk result after =>
        cases result with
        | error error => exact ⟨rfl, rfl⟩
        | ok found =>
          cases found with
          | none => exact ⟨rfl, rfl⟩
          | some line => exact ⟨rfl, rfl⟩

/-- Every call of the reader yields the entry of the stream with its number, however the stream is
delivered; after the last entry there are no more. -/
theorem journal_entries_by_stream (reader : List Delivery) (calls : Nat) :
    ((fun self : EntryReader => self.next.2)^[calls] ⟨⟨reader, none⟩, false⟩).next.1 =
      (entries (content reader) (ending reader))[calls]? := by
  have left : ∀ (self : EntryReader),
      ((fun self : EntryReader => self.next.2)^[calls] self).remaining =
        self.remaining.drop calls := by
    induction calls with
    | zero => exact fun self => rfl
    | succ calls ih =>
      intro self
      rw [Function.iterate_succ_apply, ih, self.next_spec.2, drop_tail]
  rw [EntryReader.next_spec _ |>.1, left, head?_drop]
  rfl

-- a line with a time and a carriage return, a line without either, and a read that fails
example : entries "1.000007 up\r\nplain".toUTF8.data.toList (some "broken pipe") =
    [⟨.stdout, some 1000007000, "up\n".toUTF8.data.toList, none⟩,
      ⟨.stdout, none, "plain\n".toUTF8.data.toList, none⟩,
      ⟨.unknown, none, [], some "journal logs: broken pipe"⟩] := by decide +kernel

-- the limit of Go's line scanner
example : maxScanTokenSize = 65536 ∧ tokenTooLong = "bufio.Scanner: token too long" := ⟨rfl, rfl⟩

end Ployz.Journal
