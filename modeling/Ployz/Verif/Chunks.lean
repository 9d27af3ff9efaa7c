import Ployz.Base.Framing
import Ployz.Base.JsonGrammar
import Ployz.Corrosion.Raw

/-!
# Objects in a stream that is cut anywhere

The decoder parses its buffer again whenever it has read more of the body. A deserializer that
returns a complete object at the front of the buffer, and reports the end of the input within one,
makes the decoder return the objects of the stream in turn, wherever the reads cut it.
-/

namespace Ployz.Corrosion

open JsonGrammar List

/-- What is assumed of the deserializer: it returns an object that is complete and reports the
end of the input within one. -/
structure Delivers (next : Deserializer RawValue) : Prop where
  complete : ∀ text rest, IsObject text →
    next (encode text ++ rest) = some (.ok (encode text, (encode text).length))
  incomplete : ∀ text part, IsObject text → part ≠ [] → part <+: encode text →
    part ≠ encode text → ∃ error, next part = some (.error error) ∧ error.isEof = true

/-- An object of the stream with the white space in front of it. -/
structure Entry where
  gap : List UInt8
  text : List Char
  blank : ∀ byte ∈ gap, isAsciiWhitespace byte = true
  object : IsObject text

/-- The bytes of a stream of objects with white space behind the last one. -/
def spelled (entries : List Entry) (trailing : List UInt8) : List UInt8 :=
  entries.flatMap (fun entry => entry.gap ++ encode entry.text) ++ trailing

/-- The bytes that are in the buffer or still to be read, where the body has not ended before its
last read. -/
structure Arriving (decoder : NdjsonDecoder) (reads : List (List UInt8)) (bytes : List UInt8) :
    Prop where
  bytes : decoder.buffer ++ reads.flatten = bytes
  ended : decoder.eof = true → reads = []
  «open» : decoder.eof = false →
    ∃ chunks, (∀ chunk ∈ chunks, chunk ≠ []) ∧ reads = chunks ++ [[]]

variable {trailing : List UInt8}

section Poll

variable {next : Deserializer RawValue} {self : NdjsonDecoder} {reads : List (List UInt8)}
  {chunk bytes : List UInt8}

theorem Arriving.feed (line : Arriving self (chunk :: reads) bytes) :
    Arriving (self.feed chunk) reads bytes := by
  have running : self.eof = false := by
    cases eof : self.eof with
    | false => rfl
    | true => exact nomatch line.ended eof
  have ⟨chunks, filled, shape⟩ := line.open running
  cases chunks with
  | nil =>
    have ⟨last, finished⟩ := List.cons.inj shape
    have whole := line.bytes
    rw [last, finished] at whole
    rw [last, finished]
    exact ⟨whole, fun _ => rfl, nofun⟩
  | cons first chunks =>
    have ⟨same, later⟩ := List.cons.inj shape
    have nonempty : chunk ≠ [] := same ▸ filled first mem_cons_self
    have fed : self.feed chunk = { self with buffer := self.buffer ++ chunk } := if_neg nonempty
    rw [fed]
    refine ⟨?_, fun eof => ?_, fun _ => ?_⟩
    · rw [append_assoc]
      exact line.bytes
    · exact absurd eof (by rw [running]; exact nofun)
    · exact ⟨chunks, fun other member => filled other (mem_cons_of_mem _ member), later⟩

theorem Arriving.trim {bytes' : List UInt8} (line : Arriving self reads bytes)
    (same : self.trimmed.buffer ++ reads.flatten = bytes') : Arriving self.trimmed reads bytes' :=
  ⟨same, line.ended, line.open⟩

variable {text : List Char}

theorem solid_encode (object : IsObject text) (rest : List UInt8) :
    Solid isAsciiWhitespace (encode text ++ rest) := by
  have ⟨inner, shape, _⟩ := object.bytes
  rw [shape]
  exact ⟨0x7b, _, rfl, by decide⟩

variable {gap : List UInt8}

/-- A poll delivers the next object, or waits for the rest of it. -/
theorem poll_object (delivers : Delivers next) {rest : List UInt8}
    (blank : ∀ byte ∈ gap, isAsciiWhitespace byte = true) (object : IsObject text)
    (line : Arriving self reads (gap ++ (encode text ++ rest))) :
    (∃ after, self.poll next = (.value (encode text), after) ∧
      Arriving after reads rest) ∨
    ∃ gap', (∀ byte ∈ gap', isAsciiWhitespace byte = true) ∧ reads ≠ [] ∧
      self.poll next = (.waits, self.trimmed) ∧
      Arriving self.trimmed reads (gap' ++ (encode text ++ rest)) := by
  have solid := solid_encode object rest
  have ⟨gap', blank', skipped, start⟩ := trim_front blank line.bytes solid
  have cut : self.trimmed.buffer ++ reads.flatten = gap' ++ (encode text ++ rest) := skipped
  have trimmed := line.trim cut
  have ⟨inner, shape, _⟩ := object.bytes
  have more : self.eof = false → reads ≠ [] := by
    intro running none
    have ⟨chunks, _, same⟩ := line.open running
    rw [none] at same
    exact absurd same.symm (by simp)
  have running : reads.flatten ≠ [] → self.eof = false := by
    intro left
    cases eof : self.eof with
    | false => rfl
    | true =>
      rw [line.ended eof] at left
      exact absurd rfl left
  unfold NdjsonDecoder.poll
  by_cases empty : self.trimmed.buffer = []
  · rw [empty, nil_append] at cut
    have left : reads.flatten ≠ [] := by
      rw [cut, shape]
      simp
    have eof := running left
    rw [if_pos empty, NdjsonDecoder.short, eof]
    exact .inr ⟨gap', blank', more eof, rfl, trimmed⟩
  · rw [if_neg empty]
    have whole := cut
    rw [start empty, nil_append] at whole
    rcases append_eq_append_iff.mp whole with ⟨missing, front, back⟩ | ⟨left, front, back⟩
    · by_cases exact' : self.trimmed.buffer = encode text
      · have found := delivers.complete text [] object
        rw [append_nil] at found
        rw [exact', found]
        refine .inl ⟨_, rfl, ?_, line.ended, line.open⟩
        rw [exact'] at whole
        show (encode text).drop (encode text).length ++ reads.flatten = rest
        rw [drop_length, nil_append]
        exact append_cancel_left whole
      · have ⟨error, failed, atEnd⟩ := delivers.incomplete text self.trimmed.buffer object empty
          ⟨missing, front.symm⟩ exact'
        have left : reads.flatten ≠ [] := by
          intro none
          have unread : missing = [] := by
            rw [none] at back
            exact (append_eq_nil_iff.mp back.symm).1
          rw [unread, append_nil] at front
          exact exact' front.symm
        rw [failed]
        dsimp only
        rw [if_pos ⟨atEnd, running left⟩]
        exact .inr ⟨gap', blank', more (running left), rfl, trimmed⟩
    · have found := delivers.complete text left object
      rw [← front] at found
      rw [found]
      refine .inl ⟨_, rfl, ?_, line.ended, line.open⟩
      show self.trimmed.buffer.drop (encode text).length ++ reads.flatten = rest
      rw [front, drop_left, back]

variable {after : NdjsonDecoder}

/-- A call returns as soon as it has come to a result. -/
theorem nextRaw_of_result {polled : Poll RawValue} {result : Except ClientError (Option RawValue)}
    (found : self.poll next = (polled, after)) (returned : polled.result = some result) :
    self.nextRaw next reads = some (result, after, reads) := by
  unfold NdjsonDecoder.nextRaw
  simp only [found, returned]

/-- A call that waits goes on with the next read. -/
theorem nextRaw_of_waits (found : self.poll next = (.waits, after)) :
    self.nextRaw next (chunk :: reads) = (after.feed chunk).nextRaw next reads := by
  rw [NdjsonDecoder.nextRaw.eq_def]
  simp only [found, Poll.result]

/-- The next object of the stream is returned, wherever the reads cut it. -/
theorem nextRaw_object (delivers : Delivers next) {rest : List UInt8}
    (blank : ∀ byte ∈ gap, isAsciiWhitespace byte = true) (object : IsObject text)
    (line : Arriving self reads (gap ++ (encode text ++ rest))) :
    ∃ after left, self.nextRaw next reads = some (.ok (some (encode text)), after, left) ∧
      Arriving after left rest := by
  induction reads generalizing self gap with
  | nil =>
    rcases poll_object delivers blank object line with
      ⟨after, polled, line⟩ | ⟨_, _, more, _⟩
    · exact ⟨after, [], nextRaw_of_result polled rfl, line⟩
    · exact absurd rfl more
  | cons chunk reads ih =>
    rcases poll_object delivers blank object line with
      ⟨after, polled, line⟩ | ⟨gap', blank', _, polled, line⟩
    · exact ⟨after, chunk :: reads, nextRaw_of_result polled rfl, line⟩
    · rw [nextRaw_of_waits polled]
      exact ih blank' line.feed

variable {rest : List UInt8}

theorem poll_blank (blank : ∀ byte ∈ rest, isAsciiWhitespace byte = true)
    (line : Arriving self reads rest) :
    self.poll next = (self.short, self.trimmed) ∧ self.trimmed.buffer = [] := by
  have none : self.trimmed.buffer = [] := by
    apply dropWhile_eq_nil_iff.mpr
    intro byte member
    apply blank
    rw [← line.bytes]
    exact mem_append_left _ member
  unfold NdjsonDecoder.poll
  rw [if_pos none]
  exact ⟨rfl, none⟩

/-- Behind the last object a call returns the end of the stream, and so do all later ones. -/
theorem nextRaw_blank (blank : ∀ byte ∈ rest, isAsciiWhitespace byte = true)
    (line : Arriving self reads rest) :
    ∃ after left, self.nextRaw next reads = some (.ok none, after, left) ∧
      Arriving after left [] := by
  induction reads generalizing self rest with
  | nil =>
    have ⟨polled, empty⟩ := @poll_blank next self [] rest blank line
    have eof : self.eof = true := by
      cases running : self.eof with
      | true => rfl
      | false =>
        have ⟨chunks, _, same⟩ := line.open running
        exact absurd same.symm (by simp)
    rw [NdjsonDecoder.short, eof] at polled
    exact ⟨self.trimmed, [], nextRaw_of_result polled rfl, line.trim (by rw [empty]; rfl)⟩
  | cons chunk reads ih =>
    have ⟨polled, empty⟩ := @poll_blank next self (chunk :: reads) rest blank line
    have running : self.eof = false := by
      cases eof : self.eof with
      | false => rfl
      | true => exact nomatch line.ended eof
    rw [NdjsonDecoder.short, running] at polled
    rw [nextRaw_of_waits polled]
    have left : ∀ byte ∈ (chunk :: reads).flatten, isAsciiWhitespace byte = true := by
      intro byte member
      apply blank
      rw [← line.bytes]
      exact mem_append_right _ member
    have trimmed : Arriving self.trimmed (chunk :: reads) (chunk :: reads).flatten :=
      line.trim (by rw [empty]; rfl)
    exact ih left trimmed.feed

theorem calls_blank (blank : ∀ byte ∈ rest, isAsciiWhitespace byte = true)
    (line : Arriving self reads rest) (count : Nat) :
    NdjsonDecoder.calls next count self reads = some (List.replicate count (.ok none)) := by
  induction count generalizing self reads rest with
  | zero => rfl
  | succ count ih =>
    have ⟨after, left, returned, line⟩ := @nextRaw_blank next self reads rest blank line
    rw [NdjsonDecoder.calls, returned]
    show (NdjsonDecoder.calls next count after left >>= _) = _
    rw [@ih after left [] (fun _ member => absurd member not_mem_nil) line]
    rfl

theorem calls_objects (delivers : Delivers next) (entries : List Entry)
    (blank : ∀ byte ∈ trailing, isAsciiWhitespace byte = true)
    (line : Arriving self reads (spelled entries trailing)) (count : Nat) :
    NdjsonDecoder.calls next (entries.length + count) self reads =
      some (entries.map (fun entry => .ok (some (encode entry.text))) ++
        List.replicate count (.ok none)) := by
  induction entries generalizing self reads with
  | nil =>
    rw [length_nil, Nat.zero_add]
    exact calls_blank blank line count
  | cons entry entries ih =>
    have apart : spelled (entry :: entries) trailing =
        entry.gap ++ (encode entry.text ++ spelled entries trailing) := by
      simp [spelled]
    rw [apart] at line
    have ⟨after, left, returned, line⟩ :=
      nextRaw_object delivers entry.blank entry.object line
    rw [length_cons, Nat.add_right_comm, NdjsonDecoder.calls, returned]
    show (NdjsonDecoder.calls next (entries.length + count) after left >>= _) = _
    rw [ih line]
    rfl

end Poll

/-- However the stream is cut into reads, the calls return the texts of its objects in order and
then the end of the stream. -/
theorem ndjson_chunk_invariant {next : Deserializer RawValue} (delivers : Delivers next)
    (entries : List Entry) {trailing : List UInt8}
    (blank : ∀ byte ∈ trailing, isAsciiWhitespace byte = true) {chunks : List (List UInt8)}
    (filled : ∀ chunk ∈ chunks, chunk ≠ []) (cut : chunks.flatten = spelled entries trailing)
    (count : Nat) :
    NdjsonDecoder.calls next (entries.length + count) {} (chunks ++ [[]]) =
      some (entries.map (fun entry => .ok (some (encode entry.text))) ++
        List.replicate count (.ok none)) := by
  apply calls_objects delivers entries blank
  refine ⟨?_, nofun, fun _ => ⟨chunks, filled, rfl⟩⟩
  rw [flatten_append, flatten_singleton, append_nil, nil_append, cut]

section Sample

/-- A deserializer that looks for the bracket that closes the object. -/
def scanning : Deserializer RawValue := fun buffer =>
  match closes (0, .outside) buffer with
  | some count => some (.ok (buffer.take count, count))
  | none => some (.error ⟨true, "EOF while parsing an object"⟩)

theorem delivers_scanning : Delivers scanning where
  complete text rest object := by
    rw [scanning, closes_object object rest]
    show some (Except.ok ((encode text ++ rest).take (encode text).length, _)) = _
    rw [take_left]
  incomplete text part object _ starts shorter := by
    rw [scanning, closes_part object starts shorter]
    exact ⟨_, rfl, rfl⟩

theorem isObject_sample :
    IsObject ['\x7b', '"', 'a', '"', ':', ' ', '"', '\\', '"', 'ü', '"', '\x7d'] := by
  have name : IsString ['"', 'a', '"'] := ⟨['a'], .plain (by decide) .nil, rfl⟩
  have quoted : IsString ['"', '\\', '"', 'ü', '"'] :=
    ⟨['\\', '"', 'ü'], .escape (by decide) (.plain (by decide) .nil), rfl⟩
  have none : Blank [] := fun _ member => absurd member not_mem_nil
  have space : Blank [' '] := forall_mem_singleton.mpr (by decide)
  have item : IsText .item [' ', '"', '\\', '"', 'ü', '"'] :=
    @IsText.item [' '] _ [] space (.string quoted) none
  have member : IsText .member ['"', 'a', '"', ':', ' ', '"', '\\', '"', 'ü', '"'] :=
    @IsText.member [] _ [] _ none name none item
  exact ⟨_, .inr (.lastMember member), rfl⟩

/-- An object with a quote behind a backslash and a character of two bytes, both of which are cut
in two. -/
theorem ndjson_chunk_invariant_sample :
    NdjsonDecoder.calls scanning 3 {}
      [[0x7b, 0x22, 0x61, 0x22, 0x3a, 0x20, 0x22, 0x5c], [0x22, 0xc3], [0xbc, 0x22, 0x7d, 0x0a],
        []] =
      some [.ok (some [0x7b, 0x22, 0x61, 0x22, 0x3a, 0x20, 0x22, 0x5c, 0x22, 0xc3, 0xbc, 0x22,
        0x7d]), .ok none, .ok none] := by
  have blank : ∀ byte ∈ [(0x0a : UInt8)], isAsciiWhitespace byte = true :=
    forall_mem_singleton.mpr (by decide)
  have filled : ∀ chunk ∈ [[(0x7b : UInt8), 0x22, 0x61, 0x22, 0x3a, 0x20, 0x22, 0x5c],
      [0x22, 0xc3], [0xbc, 0x22, 0x7d, 0x0a]], chunk ≠ [] := by simp
  exact ndjson_chunk_invariant delivers_scanning
    [⟨[], _, fun _ member => absurd member not_mem_nil, isObject_sample⟩] blank filled (by decide) 2

end Sample

end Ployz.Corrosion
