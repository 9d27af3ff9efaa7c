import Ployz.Corrosion.Admin

/-!
# Frames read in pieces

The reader of responses keeps what it has read of a frame whenever its future waits, so that the
bytes it holds together with those still to come are always the rest of the stream. The responses
are then those of the stream decoded as a whole, whatever the sizes of the reads and wherever a
future is dropped.
-/

namespace Ployz.Corrosion.Admin

/-- The first frame of a stream and what follows it. -/
def splitFrame (bytes : List UInt8) : Option (List UInt8 × List UInt8) :=
  if bytes.length < 4 then none
  else if (bytes.drop 4).length < ofBytes (bytes.take 4) then none
  else some ((bytes.drop 4).take (ofBytes (bytes.take 4)),
    (bytes.drop 4).drop (ofBytes (bytes.take 4)))

/-- The error of a stream that ends within a frame. -/
def endError (failure : Option String) (bytes : List UInt8) : ClientError :=
  let context := if bytes.length < 4 then "read frame head" else "read frame data"
  match failure with
  | none => .new .admin (context ++ ": unexpected EOF")
  | some error => .withText .admin context error

variable {bytes data rest : List UInt8}

theorem length_of_splitFrame (split : splitFrame bytes = some (data, rest)) :
    rest.length < bytes.length := by
  unfold splitFrame at split
  split_ifs at split with short
  rw [← (Prod.mk.inj (Option.some.inj split)).2, List.length_drop, List.length_drop]
  omega

/-- The items of a stream that is decoded frame by frame. -/
def decodeAll (externals : Externals) (failure : Option String) (bytes : List UInt8) : List Item :=
  match _split : splitFrame bytes with
  | none => [.error (endError failure bytes)]
  | some (data, rest) =>
    match respond externals data with
    | .fails error => [.error error]
    | .succeeds => []
    | .yields json => .ok json :: decodeAll externals failure rest
    | .skips => decodeAll externals failure rest
termination_by bytes.length
decreasing_by all_goals exact length_of_splitFrame _split

section Frames

variable {head : List UInt8}

theorem splitFrame_append (four : head.length = 4) (length : data.length = ofBytes head) :
    splitFrame (head ++ (data ++ rest)) = some (data, rest) := by
  have size : (head ++ (data ++ rest)).take 4 = head := List.take_left' four
  have tail : (head ++ (data ++ rest)).drop 4 = data ++ rest := List.drop_left' four
  unfold splitFrame
  rw [size, tail, if_neg (by rw [List.length_append]; omega),
    if_neg (by rw [List.length_append]; omega), List.take_left' length, List.drop_left' length]

theorem splitFrame_encodeFrame {payload : List UInt8} (fits : payload.length < 2 ^ 32)
    (rest : List UInt8) : splitFrame (encodeFrame payload ++ rest) = some (payload, rest) := by
  rw [encodeFrame, List.append_assoc]
  apply splitFrame_append (length_toBytes 4 _)
  rw [Nat.mod_eq_of_lt fits, ofBytes_toBytes _ _ (by omega)]

theorem splitFrame_short (short : bytes.length < 4) :
    splitFrame bytes = none := if_pos short

theorem splitFrame_within (four : head.length = 4) (within : data.length < ofBytes head) :
    splitFrame (head ++ data) = none := by
  have size : (head ++ data).take 4 = head := List.take_left' four
  have tail : (head ++ data).drop 4 = data := List.drop_left' four
  unfold splitFrame
  rw [size, tail, if_neg (by rw [List.length_append]; omega), if_pos within]

end Frames

variable {await : Await} {counts : List Nat}

namespace AdminResponses

/-- The bytes that are kept. -/
def held (self : AdminResponses) : List UInt8 :=
  self.frameHead ++ (self.frameData.map FrameData.read).getD []

/-- The reader waits for the rest of a head, or of the data behind it. -/
inductive Waiting (responses : AdminResponses) : Await → Prop where
  | head (none : responses.frameData = none) (short : responses.frameHead.length < 4) :
      Waiting responses .head
  | data {data : FrameData} (some : responses.frameData = some data)
      (four : responses.frameHead.length = 4) (length : data.length = ofBytes responses.frameHead)
      (short : data.read.length < data.length) : Waiting responses .data

/-- What comes of reading on in a stream, of which some bytes are left on the socket. -/
inductive Reads (failure : Option String) (finished : Bool) (total : List UInt8) :
    FrameOutcome × AdminResponses → List UInt8 → Prop where
  | pending {await : Await} {after : AdminResponses} {left : List UInt8}
      (waiting : Waiting after await) (whole : after.held ++ left = total)
      (same : after.finished = finished) : Reads failure finished total (.pending await, after) left
  | frame {data left : List UInt8} (split : splitFrame total = some (data, left)) :
      Reads failure finished total (.frame data, { finished }) left
  | failed {after : AdminResponses} (split : splitFrame total = none)
      (same : after.finished = finished) :
      Reads failure finished total (.failed (endError failure total), after) []

variable {failure : Option String} {self : AdminResponses} {left : List UInt8}

theorem readData_reads {data : FrameData} (four : self.frameHead.length = 4)
    (length : data.length = ofBytes self.frameHead) (fits : data.read.length ≤ data.length) :
    Reads failure self.finished (self.frameHead ++ (data.read ++ left)) (self.readData data)
      left := by
  unfold readData
  split
  case isTrue short =>
    refine .pending (.data rfl four length short) ?_ rfl
    rw [held, List.append_assoc]
    rfl
  case isFalse complete => exact .frame (splitFrame_append four (by omega))

theorem readFrame_reads (waiting : Waiting self await) :
    Reads failure self.finished (self.held ++ left) self.readFrame left := by
  unfold readFrame
  cases waiting with
  | head none short =>
    rw [if_pos short]
    exact .pending (.head none short) rfl rfl
  | data some four length short =>
    rw [if_neg (by omega), startData, some, held, some, List.append_assoc]
    exact readData_reads four length short.le

variable {socket : Socket}

/-- A read takes bytes off the front of what is to come, as long as there are any. -/
theorem read_eq_ok {limit : Nat} (room : 0 < limit) (more : socket.bytes ≠ []) (count : Nat) :
    ∃ byte chunk left, socket.bytes = byte :: chunk ++ left ∧ (byte :: chunk).length ≤ limit ∧
      socket.read limit count = (.ok (byte :: chunk), { socket with bytes := left }) := by
  have size : min (count + 1) limit ≠ 0 := by omega
  cases taken : socket.bytes.take (min (count + 1) limit) with
  | nil =>
    rcases List.take_eq_nil_iff.mp taken with zero | none
    · exact absurd zero size
    · exact absurd none more
  | cons byte chunk =>
    refine ⟨byte, chunk, socket.bytes.drop (min (count + 1) limit), ?_, ?_, ?_⟩
    · rw [← taken, List.take_append_drop]
    · rw [← taken, List.length_take]
      omega
    · rw [Socket.read, if_neg more, taken]

theorem Waiting.room_pos (waiting : Waiting self await) : 0 < self.room await := by
  cases waiting with
  | head none short =>
    show 0 < 4 - self.frameHead.length
    omega
  | data some four length short =>
    rw [room, some]
    show 0 < _ - _
    omega

theorem Waiting.ends (waiting : Waiting self await) (ended : socket.bytes = []) (count : Nat) :
    self.resumeFrame await (socket.read (self.room await) count).1 =
        (.failed (endError socket.failure self.held), self) ∧
      splitFrame self.held = none := by
  have read : socket.read (self.room await) count =
      (match socket.failure with | none => .ok [] | some error => .error error, socket) := by
    rw [Socket.read, if_pos ended]
    cases socket.failure <;> rfl
  rw [read]
  cases waiting with
  | head none short =>
    have kept : self.held = self.frameHead := by simp [held, none]
    rw [kept]
    refine ⟨?_, splitFrame_short short⟩
    unfold endError
    rw [if_pos short]
    cases socket.failure <;> rfl
  | @data data some four length short =>
    have kept : self.held = self.frameHead ++ data.read := by simp [held, some]
    rw [kept]
    refine ⟨?_, splitFrame_within four (by omega)⟩
    unfold endError
    rw [if_neg (by rw [List.length_append]; omega)]
    cases socket.failure <;> rfl

theorem Waiting.reads (waiting : Waiting self await) (socket : Socket) (count : Nat) :
    Reads socket.failure self.finished (self.held ++ socket.bytes)
      (self.resumeFrame await (socket.read (self.room await) count).1)
      (socket.read (self.room await) count).2.bytes := by
  by_cases ended : socket.bytes = []
  · have ⟨failed, split⟩ := waiting.ends ended count
    have left : (socket.read (self.room await) count).2.bytes = [] := by
      rw [Socket.read, if_pos ended]
      cases socket.failure <;> exact ended
    rw [failed, left, ended, List.append_nil]
    exact .failed split rfl
  · have ⟨byte, chunk, left, cut, fits, read⟩ := read_eq_ok waiting.room_pos ended count
    rw [read, cut]
    cases waiting with
    | head none short =>
      have kept : self.held = self.frameHead := by simp [held, none]
      have longer : (self.frameHead ++ byte :: chunk).length ≤ 4 := by
        have limit : (byte :: chunk).length ≤ 4 - self.frameHead.length := fits
        rw [List.length_append]
        omega
      rw [kept, ← List.append_assoc]
      show Reads _ _ _ (readFrame { self with frameHead := self.frameHead ++ byte :: chunk }) _
      unfold readFrame
      split
      case isTrue still =>
        refine .pending (.head none still) ?_ rfl
        simp [held, none]
      case isFalse full =>
        have four : (self.frameHead ++ byte :: chunk).length = 4 :=
          le_antisymm longer (Nat.le_of_not_lt full)
        unfold startData
        rw [none]
        exact @readData_reads socket.failure
          { self with frameHead := self.frameHead ++ byte :: chunk } left ⟨_, []⟩ four rfl
          (Nat.zero_le _)
    | @data data some four length short =>
      have kept : self.held = self.frameHead ++ data.read := by simp [held, some]
      have longer : (data.read ++ byte :: chunk).length ≤ data.length := by
        have limit : (byte :: chunk).length ≤ self.room .data := fits
        rw [room, some] at limit
        rw [List.length_append]
        dsimp only at limit
        omega
      have resumed : self.resumeFrame .data (.ok (byte :: chunk)) =
          self.readData { data with read := data.read ++ byte :: chunk } := by
        rw [resumeFrame, some]
      rw [kept, resumed, List.append_assoc, ← List.append_assoc data.read]
      exact @readData_reads socket.failure self left
        { data with read := data.read ++ byte :: chunk } four length longer

theorem failure_read (socket : Socket) (limit count : Nat) :
    (socket.read limit count).2.failure = socket.failure := by
  unfold Socket.read
  split
  · split <;> rfl
  · rfl

/-- A read that leaves the reader waiting has taken a byte at least. -/
theorem Waiting.shortens (waiting : Waiting self await) (socket : Socket) (count : Nat) : (∃ error,
      (self.resumeFrame await (socket.read (self.room await) count).1).1 = .failed error) ∨
    (socket.read (self.room await) count).2.bytes.length < socket.bytes.length := by
  by_cases ended : socket.bytes = []
  · rw [(waiting.ends ended count).1]
    exact .inl ⟨_, rfl⟩
  · have ⟨byte, chunk, left, cut, _, read⟩ := read_eq_ok waiting.room_pos ended count
    rw [read, cut]
    exact .inr (by simp)

theorem Waiting.rest_lt (waiting : Waiting self await)
    (split : splitFrame (self.held ++ bytes) = some (data, rest)) : rest.length < bytes.length := by
  unfold splitFrame at split
  split_ifs at split with short within
  have last := congrArg List.length (Prod.mk.inj (Option.some.inj split)).2
  rw [List.length_drop, List.length_drop, List.length_append] at last
  rw [List.length_drop, List.length_append] at within
  rw [List.length_append] at short
  cases waiting with
  | head none few =>
    have kept : self.held = self.frameHead := by simp [held, none]
    rw [kept] at last within short
    omega
  | @data data' some four length few =>
    have kept : self.held = self.frameHead ++ data'.read := by simp [held, some]
    have size : (self.held ++ bytes).take 4 = self.frameHead := by
      rw [kept, List.append_assoc]
      exact List.take_left' four
    have total : self.held.length = 4 + data'.read.length := by rw [kept, List.length_append, four]
    rw [size] at last within
    omega

theorem driveFrame_frame (data : List UInt8) (socket : Socket) (counts : List Nat) :
    driveFrame (.frame data, self) socket counts = ((.frame data, self), socket) := by
  cases counts <;> rfl

/-- A frame at the front of the stream is read through reads of any sizes, and nothing behind
it. -/
theorem driveFrame_eq (waiting : Waiting self await)
    (split : splitFrame (self.held ++ socket.bytes) = some (data, rest))
    (enough : socket.bytes.length - rest.length ≤ counts.length) :
    driveFrame (.pending await, self) socket counts =
      ((.frame data, { finished := self.finished }), { socket with bytes := rest }) := by
  have needed := waiting.rest_lt split
  induction counts generalizing self await socket with
  | nil =>
    rw [List.length_nil] at enough
    omega
  | cons count counts ih =>
    have reads := waiting.reads socket count
    have shorter := waiting.shortens socket count
    have failure := failure_read socket (self.room await) count
    show driveFrame (self.resumeFrame await (socket.read (self.room await) count).1)
      (socket.read (self.room await) count).2 counts = _
    generalize self.resumeFrame await (socket.read (self.room await) count).1 = reached at *
    generalize (socket.read (self.room await) count).2 = left at *
    generalize remaining : left.bytes = ahead at reads
    cases reads with
    | @pending await' after _ still whole same =>
      subst remaining
      rw [← whole] at split
      have fewer : left.bytes.length < socket.bytes.length :=
        shorter.resolve_left fun ⟨_, failed⟩ => nomatch failed
      have done := ih still split (by rw [List.length_cons] at enough; omega)
        (still.rest_lt split)
      rw [done, same]
      show (_, Socket.mk rest left.failure) = _
      rw [failure]
    | frame found =>
      have ⟨sameData, sameRest⟩ := Prod.mk.inj (Option.some.inj (found.symm.trans split))
      rw [sameData, driveFrame_frame, ← sameRest, ← remaining, ← failure]
    | failed none _ =>
      rw [none] at split
      exact nomatch split

variable {externals : Externals} {items : List Item}

/-- The items are those that calls from here on return. -/
inductive Ready (externals : Externals) (failure : Option String) (responses : AdminResponses)
    (left : List UInt8) : List Item → Prop where
  | finished (finished : responses.finished = true) : Ready externals failure responses left []
  | reading {await : Await} (live : responses.finished = false)
      (waiting : Waiting responses await) :
      Ready externals failure responses left
        (decodeAll externals failure (responses.held ++ left))

/-- What `next` comes to, where the items are those still to be returned. -/
inductive Delivers (externals : Externals) (failure : Option String) (items : List Item) :
    Outcome × AdminResponses → List UInt8 → Prop where
  | pending {await : Await} {after : AdminResponses} {left : List UInt8}
      (live : after.finished = false) (waiting : Waiting after await)
      (same : decodeAll externals failure (after.held ++ left) = items) :
      Delivers externals failure items (.pending await, after) left
  | returned {after : AdminResponses} {left : List UInt8}
      (ready : Ready externals failure after left items.tail) :
      Delivers externals failure items (.returned items.head?, after) left

theorem waiting_between : Waiting { finished := false } .head :=
  .head rfl (by decide)

theorem deliver_delivers {total : List UInt8} {reached : FrameOutcome × AdminResponses}
    (reads : Reads failure false total reached left) :
    Delivers externals failure (decodeAll externals failure total)
      (deliver externals reached) left := by
  cases reads with
  | pending waiting whole same =>
    refine .pending same waiting ?_
    rw [whole]
  | failed split same =>
    have last : decodeAll externals failure total = [.error (endError failure total)] := by
      rw [decodeAll, split]
    rw [last]
    exact .returned (.finished rfl)
  | @frame data _ split =>
    have unfolded : decodeAll externals failure total =
        match respond externals data with
        | .fails error => [.error error]
        | .succeeds => []
        | .yields json => .ok json :: decodeAll externals failure left
        | .skips => decodeAll externals failure left := by
      rw [decodeAll, split]
    rw [unfolded]
    dsimp only [deliver]
    cases respond externals data with
    | fails | succeeds => exact .returned (.finished rfl)
    | yields json => exact .returned (.reading rfl waiting_between)
    | skips => exact .pending rfl waiting_between rfl

end AdminResponses

namespace Connection

open AdminResponses

variable {externals : Externals} {failure : Option String} {items : List Item}

/-- A connection whose socket ends in the given way and whose calls return the items. -/
structure Ready (externals : Externals) (failure : Option String) (connection : Connection)
    (items : List Item) : Prop where
  ends : connection.socket.failure = failure
  responses : AdminResponses.Ready externals failure connection.responses
    connection.socket.bytes items

/-- What a future of `next` has come to, and its connection. -/
structure Delivers (externals : Externals) (failure : Option String) (items : List Item)
    (reached : Outcome × Connection) : Prop where
  ends : reached.2.socket.failure = failure
  responses : AdminResponses.Delivers externals failure items (reached.1, reached.2.responses)
    reached.2.socket.bytes

theorem resume_delivers {self : Connection}
    (delivers : Delivers externals failure items (.pending await, self)) (count : Nat) :
    Delivers externals failure items (self.resume externals await count) := by
  have ⟨sameFailure, responses⟩ := delivers
  cases responses with
  | pending live waiting same =>
    have reads := waiting.reads self.socket count
    rw [show self.socket.failure = failure from sameFailure, live] at reads
    have done := @deliver_delivers _ _ externals _ _ reads
    rw [same] at done
    exact ⟨(failure_read _ _ _).trans sameFailure, done⟩

variable {reached : Outcome × Connection}

theorem drive_delivers (counts : List Nat) (delivers : Delivers externals failure items reached) :
    Delivers externals failure items (drive externals reached counts) := by
  induction counts generalizing reached with
  | nil => cases reached with | mk outcome self => cases outcome <;> exact delivers
  | cons count counts ih =>
    match reached, delivers with
    | (.pending _, _), delivers => exact ih (resume_delivers delivers count)
    | (.returned _, _), delivers => exact delivers

theorem next_delivers {self : Connection} (ready : Ready externals failure self items) :
    Delivers externals failure items
      ((self.responses.next externals).1, ⟨(self.responses.next externals).2, self.socket⟩) := by
  refine ⟨ready.ends, ?_⟩
  unfold next
  match items, ready.responses with
  | _, .finished finished =>
    rw [if_pos finished]
    exact .returned (.finished finished)
  | _, .reading live waiting =>
    rw [if_neg (by rw [live]; exact Bool.false_ne_true)]
    have reads := @readFrame_reads _ failure _ self.socket.bytes waiting
    rw [live] at reads
    exact deliver_delivers reads

/-- A call is dropped and has returned nothing, or returns the first of the items. -/
theorem call_ready {self : Connection} (ready : Ready externals failure self items)
    (counts : List Nat) :
    ((self.call externals counts).1 = none ∧
        Ready externals failure (self.call externals counts).2 items) ∨
      ((self.call externals counts).1 = some items.head? ∧
        Ready externals failure (self.call externals counts).2 items.tail) := by
  have ⟨ends, driven⟩ := drive_delivers counts (next_delivers ready)
  unfold call
  dsimp only
  generalize drive externals _ counts = reached at *
  obtain ⟨outcome, after⟩ := reached
  cases driven with
  | pending live waiting same => exact .inl ⟨rfl, ends, same ▸ .reading live waiting⟩
  | returned ready => exact .inr ⟨rfl, ends, ready⟩

theorem returned_get {self : Connection} (calls : List (List Nat))
    (ready : Ready externals failure self items) (index : Nat) {item : Option Item}
    (answered : (self.returned externals calls)[index]? = some item) : item = items[index]? := by
  induction calls generalizing self items index with
  | nil => exact nomatch answered
  | cons counts calls ih =>
    unfold returned at answered
    rw [run_cons] at answered
    dsimp only at answered
    rcases call_ready ready counts with ⟨dropped, still⟩ | ⟨first, later⟩
    · rw [dropped, List.reduceOption_cons_of_none] at answered
      exact ih still index answered
    · rw [first, List.reduceOption_cons_of_some] at answered
      cases index with
      | zero =>
        rw [← List.head?_eq_getElem?]
        exact (Option.some.inj answered).symm
      | succ index =>
        rw [List.getElem?_cons_succ] at answered
        rw [ih later index answered, List.getElem?_tail]

/-- The connection is ready after calls, some of which may have been dropped. -/
theorem run_ready {self : Connection} (calls : List (List Nat))
    (ready : Ready externals failure self items) :
    ∃ later, Ready externals failure (run (call externals) self calls).2 later := by
  induction calls generalizing self items with
  | nil => exact ⟨items, ready⟩
  | cons counts calls ih =>
    rw [run_cons]
    rcases call_ready ready counts with ⟨_, still⟩ | ⟨_, later⟩
    · exact ih still
    · exact ih later

theorem resume_shortens {self : Connection}
    (delivers : Delivers externals failure items (.pending await, self)) (count : Nat) :
    (∃ item, (self.resume externals await count).1 = .returned item) ∨
      (self.resume externals await count).2.socket.bytes.length < self.socket.bytes.length := by
  have ⟨_, responses⟩ := delivers
  cases responses with
  | pending live waiting same =>
    unfold resume
    dsimp only
    rcases waiting.shortens self.socket count with ⟨error, failed⟩ | shorter
    · left
      generalize self.responses.resumeFrame _ _ = reached at *
      obtain ⟨outcome, after⟩ := reached
      cases show outcome = .failed error from failed
      exact ⟨_, rfl⟩
    · exact .inr shorter

theorem drive_returns (counts : List Nat) (delivers : Delivers externals failure items reached)
    (enough : reached.2.socket.bytes.length < counts.length) :
    ∃ item, (drive externals reached counts).1 = .returned item := by
  induction counts generalizing reached with
  | nil => exact absurd enough (Nat.not_lt_zero _)
  | cons count counts ih =>
    match reached, delivers, enough with
    | (.returned item, _), _, _ => exact ⟨item, rfl⟩
    | (.pending await, self), delivers, enough =>
      show ∃ item, (drive externals (self.resume externals await count) counts).1 = .returned item
      rcases resume_shortens delivers count with ⟨item, returned⟩ | shorter
      · generalize self.resume externals await count = reached at *
        obtain ⟨outcome, after⟩ := reached
        cases show outcome = .returned item from returned
        exact ⟨item, by cases counts <;> rfl⟩
      · apply ih (resume_delivers delivers count)
        have size : self.socket.bytes.length < counts.length + 1 := enough
        omega

theorem call_returns {self : Connection} (ready : Ready externals failure self items)
    (enough : self.socket.bytes.length < counts.length) :
    ∃ item, (self.call externals counts).1 = some item := by
  have ⟨item, returned⟩ := drive_returns counts (next_delivers ready) enough
  unfold call
  dsimp only
  generalize drive externals _ counts = reached at *
  obtain ⟨outcome, after⟩ := reached
  cases show outcome = .returned item from returned
  exact ⟨item, rfl⟩

theorem ready_new (externals : Externals) (bytes : List UInt8) (failure : Option String) :
    Ready externals failure ⟨{}, ⟨bytes, failure⟩⟩ (decodeAll externals failure bytes) :=
  ⟨rfl, .reading rfl waiting_between⟩

end Connection

open AdminResponses Connection in
/-- Whatever the sizes of the reads and wherever futures are dropped, the calls that return do so
with the items of the whole stream in order and then with `None`, and a future that is not
dropped returns. A frame that `encode_frame` has written is read back, with nothing taken of what
follows. -/
theorem admin_responses_cancel_safe (externals : Externals) :
    (∀ bytes failure calls, let opened : Connection := ⟨{}, ⟨bytes, failure⟩⟩
      (∀ (index : Nat) (item : Option Item),
        (opened.returned externals calls)[index]? = some item →
          item = (decodeAll externals failure bytes)[index]?) ∧
      ∀ counts : List Nat,
        (run (call externals) opened calls).2.socket.bytes.length < counts.length →
        ∃ item, ((run (call externals) opened calls).2.call externals counts).1 = some item) ∧
    ∀ payload : List UInt8, payload.length < 2 ^ 32 → ∀ rest failure,
      splitFrame (encodeFrame payload ++ rest) = some (payload, rest) ∧
      ∀ counts : List Nat, (encodeFrame payload).length ≤ counts.length →
        driveFrame (readFrame {}) ⟨encodeFrame payload ++ rest, failure⟩ counts =
          ((.frame payload, {}), ⟨rest, failure⟩) := by
  refine ⟨fun bytes failure calls => ⟨fun index item answered => ?_, fun counts enough => ?_⟩,
    fun payload fits rest failure => ⟨splitFrame_encodeFrame fits rest, fun counts enough => ?_⟩⟩
  · exact returned_get calls (ready_new externals bytes failure) index answered
  · have ⟨_, ready⟩ := run_ready calls (ready_new externals bytes failure)
    exact call_returns ready enough
  · apply @driveFrame_eq payload rest .head _ {} ⟨encodeFrame payload ++ rest, failure⟩
      waiting_between (splitFrame_encodeFrame fits rest)
    show (encodeFrame payload ++ rest).length - rest.length ≤ counts.length
    rw [List.length_append]
    omega

open AdminResponses in
theorem admin_responses_cancel_safe_sample :
    driveFrame (readFrame {}) ⟨encodeFrame [34, 34] ++ [0, 0], none⟩ [1, 0, 5, 0, 0, 0] =
      ((.frame [34, 34], {}), ⟨[0, 0], none⟩) :=
  ((admin_responses_cancel_safe ⟨fun _ => .error "expected value", some, fun _ => ""⟩).2
    [34, 34] (by decide) [0, 0] none).2 [1, 0, 5, 0, 0, 0] (by decide)

end Ployz.Corrosion.Admin
