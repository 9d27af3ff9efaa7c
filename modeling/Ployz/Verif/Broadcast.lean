import Mathlib
import Ployz.Base.Interleave
import Ployz.Base.Run
import Ployz.Proxy.Broadcast

/-!
# A broadcast merges everything

Every task sends its script, which ends with the only `Finished` in it, so the merging loop has
counted all tasks exactly when it has received all scripts. Every event is attributed to its
backend: what is received, what is in the channel and what is still to be sent make up the scripts.
-/

namespace Ployz.Proxy

open List

/-- The payloads a backend answers with. -/
def Upstream.payloads : Upstream → List (List UInt8)
  | .unavailable _ => []
  | .answered _ payloads _ => payloads

/-- How a backend fails, if it does. -/
def Upstream.failure : Upstream → Option Status
  | .unavailable status => some status
  | .answered _ _ (.error status) => some status
  | .answered _ _ (.ok _) => none

/-- Every payload of the backend can be rewritten, and its failure has a message. -/
structure Rewrites (backend : Backend) (upstream : Upstream) : Prop where
  payload : ∀ payload ∈ upstream.payloads, ∃ rewritten, backend.appendInfo payload = .ok rewritten
  failure : ∀ status, upstream.failure = some status →
    ∃ message, backend.buildError status = .ok (some message)

/-- What a backend contributes to the response: its payloads, rewritten and in order, and one
error message behind them exactly when it failed. -/
def Contributes (backend : Backend) (upstream : Upstream) (part : List (List UInt8)) : Prop :=
  ∃ rewritten errors, part = rewritten ++ errors ∧
    List.Forall₂ (fun payload out => backend.appendInfo payload = .ok out) upstream.payloads
      rewritten ∧
    match upstream.failure with
    | none => errors = []
    | some status => ∃ message, backend.buildError status = .ok (some message) ∧ errors = [message]

/-- The bytes of an event. -/
def BackendEvent.payload? : BackendEvent → Option (List UInt8)
  | .payload bytes => some bytes
  | _ => none

/-- The failure that an event reports. -/
def BackendEvent.fatal? : BackendEvent → Option Status
  | .fatal status => some status
  | _ => none

/-- An event of a backend before its last one, with nothing amiss. -/
def BackendEvent.Plain (event : BackendEvent) : Prop := event ≠ .finished ∧ event.fatal? = none

section Script

variable {backend : Backend}

/-- A relay passes every payload on, rewritten. -/
theorem relay_spec {metadata : Metadata} {ending : Except Status (Option Metadata)} {first : Bool}
    {payloads : List (List UInt8)}
    (rewrites : ∀ payload ∈ payloads, ∃ rewritten, backend.appendInfo payload = .ok rewritten) :
    (∀ event ∈ (relay backend metadata ending first payloads).1, event.Plain) ∧
      List.Forall₂ (fun payload out => backend.appendInfo payload = .ok out) payloads
        ((relay backend metadata ending first payloads).1.filterMap BackendEvent.payload?) ∧
      (relay backend metadata ending first payloads).2 =
        match ending with
        | .ok _ => .ok ()
        | .error status => .error (.backend status) := by
  induction payloads generalizing first with
  | nil =>
    match ending with
    | .ok (some trailers) =>
      exact ⟨by simp [relay, BackendEvent.Plain, BackendEvent.fatal?], .nil, rfl⟩
    | .ok none | .error status => exact ⟨by simp [relay], .nil, rfl⟩
  | cons payload payloads ih =>
    obtain ⟨rewritten, accepted⟩ := rewrites payload mem_cons_self
    obtain ⟨plain, sent, result⟩ :=
      @ih false fun other member => rewrites other (mem_cons_of_mem _ member)
    have opening : ∀ event ∈ (if first then [BackendEvent.initialMetadata metadata] else []),
        event.Plain ∧ event.payload? = none := by
      intro event member
      split_ifs at member
      · rw [mem_singleton] at member
        subst member
        exact ⟨⟨nofun, rfl⟩, rfl⟩
      · cases member
    have silent : (if first then [BackendEvent.initialMetadata metadata] else []).filterMap
        BackendEvent.payload? = [] :=
      filterMap_eq_nil_iff.mpr fun event member => (opening event member).2
    simp only [relay, accepted]
    refine ⟨?_, ?_, result⟩
    · intro event member
      rcases mem_append.mp member with early | late
      · exact (opening event early).1
      · rcases mem_cons.mp late with rfl | later
        · exact ⟨nofun, rfl⟩
        · exact plain event later
    · rw [filterMap_append, silent]
      exact .cons accepted sent

/-- A backend sends its payloads and at last that it has finished. -/
theorem runBroadcastBackend_spec {upstream : Upstream} (rewrites : Rewrites backend upstream) :
    ∃ events, runBroadcastBackend backend upstream = events ++ [.finished] ∧
      (∀ event ∈ events, event.Plain) ∧
      Contributes backend upstream (events.filterMap BackendEvent.payload?) := by
  cases upstream with
  | unavailable status =>
    obtain ⟨message, built⟩ := rewrites.failure status rfl
    refine ⟨[.payload message], ?_, ?_, [], [message], rfl, .nil, message, built, rfl⟩
    · simp [runBroadcastBackend, exchange, report, built]
    · simp [BackendEvent.Plain, BackendEvent.fatal?]
  | answered metadata payloads ending =>
    obtain ⟨plain, sent, result⟩ : _ ∧ _ ∧ (relay backend metadata ending true payloads).2 = _ :=
      relay_spec rewrites.payload
    match ending with
    | .ok trailers =>
      refine ⟨_, ?_, plain, _, [], (append_nil _).symm, sent, rfl⟩
      simp only [runBroadcastBackend, exchange, result, report, append_nil]
    | .error status =>
      obtain ⟨message, built⟩ := rewrites.failure status rfl
      refine ⟨(relay backend metadata (.error status) true payloads).1 ++ [.payload message], ?_,
        ?_, _, [message], ?_, sent, message, built, rfl⟩
      · simp only [runBroadcastBackend, exchange, result, report, built]
      · intro event member
        rcases mem_append.mp member with early | late
        · exact plain event early
        · rw [mem_singleton.mp late]
          exact ⟨nofun, rfl⟩
      · rw [filterMap_append]
        rfl

end Script

/-- A script: plain events, and the end. -/
def Ends (script : List BackendEvent) : Prop :=
  ∃ events, script = events ++ [.finished] ∧ ∀ event ∈ events, event.Plain

section Merging

theorem Merge.absorb_merged (merge : Merge) (event : BackendEvent) :
    (merge.absorb event).merged = merge.merged ++ event.payload?.getD [] := by
  cases event <;> simp [Merge.absorb, BackendEvent.payload?]

theorem Merge.absorb_failures (merge : Merge) (event : BackendEvent) :
    (merge.absorb event).backendFailures = merge.backendFailures ++ event.fatal?.toList := by
  cases event <;> simp [Merge.absorb, BackendEvent.fatal?]

theorem Merge.absorb_finished (merge : Merge) (event : BackendEvent) :
    (merge.absorb event).finished = merge.finished + if event = .finished then 1 else 0 := by
  cases event <;> simp [Merge.absorb]

end Merging

/-- Every event sent so far has its backend: the received ones are merged, the queued ones are in
the channel, and with those still to be sent they make up the scripts. -/
structure Attributed (scripts : List (List BackendEvent)) (call : Broadcast)
    (received queued : List (Nat × BackendEvent)) : Prop where
  queue : call.events = queued.map Prod.snd
  known : ∀ item ∈ received ++ queued, item.1 < scripts.length
  length : call.tasks.length = scripts.length
  scripted : ∀ index script task, scripts[index]? = some script → call.tasks[index]? = some task →
    script = partOf index received ++ partOf index queued ++ task
  merged : call.merge.merged = (received.filterMap fun item => item.2.payload?).flatten
  failures : call.merge.backendFailures = received.filterMap fun item => item.2.fatal?
  finished : call.merge.finished = (received.filter fun item => item.2 = .finished).length

variable {index : Nat} {rest : List BackendEvent}

section Attribution

variable {scripts : List (List BackendEvent)} {call : Broadcast}
  {received queued : List (Nat × BackendEvent)} {event : BackendEvent}
  (attributed : Attributed scripts call received queued)

section Steps

include attributed

theorem Attributed.send (next : call.tasks[index]? = some (event :: rest)) :
    Attributed scripts
      { call with tasks := call.tasks.set index rest, events := call.events ++ [event] } received
      (queued ++ [(index, event)]) := by
  have inside : index < call.tasks.length := (List.getElem?_eq_some_iff.mp next).1
  refine ⟨by simp [attributed.queue], ?_, by simpa using attributed.length, ?_, attributed.merged,
    attributed.failures, attributed.finished⟩
  · intro item member
    rw [← append_assoc, mem_append, mem_singleton] at member
    rcases member with earlier | rfl
    · exact attributed.known item earlier
    · exact attributed.length ▸ inside
  · intro other script task scriptAt taskAt
    by_cases same : index = other
    · subst same
      rw [getElem?_set_self inside] at taskAt
      cases taskAt
      rw [attributed.scripted index script _ scriptAt next, partOf_append, partOf_singleton_self]
      simp
    · rw [getElem?_set_ne same] at taskAt
      rw [attributed.scripted other script task scriptAt taskAt, partOf_append,
        partOf_singleton_of_ne same, append_nil]

theorem Attributed.take (first : call.events = event :: rest) :
    ∃ received queued, Attributed scripts
      { call with events := rest, merge := call.merge.absorb event } received queued := by
  have queue := attributed.queue
  rw [first] at queue
  obtain ⟨item, queued, rfl, rfl, rfl⟩ := map_eq_cons_iff.mp queue.symm
  refine ⟨received ++ [item], queued, rfl, ?_, attributed.length, ?_, ?_, ?_, ?_⟩
  · simpa using attributed.known
  · intro index script task scriptAt taskAt
    have split := attributed.scripted index script task scriptAt taskAt
    rw [show item :: queued = [item] ++ queued from rfl, partOf_append] at split
    rw [split, partOf_append]
    simp
  · rw [Merge.absorb_merged, attributed.merged, filterMap_append, flatten_append]
    cases found : item.2.payload? <;> simp [found]
  · rw [Merge.absorb_failures, attributed.failures, filterMap_append]
    cases found : item.2.fatal? <;> simp [found]
  · rw [Merge.absorb_finished, attributed.finished, filter_append, length_append]
    by_cases last : item.2 = .finished <;> simp [last]

end Steps

/-- The backends whose last event is among the given ones. -/
def finishedIds (items : List (Nat × BackendEvent)) : List Nat :=
  (items.filter fun item => item.2 = .finished).map Prod.fst

theorem count_finishedIds (index : Nat) (items : List (Nat × BackendEvent)) :
    (finishedIds items).count index = (partOf index items).count .finished := by
  induction items with
  | nil => rfl
  | cons item items ih =>
    by_cases mine : item.1 = index <;> by_cases last : item.2 = .finished <;>
      simp_all [finishedIds, partOf]

theorem mem_finishedIds {items : List (Nat × BackendEvent)} :
    index ∈ finishedIds items ↔ .finished ∈ partOf index items := by
  rw [← count_pos_iff, count_finishedIds, count_pos_iff]

variable {script : List BackendEvent}

theorem Ends.count (ends : Ends script) : script.count .finished = 1 := by
  obtain ⟨events, rfl, plain⟩ := ends
  rw [count_append, count_eq_zero.mpr fun member => (plain _ member).1 rfl]
  rfl

theorem Ends.fatal? (scriptEnds : Ends script) (member : event ∈ script) : event.fatal? = none := by
  obtain ⟨events, rfl, plain⟩ := scriptEnds
  rcases mem_append.mp member with early | late
  · exact (plain event early).2
  · rw [mem_singleton.mp late]
    rfl

theorem Ends.eq_nil {front back : List BackendEvent} (ends : Ends (front ++ back))
    (last : .finished ∈ front) : back = [] := by
  have whole := ends.count
  rw [count_append] at whole
  have seen := count_pos_iff.mpr last
  obtain ⟨events, split, plain⟩ := ends
  rcases eq_nil_or_concat back with rfl | ⟨init, final, rfl⟩
  · rfl
  · rw [concat_eq_append, ← append_assoc] at split
    have same := (append_inj_right' split rfl)
    simp only [List.cons.injEq, and_true] at same
    rw [concat_eq_append, count_append, same] at whole
    simp at whole
    omega

include attributed in
theorem Attributed.finishedIds_subset :
    finishedIds received ⊆ List.range scripts.length := by
  intro index member
  obtain ⟨item, inside, rfl⟩ := mem_map.mp member
  rw [mem_range]
  exact attributed.known item (mem_append_left _ (mem_of_mem_filter inside))

variable (ends : ∀ script ∈ scripts, Ends script)

include ends attributed

theorem Attributed.nodup : (finishedIds received).Nodup := by
  rw [nodup_iff_count_le_one]
  intro index
  rw [count_finishedIds]
  by_cases inside : index < scripts.length
  · have split := attributed.scripted index _ _ (getElem?_eq_getElem inside)
      (getElem?_eq_getElem (attributed.length ▸ inside))
    have whole := (ends _ (getElem_mem inside)).count
    rw [split, count_append, count_append] at whole
    omega
  · have none : partOf index received = [] := by
      unfold partOf
      rw [map_eq_nil_iff, filter_eq_nil_iff]
      intro item member mine
      have known := attributed.known item (mem_append_left _ member)
      simp only [decide_eq_true_eq] at mine
      omega
    simp [none]

theorem Attributed.finished_iff :
    ¬ call.merge.finished < call.tasks.length ↔
      ∀ index < scripts.length, .finished ∈ partOf index received := by
  have count : call.merge.finished = (finishedIds received).length := by
    rw [attributed.finished, finishedIds, length_map]
  have nodup := attributed.nodup ends
  have subset := attributed.finishedIds_subset
  rw [count, attributed.length, not_lt]
  constructor
  · intro all index inside
    rw [← mem_finishedIds]
    have full := (subperm_of_subset nodup subset).perm_of_length_le (by simpa using all)
    exact full.mem_iff.mpr (mem_range.mpr inside)
  · intro all
    have whole : List.range scripts.length ⊆ finishedIds received := fun index inside =>
      mem_finishedIds.mpr (all index (mem_range.mp inside))
    simpa using (subperm_of_subset nodup_range whole).length_le

theorem Attributed.received_all (done : ¬ call.merge.finished < call.tasks.length) :
    (∀ task ∈ call.tasks, task = []) ∧ call.events = [] ∧
      ∀ index script, scripts[index]? = some script → partOf index received = script := by
  have last := (attributed.finished_iff ends).mp done
  have split : ∀ index script task, scripts[index]? = some script →
      call.tasks[index]? = some task → partOf index queued = [] ∧ task = [] ∧
        partOf index received = script := by
    intro index script task scriptAt taskAt
    have parts := attributed.scripted index script task scriptAt taskAt
    have inside := (List.getElem?_eq_some_iff.mp scriptAt).1
    have scriptEnds := ends script (mem_of_getElem? scriptAt)
    rw [parts, append_assoc] at scriptEnds
    obtain ⟨empty, idle⟩ := append_eq_nil_iff.mp (scriptEnds.eq_nil (last index inside))
    refine ⟨empty, idle, ?_⟩
    rw [parts, empty, idle, append_nil, append_nil]
  have task : ∀ {index : Nat} {script}, scripts[index]? = some script →
      ∃ task, call.tasks[index]? = some task := by
    intro index script scriptAt
    have inside := (List.getElem?_eq_some_iff.mp scriptAt).1
    exact ⟨_, getElem?_eq_getElem (attributed.length ▸ inside)⟩
  refine ⟨fun task member => ?_, ?_, fun index script scriptAt => ?_⟩
  · obtain ⟨index, inside, rfl⟩ := getElem_of_mem member
    exact (split index _ _ (getElem?_eq_getElem (attributed.length ▸ inside))
      (getElem?_eq_getElem inside)).2.1
  · rw [attributed.queue, map_eq_nil_iff, eq_nil_iff_forall_not_mem]
    intro item member
    have known := attributed.known item (mem_append_right _ member)
    obtain ⟨idle, taskAt⟩ := task (getElem?_eq_getElem known)
    have mine : item.2 ∈ partOf item.1 queued :=
      mem_map_of_mem (mem_filter.mpr ⟨member, by simp⟩)
    rw [(split item.1 _ idle (getElem?_eq_getElem known) taskAt).1] at mine
    cases mine
  · obtain ⟨idle, taskAt⟩ := task scriptAt
    exact (split index script idle scriptAt taskAt).2.2

theorem Attributed.not_stopped (empty : call.events = []) (stopped : ∀ task ∈ call.tasks, task = []) :
    ¬ call.merge.finished < call.tasks.length := by
  rw [attributed.finished_iff ends]
  intro index inside
  have taskAt := getElem?_eq_getElem (attributed.length.symm ▸ inside)
  have parts := attributed.scripted index _ _ (getElem?_eq_getElem inside) taskAt
  have queueEmpty : queued = [] := by
    rw [attributed.queue, map_eq_nil_iff] at empty
    exact empty
  rw [stopped _ (getElem_mem _), queueEmpty] at parts
  obtain ⟨events, split, -⟩ := ends _ (getElem_mem inside)
  rw [split] at parts
  simp only [partOf, filter_nil, map_nil, append_nil] at parts
  rw [partOf, ← parts]
  exact mem_append_right _ (mem_singleton_self _)

theorem Attributed.failures_eq_nil (done : ¬ call.merge.finished < call.tasks.length) :
    call.merge.backendFailures = [] := by
  obtain ⟨-, -, whole⟩ := attributed.received_all ends done
  rw [attributed.failures, filterMap_eq_nil_iff]
  intro item member
  have known := attributed.known item (mem_append_left _ member)
  have mine : item.2 ∈ partOf item.1 received :=
    mem_map_of_mem (mem_filter.mpr ⟨member, by simp⟩)
  rw [whole item.1 _ (getElem?_eq_getElem known)] at mine
  exact (ends _ (getElem_mem known)).fatal? mine

theorem Attributed.interleaves (done : ¬ call.merge.finished < call.tasks.length) :
    ∃ chunks, Interleaves (scripts.map fun script => script.filterMap BackendEvent.payload?) chunks ∧
      call.merge.merged = chunks.flatten := by
  obtain ⟨-, -, whole⟩ := attributed.received_all ends done
  refine ⟨_, ⟨received.filterMap fun item => (item.2.payload?).map fun bytes => (item.1, bytes),
    ?_, ?_, ?_⟩, attributed.merged⟩
  · rw [map_filterMap]
    simp
  · intro item member
    obtain ⟨source, inside, found⟩ := mem_filterMap.mp member
    obtain ⟨bytes, -, rfl⟩ := Option.map_eq_some_iff.mp found
    rw [length_map]
    exact attributed.known source (mem_append_left _ inside)
  · intro index part found
    rw [getElem?_map, Option.map_eq_some_iff] at found
    obtain ⟨script, scriptAt, rfl⟩ := found
    rw [partOf_filterMap, whole index script scriptAt]

end Attribution

/-- The request stream does not fail. -/
def Pump.Fine : Pump → Prop
  | .running (.error _) | .reported (.error _) => False
  | _ => True

/-- The answer of a call: no task has anything left to send, and the message is an interleaving
of what the scripts carry. -/
def Broadcast.Answered (scripts : List (List BackendEvent)) (call : Broadcast) (reply : Reply) :
    Prop :=
  (∀ task ∈ call.tasks, task = []) ∧ call.events = [] ∧
    ∃ chunks metadata trailers,
      Interleaves (scripts.map fun script => script.filterMap BackendEvent.payload?) chunks ∧
      reply = .response metadata (.ok chunks.flatten :: trailing trailers)

/-- The invariant of a broadcast. -/
structure Broadcast.Sound (scripts : List (List BackendEvent)) (call : Broadcast) : Prop where
  fine : call.pump.Fine
  running : call.outcome = none → ∃ received queued, Attributed scripts call received queued
  answered : ∀ reply, call.outcome = some reply → call.Answered scripts reply

section Safety

variable {scripts : List (List BackendEvent)} {call next : Broadcast}

section Running

variable (ends : ∀ script ∈ scripts, Ends script)

include ends

/-- The call concludes with an answer for its scripts. -/
theorem Broadcast.Sound.conclude (sound : call.Sound scripts) (running : call.outcome = none)
    (done : ¬ call.merge.finished < call.tasks.length) :
    call.Answered scripts (call.merge.conclude call.pump) := by
  obtain ⟨received, queued, attributed⟩ := sound.running running
  obtain ⟨idle, empty, -⟩ := attributed.received_all ends done
  obtain ⟨chunks, interleaves, merged⟩ := attributed.interleaves ends done
  refine ⟨idle, empty, chunks, call.merge.responseMetadata, call.merge.trailers, interleaves, ?_⟩
  have fine := sound.fine
  unfold Merge.conclude
  split
  · rename_i failed
    rw [failed] at fine
    exact fine.elim
  · rw [if_neg (not_not.mpr (attributed.failures_eq_nil ends done)), merged]

/-- Every step keeps the call sound. -/
theorem Broadcast.Sound.step (sound : call.Sound scripts) (step : Broadcast.Step false call next) :
    next.Sound scripts := by
  have fine := sound.fine
  have unanswered : ∀ {call : Broadcast}, call.outcome = none →
      ∀ reply, call.outcome = some reply → call.Answered scripts reply :=
    fun running reply answered => nomatch running.symm.trans answered
  cases step with
  | send running taskAt room =>
    obtain ⟨received, queued, attributed⟩ := sound.running running
    exact ⟨fine, fun _ => ⟨_, _, attributed.send taskAt⟩, unanswered running⟩
  | report running pumping =>
    rename_i result
    rw [pumping] at fine
    refine ⟨?_, fun _ => ?_, unanswered running⟩
    · cases result with
      | ok => trivial
      | error status => exact fine
    · obtain ⟨received, queued, attributed⟩ := sound.running running
      exact ⟨received, queued, { attributed with }⟩
  | collect running waiting reported =>
    refine ⟨trivial, fun _ => ?_, unanswered running⟩
    obtain ⟨received, queued, attributed⟩ := sound.running running
    exact ⟨received, queued, { attributed with }⟩
  | refuse running waiting reported =>
    rw [reported] at fine
    exact fine.elim
  | take running waiting yields first =>
    obtain ⟨received, queued, attributed⟩ := sound.running running
    exact ⟨fine, fun _ => attributed.take first, unanswered running⟩
  | stop running waiting yields empty stopped =>
    obtain ⟨received, queued, attributed⟩ := sound.running running
    exact absurd waiting (attributed.not_stopped ends empty stopped)
  | expire running waiting deadline => cases deadline
  | respond running done =>
    have answered := sound.conclude ends running done
    exact ⟨fine, nofun, fun reply same => Option.some.inj same ▸ answered⟩

/-- A loop that waits for an event can take one, or a task can send one. -/
theorem Attributed.exists_step {received queued : List (Nat × BackendEvent)}
    (attributed : Attributed scripts call received queued) (running : call.outcome = none)
    (waiting : call.merge.finished < call.tasks.length) (yields : call.pump.Yields) :
    ∃ next, Broadcast.Step false call next := by
  match first : call.events with
  | event :: rest => exact ⟨_, .take running waiting yields first⟩
  | [] =>
    have busy : ∃ task ∈ call.tasks, task ≠ [] := by
      by_contra idle
      push Not at idle
      exact attributed.not_stopped ends first idle waiting
    obtain ⟨task, member, filled⟩ := busy
    obtain ⟨event, rest, rfl⟩ := exists_cons_of_ne_nil filled
    obtain ⟨index, taskAt⟩ := mem_iff_getElem?.mp member
    have room : call.events.length < call.capacity := by
      rw [first]
      exact lt_of_lt_of_le (by decide) (le_max_left responseBuffer _)
    exact ⟨_, .send running taskAt room⟩

/-- A running call can go on. -/
theorem Broadcast.Sound.exists_step (sound : call.Sound scripts) (running : call.outcome = none) :
    ∃ next, Broadcast.Step false call next := by
  obtain ⟨received, queued, attributed⟩ := sound.running running
  by_cases waiting : call.merge.finished < call.tasks.length
  · have fine := sound.fine
    match pump : call.pump with
    | .reported (.error status) =>
      rw [pump] at fine
      exact fine.elim
    | .reported (.ok ()) => exact ⟨_, .collect running waiting pump⟩
    | .running result =>
      exact attributed.exists_step ends running waiting (by rw [pump]; trivial)
    | .collected => exact attributed.exists_step ends running waiting (by rw [pump]; trivial)
  · exact ⟨_, .respond running waiting⟩

end Running

/-- The steps a request pump has before it. -/
def Pump.rank : Pump → Nat
  | .running _ => 2
  | .reported _ => 1
  | .collected => 0

/-- A bound on the steps a call has before it. -/
def Broadcast.measure (call : Broadcast) : Nat :=
  2 * (call.tasks.map List.length).sum + call.events.length + call.pump.rank +
    if call.outcome.isNone then 1 else 0

theorem sum_length_set {tasks : List (List BackendEvent)} {event : BackendEvent}
    (taskAt : tasks[index]? = some (event :: rest)) :
    ((tasks.set index rest).map List.length).sum + 1 = (tasks.map List.length).sum := by
  induction tasks generalizing index with
  | nil => cases taskAt
  | cons task tasks ih =>
    cases index with
    | zero =>
      cases taskAt
      simp only [set_cons_zero, map_cons, sum_cons, length_cons]
      omega
    | succ index =>
      have shorter := ih taskAt
      simp only [set_cons_succ, map_cons, sum_cons]
      omega

theorem Broadcast.Step.measure_lt {expires : Bool} (step : Broadcast.Step expires call next) :
    next.measure < call.measure := by
  cases step with
  | @send running index event rest taskAt room =>
    have shorter := sum_length_set taskAt
    simp only [measure, length_append, length_singleton]
    omega
  | report running pumping => simp [measure, pumping, Pump.rank]
  | collect running waiting reported => simp [measure, reported, Pump.rank]
  | refuse running | stop running | expire running | respond running => simp [measure, running]
  | take running waiting yields first =>
    simp only [measure, first, length_cons]
    omega

/-- Every call can be run to its answer. -/
theorem Broadcast.Sound.exists_answer (ends : ∀ script ∈ scripts, Ends script)
    (sound : call.Sound scripts) :
    ∃ last reply, Relation.ReflTransGen (Broadcast.Step false) call last ∧
      last.outcome = some reply := by
  induction size : call.measure using Nat.strong_induction_on generalizing call with
  | _ size ih =>
    match answered : call.outcome with
    | some reply => exact ⟨call, reply, .refl, answered⟩
    | none =>
      obtain ⟨next, step⟩ := sound.exists_step ends answered
      obtain ⟨last, reply, reaches, done⟩ :=
        ih next.measure (size ▸ step.measure_lt) (sound.step ends step) rfl
      exact ⟨last, reply, reaches.head step, done⟩

end Safety

section Claim

variable {backends : List (Backend × Upstream)}

theorem ends_scripts (rewrites : ∀ entry ∈ backends, Rewrites entry.1 entry.2) :
    ∀ script ∈ backends.map fun entry => runBroadcastBackend entry.1 entry.2, Ends script := by
  intro script member
  obtain ⟨entry, inside, rfl⟩ := mem_map.mp member
  obtain ⟨events, split, plain, -⟩ := runBroadcastBackend_spec (rewrites entry inside)
  exact ⟨events, split, plain⟩

theorem contributes_scripts (rewrites : ∀ entry ∈ backends, Rewrites entry.1 entry.2) :
    List.Forall₂ (fun entry part => Contributes entry.1 entry.2 part) backends
      ((backends.map fun entry => runBroadcastBackend entry.1 entry.2).map fun script =>
        script.filterMap BackendEvent.payload?) := by
  rw [map_map, List.forall₂_map_right_iff, List.forall₂_same]
  intro entry member
  obtain ⟨events, split, -, contributes⟩ := runBroadcastBackend_spec (rewrites entry member)
  simp only [Function.comp_apply, split, filterMap_append]
  show Contributes entry.1 entry.2 (_ ++ [])
  rw [append_nil]
  exact contributes

theorem sound_start (some : backends ≠ []) :
    (Broadcast.start backends (.ok ())).Sound
      (backends.map fun entry => runBroadcastBackend entry.1 entry.2) := by
  have running : (Broadcast.start backends (.ok ())).outcome = none := if_neg some
  refine ⟨trivial, fun _ => ⟨[], [], rfl, nofun, rfl, ?_, rfl, rfl, rfl⟩, fun reply answered =>
    nomatch running.symm.trans answered⟩
  intro index script task scriptAt taskAt
  exact Option.some.inj (scriptAt.symm.trans taskAt)

/-- A broadcast whose request stream does not fail, without a deadline and with payloads and
errors that can be rewritten: it is answered only when no task has anything left to send, with
an interleaving of what the backends contribute; and from every state it gets there. -/
theorem broadcast_merge_complete (some : backends ≠ [])
    (rewrites : ∀ entry ∈ backends, Rewrites entry.1 entry.2) {call : Broadcast}
    (reaches : Relation.ReflTransGen (Broadcast.Step false) (.start backends (.ok ())) call) :
    (∀ reply, call.outcome = .some reply →
      (∀ task ∈ call.tasks, task = []) ∧ call.events = [] ∧
      ∃ parts chunks metadata trailers,
        List.Forall₂ (fun entry part => Contributes entry.1 entry.2 part) backends parts ∧
        Interleaves parts chunks ∧
        reply = .response metadata (.ok chunks.flatten :: trailing trailers)) ∧
    ∃ last reply, Relation.ReflTransGen (Broadcast.Step false) call last ∧
      last.outcome = .some reply := by
  have ends := ends_scripts rewrites
  have sound := holds_of_reaches reaches (sound_start some) fun step sound => sound.step ends step
  refine ⟨fun reply answered => ?_, sound.exists_answer ends⟩
  obtain ⟨idle, empty, chunks, metadata, trailers, interleaves, same⟩ :=
    sound.answered reply answered
  exact ⟨idle, empty, _, chunks, metadata, trailers, contributes_scripts rewrites, interleaves,
    same⟩

end Claim

namespace Sample

/-- A backend that tags what it answers. -/
def tagging (tag : UInt8) : Backend where
  target := "unix:///run/machine.sock"
  appendInfo payload := .ok (payload ++ [tag])
  buildError _ := .ok (some [tag, 0xff])

/-- One backend answers twice and breaks off, one ends cleanly, one is not reached. -/
def backends : List (Backend × Upstream) :=
  [(tagging 1, .answered [("server", [1])] [[10], [11]] (.error ⟨.unavailable, "reset", []⟩)),
    (tagging 2, .answered [] [[20]] (.ok (some [("took", [2])]))),
    (tagging 3, .unavailable ⟨.unavailable, "backend is closed", []⟩)]

theorem rewrites_backends : ∀ entry ∈ backends, Rewrites entry.1 entry.2 := by
  intro entry member
  have built : ∃ tag, entry.1 = tagging tag := by
    simp only [backends, mem_cons, not_mem_nil, or_false] at member
    rcases member with rfl | rfl | rfl
    · exact ⟨1, rfl⟩
    · exact ⟨2, rfl⟩
    · exact ⟨3, rfl⟩
  obtain ⟨tag, same⟩ := built
  rw [same]
  exact ⟨fun payload _ => ⟨_, rfl⟩, fun status _ => ⟨_, rfl⟩⟩

end Sample

open Sample

theorem broadcast_merge_complete_sample :
    ∃ call reply, Relation.ReflTransGen (Broadcast.Step false)
        (.start backends (.ok ())) call ∧ call.outcome = some reply ∧
      ∃ parts chunks metadata trailers,
        List.Forall₂ (fun entry part => Contributes entry.1 entry.2 part) backends parts ∧
        Interleaves parts chunks ∧
        reply = .response metadata (.ok chunks.flatten :: trailing trailers) := by
  have some : backends ≠ [] := cons_ne_nil _ _
  obtain ⟨-, call, reply, reaches, answered⟩ :=
    broadcast_merge_complete some rewrites_backends .refl
  obtain ⟨each, -⟩ := broadcast_merge_complete some rewrites_backends reaches
  obtain ⟨-, -, merged⟩ := each reply answered
  exact ⟨call, reply, reaches, answered, merged⟩

end Ployz.Proxy
