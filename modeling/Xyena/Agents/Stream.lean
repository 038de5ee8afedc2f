import Xyena.Agents.Runs
import Xyena.Foundation.OrderBy

/-!
# The event stream of a run

`_event_stream` of `apps/api/routes/runs.py`, beside the transactions of the run
that it follows. Every poll reads the new events of the run and then, in a
statement of its own, the status; transactions of the run may commit between the
two. The stream ends with a poll that finds no new event and a terminal status.
-/

namespace Xyena.Agents

open Xyena.Foundation Xyena.Contracts

/-- The number of an event, as the queries order it. -/
def AgentRunEvent.number (event : AgentRunEvent) : Int := event.sequence

structure EventStream where
  run : Runtime
  lastSequence : Nat
  /-- The events that the open poll has read. -/
  polled : Option (List AgentRunEvent) := none
  yielded : List AgentRunEvent := []
  /-- The status that ended the stream. -/
  observed : Option RunStatus := none

inductive StreamAction where
  | transaction (action : Action)
  | readEvents
  | readStatus

namespace EventStream

variable (stream : EventStream)

def events : List AgentRunEvent := stream.run.db.events

def status : RunStatus := stream.run.db.run.status

/-- One step, with whether the stream did anything in it. -/
def step : StreamAction → Bool × EventStream
  | .transaction action => (false, { stream with run := (runtime.step stream.run action).2 })
  | .readEvents =>
    if stream.polled.isSome || stream.observed.isSome then (false, stream)
    else
      (true,
        { stream with
          polled := some (Table.orderBy AgentRunEvent.number
            (stream.events.filter fun event ↦ stream.lastSequence < event.sequence)) })
  | .readStatus =>
    match stream.polled with
    | none => (false, stream)
    | some events =>
      (true,
        { stream with
          polled := none
          yielded := stream.yielded ++ events
          lastSequence := (events.getLast?.map AgentRunEvent.sequence).getD stream.lastSequence
          observed := if stream.status ∈ terminalStates ∧ events = [] then some stream.status else none })

/-- The stream of a run from a sequence on, when it is opened. -/
def opened (afterSequence : Nat) (run : Runtime) : EventStream where
  run := run
  lastSequence := afterSequence

end EventStream

def eventStream : Machine EventStream StreamAction Bool where
  step := EventStream.step

abbrev StreamEntry := Entry EventStream StreamAction Bool

/-! ## What the two reads of a poll see -/

/-- The events of the run when the stream last read them. -/
def eventsAtRead (history : List StreamEntry) : List AgentRunEvent :=
  history.foldl
    (fun events e ↦ match e.input with
      | .readEvents => if e.output then e.before.events else events
      | _ => events) []

/-- The events of the run when its status last changed. -/
def eventsAtTransition (start : EventStream) (history : List StreamEntry) : List AgentRunEvent :=
  history.foldl (fun events e ↦ if e.before.status = e.after.status then events else e.after.events)
    start.events

/-- The events that were yielded come in increasing order, each once, from behind the sequence on, and
none is missing that was committed up to the last change of the status. -/
structure Complete (afterSequence : Nat) (start : EventStream) (history : List StreamEntry)
    (yielded : List AgentRunEvent) : Prop where
  increasing : Table.Increasing AgentRunEvent.number yielded
  behind : ∀ event ∈ yielded, afterSequence < event.sequence
  all : ∀ event ∈ eventsAtTransition start history, afterSequence < event.sequence → event ∈ yielded

/-- No event from behind the sequence was committed after the last read of the events and up to the
last change of the status. -/
def NoEventMeanwhile (afterSequence : Nat) (start : EventStream) (history : List StreamEntry) : Prop :=
  ∀ event ∈ eventsAtTransition start history, afterSequence < event.sequence →
    event ∈ eventsAtRead history

/-! ## Events of a run -/

theorem lt_nextSequence {sequences : List Nat} {sequence : Nat} (h : sequence ∈ sequences) :
    sequence < nextSequence sequences := by
  have hmax (sequences : List Nat) (start : Nat) : start ≤ sequences.foldl max start ∧
      ∀ sequence ∈ sequences, sequence ≤ sequences.foldl max start := by
    induction sequences generalizing start with
    | nil => exact ⟨Nat.le_refl start, nofun⟩
    | cons first rest ih =>
      obtain ⟨hstart, hrest⟩ := ih (max start first)
      exact ⟨(Nat.le_max_left _ _).trans hstart,
        List.forall_mem_cons.mpr ⟨(Nat.le_max_right _ _).trans hstart, hrest⟩⟩
  exact Nat.lt_succ_of_le ((hmax sequences 0).2 sequence h)

/-- A transaction of the run adds at most one event, with a sequence that follows all others. -/
theorem events_step (w : Runtime) (action : Action) :
    (runtime.step w action).2.db.events = w.db.events ∨
      ∃ event, (runtime.step w action).2.db.events = w.db.events ++ [event] ∧
        ∀ old ∈ w.db.events, old.number < event.number := by
  have hnew (event : AgentRunEvent)
      (h : event.sequence = nextSequence (w.db.events.map AgentRunEvent.sequence)) :
      ∀ old ∈ w.db.events, old.number < event.number := by
    intro old hold
    simp only [AgentRunEvent.number, h]
    exact_mod_cast lt_nextSequence (List.mem_map_of_mem hold)
  have hclose (modelCall : ModelCall) (db : AgentDb) (event : AgentRunEvent)
      (hevents : db.events = w.db.events ++ [event])
      (h : event.sequence = nextSequence (w.db.events.map AgentRunEvent.sequence)) :
      (w.close modelCall db).2.db.events = w.db.events ∨
        ∃ event, (w.close modelCall db).2.db.events = w.db.events ++ [event] ∧
          ∀ old ∈ w.db.events, old.number < event.number := by
    by_cases hopen : modelCall ∈ w.modelCalls
    · rw [Runtime.close_of_mem hopen]
      exact Or.inr ⟨event, hevents, hnew event h⟩
    · rw [Runtime.close_of_not_mem hopen]
      exact Or.inl rfl
  cases action with
  | readCancellation =>
    simp only [runtime, Runtime.step]
    split <;> exact Or.inl rfl
  | cancel index => exact Or.inl (congrArg AgentDb.events (w.cancel_db index))
  | unconfigured now => exact Or.inr ⟨_, rfl, hnew _ rfl⟩
  | prepare assembled now =>
    simp only [runtime, Runtime.step]
    split
    next db hdb =>
      obtain ⟨-, -, row, -, rfl⟩ := prepare_ok hdb
      exact Or.inl rfl
    · exact Or.inl rfl
  | startResumption => exact Or.inl rfl
  | markWaiting callId now => exact hclose _ _ _ rfl rfl
  | markFailed code detail now => exact hclose _ _ _ rfl rfl
  | complete modelCall messageId output usage now => exact hclose _ _ _ rfl rfl
  | abandoned modelCall =>
    simp only [runtime, Runtime.step, Runtime.close]
    split <;> exact Or.inl rfl

/-! ## What the stream has yielded -/

/-- The stream has yielded the events from behind the sequence up to the last one that it yielded, and it
has read that one. -/
structure StreamInvariant (afterSequence : Nat) (history : List StreamEntry) (stream : EventStream) :
    Prop where
  increasing : Table.Increasing AgentRunEvent.number stream.events
  read : eventsAtRead history <+: stream.events
  polled : ∀ events ∈ stream.polled, events = (eventsAtRead history).filter fun event ↦
    stream.lastSequence < event.sequence
  yielded : stream.yielded = stream.events.filter fun event ↦
    afterSequence < event.sequence ∧ event.sequence ≤ stream.lastSequence
  last : stream.lastSequence = afterSequence ∨
    afterSequence < stream.lastSequence ∧
      ∃ event ∈ eventsAtRead history, event.sequence = stream.lastSequence

section Steps

variable {afterSequence : Nat} {history : List StreamEntry} {stream : EventStream}

theorem eventsAtRead_snoc (history : List StreamEntry) (e : StreamEntry) :
    eventsAtRead (history ++ [e]) = match e.input with
      | .readEvents => if e.output then e.before.events else eventsAtRead history
      | _ => eventsAtRead history := by
  simp only [eventsAtRead, List.foldl_append, List.foldl_cons, List.foldl_nil]

/-- Events that are committed later do not lie before the last one that was yielded. -/
theorem invariant_transaction (h : StreamInvariant afterSequence history stream) (action : Action)
    {history' : List StreamEntry} (hread : eventsAtRead history' = eventsAtRead history) :
    StreamInvariant afterSequence history'
      (eventStream.step stream (.transaction action)).2 := by
  have hkept (events : List AgentRunEvent) (hevents : (runtime.step stream.run action).2.db.events = events)
      (hincreasing : Table.Increasing AgentRunEvent.number events)
      (hgrows : stream.events <+: events)
      (hyielded : stream.yielded = events.filter fun event ↦
        afterSequence < event.sequence ∧ event.sequence ≤ stream.lastSequence) :
      StreamInvariant afterSequence history' (eventStream.step stream (.transaction action)).2 := by
    subst hevents
    exact
      { increasing := hincreasing
        read := hread ▸ h.read.trans hgrows
        polled := hread ▸ h.polled
        yielded := hyielded
        last := hread ▸ h.last }
  rcases events_step stream.run action with hsame | ⟨event, hevents, hnew⟩
  · exact hkept _ hsame h.increasing List.prefix_rfl h.yielded
  · refine hkept _ hevents ?_ (List.prefix_append _ _) ?_
    · refine List.pairwise_append.mpr ⟨h.increasing, List.pairwise_singleton _ _, ?_⟩
      exact fun old hold new hnew' ↦ List.mem_singleton.mp hnew' ▸ hnew old hold
    · -- the new event lies behind the last one that was yielded
      have hlast : ¬(afterSequence < event.sequence ∧ event.sequence ≤ stream.lastSequence) := by
        rcases h.last with hlast | ⟨-, last, hmem, hlast⟩
        · omega
        · have hbehind := hnew last (h.read.subset hmem)
          simp only [AgentRunEvent.number] at hbehind
          omega
      rw [List.filter_append, List.filter_singleton, decide_eq_false hlast]
      exact h.yielded.trans (List.append_nil _).symm

theorem invariant_readEvents (h : StreamInvariant afterSequence history stream) :
    StreamInvariant afterSequence (history ++ [eventStream.entry stream .readEvents])
      (eventStream.step stream .readEvents).2 := by
  cases hopen : stream.polled.isSome || stream.observed.isSome with
  | true =>
    have hstep : eventStream.step stream .readEvents = (false, stream) := by
      simp only [eventStream, EventStream.step, hopen, if_true]
    have hread : eventsAtRead (history ++ [eventStream.entry stream .readEvents]) =
        eventsAtRead history := by
      simp [eventsAtRead_snoc, Machine.entry, hstep]
    rw [hstep]
    exact { h with read := hread ▸ h.read, polled := hread ▸ h.polled, last := hread ▸ h.last }
  | false =>
    have hstep : eventStream.step stream .readEvents =
        (true, { stream with
          polled := some (stream.events.filter fun event ↦ stream.lastSequence < event.sequence) }) := by
      simp only [eventStream, EventStream.step, hopen, (h.increasing.filter _).orderBy_eq]
      rfl
    have hread : eventsAtRead (history ++ [eventStream.entry stream .readEvents]) = stream.events := by
      simp [eventsAtRead_snoc, Machine.entry, hstep]
    rw [hstep]
    refine ⟨h.increasing, hread ▸ List.prefix_rfl, ?_, h.yielded, ?_⟩
    · intro events hevents
      rw [hread]
      exact (Option.some.inj hevents).symm
    · rw [hread]
      refine h.last.imp_right fun ⟨hlt, last, hmem, hlast⟩ ↦ ⟨hlt, last, h.read.subset hmem, hlast⟩

/-- Events in increasing order, divided at a sequence. -/
theorem filter_divide {events : List AgentRunEvent} (h : Table.Increasing AgentRunEvent.number events)
    {first last : Nat} (hle : first ≤ last) :
    events.filter (fun event ↦ first < event.sequence) =
      events.filter (fun event ↦ first < event.sequence ∧ event.sequence ≤ last) ++
        events.filter fun event ↦ last < event.sequence := by
  induction events with
  | nil => rfl
  | cons event rest ih =>
    obtain ⟨hevent, hrest⟩ := List.pairwise_cons.mp h
    have hlater := ih hrest
    by_cases hlast : last < event.sequence
    · -- every event from here on lies behind the division
      have hbehind : ∀ other ∈ event :: rest, last < other.sequence := by
        refine List.forall_mem_cons.mpr ⟨hlast, fun other hother ↦ ?_⟩
        have hlt := hevent other hother
        simp only [AgentRunEvent.number] at hlt
        omega
      have hnone : (event :: rest).filter
          (fun event ↦ first < event.sequence ∧ event.sequence ≤ last) = [] :=
        List.filter_eq_nil_iff.mpr fun other hother hselected ↦
          absurd (of_decide_eq_true hselected).2 (not_le.mpr (hbehind other hother))
      rw [hnone, List.nil_append]
      refine List.filter_congr fun other hother ↦ ?_
      have hother := hbehind other hother
      rw [decide_eq_true hother, decide_eq_true (hle.trans_lt hother)]
    · by_cases hfirst : first < event.sequence
      · simp [hfirst, hlast, not_lt.mp hlast, hlater]
      · simp [hfirst, hlast, hlater]

theorem invariant_readStatus (h : StreamInvariant afterSequence history stream) :
    StreamInvariant afterSequence (history ++ [eventStream.entry stream .readStatus])
      (eventStream.step stream .readStatus).2 := by
  have hread : eventsAtRead (history ++ [eventStream.entry stream .readStatus]) =
      eventsAtRead history := by
    simp [eventsAtRead_snoc, Machine.entry]
  cases hpolled : stream.polled with
  | none =>
    have hstep : eventStream.step stream .readStatus = (false, stream) := by
      simp only [eventStream, EventStream.step, hpolled]
    rw [hstep]
    exact { h with read := hread ▸ h.read, polled := hread ▸ h.polled, last := hread ▸ h.last }
  | some events =>
    have hevents := h.polled events hpolled
    have hafter : afterSequence ≤ stream.lastSequence := by
      rcases h.last with hlast | ⟨hlt, -⟩ <;> omega
    rcases List.eq_nil_or_concat events with rfl | ⟨earlier, newest, hconcat⟩
    · have hstep : (eventStream.step stream .readStatus).2 =
          { stream with
            polled := none
            observed := if stream.status ∈ terminalStates then some stream.status else none } := by
        simp [eventStream, EventStream.step, hpolled]
      rw [hstep]
      exact { h with read := hread ▸ h.read, polled := nofun, last := hread ▸ h.last }
    · rw [List.concat_eq_append] at hconcat
      have hstep : (eventStream.step stream .readStatus).2 =
          { stream with
            polled := none
            yielded := stream.yielded ++ events
            lastSequence := newest.sequence
            observed := none } := by
        simp [eventStream, EventStream.step, hpolled, hconcat]
      have hnewest : newest ∈ events := by simp [hconcat]
      obtain ⟨hmem, hselected⟩ := List.mem_filter.mp (hevents ▸ hnewest)
      have hbehind := of_decide_eq_true hselected
      rw [hstep]
      refine ⟨h.increasing, hread ▸ h.read, nofun, ?_, ?_⟩
      · obtain ⟨newer, hnewer⟩ := h.read
        have hincreasing := h.increasing
        rw [← hnewer] at hincreasing
        obtain ⟨hold, -, hsplit⟩ := List.pairwise_append.mp hincreasing
        have hlater : ∀ event ∈ newer, newest.sequence < event.sequence := by
          intro event hevent
          have hlt := hsplit newest hmem event hevent
          simp only [AgentRunEvent.number] at hlt
          omega
        have hnone (last : Nat) (hlast : last ≤ newest.sequence) : newer.filter
            (fun event ↦ afterSequence < event.sequence ∧ event.sequence ≤ last) = [] :=
          List.filter_eq_nil_iff.mpr fun event hevent hselected ↦
            absurd (of_decide_eq_true hselected).2 (not_le.mpr (hlast.trans_lt (hlater event hevent)))
        have hbound : ∀ event ∈ eventsAtRead history, event.sequence ≤ newest.sequence := by
          intro event hevent
          by_cases hlast : stream.lastSequence < event.sequence
          · have hread : event ∈ earlier ++ [newest] := by
              rw [← hconcat, hevents]
              exact List.mem_filter.mpr ⟨hevent, decide_eq_true hlast⟩
            have hpolledOrder : Table.Increasing AgentRunEvent.number (earlier ++ [newest]) := by
              rw [← hconcat, hevents]
              exact Table.Increasing.filter hold _
            rcases List.mem_append.mp hread with hearlier | hlatest
            · have hlt := (List.pairwise_append.mp hpolledOrder).2.2 event hearlier newest
                (List.mem_singleton.mpr rfl)
              simp only [AgentRunEvent.number] at hlt
              omega
            · rw [List.mem_singleton.mp hlatest]
          · omega
        have hall : (eventsAtRead history).filter
              (fun event ↦ afterSequence < event.sequence ∧ event.sequence ≤ newest.sequence) =
            (eventsAtRead history).filter fun event ↦ afterSequence < event.sequence := by
          refine List.filter_congr fun event hevent ↦ ?_
          simp [hbound event hevent]
        calc stream.yielded ++ events
            = (eventsAtRead history).filter (fun event ↦
                afterSequence < event.sequence ∧ event.sequence ≤ stream.lastSequence) ++
                (eventsAtRead history).filter fun event ↦ stream.lastSequence < event.sequence := by
              rw [h.yielded, ← hnewer, List.filter_append, hnone _ hbehind.le, List.append_nil, ← hevents]
          _ = (eventsAtRead history).filter fun event ↦ afterSequence < event.sequence :=
              (filter_divide hold hafter).symm
          _ = stream.events.filter fun event ↦
                afterSequence < event.sequence ∧ event.sequence ≤ newest.sequence := by
              rw [← hnewer, List.filter_append, hnone _ le_rfl, List.append_nil, hall]
      · exact Or.inr ⟨hafter.trans_lt hbehind, newest, hread ▸ hmem, rfl⟩

theorem streamInvariant_run (afterSequence : Nat) (start : Runtime)
    (hstart : Table.Increasing AgentRunEvent.number start.db.events) (actions : List StreamAction) :
    StreamInvariant afterSequence (eventStream.log (.opened afterSequence start) actions)
      (eventStream.run (.opened afterSequence start) actions) := by
  refine eventStream.history_invariant_all (StreamInvariant afterSequence) ?_ ?_ actions
  · refine ⟨hstart, List.nil_prefix, nofun, ?_, Or.inl rfl⟩
    refine (List.filter_eq_nil_iff.mpr fun event _ hselected ↦ ?_).symm
    have hbounds := of_decide_eq_true hselected
    exact absurd hbounds.1 (not_lt.mpr hbounds.2)
  · intro history stream action h
    cases action with
    | transaction action => exact invariant_transaction h action (eventsAtRead_snoc _ _)
    | readEvents => exact invariant_readEvents h
    | readStatus => exact invariant_readStatus h

end Steps

/-- A poll that ends the stream has found no event and a terminal status. -/
theorem ends_of_observed {stream : EventStream} {status : RunStatus} (hopen : stream.observed = none)
    (h : (eventStream.step stream .readStatus).2.observed = some status) :
    stream.polled = some [] ∧ (eventStream.step stream .readStatus).2.yielded = stream.yielded := by
  cases hpolled : stream.polled with
  | none =>
    simp only [eventStream, EventStream.step, hpolled, hopen] at h
    cases h
  | some events =>
    simp only [eventStream, EventStream.step, hpolled] at h ⊢
    split at h
    next hends =>
      rw [hends.2, List.append_nil]
      exact ⟨rfl, rfl⟩
    · cases h

/-- When the stream of a run ends, it has yielded every event of the run from behind its sequence on that
was committed up to the change to the status that it observed, in increasing order and each once,
exactly when no such event was committed after its last poll had read the events. -/
theorem stream_complete_iff (afterSequence : Nat) (conversationId messageId content : String)
    (messages : List Message) (conversationVersion : Nat) (now : Time) (actions : List StreamAction)
    (status : RunStatus)
    (hopen : (eventStream.run (.opened afterSequence
      (.submitted conversationId messageId content messages conversationVersion now))
      actions).observed = none)
    (hends : (eventStream.run (.opened afterSequence
      (.submitted conversationId messageId content messages conversationVersion now))
      (actions ++ [.readStatus])).observed = some status) :
    let start := EventStream.opened afterSequence
      (.submitted conversationId messageId content messages conversationVersion now)
    Complete afterSequence start (eventStream.log start actions)
        (eventStream.run start (actions ++ [.readStatus])).yielded ↔
      NoEventMeanwhile afterSequence start (eventStream.log start actions) := by
  intro start
  have hstart : Table.Increasing AgentRunEvent.number
      (Runtime.submitted conversationId messageId content messages conversationVersion now).db.events :=
    List.pairwise_singleton _ _
  have h := streamInvariant_run afterSequence _ hstart actions
  rw [Machine.run_snoc] at hends ⊢
  obtain ⟨hpolled, hyielded⟩ := ends_of_observed hopen hends
  have hread : (eventsAtRead (eventStream.log start actions)).filter (fun event ↦
      (eventStream.run start actions).lastSequence < event.sequence) = [] := (h.polled [] hpolled).symm
  rw [List.filter_eq_nil_iff] at hread
  rw [hyielded, h.yielded]
  constructor
  · intro hcomplete event hevent hafter
    obtain ⟨hmem, hselected⟩ := List.mem_filter.mp (hcomplete.all event hevent hafter)
    have hlast := (of_decide_eq_true hselected).2
    obtain ⟨newer, hnewer⟩ := h.read
    rw [← hnewer] at hmem
    refine (List.mem_append.mp hmem).resolve_right fun hnew ↦ ?_
    -- the last yielded event was read, and the newer ones lie behind it
    rcases h.last with hnothing | ⟨-, last, hread, hsequence⟩
    · omega
    · have hincreasing := h.increasing
      rw [← hnewer] at hincreasing
      have hlt := (List.pairwise_append.mp hincreasing).2.2 last hread event hnew
      simp only [AgentRunEvent.number] at hlt
      omega
  · intro hmeanwhile
    refine ⟨h.increasing.filter _, fun event hevent ↦ ?_, fun event hevent hafter ↦ ?_⟩
    · exact (of_decide_eq_true (List.mem_filter.mp hevent).2).1
    · have hmem := hmeanwhile event hevent hafter
      have hlast := not_lt.mp fun hlt ↦ hread event hmem (decide_eq_true hlt)
      exact List.mem_filter.mpr ⟨h.read.subset hmem, decide_eq_true ⟨hafter, hlast⟩⟩

/-! ## A lost event -/

/-- A run with one message, and its stream from the start. -/
def sampleStream : EventStream := .opened 0 (.submitted "conversation-1" "message-1" "hello" [] 1 0)

def completedRun : StreamAction :=
  .transaction (.complete .execution "message-2" "done"
    { requests := 1, inputTokens := 12, outputTokens := 3, totalTokens := 15 } (seconds 9))

/-- The first poll yields the event of the start, while the model answers. -/
def firstPoll : List StreamAction :=
  [.transaction (.prepare (.ok { snapshotId := "snapshot-1", estimatedTokens := 12 }) (seconds 1)),
    .readEvents, .readStatus]

/-- The run is completed before the next poll, and one more poll finds nothing new. -/
theorem stream_complete_after :
    Complete 0 sampleStream
        (eventStream.log sampleStream
          (firstPoll ++ [completedRun, .readEvents, .readStatus, .readEvents]))
        (eventStream.run sampleStream
          (firstPoll ++ [completedRun, .readEvents, .readStatus, .readEvents] ++
            [.readStatus])).yielded ↔
      NoEventMeanwhile 0 sampleStream
        (eventStream.log sampleStream
          (firstPoll ++ [completedRun, .readEvents, .readStatus, .readEvents])) :=
  stream_complete_iff 0 "conversation-1" "message-1" "hello" [] 1 0
    (firstPoll ++ [completedRun, .readEvents, .readStatus, .readEvents]) .completed (by decide)
    (by decide)

/-- The run is completed between the two reads of a poll. The stream ends without the last event. -/
theorem completed_event_lost :
    (eventStream.run sampleStream (firstPoll ++ [.readEvents, completedRun])).observed = none ∧
      (eventStream.run sampleStream
        (firstPoll ++ [.readEvents, completedRun] ++ [.readStatus])).observed = some .completed ∧
      ¬Complete 0 sampleStream
        (eventStream.log sampleStream (firstPoll ++ [.readEvents, completedRun]))
        (eventStream.run sampleStream
          (firstPoll ++ [.readEvents, completedRun] ++ [.readStatus])).yielded := by
  refine ⟨by decide, by decide, fun hcomplete ↦ ?_⟩
  have hlast : 2 ∈ (eventsAtTransition sampleStream
      (eventStream.log sampleStream (firstPoll ++ [.readEvents, completedRun]))).map
        AgentRunEvent.sequence := by decide
  obtain ⟨event, hevent, hsequence⟩ := List.mem_map.mp hlast
  have hyielded := List.mem_map_of_mem (f := AgentRunEvent.sequence)
    (hcomplete.all event hevent (by omega))
  rw [hsequence] at hyielded
  revert hyielded
  decide

end Xyena.Agents
