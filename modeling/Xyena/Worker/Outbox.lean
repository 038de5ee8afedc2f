import Xyena.Contracts.Tools
import Xyena.Foundation.Calendar
import Xyena.Foundation.OrderBy
import Xyena.Foundation.OwnedRows
import Xyena.Foundation.PyText
import Xyena.Foundation.Runs

/-!
# The outbox and its publishers

`publish_outbox_one` of `apps/worker/main.py` over the rows that `enqueue_outbox` of
`packages/audit/service.py` adds. A publisher locks the row that it has read, posts
it while its transaction is open, and writes the outcome of the attempt at the end.
Rows that another publisher has locked are skipped. Other transactions may add rows
at any time, the endpoint answers as it likes, and a publisher may be lost after
its request as well as before it.
-/

namespace Xyena.Worker.Outbox

open Xyena.Foundation Xyena.Contracts

/-! ## Rows -/

structure OutboxEvent where
  id : Uuid
  tenantId : Uuid
  aggregateType : String
  aggregateId : Uuid
  aggregateVersion : Int
  eventType : String
  schemaVersion : String
  payload : Dict
  correlationId : Uuid
  createdAt : Time
  publishedAt : Option Time := none
  attemptCount : Nat := 0
  lastError : Option String := none

/-- One call of `enqueue_outbox`, with the identifier and the instant that it draws. -/
structure Enqueued where
  id : Uuid
  tenantId : Uuid
  aggregateType : String
  aggregateId : Uuid
  aggregateVersion : Int
  eventType : String
  correlationId : Uuid
  payload : Dict
  now : Time

def enqueueOutbox (event : Enqueued) : OutboxEvent where
  id := event.id
  tenantId := event.tenantId
  aggregateType := event.aggregateType
  aggregateId := event.aggregateId
  aggregateVersion := event.aggregateVersion
  eventType := event.eventType
  schemaVersion := "1.0"
  payload := event.payload
  correlationId := event.correlationId
  createdAt := event.now

/-! ## Requests -/

structure Delivery where
  endpoint : String
  headers : List (String × String)
  envelope : Json

/-- The envelope of an event. `isoformat` is the text of an instant, in the time zone that the database has
answered in; in UTC it is `Calendar.isoformat`. -/
def envelope (isoformat : Time → String) (event : OutboxEvent) : Json :=
  .obj [("id", .str event.id.str),
    ("tenant_id", .str event.tenantId.str),
    ("aggregate_type", .str event.aggregateType),
    ("aggregate_id", .str event.aggregateId.str),
    ("aggregate_version", .int event.aggregateVersion),
    ("event_type", .str event.eventType),
    ("schema_version", .str event.schemaVersion),
    ("payload", .obj event.payload),
    ("correlation_id", .str event.correlationId.str),
    ("created_at", .str (isoformat event.createdAt))]

structure WorkerSettings where
  eventWebhookUrl : Option String
  serviceToken : Option String

/-- What `post` and `raise_for_status` come to: nothing, or the text of what they raise. -/
abbrev Reply := Except String Unit

/-- The transaction of a publisher, with the row as it has read it. -/
structure Sending where
  worker : String
  row : OutboxEvent
  endpoint : String
  serviceToken : Option String
  reply : Option Reply := none

def Sending.delivery (isoformat : Time → String) (sending : Sending) : Delivery where
  endpoint := sending.endpoint
  headers := [("Content-Type", "application/json"), ("X-Correlation-ID", sending.row.correlationId.str),
    ("X-Xyena-Event-ID", sending.row.id.str)] ++
      (sending.serviceToken.map fun token ↦ ("Authorization", "Bearer " ++ token)).toList
  envelope := envelope isoformat sending.row

/-- What an attempt leaves in `last_error`. -/
def errorOf : Reply → Option String
  | .ok _ => none
  | .error text => some (clip 4000 text)

/-- The columns that an attempt assigns. The count is the one that was read, and one more. -/
def settled (read : OutboxEvent) (reply : Reply) (now : Time) (stored : OutboxEvent) : OutboxEvent :=
  { stored with
    publishedAt := if reply.isOk then some now else stored.publishedAt
    attemptCount := read.attemptCount + 1
    lastError := errorOf reply }

/-! ## The outbox -/

structure State where
  rows : List OutboxEvent := []
  sessions : List Sending := []

inductive Step where
  | enqueue (events : List Enqueued)
  | begin (worker : String) (settings : WorkerSettings)
  | post (worker : String) (reply : Reply)
  | commit (worker : String) (now : Time)
  /-- The publisher is gone, or its transaction fails. -/
  | lost (worker : String)

inductive Notice where
  | nothing
  | stored
  /-- `publish_outbox_one` has nothing to do. -/
  | returned
  | posted (id : Uuid) (delivery : Delivery) (reply : Reply)
  /-- An attempt is written down, and `publish_outbox_one` returns whether it has succeeded. -/
  | attempted (id : Uuid) (reply : Reply)

namespace State

variable (isoformat : Time → String) (state : State)

def busy (worker : String) : Bool := state.sessions.any fun sending ↦ sending.worker == worker

def locked (id : Uuid) : Bool := state.sessions.any fun sending ↦ sending.row.id == id

def session (worker : String) : Option Sending := Table.lookup Sending.worker worker state.sessions

/-- The transactions of the other publishers. -/
def others (worker : String) : List Sending := state.sessions.filter fun sending ↦ sending.worker != worker

/-- The row that is published next: the oldest one that is neither published nor locked. Of rows with one
instant it is the one that was added first, where the database may return any. -/
def nextEvent : Option OutboxEvent :=
  (Table.orderBy OutboxEvent.createdAt
    (state.rows.filter fun row ↦ row.publishedAt.isNone && !state.locked row.id)).head?

def step : Step → Notice × State
  | .enqueue events =>
    let rows := state.rows ++ events.map enqueueOutbox
    if (rows.map OutboxEvent.id).Nodup then (.stored, { state with rows := rows }) else (.nothing, state)
  | .begin worker settings =>
    if state.busy worker then (.nothing, state)
    else
      match settings.eventWebhookUrl, state.nextEvent with
      | some endpoint, some row =>
        (.nothing,
          { state with sessions := ⟨worker, row, endpoint, settings.serviceToken, none⟩ :: state.sessions })
      | _, _ => (.returned, state)
  | .post worker reply =>
    match state.session worker with
    | some ⟨_, row, endpoint, token, none⟩ =>
      (.posted row.id (Sending.delivery isoformat ⟨worker, row, endpoint, token, none⟩) reply,
        { state with sessions := ⟨worker, row, endpoint, token, some reply⟩ :: state.others worker })
    | _ => (.nothing, state)
  | .commit worker now =>
    match state.session worker with
    | some ⟨_, row, _, _, some reply⟩ =>
      (.attempted row.id reply,
        { rows := state.rows.map fun stored ↦
            if stored.id == row.id then settled row reply now stored else stored
          sessions := state.others worker })
    | _ => (.nothing, state)
  | .lost worker => (.nothing, { state with sessions := state.others worker })

end State

def outbox (isoformat : Time → String) : Machine State Step Notice where
  step := State.step isoformat

abbrev Record := Entry State Step Notice

/-! ## What a step can do -/

/-- A step that does something. -/
inductive Move (isoformat : Time → String) (state : State) : Step → Notice → State → Prop
  | enqueued (events : List Enqueued)
      (hkeys : ((state.rows ++ events.map enqueueOutbox).map OutboxEvent.id).Nodup) :
    Move isoformat state (.enqueue events) .stored
      { state with rows := state.rows ++ events.map enqueueOutbox }
  | begun (worker : String) (settings : WorkerSettings) (endpoint : String) (row : OutboxEvent)
      (hidle : state.busy worker = false) (hrow : state.nextEvent = some row) :
    Move isoformat state (.begin worker settings) .nothing
      { state with sessions := ⟨worker, row, endpoint, settings.serviceToken, none⟩ :: state.sessions }
  | posted (worker : String) (reply : Reply) (sending : Sending)
    (hsending : state.session worker = some sending)
      (hreply : sending.reply = none) :
    Move isoformat state (.post worker reply) (.posted sending.row.id (sending.delivery isoformat) reply)
      { state with sessions := { sending with reply := some reply } :: state.others worker }
  | attempted (worker : String) (now : Time) (sending : Sending) (reply : Reply)
      (hsending : state.session worker = some sending) (hreply : sending.reply = some reply) :
    Move isoformat state (.commit worker now) (.attempted sending.row.id reply)
      { rows := state.rows.map fun stored ↦
          if stored.id == sending.row.id then settled sending.row reply now stored else stored
        sessions := state.others worker }
  | lost (worker : String) :
    Move isoformat state (.lost worker) .nothing { state with sessions := state.others worker }

theorem session_spec {state : State} {worker : String} {sending : Sending}
    (h : state.session worker = some sending) : sending ∈ state.sessions ∧ sending.worker = worker :=
  Table.lookup_spec h

theorem step_cases (isoformat : Time → String) (state : State) (input : Step) :
    (state.step isoformat input).2 = state ∧ (state.step isoformat input).1 ∈ [.nothing, .returned] ∨
      Move isoformat state input (state.step isoformat input).1 (state.step isoformat input).2 := by
  cases input with
  | enqueue events =>
    simp only [State.step]
    split
    next hkeys => exact Or.inr (.enqueued events hkeys)
    · exact Or.inl ⟨rfl, by simp⟩
  | begin worker settings =>
    simp only [State.step]
    split
    · exact Or.inl ⟨rfl, by simp⟩
    next hidle =>
      split
      next endpoint row hendpoint hrow =>
        exact Or.inr (.begun worker settings endpoint row (by simpa using hidle) hrow)
      · exact Or.inl ⟨rfl, by simp⟩
  | post worker reply =>
    simp only [State.step]
    split
    next holder row endpoint token hsending =>
      obtain rfl : holder = worker := (session_spec hsending).2
      exact Or.inr (.posted holder reply _ hsending rfl)
    · exact Or.inl ⟨rfl, by simp⟩
  | commit worker now =>
    simp only [State.step]
    split
    next holder row endpoint token reply hsending => exact Or.inr (.attempted worker now _ reply hsending rfl)
    · exact Or.inl ⟨rfl, by simp⟩
  | lost worker => exact Or.inr (.lost worker)

section Sessions

variable {state : State} {worker : String} {sending : Sending}

theorem mem_others : sending ∈ state.others worker ↔ sending ∈ state.sessions ∧ sending.worker ≠ worker := by
  simp [State.others]

theorem nextEvent_spec {row : OutboxEvent} (h : state.nextEvent = some row) :
    row ∈ state.rows ∧ row.publishedAt = none ∧ (∀ sending ∈ state.sessions, sending.row.id ≠ row.id) ∧
      ∀ older ∈ state.rows, older.createdAt < row.createdAt → older.publishedAt.isSome = true ∨
        ∃ sending ∈ state.sessions, sending.row.id = older.id := by
  obtain ⟨hselected, hfirst⟩ := Table.head_orderBy h
  obtain ⟨hrow, hfree⟩ := List.mem_filter.mp hselected
  obtain ⟨hunpublished, hunlocked⟩ := Bool.and_eq_true_iff.mp hfree
  refine ⟨hrow, Option.isNone_iff_eq_none.mp hunpublished, by simpa [State.locked] using hunlocked, ?_⟩
  intro older holder hlt
  by_contra hnot
  rw [not_or, Bool.not_eq_true, Option.isSome_eq_false_iff] at hnot
  obtain ⟨hopen, hheld⟩ := hnot
  have hfree : state.locked older.id = false := by simpa [State.locked] using hheld
  refine absurd hlt (not_lt.mpr (hfirst older (List.mem_filter.mpr ⟨holder, ?_⟩)))
  rw [hopen, hfree]
  rfl

end Sessions

end Xyena.Worker.Outbox
