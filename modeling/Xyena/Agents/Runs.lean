import Xyena.Contracts.Tools
import Xyena.Foundation.PyText
import Xyena.Foundation.Runs

/-!
# Agent runs that end

`cancel_run` of `apps/api/routes/runs.py` and the transactions of `AgentRuntime`
in `packages/agents/runtime.py`, for one run. The runtime waits for the model
between its transactions, and the user may cancel the run while it waits. Some
transactions look at the status before they write it and some do not, so a run
stays as it ended when the latter find it unended. `cancel_run` raises after its
flush and is rolled back, so it ends no run.
-/

namespace Xyena.Agents

open Xyena.Foundation Xyena.Contracts

/-! ## Rows -/

inductive RunStatus where
  | queued
  | assemblingContext
  | runningModel
  | waitingApproval
  | completed
  | failed
  | cancelled
  | expired
  | blocked
deriving DecidableEq, Repr

def RunStatus.value : RunStatus → String
  | .queued => "QUEUED"
  | .assemblingContext => "ASSEMBLING_CONTEXT"
  | .runningModel => "RUNNING_MODEL"
  | .waitingApproval => "WAITING_APPROVAL"
  | .completed => "COMPLETED"
  | .failed => "FAILED"
  | .cancelled => "CANCELLED"
  | .expired => "EXPIRED"
  | .blocked => "BLOCKED"

/-- `TERMINAL_STATES`. -/
def terminalStates : List RunStatus := [.completed, .failed, .cancelled, .expired, .blocked]

structure AgentRun where
  status : RunStatus := .queued
  version : Nat := 1
  inputMessageId : Option String
  resultMessageId : Option String := none
  errorCode : Option String := none
  errorDetail : Option String := none
  usage : Dict := []
  startedAt : Option Time := none
  completedAt : Option Time := none

structure AgentRunStep where
  sequence : Nat
  stepType : String
  status : RunStatus
  outputRef : String
  details : Dict

structure AgentRunEvent where
  sequence : Nat
  eventType : String
  status : RunStatus
  data : Dict
  occurredAt : Time

structure Message where
  id : String
  sequence : Nat
  role : String
  textContent : Option String

/-- The run with the rows that belong to it and to its conversation. -/
structure AgentDb where
  run : AgentRun
  steps : List AgentRunStep := []
  events : List AgentRunEvent := []
  messages : List Message := []
  conversationVersion : Nat := 1

inductive RunFailure where
  | http (status : Nat) (detail : String)
  | runtime (detail : String)
  | integrity
  /-- A view cannot be built from a row. -/
  | validation
  /-- No model call or no cancellation is there to be ended. -/
  | idle
deriving DecidableEq, Repr

/-! ## Transactions -/

/-- What the context assembler returns. -/
structure Assembled where
  snapshotId : String
  estimatedTokens : Int

structure Usage where
  requests : Int
  inputTokens : Int
  outputTokens : Int
  totalTokens : Int

/-- The session's copy of a run. -/
structure LoadedRun where
  run : AgentRun
  /-- `updated_at` has been set by the database and not been read since. -/
  expired : Bool := false

/-- `flush` of an update, whose `updated_at` is an expression of the database. -/
def LoadedRun.flush (row : LoadedRun) : LoadedRun := { row with expired := true }

/-- `RunView.model_validate`. A view has an `updated_at`, and an expired one cannot be loaded there. -/
def LoadedRun.view (row : LoadedRun) : Except RunFailure AgentRun :=
  if row.expired then .error .validation else .ok row.run

/-- `coalesce(max(sequence), 0) + 1`. -/
def nextSequence (sequences : List Nat) : Nat := sequences.foldl max 0 + 1

namespace AgentDb

variable (db : AgentDb)

def addEvent (eventType : String) (status : RunStatus) (data : Dict) (now : Time) : AgentDb :=
  { db with
    events := db.events ++
      [{ sequence := nextSequence (db.events.map AgentRunEvent.sequence), eventType := eventType
         status := status, data := data, occurredAt := now }] }

/-- `cancel_run` up to its check, with the version that it has read. -/
def readCancellation : Except RunFailure Nat :=
  if db.run.status ∈ terminalStates then .error (.http 409 "Run is already terminal")
  else .ok db.run.version

/-- The end of `cancel_run`. The session commits when nothing is raised. -/
def cancel (version : Nat) : Except RunFailure AgentDb :=
  let row : LoadedRun := { run := { db.run with status := .cancelled, version := version + 1 } }
  match row.flush.view with
  | .error failure => .error failure
  | .ok run => .ok { db with run := run }

/-- The cancellation does not commit: `updated_at` is expired when the view is built. -/
theorem cancel_raises (version : Nat) : db.cancel version = .error .validation := rfl

/-- The text of the message that the run answers. -/
def inputText : Option String := do
  let id ← db.run.inputMessageId
  let message ← db.messages.find? fun row ↦ row.id == id
  message.textContent

/-- `_prepare`. The sequences of the steps of a run are unique. -/
def prepare (assembled : Except RunFailure Assembled) (now : Time) : Except RunFailure AgentDb :=
  if db.run.status ≠ .queued ∧ db.run.status ≠ .waitingApproval then
    .error (.runtime ("Agent run cannot start from " ++ db.run.status.value ++ "."))
  else if db.inputText.getD "" == "" then .error (.runtime "Run input message is unavailable.")
  else
    match assembled with
    | .error failure => .error failure
    | .ok assembled =>
      if db.steps.any (fun row ↦ row.sequence == 1) then .error .integrity
      else
        .ok
          { db with
            run :=
              { db.run with
                status := .runningModel
                startedAt := some (db.run.startedAt.getD now) }
            steps := db.steps ++
              [{ sequence := 1, stepType := "CONTEXT_ASSEMBLY", status := .completed
                 outputRef := "context:" ++ assembled.snapshotId
                 details := [("estimated_tokens", .int assembled.estimatedTokens)] }] }

/-- `_mark_waiting`. -/
def markWaiting (callId : String) (now : Time) : AgentDb :=
  let waiting : AgentDb := { db with run := { db.run with status := .waitingApproval } }
  waiting.addEvent "run.waiting_approval" .waitingApproval [("tool_call_id", .str callId)] now

/-- `_mark_failed`. An empty detail is replaced by the code. -/
def markFailed (code : String) (detail : Option String) (now : Time) : AgentDb :=
  let text := if detail.getD "" == "" then code else detail.getD ""
  let failed : AgentDb :=
    { db with
      run :=
        { db.run with
          status := .failed
          errorCode := some (clip 100 code)
          errorDetail := some (clip 4000 text)
          completedAt := some now } }
  failed.addEvent "run.failed" .failed [("error_code", .str code)] now

/-- `_complete`. -/
def complete (messageId output : String) (usage : Usage) (now : Time) : AgentDb :=
  let completed : AgentDb :=
    { db with
      messages := db.messages ++
        [{ id := messageId, sequence := nextSequence (db.messages.map Message.sequence)
           role := "assistant", textContent := some output }]
      run :=
        { db.run with
          resultMessageId := some messageId
          status := .completed
          completedAt := some now
          usage :=
            [("requests", .int usage.requests), ("input_tokens", .int usage.inputTokens),
              ("output_tokens", .int usage.outputTokens), ("total_tokens", .int usage.totalTokens)] }
      conversationVersion := db.conversationVersion + 1 }
  completed.addEvent "run.completed" .completed [] now

/-- The transaction at the start of `resume_after_tool`. -/
def startResumption : AgentDb :=
  { db with run := { db.run with status := .runningModel } }

end AgentDb

/-! ## The run and what is in flight -/

/-- The two ways in which the runtime calls the model. -/
inductive ModelCall where
  | execution
  | resumption
deriving DecidableEq, Repr

/-- The rows with the model calls that are open and the cancellations that have passed their check. -/
structure Runtime where
  db : AgentDb
  modelCalls : List ModelCall := []
  cancellations : List Nat := []

inductive Action where
  | readCancellation
  | cancel (index : Nat)
  /-- The runtime is started without a model key. -/
  | unconfigured (now : Time)
  | prepare (assembled : Except RunFailure Assembled) (now : Time)
  | startResumption
  | markWaiting (callId : String) (now : Time)
  | markFailed (code : String) (detail : Option String) (now : Time)
  | complete (modelCall : ModelCall) (messageId output : String) (usage : Usage) (now : Time)
  /-- A resumption raises, or the worker is gone. -/
  | abandoned (modelCall : ModelCall)

namespace Runtime

variable (w : Runtime)

/-- The end of an open model call. -/
def close (modelCall : ModelCall) (db : AgentDb) : Except RunFailure Unit × Runtime :=
  if modelCall ∈ w.modelCalls then
    (.ok (), { w with db := db, modelCalls := w.modelCalls.erase modelCall })
  else (.error .idle, w)

def step : Action → Except RunFailure Unit × Runtime
  | .readCancellation =>
    match w.db.readCancellation with
    | .ok version => (.ok (), { w with cancellations := w.cancellations ++ [version] })
    | .error failure => (.error failure, w)
  | .cancel index =>
    match w.cancellations[index]? with
    | some version =>
      match w.db.cancel version with
      | .ok db => (.ok (), { w with db := db, cancellations := w.cancellations.eraseIdx index })
      | .error failure =>
        (.error failure, { w with cancellations := w.cancellations.eraseIdx index })
    | none => (.error .idle, w)
  | .unconfigured now =>
    (.ok (), { w with db := w.db.markFailed "MODEL_PROVIDER_NOT_CONFIGURED" none now })
  | .prepare assembled now =>
    match w.db.prepare assembled now with
    | .ok db => (.ok (), { w with db := db, modelCalls := .execution :: w.modelCalls })
    | .error failure => (.error failure, w)
  | .startResumption =>
    (.ok (), { w with db := w.db.startResumption, modelCalls := .resumption :: w.modelCalls })
  | .markWaiting callId now => w.close .execution (w.db.markWaiting callId now)
  | .markFailed code detail now => w.close .execution (w.db.markFailed code detail now)
  | .complete modelCall messageId output usage now =>
    w.close modelCall (w.db.complete messageId output usage now)
  | .abandoned modelCall => w.close modelCall w.db

end Runtime

def runtime : Machine Runtime Action (Except RunFailure Unit) where
  step := Runtime.step

abbrev RuntimeEntry := Entry Runtime Action (Except RunFailure Unit)

/-! ## Who writes over an end -/

/-- The status that an action writes without a look at the one that is there. -/
def Action.overwrites : Action → Option RunStatus
  | .unconfigured _ => some .failed
  | .startResumption => some .runningModel
  | .markWaiting _ _ => some .waitingApproval
  | .markFailed _ _ _ => some .failed
  | .complete _ _ _ _ _ => some .completed
  | _ => none

/-- Whether the model call that an action ends is open. -/
def Runtime.Ready (w : Runtime) : Action → Prop
  | .markWaiting _ _ => .execution ∈ w.modelCalls
  | .markFailed _ _ _ => .execution ∈ w.modelCalls
  | .complete modelCall _ _ _ _ => modelCall ∈ w.modelCalls
  | _ => True

/-- An action that writes a status finds the run unended, or ended in that status. -/
def SparesEnd (e : RuntimeEntry) : Prop :=
  ∀ status, e.input.overwrites = some status → e.before.Ready e.input →
    e.before.db.run.status ∉ terminalStates ∨ e.before.db.run.status = status

section Steps

variable {w : Runtime} {action : Action} {status : RunStatus}

theorem Runtime.close_of_mem {modelCall : ModelCall} (h : modelCall ∈ w.modelCalls) (db : AgentDb) :
    (w.close modelCall db).2.db = db := by
  rw [Runtime.close, if_pos h]

theorem Runtime.close_of_not_mem {modelCall : ModelCall} (h : modelCall ∉ w.modelCalls) (db : AgentDb) :
    (w.close modelCall db).2 = w := by
  rw [Runtime.close, if_neg h]

/-- The status after a write that does not look. -/
theorem status_of_overwrites (hwrites : action.overwrites = some status) (hready : w.Ready action) :
    (runtime.step w action).2.db.run.status = status := by
  cases action with
  | unconfigured now => exact Option.some.inj hwrites
  | startResumption => exact Option.some.inj hwrites
  | markWaiting callId now =>
    rw [← Option.some.inj hwrites]
    simp only [runtime, Runtime.step, Runtime.close_of_mem hready]
    rfl
  | markFailed code detail now =>
    rw [← Option.some.inj hwrites]
    simp only [runtime, Runtime.step, Runtime.close_of_mem hready]
    rfl
  | complete modelCall messageId output usage now =>
    rw [← Option.some.inj hwrites]
    simp only [runtime, Runtime.step, Runtime.close_of_mem hready]
    rfl
  | _ => cases hwrites

/-- Without the model call that it ends, an action changes nothing. -/
theorem kept_of_not_ready (h : ¬w.Ready action) : (runtime.step w action).2 = w := by
  cases action with
  | markWaiting callId now => exact Runtime.close_of_not_mem h _
  | markFailed code detail now => exact Runtime.close_of_not_mem h _
  | complete modelCall messageId output usage now => exact Runtime.close_of_not_mem h _
  | _ => exact absurd trivial h

/-- What a prepared run has passed, and what was written. -/
theorem prepare_ok {db after : AgentDb} {assembled : Except RunFailure Assembled} {now : Time}
    (h : db.prepare assembled now = .ok after) :
    (db.run.status = .queued ∨ db.run.status = .waitingApproval) ∧
      (∀ row ∈ db.steps, row.sequence ≠ 1) ∧
      ∃ row : AgentRunStep, row.sequence = 1 ∧
        after =
          { db with
            run :=
              { db.run with
                status := .runningModel
                startedAt := some (db.run.startedAt.getD now) }
            steps := db.steps ++ [row] } := by
  unfold AgentDb.prepare at h
  split at h
  · cases h
  next hstart =>
    split at h
    · cases h
    · split at h
      · cases h
      · split at h
        · cases h
        next hfirst =>
          refine ⟨?_, ?_, _, rfl, (Except.ok.inj h).symm⟩
          · by_cases hqueued : db.run.status = .queued
            · exact Or.inl hqueued
            · exact Or.inr (not_not.mp fun hwaiting ↦ hstart ⟨hqueued, hwaiting⟩)
          · simpa using hfirst

/-- A run that has ended is not prepared. -/
theorem prepare_of_terminal {db : AgentDb} (h : db.run.status ∈ terminalStates)
    (assembled : Except RunFailure Assembled) (now : Time) :
    ∃ failure, db.prepare assembled now = .error failure := by
  refine ⟨.runtime ("Agent run cannot start from " ++ db.run.status.value ++ "."), ?_⟩
  have hstart : db.run.status ≠ .queued ∧ db.run.status ≠ .waitingApproval := by
    constructor <;> rintro hstatus <;> simp [hstatus, terminalStates] at h
  unfold AgentDb.prepare
  rw [if_pos hstart]

/-- A cancellation, once past its check, changes no row. -/
theorem Runtime.cancel_db (w : Runtime) (index : Nat) : (w.step (.cancel index)).2.db = w.db := by
  simp only [Runtime.step]
  cases w.cancellations[index]? with
  | none => rfl
  | some version => rfl

/-- The other actions keep the status of a run that has ended. -/
theorem status_of_not_overwrites (hwrites : action.overwrites = none)
    (h : w.db.run.status ∈ terminalStates) :
    (runtime.step w action).2.db.run.status = w.db.run.status := by
  cases action with
  | readCancellation =>
    simp only [runtime, Runtime.step]
    split <;> rfl
  | cancel index => exact congrArg (fun db ↦ db.run.status) (w.cancel_db index)
  | prepare assembled now =>
    obtain ⟨failure, hfailure⟩ := prepare_of_terminal h assembled now
    simp only [runtime, Runtime.step, hfailure]
  | abandoned modelCall =>
    simp only [runtime, Runtime.step, Runtime.close]
    split <;> rfl
  | _ => cases hwrites

/-- A step keeps the status of a run that has ended exactly when it writes over no end. -/
theorem kept_iff (w : Runtime) (action : Action) :
    (w.db.run.status ∈ terminalStates →
        (runtime.step w action).2.db.run.status = w.db.run.status) ↔
      SparesEnd (runtime.entry w action) := by
  constructor
  · intro hkept status hwrites hready
    by_cases hended : w.db.run.status ∈ terminalStates
    · exact Or.inr ((hkept hended).symm.trans (status_of_overwrites hwrites hready))
    · exact Or.inl hended
  · intro hspares hended
    cases hwrites : action.overwrites with
    | none => exact status_of_not_overwrites hwrites hended
    | some status =>
      by_cases hready : w.Ready action
      · rcases hspares status hwrites hready with hunended | hsame
        · exact absurd hended hunended
        · exact (status_of_overwrites hwrites hready).trans hsame.symm
      · rw [kept_of_not_ready hready]

end Steps

/-- The status of an agent run is final once it is terminal exactly when every transaction of the run
that writes a status without a look at it finds the run unended, or ended in that status. -/
theorem runs_final_iff (start : Runtime) (actions : List Action) :
    runtime.Final (fun w ↦ w.db.run.status) (· ∈ terminalStates) start actions ↔
      ∀ e ∈ runtime.log start actions, SparesEnd e := by
  rw [Machine.final_iff]
  refine forall₂_congr fun e he ↦ ?_
  obtain ⟨earlier, action, later, -, rfl⟩ := (runtime.mem_log_iff _ _ _).mp he
  exact kept_iff _ action

/-- A run as `add_user_message_and_run` adds it to a conversation with messages. -/
def Runtime.submitted (conversationId messageId content : String) (messages : List Message)
    (conversationVersion : Nat) (now : Time) : Runtime where
  db :=
    { run := { inputMessageId := some messageId }
      events :=
        [{ sequence := 1, eventType := "run.queued", status := .queued
           data := [("conversation_id", .str conversationId)], occurredAt := now }]
      messages := messages ++
        [{ id := messageId, sequence := nextSequence (messages.map Message.sequence), role := "user"
           textContent := some content }]
      conversationVersion := conversationVersion + 1 }

/-- A run as a message of the user adds it. -/
def Runtime.created : Runtime where
  db :=
    { run := { inputMessageId := some "message-1" }
      events :=
        [{ sequence := 1, eventType := "run.queued", status := .queued
           data := [("conversation_id", .str "conversation-1")], occurredAt := 0 }]
      messages := [{ id := "message-1", sequence := 1, role := "user", textContent := some "hello" }] }

/-- The model escalates two calls of one turn and both are approved, so the run is resumed and completed
for the first of them. -/
def answeredFirstCall : List Action :=
  [.prepare (.ok { snapshotId := "snapshot-1", estimatedTokens := 12 }) (seconds 1),
    .markWaiting "call-1" (seconds 5), .startResumption,
    .complete .resumption "message-2" "done"
      { requests := 1, inputTokens := 12, outputTokens := 3, totalTokens := 15 } (seconds 9)]

/-- The resumption for the second call runs the completed run again. -/
theorem completed_run_resumed :
    ¬runtime.Final (fun w ↦ w.db.run.status) (· ∈ terminalStates) Runtime.created
      (answeredFirstCall ++ [.startResumption]) := by
  intro hfinal
  have hkept := hfinal answeredFirstCall _ [] (List.append_nil _).symm (by decide)
  revert hkept
  decide

end Xyena.Agents
