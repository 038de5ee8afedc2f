import Xyena.Agents.Runs
import Xyena.Worker.Jobs

/-!
# Runs that nothing carries on

One run with its jobs and the workers that handle them: `Worker.process_one` and
`recover_expired_lease` of `apps/worker/main.py`, `handle_agent_run` and
`handle_mcp_resume` of `apps/worker/handlers.py`, and what `ToolBroker.resume`
lets pass. A handler may raise or be lost between any two transactions, and a
lease may expire while its handler works on. A job that is given up does not
touch its run.
-/

namespace Xyena.Agents

open Xyena.Foundation Xyena.Contracts
open Xyena.Worker (Job JobState)

/-! ## Jobs and attempts -/

inductive JobType where
  | agentRun
  | mcpResume (callId : String)
deriving DecidableEq

structure RunJob where
  type : JobType
  row : Job

/-- How far a handler has come. -/
inductive Phase where
  | started
  /-- The gateway has answered with the result of the approved call. -/
  | resumed
  /-- The run is in `RUNNING_MODEL` for this handler. -/
  | modelling
  | returned
  | raised (error : String)
deriving DecidableEq

/-- What a worker does with the job that it has claimed last. -/
structure Attempt where
  job : Nat
  type : JobType
  phase : Phase
deriving DecidableEq

/-- The phase in which a handler looks for the model key. -/
def Attempt.keyPhase (attempt : Attempt) : Phase :=
  if attempt.type = .agentRun then .started else .resumed

/-- The rows of a run, its jobs, and everything in flight. A tool call that waited for approval is kept
with whether it still waits. -/
structure Platform where
  db : AgentDb
  calls : String → Option Bool := fun _ ↦ none
  jobs : List RunJob
  attempts : String → Option Attempt := fun _ ↦ none
  cancellations : List Nat := []

/-- How a call of the gateway ends for the worker. A lost answer is one of a committed call. -/
inductive ResumeOutcome where
  | answered
  | rejected
  | lost

inductive PlatformAction where
  | readCancellation
  | cancel (index : Nat)
  /-- The broker stores a call that needs an approval. -/
  | awaitApproval (callId : String)
  /-- An approval is granted, which adds a job. -/
  | approve (callId : String) (now : Time)
  | processOne (worker : String) (index : Nat) (clock : Nat → Time)
  | recoverExpiredLease (index : Nat) (clock : Nat → Time)
  | unconfigured (worker : String) (now : Time)
  | prepare (worker : String) (assembled : Except RunFailure Assembled) (now : Time)
  /-- The handler raises the error when it gets no answer. -/
  | resumeCall (worker : String) (outcome : ResumeOutcome) (error : String)
  | startResumption (worker : String)
  | markWaiting (worker : String) (callId : String) (now : Time)
  | markFailed (worker : String) (code : String) (detail : Option String) (now : Time)
  | complete (worker : String) (messageId output : String) (usage : Usage) (now : Time)
  | raise (worker : String) (error : String)
  | completed (worker : String)
  | failed (worker : String) (now : Time)
  | abandoned (worker : String)

def RunFailure.text : RunFailure → String
  | .http _ detail => detail
  | .runtime detail => detail
  | .integrity => "IntegrityError"
  | .validation => "ValidationError"
  | .idle => ""

namespace Platform

variable (p : Platform)

def status : RunStatus := p.db.run.status

/-- The run with another row of one of its jobs. -/
def setRow (index : Nat) (row : Job) : Platform :=
  { p with jobs := p.jobs.modify index fun job ↦ { job with row := row } }

def setAttempt (worker : String) (attempt : Option Attempt) : Platform :=
  { p with attempts := Function.update p.attempts worker attempt }

def setPhase (worker : String) (attempt : Attempt) (phase : Phase) : Platform :=
  p.setAttempt worker (some { attempt with phase := phase })

/-- The transaction of a handler that ends it. -/
def settle (worker : String) (attempt : Attempt) (db : AgentDb) : Platform :=
  { p with db := db }.setPhase worker attempt .returned

def step : PlatformAction → Except RunFailure Unit × Platform
  | .readCancellation =>
    match p.db.readCancellation with
    | .ok version => (.ok (), { p with cancellations := p.cancellations ++ [version] })
    | .error failure => (.error failure, p)
  | .cancel index =>
    match p.cancellations[index]? with
    | some version =>
      match p.db.cancel version with
      | .ok db => (.ok (), { p with db := db, cancellations := p.cancellations.eraseIdx index })
      | .error failure =>
        (.error failure, { p with cancellations := p.cancellations.eraseIdx index })
    | none => (.error .idle, p)
  | .awaitApproval callId =>
    if (p.calls callId).isSome then (.error .idle, p)
    else (.ok (), { p with calls := Function.update p.calls callId (some true) })
  | .approve callId now =>
    if (p.calls callId).isSome then
      (.ok (),
        { p with jobs := p.jobs ++ [{ type := .mcpResume callId, row := { availableAt := now } }] })
    else (.error .idle, p)
  | .processOne worker index clock =>
    match p.attempts worker, p.jobs[index]? with
    | none, some job =>
      match job.row.claim worker clock with
      | some row =>
        (.ok (), (p.setRow index row).setAttempt worker (some ⟨index, job.type, .started⟩))
      | none => (.error .idle, p)
    | _, _ => (.error .idle, p)
  | .recoverExpiredLease index clock =>
    match p.jobs[index]? with
    | some job =>
      match job.row.recoverExpiredLease clock with
      | some row => (.ok (), p.setRow index row)
      | none => (.error .idle, p)
    | none => (.error .idle, p)
  | .unconfigured worker now =>
    match p.attempts worker with
    | some attempt =>
      if attempt.phase = attempt.keyPhase then
        (.ok (), p.settle worker attempt (p.db.markFailed "MODEL_PROVIDER_NOT_CONFIGURED" none now))
      else (.error .idle, p)
    | none => (.error .idle, p)
  | .prepare worker assembled now =>
    match p.attempts worker with
    | some attempt =>
      if attempt.type = .agentRun ∧ attempt.phase = .started then
        match p.db.prepare assembled now with
        | .ok db => (.ok (), { p with db := db }.setPhase worker attempt .modelling)
        | .error failure => (.error failure, p.setPhase worker attempt (.raised failure.text))
      else (.error .idle, p)
    | none => (.error .idle, p)
  | .resumeCall worker outcome error =>
    match p.attempts worker with
    | some attempt =>
      match attempt.type, attempt.phase with
      | .mcpResume callId, .started =>
        if p.calls callId = some true then
          match outcome with
          | .answered =>
            (.ok (), { p with calls := Function.update p.calls callId (some false) }.setPhase
              worker attempt .resumed)
          | .rejected => (.ok (), p.setPhase worker attempt (.raised error))
          | .lost =>
            (.ok (), { p with calls := Function.update p.calls callId (some false) }.setPhase
              worker attempt (.raised error))
        else (.ok (), p.setPhase worker attempt (.raised error))
      | _, _ => (.error .idle, p)
    | none => (.error .idle, p)
  | .startResumption worker =>
    match p.attempts worker with
    | some attempt =>
      if attempt.type ≠ .agentRun ∧ attempt.phase = .resumed then
        (.ok (), { p with db := p.db.startResumption }.setPhase worker attempt .modelling)
      else (.error .idle, p)
    | none => (.error .idle, p)
  | .markWaiting worker callId now =>
    match p.attempts worker with
    | some attempt =>
      if attempt.type = .agentRun ∧ attempt.phase = .modelling then
        (.ok (), p.settle worker attempt (p.db.markWaiting callId now))
      else (.error .idle, p)
    | none => (.error .idle, p)
  | .markFailed worker code detail now =>
    match p.attempts worker with
    | some attempt =>
      if attempt.type = .agentRun ∧ attempt.phase = .modelling then
        (.ok (), p.settle worker attempt (p.db.markFailed code detail now))
      else (.error .idle, p)
    | none => (.error .idle, p)
  | .complete worker messageId output usage now =>
    match p.attempts worker with
    | some attempt =>
      if attempt.phase = .modelling then
        (.ok (), p.settle worker attempt (p.db.complete messageId output usage now))
      else (.error .idle, p)
    | none => (.error .idle, p)
  | .raise worker error =>
    match p.attempts worker with
    | some attempt =>
      if attempt.phase = .started ∨ attempt.phase = .resumed ∨ attempt.phase = .modelling then
        (.ok (), p.setPhase worker attempt (.raised error))
      else (.error .idle, p)
    | none => (.error .idle, p)
  | .completed worker =>
    match p.attempts worker with
    | some attempt =>
      match attempt.phase, p.jobs[attempt.job]? with
      | .returned, some job => (.ok (), (p.setRow attempt.job job.row.complete).setAttempt worker none)
      | _, _ => (.error .idle, p)
    | none => (.error .idle, p)
  | .failed worker now =>
    match p.attempts worker with
    | some attempt =>
      match attempt.phase, p.jobs[attempt.job]? with
      | .raised error, some job =>
        (.ok (), (p.setRow attempt.job (job.row.fail error now)).setAttempt worker none)
      | _, _ => (.error .idle, p)
    | none => (.error .idle, p)
  | .abandoned worker => (.ok (), p.setAttempt worker none)

/-- A run as it is submitted, with the job that is added for it. -/
def submitted (conversationId messageId content : String) (messages : List Message)
    (conversationVersion : Nat) (now : Time) : Platform where
  db := (Runtime.submitted conversationId messageId content messages conversationVersion now).db
  jobs := [{ type := .agentRun, row := { availableAt := now } }]

end Platform

def platform : Machine Platform PlatformAction (Except RunFailure Unit) where
  step := Platform.step

/-! ## Stranded runs -/

/-- The run has ended or waits for the user. -/
def Settled (status : RunStatus) : Prop := status ∈ terminalStates ∨ status = .waitingApproval

instance (status : RunStatus) : Decidable (Settled status) := inferInstanceAs (Decidable (_ ∨ _))

instance (state : JobState) : Decidable state.Terminal := inferInstanceAs (Decidable (_ ∨ _))

/-- Every job of the run is done with, while the run is neither ended nor waiting. -/
def Stranded (p : Platform) : Prop :=
  (∀ job ∈ p.jobs, job.row.state.Terminal) ∧ ¬Settled p.status

instance (p : Platform) : Decidable (Stranded p) := inferInstanceAs (Decidable (_ ∧ _))

/-- The next failure of a job is its last one. -/
def LastAttempt (job : RunJob) : Prop := job.row.maxAttempts ≤ job.row.attempts

/-- A job is given up only when its run has ended or waits, and a handler that moves the run to
`RUNNING_MODEL` does so before its job is done with. -/
def Carries (p : Platform) : PlatformAction → Prop
  | .failed worker _ =>
    ∀ attempt ∈ p.attempts worker, ∀ job ∈ p.jobs[attempt.job]?, ∀ error, attempt.phase = .raised error →
      LastAttempt job → Settled p.status
  | .recoverExpiredLease index clock =>
    ∀ job ∈ p.jobs[index]?, (job.row.recoverExpiredLease clock).isSome → LastAttempt job →
      Settled p.status
  | .prepare worker assembled now =>
    ∀ attempt ∈ p.attempts worker, ∀ job ∈ p.jobs[attempt.job]?, attempt.type = .agentRun →
      attempt.phase = .started → (p.db.prepare assembled now).toOption.isSome →
      ¬job.row.state.Terminal
  | .startResumption worker =>
    ∀ attempt ∈ p.attempts worker, ∀ job ∈ p.jobs[attempt.job]?, attempt.phase = .resumed →
      ¬job.row.state.Terminal
  | _ => True

/-! ## What keeps a run from being stranded -/

/-- A handler of a resumed call behind its gateway call. -/
def Phase.Passed (phase : Phase) : Prop := phase = .resumed ∨ phase = .modelling ∨ phase = .returned

structure Carried (p : Platform) : Prop where
  assembling : p.status ≠ .assemblingContext
  first : ∃ job, p.jobs[0]? = some job ∧ job.type = .agentRun
  only : ∀ index job, p.jobs[index]? = some job → job.type = .agentRun → index = 0
  typed : ∀ worker attempt, p.attempts worker = some attempt →
    ∃ job, p.jobs[attempt.job]? = some job ∧ job.type = attempt.type
  /-- A queued run has its job before it, and no handler has returned from it. -/
  queued : p.status = .queued →
    (∀ job, p.jobs[0]? = some job → ¬job.row.state.Terminal) ∧
      ∀ worker attempt, p.attempts worker = some attempt → attempt.type = .agentRun →
        attempt.phase ≠ .returned
  /-- Before the run was prepared no handler calls the model, and one that returned has ended the run. -/
  unprepared : (∀ row ∈ p.db.steps, row.sequence ≠ 1) →
    ∀ worker attempt, p.attempts worker = some attempt → attempt.type = .agentRun →
      attempt.phase ≠ .modelling ∧
        (attempt.phase = .returned → p.status ≠ .queued ∧ p.status ≠ .waitingApproval)
  passed : ∀ worker attempt callId, p.attempts worker = some attempt →
    attempt.type = .mcpResume callId → attempt.phase.Passed → p.calls callId = some false
  /-- The gateway lets one handler of a call pass. -/
  unique : ∀ worker attempt other attempt' callId, p.attempts worker = some attempt →
    attempt.type = .mcpResume callId → attempt.phase.Passed → p.attempts other = some attempt' →
    attempt'.type = .mcpResume callId → attempt'.phase.Passed → worker = other
  /-- The model is called for a job that is not done with and from which no handler has returned. -/
  running : p.status = .runningModel →
    ∃ index job, p.jobs[index]? = some job ∧ ¬job.row.state.Terminal ∧
      ∀ worker attempt, p.attempts worker = some attempt → attempt.job = index →
        attempt.phase ≠ .returned

section Steps

variable {p : Platform}

theorem Carried.not_stranded (h : Carried p) : ¬Stranded p := by
  rintro ⟨hjobs, hunsettled⟩
  have hended (index : Nat) (job : RunJob) (hjob : p.jobs[index]? = some job) :
      job.row.state.Terminal := hjobs job (List.mem_of_getElem? hjob)
  cases hstatus : p.status with
  | queued =>
    obtain ⟨job, hjob, -⟩ := h.first
    exact (h.queued hstatus).1 job hjob (hended 0 job hjob)
  | assemblingContext => exact h.assembling hstatus
  | runningModel =>
    obtain ⟨index, job, hjob, hopen, -⟩ := h.running hstatus
    exact hopen (hended index job hjob)
  | waitingApproval => exact hunsettled (Or.inr hstatus)
  | _ => exact hunsettled (Or.inl (by rw [hstatus]; decide))

theorem settled_failed : Settled .failed := by decide

theorem settled_completed : Settled .completed := by decide

theorem not_queued_of_settled {status : RunStatus} (h : Settled status) : status ≠ .queued := by
  rintro rfl
  revert h
  decide

theorem not_running_of_settled {status : RunStatus} (h : Settled status) : status ≠ .runningModel := by
  rintro rfl
  revert h
  decide

theorem not_assembling_of_settled {status : RunStatus} (h : Settled status) :
    status ≠ .assemblingContext := by
  rintro rfl
  revert h
  decide

/-! ### Rows and attempts -/

theorem setRow_getElem? (index other : Nat) (row : Job) :
    (p.setRow index row).jobs[other]? =
      (p.jobs[other]?).map fun job ↦ if index = other then { job with row := row } else job := by
  rw [Platform.setRow, List.getElem?_modify]
  rfl

/-- The type of a job never changes. -/
theorem setRow_job {index other : Nat} {row : Job} {job : RunJob}
    (h : (p.setRow index row).jobs[other]? = some job) :
    ∃ old, p.jobs[other]? = some old ∧ job.type = old.type ∧
      job.row = if index = other then row else old.row := by
  rw [setRow_getElem?, Option.map_eq_some_iff] at h
  obtain ⟨old, hold, rfl⟩ := h
  refine ⟨old, hold, ?_, ?_⟩ <;> split <;> rfl

theorem setRow_of_job (index : Nat) (row : Job) {other : Nat} {old : RunJob} (h : p.jobs[other]? = some old) :
    ∃ job, (p.setRow index row).jobs[other]? = some job ∧ job.type = old.type ∧
      job.row = if index = other then row else old.row := by
  refine ⟨if index = other then { old with row := row } else old, ?_, ?_, ?_⟩
  · rw [setRow_getElem?, h]
    rfl
  · split <;> rfl
  · split <;> rfl

/-- Writing the row of a job keeps a run carried unless it is the end of the job that carries it. -/
theorem Carried.setRow (h : Carried p) {index : Nat} {row : Job}
    (hrow : ¬row.state.Terminal ∨ Settled p.status ∨
      ∃ worker attempt, p.attempts worker = some attempt ∧ attempt.job = index ∧
        attempt.phase = .returned) :
    Carried (p.setRow index row) := by
  have htype (other : Nat) (job : RunJob) (hjob : (p.setRow index row).jobs[other]? = some job) :
      ∃ old, p.jobs[other]? = some old ∧ job.type = old.type := by
    obtain ⟨old, hold, htype, -⟩ := setRow_job hjob
    exact ⟨old, hold, htype⟩
  refine { h with first := ?_, only := ?_, typed := ?_, queued := ?_, running := ?_ }
  · obtain ⟨old, hold, htyped⟩ := h.first
    obtain ⟨job, hjob, hsame, -⟩ := setRow_of_job index row hold
    exact ⟨job, hjob, hsame.trans htyped⟩
  · intro other job hjob htyped
    obtain ⟨old, hold, hsame⟩ := htype other job hjob
    exact h.only other old hold (hsame ▸ htyped)
  · intro worker attempt hattempt
    obtain ⟨old, hold, htyped⟩ := h.typed worker attempt hattempt
    obtain ⟨job, hjob, hsame, -⟩ := setRow_of_job index row hold
    exact ⟨job, hjob, hsame.trans htyped⟩
  · intro hstatus
    obtain ⟨hopen, hreturned⟩ := h.queued hstatus
    refine ⟨fun job hjob ↦ ?_, hreturned⟩
    obtain ⟨old, hold, -, hrow'⟩ := setRow_job hjob
    rw [hrow']
    split
    next hindex =>
      subst hindex
      rcases hrow with hrow | hsettled | ⟨worker, attempt, hattempt, hindex, hphase⟩
      · exact hrow
      · exact absurd hstatus (not_queued_of_settled hsettled)
      · -- the job of a queued run has no handler that returned
        obtain ⟨first, hfirst, htyped⟩ := h.first
        obtain ⟨job, hjob, hsame⟩ := h.typed worker attempt hattempt
        rw [hindex, hfirst] at hjob
        obtain rfl := Option.some.inj hjob
        exact absurd hphase (hreturned worker attempt hattempt (hsame ▸ htyped))
    · exact hopen old hold
  · intro hstatus
    obtain ⟨other, old, hold, hopen, hreturned⟩ := h.running hstatus
    obtain ⟨job, hjob, -, hrow'⟩ := setRow_of_job index row hold
    refine ⟨other, job, hjob, ?_, hreturned⟩
    rw [hrow']
    split
    next hindex =>
      subst hindex
      rcases hrow with hrow | hsettled | ⟨worker, attempt, hattempt, hindex, hphase⟩
      · exact hrow
      · exact absurd hstatus (not_running_of_settled hsettled)
      · exact absurd hphase (hreturned worker attempt hattempt hindex)
    · exact hopen

theorem setAttempt_attempts {worker other : String} {new : Option Attempt} {attempt : Attempt}
    (h : (p.setAttempt worker new).attempts other = some attempt) :
    (other = worker ∧ new = some attempt) ∨ (other ≠ worker ∧ p.attempts other = some attempt) := by
  by_cases hother : other = worker
  · subst hother
    simp only [Platform.setAttempt, Function.update_self] at h
    exact Or.inl ⟨rfl, h⟩
  · simp only [Platform.setAttempt, Function.update_of_ne hother] at h
    exact Or.inr ⟨hother, h⟩

/-- A handler that starts, raises or is gone carries nothing and takes nothing away. -/
theorem Carried.setAttempt (h : Carried p) (worker : String) {new : Option Attempt}
    (hnew : ∀ attempt ∈ new, (attempt.phase = .started ∨ ∃ error, attempt.phase = .raised error) ∧
      ∃ job, p.jobs[attempt.job]? = some job ∧ job.type = attempt.type) :
    Carried (p.setAttempt worker new) := by
  have hphase (attempt : Attempt) (hattempt : new = some attempt) :
      attempt.phase ≠ .returned ∧ attempt.phase ≠ .modelling ∧ ¬attempt.phase.Passed := by
    unfold Phase.Passed
    rcases (hnew attempt hattempt).1 with hphase | ⟨error, hphase⟩ <;> simp [hphase]
  refine { h with typed := ?_, queued := ?_, unprepared := ?_, passed := ?_, unique := ?_, running := ?_ }
  · intro other attempt hattempt
    rcases setAttempt_attempts hattempt with ⟨-, hnew'⟩ | ⟨-, hold⟩
    · exact (hnew attempt hnew').2
    · exact h.typed other attempt hold
  · intro hstatus
    refine ⟨(h.queued hstatus).1, fun other attempt hattempt htype ↦ ?_⟩
    rcases setAttempt_attempts hattempt with ⟨-, hnew'⟩ | ⟨-, hold⟩
    · exact (hphase attempt hnew').1
    · exact (h.queued hstatus).2 other attempt hold htype
  · intro hsteps other attempt hattempt htype
    rcases setAttempt_attempts hattempt with ⟨-, hnew'⟩ | ⟨-, hold⟩
    · exact ⟨(hphase attempt hnew').2.1, fun hreturned ↦ absurd hreturned (hphase attempt hnew').1⟩
    · exact h.unprepared hsteps other attempt hold htype
  · intro other attempt callId hattempt htype hpassed
    rcases setAttempt_attempts hattempt with ⟨-, hnew'⟩ | ⟨-, hold⟩
    · exact absurd hpassed (hphase attempt hnew').2.2
    · exact h.passed other attempt callId hold htype hpassed
  · intro other attempt other' attempt' callId hattempt htype hpassed hattempt' htype' hpassed'
    rcases setAttempt_attempts hattempt with ⟨-, hnew'⟩ | ⟨-, hold⟩
    · exact absurd hpassed (hphase attempt hnew').2.2
    · rcases setAttempt_attempts hattempt' with ⟨-, hnew'⟩ | ⟨-, hold'⟩
      · exact absurd hpassed' (hphase attempt' hnew').2.2
      · exact h.unique other attempt other' attempt' callId hold htype hpassed hold' htype' hpassed'
  · intro hstatus
    obtain ⟨index, job, hjob, hopen, hreturned⟩ := h.running hstatus
    refine ⟨index, job, hjob, hopen, fun other attempt hattempt hindex ↦ ?_⟩
    rcases setAttempt_attempts hattempt with ⟨-, hnew'⟩ | ⟨-, hold⟩
    · exact (hphase attempt hnew').1
    · exact hreturned other attempt hold hindex

theorem Carried.raised (h : Carried p) {worker : String} {attempt : Attempt}
    (hattempt : p.attempts worker = some attempt) (error : String) :
    Carried (p.setPhase worker attempt (.raised error)) := by
  refine h.setAttempt worker fun new hnew ↦ ?_
  obtain rfl := Option.some.inj hnew
  exact ⟨Or.inr ⟨error, rfl⟩, h.typed worker attempt hattempt⟩

/-! ### Transactions of the run -/

/-- Rows of the run that leave its steps alone and settle its status. -/
theorem Carried.settled (h : Carried p) {db : AgentDb} (hsteps : db.steps = p.db.steps)
    (hsettled : Settled db.run.status)
    (hwaiting : db.run.status = .waitingApproval →
      ∃ row ∈ p.db.steps, row.sequence = 1) : Carried { p with db := db } := by
  refine { h with assembling := ?_, queued := ?_, unprepared := ?_, running := ?_ }
  · exact not_assembling_of_settled hsettled
  · exact fun hstatus ↦ absurd hstatus (not_queued_of_settled hsettled)
  · intro hfree worker attempt hattempt htype
    change ∀ row ∈ db.steps, row.sequence ≠ 1 at hfree
    rw [hsteps] at hfree
    refine ⟨(h.unprepared hfree worker attempt hattempt htype).1, fun _ ↦ ?_⟩
    refine ⟨not_queued_of_settled hsettled, fun hstatus ↦ ?_⟩
    obtain ⟨row, hrow, hfirst⟩ := hwaiting hstatus
    exact hfree row hrow hfirst
  · exact fun hstatus ↦ absurd hstatus (not_running_of_settled hsettled)

theorem Carried.typed_setPhase (h : Carried p) {worker : String} {attempt : Attempt}
    (hattempt : p.attempts worker = some attempt) {phase : Phase} (other : String) (new : Attempt)
    (hnew : (p.setPhase worker attempt phase).attempts other = some new) :
    ∃ job, p.jobs[new.job]? = some job ∧ job.type = new.type := by
  rcases setAttempt_attempts hnew with ⟨-, hsame⟩ | ⟨-, hold⟩
  · obtain rfl := Option.some.inj hsame
    exact h.typed worker attempt hattempt
  · exact h.typed other new hold

/-- When the handler had passed the gateway before, its next phase lets no other one pass. -/
theorem passed_setPhase {worker : String} {attempt : Attempt}
    (hattempt : p.attempts worker = some attempt)
    (hpassed : ∀ callId, attempt.type = .mcpResume callId → attempt.phase.Passed) {phase : Phase}
    {other : String} {new : Attempt} {callId : String}
    (hnew : (p.setPhase worker attempt phase).attempts other = some new)
    (htype : new.type = .mcpResume callId) (hphase : new.phase.Passed) :
    ∃ old, p.attempts other = some old ∧ old.type = .mcpResume callId ∧ old.phase.Passed := by
  rcases setAttempt_attempts hnew with ⟨rfl, hsame⟩ | ⟨-, hold⟩
  · obtain rfl := Option.some.inj hsame
    exact ⟨attempt, hattempt, htype, hpassed callId htype⟩
  · exact ⟨new, hold, htype, hphase⟩

theorem Carried.passed_setPhase (h : Carried p) {worker : String} {attempt : Attempt}
    (hattempt : p.attempts worker = some attempt)
    (hpassed : ∀ callId, attempt.type = .mcpResume callId → attempt.phase.Passed) {phase : Phase}
    (other : String) (new : Attempt) (callId : String)
    (hnew : (p.setPhase worker attempt phase).attempts other = some new)
    (htype : new.type = .mcpResume callId) (hphase : new.phase.Passed) :
    p.calls callId = some false := by
  obtain ⟨old, hold, htype, hphase⟩ := Agents.passed_setPhase hattempt hpassed hnew htype hphase
  exact h.passed other old callId hold htype hphase

theorem Carried.unique_setPhase (h : Carried p) {worker : String} {attempt : Attempt}
    (hattempt : p.attempts worker = some attempt)
    (hpassed : ∀ callId, attempt.type = .mcpResume callId → attempt.phase.Passed) {phase : Phase}
    (other : String) (new : Attempt) (other' : String) (new' : Attempt) (callId : String)
    (hnew : (p.setPhase worker attempt phase).attempts other = some new)
    (htype : new.type = .mcpResume callId) (hphase : new.phase.Passed)
    (hnew' : (p.setPhase worker attempt phase).attempts other' = some new')
    (htype' : new'.type = .mcpResume callId) (hphase' : new'.phase.Passed) : other = other' := by
  obtain ⟨old, hold, htype, hphase⟩ := Agents.passed_setPhase hattempt hpassed hnew htype hphase
  obtain ⟨old', hold', htype', hphase'⟩ := Agents.passed_setPhase hattempt hpassed hnew' htype' hphase'
  exact h.unique other old other' old' callId hold htype hphase hold' htype' hphase'

/-- A handler that has settled the run returns. -/
theorem Carried.returned (h : Carried p) {worker : String} {attempt : Attempt}
    (hattempt : p.attempts worker = some attempt) (hsettled : Settled p.status)
    (hpassed : ∀ callId, attempt.type = .mcpResume callId → attempt.phase.Passed)
    (hwaiting : p.status = .waitingApproval → ∃ row ∈ p.db.steps, row.sequence = 1) :
    Carried (p.setPhase worker attempt .returned) := by
  refine
    { h with
      typed := h.typed_setPhase hattempt
      queued := fun hstatus ↦ absurd hstatus (not_queued_of_settled hsettled)
      unprepared := ?_
      passed := h.passed_setPhase hattempt hpassed
      unique := h.unique_setPhase hattempt hpassed
      running := fun hstatus ↦ absurd hstatus (not_running_of_settled hsettled) }
  intro hsteps other new hnew htype
  rcases setAttempt_attempts hnew with ⟨-, hsame⟩ | ⟨-, hold⟩
  · obtain rfl := Option.some.inj hsame
    refine ⟨nofun, fun _ ↦ ⟨not_queued_of_settled hsettled, fun hstatus ↦ ?_⟩⟩
    obtain ⟨row, hrow, hfirst⟩ := hwaiting hstatus
    exact hsteps row hrow hfirst
  · exact h.unprepared hsteps other new hold htype

theorem Carried.prepared (h : Carried p) {worker : String} {attempt : Attempt} {job : RunJob}
    {assembled : Except RunFailure Assembled} {now : Time} {db : AgentDb}
    (hattempt : p.attempts worker = some attempt) (htype : attempt.type = .agentRun)
    (hjob : p.jobs[attempt.job]? = some job) (hopen : ¬job.row.state.Terminal)
    (hprepare : p.db.prepare assembled now = .ok db) :
    Carried ({ p with db := db }.setPhase worker attempt .modelling) := by
  obtain ⟨hstatus, hsteps, row, hrow, rfl⟩ := prepare_ok hprepare
  have hpassed (callId : String) (hcall : attempt.type = .mcpResume callId) : attempt.phase.Passed :=
    nomatch htype.symm.trans hcall
  refine
    { h with
      assembling := nofun
      typed := h.typed_setPhase hattempt
      queued := nofun
      unprepared := fun hfree ↦
        absurd hrow (hfree row (List.mem_append_right _ (List.mem_singleton.mpr rfl)))
      passed := h.passed_setPhase hattempt hpassed
      unique := h.unique_setPhase hattempt hpassed
      running := fun _ ↦ ⟨attempt.job, job, hjob, hopen, ?_⟩ }
  intro other new hnew hindex hreturned
  rcases setAttempt_attempts hnew with ⟨-, hsame⟩ | ⟨-, hbefore⟩
  · obtain rfl := Option.some.inj hsame
    cases hreturned
  · -- a handler of the run that has returned before its preparation has ended it
    obtain ⟨found, hfound, htyped⟩ := h.typed other new hbefore
    obtain ⟨found', hfound', htyped'⟩ := h.typed worker attempt hattempt
    rw [hindex, hfound'] at hfound
    obtain rfl := Option.some.inj hfound
    have hended := (h.unprepared hsteps other new hbefore (htyped.symm.trans (htyped'.trans htype))).2
      hreturned
    exact hstatus.elim hended.1 hended.2

theorem Carried.resumption (h : Carried p) {worker : String} {attempt : Attempt} {job : RunJob}
    (hattempt : p.attempts worker = some attempt) (htype : attempt.type ≠ .agentRun)
    (hphase : attempt.phase = .resumed) (hjob : p.jobs[attempt.job]? = some job)
    (hopen : ¬job.row.state.Terminal) :
    Carried ({ p with db := p.db.startResumption }.setPhase worker attempt .modelling) := by
  have hpassed : attempt.phase.Passed := Or.inl hphase
  refine
    { h with
      assembling := nofun
      typed := h.typed_setPhase hattempt
      queued := nofun
      unprepared := ?_
      passed := h.passed_setPhase hattempt fun _ _ ↦ hpassed
      unique := h.unique_setPhase hattempt fun _ _ ↦ hpassed
      running := fun _ ↦ ⟨attempt.job, job, hjob, hopen, ?_⟩ }
  · intro hfree other new hnew htype'
    rcases setAttempt_attempts hnew with ⟨-, hsame⟩ | ⟨-, hold⟩
    · obtain rfl := Option.some.inj hsame
      exact absurd htype' htype
    · exact ⟨(h.unprepared hfree other new hold htype').1, fun _ ↦ ⟨nofun, nofun⟩⟩
  · intro other new hnew hindex hreturned
    rcases setAttempt_attempts hnew with ⟨-, hsame⟩ | ⟨hother, hold⟩
    · obtain rfl := Option.some.inj hsame
      cases hreturned
    · -- both handlers would have passed the gateway with one call
      obtain ⟨found, hfound, htyped⟩ := h.typed other new hold
      obtain ⟨found', hfound', htyped'⟩ := h.typed worker attempt hattempt
      rw [hindex, hfound'] at hfound
      obtain rfl := Option.some.inj hfound
      cases hcall : attempt.type with
      | agentRun => exact htype hcall
      | mcpResume callId =>
        have hsame : new.type = .mcpResume callId := htyped.symm.trans (htyped'.trans hcall)
        exact hother (h.unique other new worker attempt callId hold hsame (Or.inr (Or.inr hreturned))
          hattempt hcall hpassed)

/-! ### Calls of the gateway -/

theorem Carried.withCalls (h : Carried p) {calls : String → Option Bool}
    (hcalls : ∀ callId, p.calls callId = some false → calls callId = some false) :
    Carried { p with calls := calls } :=
  { h with
    passed := fun worker attempt callId hattempt htype hphase ↦
      hcalls callId (h.passed worker attempt callId hattempt htype hphase) }

theorem Carried.answered (h : Carried p) {worker callId : String} {attempt : Attempt}
    (hattempt : p.attempts worker = some attempt) (htype : attempt.type = .mcpResume callId)
    (hwaits : p.calls callId = some true) :
    Carried ({ p with calls := Function.update p.calls callId (some false) }.setPhase
      worker attempt .resumed) := by
  -- no other handler has passed with the call, since it still waited
  have hnone (other : String) (old : Attempt) (hold : p.attempts other = some old)
      (htype' : old.type = .mcpResume callId) : ¬old.phase.Passed := by
    intro hphase
    have hpassed := h.passed other old callId hold htype' hphase
    rw [hwaits] at hpassed
    cases hpassed
  refine
    { h with
      typed := h.typed_setPhase hattempt
      queued := ?_
      unprepared := ?_
      passed := ?_
      unique := ?_
      running := ?_ }
  · intro hstatus
    refine ⟨(h.queued hstatus).1, fun other new hnew htype' ↦ ?_⟩
    rcases setAttempt_attempts hnew with ⟨-, hsame⟩ | ⟨-, hold⟩
    · obtain rfl := Option.some.inj hsame
      nofun
    · exact (h.queued hstatus).2 other new hold htype'
  · intro hfree other new hnew htype'
    rcases setAttempt_attempts hnew with ⟨-, hsame⟩ | ⟨-, hold⟩
    · obtain rfl := Option.some.inj hsame
      exact ⟨nofun, nofun⟩
    · exact h.unprepared hfree other new hold htype'
  · intro other new callId' hnew htype' hphase
    by_cases hcall : callId' = callId
    · subst hcall
      exact Function.update_self _ _ _
    · rcases setAttempt_attempts hnew with ⟨-, hsame⟩ | ⟨-, hold⟩
      · obtain rfl := Option.some.inj hsame
        exact absurd (JobType.mcpResume.inj (htype'.symm.trans htype)) hcall
      · exact (Function.update_of_ne hcall _ _).trans (h.passed other new callId' hold htype' hphase)
  · intro other new other' new' callId' hnew htype' hphase hnew' htype'' hphase'
    rcases setAttempt_attempts hnew with ⟨rfl, hsame⟩ | ⟨-, hold⟩
    · obtain rfl := Option.some.inj hsame
      obtain rfl := JobType.mcpResume.inj (htype'.symm.trans htype)
      rcases setAttempt_attempts hnew' with ⟨rfl, -⟩ | ⟨-, hold'⟩
      · rfl
      · exact absurd hphase' (hnone other' new' hold' htype'')
    · rcases setAttempt_attempts hnew' with ⟨rfl, hsame⟩ | ⟨-, hold'⟩
      · obtain rfl := Option.some.inj hsame
        obtain rfl := JobType.mcpResume.inj (htype''.symm.trans htype)
        exact absurd hphase (hnone other new hold htype')
      · exact h.unique other new other' new' callId' hold htype' hphase hold' htype'' hphase'
  · intro hstatus
    obtain ⟨index, job, hjob, hopen, hreturned⟩ := h.running hstatus
    refine ⟨index, job, hjob, hopen, fun other new hnew hindex ↦ ?_⟩
    rcases setAttempt_attempts hnew with ⟨-, hsame⟩ | ⟨-, hold⟩
    · obtain rfl := Option.some.inj hsame
      nofun
    · exact hreturned other new hold hindex

theorem Carried.approved (h : Carried p) (callId : String) (row : Job) :
    Carried { p with jobs := p.jobs ++ [{ type := .mcpResume callId, row := row }] } := by
  have hkept {index : Nat} {job : RunJob} (hjob : p.jobs[index]? = some job) :
      (p.jobs ++ [{ type := .mcpResume callId, row := row }])[index]? = some job := by
    rw [List.getElem?_append_left (List.getElem?_eq_some_iff.mp hjob).1]
    exact hjob
  have hold {index : Nat} {job : RunJob} (htype : job.type = .agentRun)
      (hjob : (p.jobs ++ [{ type := .mcpResume callId, row := row }])[index]? = some job) :
      p.jobs[index]? = some job := by
    rw [List.getElem?_append] at hjob
    split at hjob
    · exact hjob
    · obtain rfl := List.mem_singleton.mp (List.mem_of_getElem? hjob)
      cases htype
  obtain ⟨first, hfirst, htyped⟩ := h.first
  refine { h with first := ⟨first, hkept hfirst, htyped⟩, only := ?_, typed := ?_, queued := ?_, running := ?_ }
  · exact fun index job hjob htype ↦ h.only index job (hold htype hjob) htype
  · intro worker attempt hattempt
    obtain ⟨job, hjob, htype⟩ := h.typed worker attempt hattempt
    exact ⟨job, hkept hjob, htype⟩
  · intro hstatus
    refine ⟨fun job hjob ↦ ?_, (h.queued hstatus).2⟩
    obtain rfl := Option.some.inj ((hkept hfirst).symm.trans hjob)
    exact (h.queued hstatus).1 first hfirst
  · intro hstatus
    obtain ⟨index, job, hjob, hopen, hreturned⟩ := h.running hstatus
    exact ⟨index, job, hkept hjob, hopen, hreturned⟩

/-! ### Steps -/

/-- A handler that ends the run, or lets it wait, returns. -/
theorem Carried.settle (h : Carried p) {worker : String} {attempt : Attempt} {db : AgentDb}
    (hattempt : p.attempts worker = some attempt)
    (hpassed : ∀ callId, attempt.type = .mcpResume callId → attempt.phase.Passed)
    (hsteps : db.steps = p.db.steps) (hsettled : Settled db.run.status)
    (hwaiting : db.run.status = .waitingApproval → ∃ row ∈ p.db.steps, row.sequence = 1) :
    Carried (p.settle worker attempt db) := by
  refine (h.settled hsteps hsettled hwaiting).returned hattempt hsettled hpassed fun hstatus ↦ ?_
  change ∃ row ∈ db.steps, row.sequence = 1
  rw [hsteps]
  exact hwaiting hstatus

/-- A handler that calls the model for the first time has prepared the run. -/
theorem Carried.step_of_modelling (h : Carried p) {worker : String} {attempt : Attempt}
    (hattempt : p.attempts worker = some attempt) (htype : attempt.type = .agentRun)
    (hphase : attempt.phase = .modelling) : ∃ row ∈ p.db.steps, row.sequence = 1 := by
  by_contra hnone
  have hfree : ∀ row ∈ p.db.steps, row.sequence ≠ 1 := fun row hrow hfirst ↦ hnone ⟨row, hrow, hfirst⟩
  exact (h.unprepared hfree worker attempt hattempt htype).1 hphase

theorem claim_state {job row : Job} {worker : String} {clock : Nat → Time}
    (h : job.claim worker clock = some row) : ¬row.state.Terminal := by
  unfold Worker.Job.claim at h
  split at h
  · obtain rfl := Option.some.inj h
    rintro (hstate | hstate) <;> cases hstate
  · cases h

theorem recover_state {job row : Job} {clock : Nat → Time}
    (h : job.recoverExpiredLease clock = some row) :
    ¬row.state.Terminal ∨ job.maxAttempts ≤ job.attempts := by
  unfold Worker.Job.recoverExpiredLease at h
  split at h
  · obtain rfl := Option.some.inj h
    by_cases hleft : (job.attempts : Int) < job.maxAttempts
    · simp only [if_pos hleft]
      exact Or.inl (by rintro (hstate | hstate) <;> cases hstate)
    · exact Or.inr (not_lt.mp hleft)
  · cases h

theorem fail_state (job : Job) (error : String) (now : Time) :
    ¬(job.fail error now).state.Terminal ∨ job.maxAttempts ≤ job.attempts := by
  rw [Worker.Job.fail_state]
  by_cases hleft : (job.attempts : Int) < job.maxAttempts
  · rw [if_pos hleft]
    exact Or.inl (by rintro (hstate | hstate) <;> cases hstate)
  · exact Or.inr (not_lt.mp hleft)

theorem carried_readCancellation (h : Carried p) : Carried (p.step .readCancellation).2 := by
  unfold Platform.step
  dsimp only
  split
  · exact { h with }
  · exact h

theorem carried_cancel {index : Nat} (h : Carried p) : Carried (p.step (.cancel index)).2 := by
  unfold Platform.step
  dsimp only
  cases p.cancellations[index]? with
  | none => exact h
  | some version =>
    simp only [AgentDb.cancel_raises]
    exact { h with }

theorem carried_awaitApproval {callId : String} (h : Carried p) :
    Carried (p.step (.awaitApproval callId)).2 := by
  unfold Platform.step
  dsimp only
  split
  · exact h
  next hnew =>
    refine h.withCalls fun other hother ↦ ?_
    have hne : other ≠ callId := by
      rintro rfl
      exact hnew (by rw [hother]; rfl)
    exact (Function.update_of_ne hne _ _).trans hother

theorem carried_approve {callId : String} {now : Time} (h : Carried p) :
    Carried (p.step (.approve callId now)).2 := by
  unfold Platform.step
  dsimp only
  split
  · exact h.approved callId _
  · exact h

theorem carried_processOne {worker : String} {index : Nat} {clock : Nat → Time} (h : Carried p) :
    Carried (p.step (.processOne worker index clock)).2 := by
  unfold Platform.step
  dsimp only
  split
  next job hattempt hjob =>
    split
    next row hclaim =>
      refine (h.setRow (Or.inl (claim_state hclaim))).setAttempt worker fun attempt hnew ↦ ?_
      obtain rfl := Option.some.inj hnew
      obtain ⟨changed, hchanged, htype, -⟩ := setRow_of_job index row hjob
      exact ⟨Or.inl rfl, changed, hchanged, htype⟩
    · exact h
  · exact h

theorem carried_recoverExpiredLease {index : Nat} {clock : Nat → Time} (h : Carried p)
    (hcarries : Carries p (.recoverExpiredLease index clock)) :
    Carried (p.step (.recoverExpiredLease index clock)).2 := by
  unfold Platform.step
  dsimp only
  split
  next job hjob =>
    split
    next row hrecovered =>
      refine h.setRow ((recover_state hrecovered).imp_right fun hlast ↦ Or.inl ?_)
      exact hcarries job hjob (by rw [hrecovered]; rfl) hlast
    · exact h
  · exact h

theorem carried_unconfigured {worker : String} {now : Time} (h : Carried p) :
    Carried (p.step (.unconfigured worker now)).2 := by
  unfold Platform.step
  dsimp only
  split
  next attempt hattempt =>
    split
    next hphase =>
      refine h.settle hattempt (fun callId hcall ↦ ?_) rfl settled_failed nofun
      rw [Attempt.keyPhase, hcall, if_neg nofun] at hphase
      exact Or.inl hphase
    · exact h
  · exact h

theorem carried_prepare {worker : String} {assembled : Except RunFailure Assembled} {now : Time}
    (h : Carried p) (hcarries : Carries p (.prepare worker assembled now)) :
    Carried (p.step (.prepare worker assembled now)).2 := by
  unfold Platform.step
  dsimp only
  split
  next attempt hattempt =>
    split
    next hready =>
      split
      next db hprepare =>
        obtain ⟨job, hjob, -⟩ := h.typed worker attempt hattempt
        refine h.prepared hattempt hready.1 hjob ?_ hprepare
        exact hcarries attempt hattempt job hjob hready.1 hready.2 (by rw [hprepare]; rfl)
      · exact h.raised hattempt _
    · exact h
  · exact h

theorem carried_resumeCall {worker : String} {outcome : ResumeOutcome} {error : String}
    (h : Carried p) : Carried (p.step (.resumeCall worker outcome error)).2 := by
  unfold Platform.step
  dsimp only
  split
  next attempt hattempt =>
    split
    next callId htype hphase =>
      split
      next hwaits =>
        have hlost : ∀ other, p.calls other = some false →
            Function.update p.calls callId (some false) other = some false := by
          intro other hother
          by_cases hcall : other = callId
          · rw [hcall, Function.update_self]
          · rw [Function.update_of_ne hcall, hother]
        cases outcome with
        | answered => exact h.answered hattempt htype hwaits
        | rejected => exact h.raised hattempt error
        | lost => exact (h.withCalls hlost).raised hattempt error
      · exact h.raised hattempt error
    · exact h
  · exact h

theorem carried_startResumption {worker : String} (h : Carried p)
    (hcarries : Carries p (.startResumption worker)) :
    Carried (p.step (.startResumption worker)).2 := by
  unfold Platform.step
  dsimp only
  split
  next attempt hattempt =>
    split
    next hready =>
      obtain ⟨job, hjob, -⟩ := h.typed worker attempt hattempt
      exact h.resumption hattempt hready.1 hready.2 hjob
        (hcarries attempt hattempt job hjob hready.2)
    · exact h
  · exact h

theorem carried_markWaiting {worker callId : String} {now : Time} (h : Carried p) :
    Carried (p.step (.markWaiting worker callId now)).2 := by
  unfold Platform.step
  dsimp only
  split
  next attempt hattempt =>
    split
    next hready =>
      exact h.settle hattempt (fun callId hcall ↦ nomatch hready.1.symm.trans hcall) rfl (Or.inr rfl)
        fun _ ↦ h.step_of_modelling hattempt hready.1 hready.2
    · exact h
  · exact h

theorem carried_markFailed {worker code : String} {detail : Option String} {now : Time}
    (h : Carried p) : Carried (p.step (.markFailed worker code detail now)).2 := by
  unfold Platform.step
  dsimp only
  split
  next attempt hattempt =>
    split
    next hready =>
      exact h.settle hattempt (fun callId hcall ↦ nomatch hready.1.symm.trans hcall) rfl
        settled_failed nofun
    · exact h
  · exact h

theorem carried_complete {worker messageId output : String} {usage : Usage} {now : Time}
    (h : Carried p) : Carried (p.step (.complete worker messageId output usage now)).2 := by
  unfold Platform.step
  dsimp only
  split
  next attempt hattempt =>
    split
    next hphase =>
      exact h.settle hattempt (fun callId hcall ↦ Or.inr (Or.inl hphase)) rfl settled_completed nofun
    · exact h
  · exact h

theorem carried_raise {worker error : String} (h : Carried p) :
    Carried (p.step (.raise worker error)).2 := by
  unfold Platform.step
  dsimp only
  split
  next attempt hattempt =>
    split
    · exact h.raised hattempt error
    · exact h
  · exact h

theorem carried_completed {worker : String} (h : Carried p) :
    Carried (p.step (.completed worker)).2 := by
  unfold Platform.step
  dsimp only
  split
  next attempt hattempt =>
    split
    next job hphase hjob =>
      exact (h.setRow (Or.inr (Or.inr ⟨worker, attempt, hattempt, rfl, hphase⟩))).setAttempt worker nofun
    · exact h
  · exact h

theorem carried_failed {worker : String} {now : Time} (h : Carried p)
    (hcarries : Carries p (.failed worker now)) : Carried (p.step (.failed worker now)).2 := by
  unfold Platform.step
  dsimp only
  split
  next attempt hattempt =>
    split
    next error job hphase hjob =>
      refine (h.setRow ((fail_state job.row error now).imp_right fun hlast ↦ Or.inl ?_)).setAttempt
        worker nofun
      exact hcarries attempt hattempt job hjob error hphase hlast
    · exact h
  · exact h

/-- A step that carries the run keeps it from being stranded. -/
theorem carried_step {action : PlatformAction} (h : Carried p) (hcarries : Carries p action) :
    Carried (platform.step p action).2 := by
  cases action with
  | readCancellation => exact carried_readCancellation h
  | cancel index => exact carried_cancel h
  | awaitApproval callId => exact carried_awaitApproval h
  | approve callId now => exact carried_approve h
  | processOne worker index clock => exact carried_processOne h
  | recoverExpiredLease index clock => exact carried_recoverExpiredLease h hcarries
  | unconfigured worker now => exact carried_unconfigured h
  | prepare worker assembled now => exact carried_prepare h hcarries
  | resumeCall worker outcome error => exact carried_resumeCall h
  | startResumption worker => exact carried_startResumption h hcarries
  | markWaiting worker callId now => exact carried_markWaiting h
  | markFailed worker code detail now => exact carried_markFailed h
  | complete worker messageId output usage now => exact carried_complete h
  | raise worker error => exact carried_raise h
  | completed worker => exact carried_completed h
  | failed worker now => exact carried_failed h hcarries
  | abandoned worker => exact h.setAttempt worker nofun

end Steps

/-- A submitted run is carried by its job. -/
theorem carried_submitted (conversationId messageId content : String) (messages : List Message)
    (conversationVersion : Nat) (now : Time) :
    Carried (.submitted conversationId messageId content messages conversationVersion now) where
  assembling := nofun
  first := ⟨_, rfl, rfl⟩
  only := by
    intro index job hjob _
    have hindex := (List.getElem?_eq_some_iff.mp hjob).1
    exact Nat.lt_one_iff.mp hindex
  typed := nofun
  queued _ := by
    refine ⟨fun job hjob ↦ ?_, nofun⟩
    obtain rfl := Option.some.inj hjob
    rintro (hstate | hstate) <;> cases hstate
  unprepared := nofun
  passed := nofun
  unique := nofun
  running := nofun

/-- A run is never stranded, in any run of its jobs and handlers in which a job is given up only when
the agent run has ended or waits for an approval, and in which a handler moves it to `RUNNING_MODEL`
only before its job is done with. -/
theorem never_stranded (conversationId messageId content : String) (messages : List Message)
    (conversationVersion : Nat) (now : Time) (actions : List PlatformAction)
    (hcarries : ∀ e ∈ platform.log
      (.submitted conversationId messageId content messages conversationVersion now) actions,
      Carries e.before e.input) :
    ¬Stranded (platform.run
      (.submitted conversationId messageId content messages conversationVersion now) actions) := by
  have hcarried := platform.history_invariant (fun _ p ↦ Carried p) (fun e ↦ Carries e.before e.input)
    (carried_submitted conversationId messageId content messages conversationVersion now)
    (fun _ _ _ h hcarries ↦ carried_step h hcarries) actions hcarries
  exact hcarried.not_stranded

/-! ## A worker that is gone -/

def sampleRun : Platform := .submitted "conversation-1" "message-1" "hello" [] 1 0

/-- A worker claims the job of the run and moves the run to `RUNNING_MODEL`. -/
def startedRun : List PlatformAction :=
  [.processOne "worker-1" 0 fun _ ↦ seconds 1,
    .prepare "worker-1" (.ok { snapshotId := "snapshot-1", estimatedTokens := 12 }) (seconds 1)]

/-- The model asks for an approval. -/
def waitingRun : List PlatformAction :=
  startedRun ++ [.markWaiting "worker-1" "call-1" (seconds 9), .completed "worker-1"]

theorem waiting_run_not_stranded : ¬Stranded (platform.run sampleRun waitingRun) := by
  refine never_stranded "conversation-1" "message-1" "hello" [] 1 0 waitingRun ?_
  simp only [waitingRun, startedRun, List.cons_append, List.nil_append, Machine.log, Machine.entry,
    List.forall_mem_cons, List.not_mem_nil, IsEmpty.forall_iff, implies_true, and_true]
  refine ⟨trivial, ?_, trivial, trivial⟩
  intro attempt hattempt job hjob _ _ _
  obtain rfl := Option.some.inj hattempt
  obtain rfl := Option.some.inj hjob
  decide

/-- An attempt of another worker, which the run refuses. -/
def refusedAttempt (minute : Int) : List PlatformAction :=
  [.processOne "worker-2" 0 fun _ ↦ minutes minute,
    .prepare "worker-2" (.ok { snapshotId := "snapshot-2", estimatedTokens := 12 }) (minutes minute),
    .failed "worker-2" (minutes minute)]

/-- The worker is gone while the model answers. The lease of the job expires, and every further attempt
is refused because the run is still in `RUNNING_MODEL`. -/
theorem lost_worker_strands_run :
    Stranded (platform.run sampleRun
      (startedRun ++ [.abandoned "worker-1", .recoverExpiredLease 0 fun _ ↦ minutes 6] ++
        refusedAttempt 10 ++ refusedAttempt 20 ++ refusedAttempt 30 ++ refusedAttempt 40)) := by
  decide +kernel

end Xyena.Agents
