import Mathlib.Algebra.Ring.Int.Defs
import Xyena.Contracts.Values
import Xyena.Foundation.PyText
import Xyena.Foundation.Runs

/-!
# One job and its workers

`Worker` of `apps/worker/main.py`, for one row of the table of jobs. A worker
claims the job in one transaction and runs its handler outside of any; when the
handler ends, one more transaction writes what became of the job, and looks only
at the id. A worker has one handler at a time, which takes as long as it takes.
-/

namespace Xyena.Worker

open Xyena.Foundation Xyena.Contracts

/-! ## The row -/

inductive JobState where
  | available
  | running
  | completed
  | failed
deriving DecidableEq, Repr

/-- The states that a job ends in. -/
def JobState.Terminal (state : JobState) : Prop := state = .completed ∨ state = .failed

structure Job where
  state : JobState := .available
  availableAt : Time
  attempts : Nat := 0
  maxAttempts : Int := 5
  leaseOwner : Option String := none
  leaseExpiresAt : Option Time := none
  lastError : Option String := none
deriving DecidableEq, Repr

namespace Job

variable (job : Job)

/-- The transaction at the start of `process_one`. The clock tells the instants that it reads. -/
def claim (owner : String) (clock : Nat → Time) : Option Job :=
  if job.state = .available ∧ job.availableAt ≤ clock 0 then
    some
      { job with
        state := .running
        leaseOwner := some owner
        leaseExpiresAt := some (clock 1 + minutes 5)
        attempts := job.attempts + 1 }
  else none

def recoverExpiredLease (clock : Nat → Time) : Option Job :=
  if job.state = .running ∧ job.leaseExpiresAt.any (fun expiry ↦ expiry < clock 0) then
    some
      { job with
        state := if (job.attempts : Int) < job.maxAttempts then .available else .failed
        availableAt := clock 1
        leaseOwner := none
        leaseExpiresAt := none
        lastError := some "Worker lease expired before completion." }
  else none

/-- The transaction at the end of `process_one`, after a handler that returned. -/
def complete : Job :=
  { job with state := .completed, leaseOwner := none, leaseExpiresAt := none }

/-- `_fail`, after a handler that raised or was not registered. -/
def fail (error : String) (now : Time) : Job :=
  let released :=
    { job with lastError := some (clip 4000 error), leaseOwner := none, leaseExpiresAt := none }
  if job.maxAttempts ≤ job.attempts then { released with state := .failed }
  else
    { released with state := .available, availableAt := now + seconds (2 ^ job.attempts) }

end Job

/-! ## Workers -/

/-- A handler that runs, and the attempt that it was started for. -/
structure Handler where
  worker : String
  attempt : Nat
deriving DecidableEq, Repr

structure Work where
  job : Job
  handlers : List Handler := []
deriving DecidableEq, Repr

/-- A job as the services add it. -/
def Work.created (availableAt : Time) (maxAttempts : Int) : Work where
  job := { availableAt := availableAt, maxAttempts := maxAttempts }

inductive Step where
  | processOne (worker : String) (clock : Nat → Time)
  | completed (worker : String)
  | failed (worker : String) (error : String) (now : Time)
  | recoverExpiredLease (clock : Nat → Time)
  /-- The worker is gone before its last transaction, or that transaction is lost. -/
  | abandoned (worker : String)

namespace Work

variable (w : Work)

def busy (worker : String) : Bool := w.handlers.any fun handler ↦ handler.worker == worker

/-- The handlers that run on when the one of a worker has ended. -/
def others (worker : String) : List Handler :=
  w.handlers.filter fun handler ↦ handler.worker != worker

/-- One step, with whether anything was done. -/
def step : Step → Bool × Work
  | .processOne worker clock =>
    if w.busy worker then (false, w)
    else
      match w.job.claim worker clock with
      | some job => (true, { job := job, handlers := ⟨worker, job.attempts⟩ :: w.handlers })
      | none => (false, w)
  | .completed worker =>
    if w.busy worker then (true, { job := w.job.complete, handlers := w.others worker }) else (false, w)
  | .failed worker error now =>
    if w.busy worker then (true, { job := w.job.fail error now, handlers := w.others worker })
    else (false, w)
  | .recoverExpiredLease clock =>
    match w.job.recoverExpiredLease clock with
    | some job => (true, { w with job := job })
    | none => (false, w)
  | .abandoned worker =>
    if w.busy worker then (true, { w with handlers := w.others worker }) else (false, w)

end Work

def jobs : Machine Work Step Bool where
  step := Work.step

abbrev JobEntry := Entry Work Step Bool

/-! ## What a step can do -/

/-- A step that does something. -/
inductive Move (w : Work) : Step → Work → Prop
  | claimed (worker : String) (clock : Nat → Time) (job : Job) (hidle : w.busy worker = false)
      (hstate : w.job.state = .available)
      (hjob : job =
        { w.job with
          state := .running
          leaseOwner := some worker
          leaseExpiresAt := some (clock 1 + minutes 5)
          attempts := w.job.attempts + 1 }) :
      Move w (.processOne worker clock)
        { job := job, handlers := ⟨worker, w.job.attempts + 1⟩ :: w.handlers }
  | completed (worker : String) (hbusy : w.busy worker = true) :
      Move w (.completed worker) { job := w.job.complete, handlers := w.others worker }
  | failed (worker error : String) (now : Time) (hbusy : w.busy worker = true) :
      Move w (.failed worker error now)
        { job := w.job.fail error now, handlers := w.others worker }
  | recovered (clock : Nat → Time) (job : Job) (hstate : w.job.state = .running)
      (hjob : job =
        { w.job with
          state := if (w.job.attempts : Int) < w.job.maxAttempts then .available else .failed
          availableAt := clock 1
          leaseOwner := none
          leaseExpiresAt := none
          lastError := some "Worker lease expired before completion." }) :
      Move w (.recoverExpiredLease clock) { w with job := job }
  | abandoned (worker : String) (hbusy : w.busy worker = true) :
      Move w (.abandoned worker) { w with handlers := w.others worker }

theorem step_cases (w : Work) (input : Step) :
    jobs.step w input = (false, w) ∨ ∃ after, Move w input after ∧ jobs.step w input = (true, after) := by
  cases input with
  | processOne worker clock =>
    cases hbusy : w.busy worker with
    | true => exact Or.inl (by simp [jobs, Work.step, hbusy])
    | false =>
      by_cases hdue : w.job.state = .available ∧ w.job.availableAt ≤ clock 0
      · exact Or.inr ⟨_, .claimed worker clock _ hbusy hdue.1 rfl,
          by simp [jobs, Work.step, hbusy, Job.claim, hdue]⟩
      · exact Or.inl (by simp [jobs, Work.step, hbusy, Job.claim, hdue])
  | completed worker =>
    cases hbusy : w.busy worker with
    | true => exact Or.inr ⟨_, .completed worker hbusy, by simp [jobs, Work.step, hbusy]⟩
    | false => exact Or.inl (by simp [jobs, Work.step, hbusy])
  | failed worker error now =>
    cases hbusy : w.busy worker with
    | true => exact Or.inr ⟨_, .failed worker error now hbusy, by simp [jobs, Work.step, hbusy]⟩
    | false => exact Or.inl (by simp [jobs, Work.step, hbusy])
  | recoverExpiredLease clock =>
    by_cases hexpired : w.job.state = .running ∧
        w.job.leaseExpiresAt.any (fun expiry ↦ expiry < clock 0) = true
    · exact Or.inr ⟨_, .recovered clock _ hexpired.1 rfl,
        by simp [jobs, Work.step, Job.recoverExpiredLease, hexpired]⟩
    · exact Or.inl (by simp only [jobs, Work.step, Job.recoverExpiredLease, if_neg hexpired])
  | abandoned worker =>
    cases hbusy : w.busy worker with
    | true => exact Or.inr ⟨_, .abandoned worker hbusy, by simp [jobs, Work.step, hbusy]⟩
    | false => exact Or.inl (by simp [jobs, Work.step, hbusy])

section Rows

variable {w after : Work} {input : Step}

theorem mem_others {worker : String} {handler : Handler} (h : handler ∈ w.others worker) :
    handler ∈ w.handlers ∧ handler.worker ≠ worker := by
  obtain ⟨hmem, hother⟩ := List.mem_filter.mp h
  exact ⟨hmem, by simpa using hother⟩

theorem busy_iff {worker : String} :
    w.busy worker = true ↔ ∃ handler ∈ w.handlers, handler.worker = worker := by
  simp [Work.busy]

theorem Job.fail_leaseOwner (job : Job) (error : String) (now : Time) :
    (job.fail error now).leaseOwner = none := by
  unfold Job.fail
  split <;> rfl

theorem Job.fail_leaseExpiresAt (job : Job) (error : String) (now : Time) :
    (job.fail error now).leaseExpiresAt = none := by
  unfold Job.fail
  split <;> rfl

theorem Job.fail_attempts (job : Job) (error : String) (now : Time) :
    (job.fail error now).attempts = job.attempts := by
  unfold Job.fail
  split <;> rfl

theorem Job.fail_maxAttempts (job : Job) (error : String) (now : Time) :
    (job.fail error now).maxAttempts = job.maxAttempts := by
  unfold Job.fail
  split <;> rfl

theorem Job.fail_state (job : Job) (error : String) (now : Time) :
    (job.fail error now).state =
      if (job.attempts : Int) < job.maxAttempts then .available else .failed := by
  unfold Job.fail
  split
  next h => rw [if_neg (not_lt.mpr h)]
  next h => rw [if_pos (not_le.mp h)]

end Rows

end Xyena.Worker
