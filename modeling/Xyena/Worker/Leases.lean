import Xyena.Worker.Jobs

/-!
# Leases and attempts

A claim gives the job to one worker for one attempt. The transaction at the end
of a handler does not ask whether the lease is still its own, so a job stays as
it ended only in runs in which no handler outlives its lease. The number of
attempts is bounded in all runs.
-/

namespace Xyena.Worker

open Xyena.Foundation Xyena.Contracts

/-! ## The lease of the last claim -/

/-- A running job is leased to the worker that runs its last attempt; any other job is not leased. -/
structure Leased (w : Work) : Prop where
  released : w.job.state ≠ .running → w.job.leaseOwner = none ∧ w.job.leaseExpiresAt = none
  owner : ∀ handler ∈ w.handlers, w.job.leaseOwner = some handler.worker →
    handler.attempt = w.job.attempts
  current : w.job.state = .running → ∀ handler ∈ w.handlers, handler.attempt = w.job.attempts →
    w.job.leaseOwner = some handler.worker
  started : ∀ handler ∈ w.handlers, handler.attempt ≤ w.job.attempts

section Steps

variable {w after : Work} {input : Step}

theorem leased_created (availableAt : Time) (maxAttempts : Int) :
    Leased (Work.created availableAt maxAttempts) where
  released _ := ⟨rfl, rfl⟩
  owner _ h := by cases h
  current _ _ h := by cases h
  started _ h := by cases h

/-- A job that is released by a step is leased to nobody. -/
theorem Leased.release (h : Leased w) (job : Job) (howner : job.leaseOwner = none)
    (hexpiry : job.leaseExpiresAt = none) (hstate : job.state ≠ .running)
    (hattempts : job.attempts = w.job.attempts) {handlers : List Handler}
    (hhandlers : ∀ handler ∈ handlers, handler ∈ w.handlers) :
    Leased { job := job, handlers := handlers } where
  released _ := ⟨howner, hexpiry⟩
  owner handler _ hleased := by
    rw [howner] at hleased
    cases hleased
  current hrunning := absurd hrunning hstate
  started handler hhandler := hattempts ▸ h.started handler (hhandlers handler hhandler)

theorem Leased.move (h : Leased w) (hmove : Move w input after) : Leased after := by
  cases hmove with
  | claimed worker clock job hidle hstate hjob =>
    subst hjob
    have hold (handler : Handler) (hmem : handler ∈ w.handlers) :
        handler.worker ≠ worker ∧ handler.attempt ≠ w.job.attempts + 1 := by
      have hstarted := h.started handler hmem
      refine ⟨fun hworker ↦ ?_, by omega⟩
      have hbusy := busy_iff.mpr ⟨handler, hmem, hworker⟩
      rw [hidle] at hbusy
      cases hbusy
    refine ⟨fun hstopped ↦ absurd rfl hstopped, ?_, ?_, ?_⟩
    · intro handler hhandler howner
      rcases List.mem_cons.mp hhandler with rfl | hmem
      · rfl
      · exact absurd (Option.some.inj howner).symm (hold handler hmem).1
    · intro _ handler hhandler hattempt
      rcases List.mem_cons.mp hhandler with rfl | hmem
      · rfl
      · exact absurd hattempt (hold handler hmem).2
    · intro handler hhandler
      rcases List.mem_cons.mp hhandler with rfl | hmem
      · exact le_rfl
      · exact (h.started handler hmem).trans (Nat.le_succ _)
  | completed worker hbusy =>
    exact h.release w.job.complete rfl rfl (by simp [Job.complete]) rfl
      fun handler hmem ↦ (mem_others hmem).1
  | failed worker error now hbusy =>
    refine h.release (w.job.fail error now) (Job.fail_leaseOwner ..) (Job.fail_leaseExpiresAt ..) ?_
      (Job.fail_attempts ..) fun handler hmem ↦ (mem_others hmem).1
    rw [Job.fail_state]
    split <;> simp
  | recovered clock job hstate hjob =>
    refine h.release job (by rw [hjob]) (by rw [hjob]) ?_ (by rw [hjob]) fun handler hmem ↦ hmem
    rw [hjob]
    dsimp only
    split <;> simp
  | abandoned worker hbusy =>
    exact
      { released := h.released
        owner := fun handler hmem ↦ h.owner handler (mem_others hmem).1
        current := fun hrunning handler hmem ↦ h.current hrunning handler (mem_others hmem).1
        started := fun handler hmem ↦ h.started handler (mem_others hmem).1 }

theorem Leased.step (h : Leased w) (input : Step) : Leased (jobs.step w input).2 := by
  rcases step_cases w input with hkept | ⟨after, hmove, hstep⟩
  · rw [hkept]
    exact h
  · rw [hstep]
    exact h.move hmove

end Steps

theorem leased_run (availableAt : Time) (maxAttempts : Int) (steps : List Step) :
    Leased (jobs.run (Work.created availableAt maxAttempts) steps) :=
  jobs.run_invariant Leased (leased_created availableAt maxAttempts) (fun _ input h ↦ h.step input) steps

/-! ## Handlers that end -/

/-- The worker whose handler ends in a completion or a failure. -/
def Step.ender : Step → Option String
  | .completed worker => some worker
  | .failed worker _ _ => some worker
  | _ => none

/-- Only the lease owner changes the job at the end of a handler. -/
def OwnerEnds (e : JobEntry) : Prop :=
  ∀ worker, e.input.ender = some worker → e.after.job ≠ e.before.job →
    e.before.job.leaseOwner = some worker

/-- The job still runs the attempt that a handler was started for. -/
def Holds (w : Work) (handler : Handler) : Prop :=
  w.job.state = .running ∧ w.job.attempts = handler.attempt

/-- The job already says what the end of a handler writes. -/
def Step.Repeats (job : Job) : Step → Prop
  | .completed _ => job.state = .completed
  | .failed _ error now => job.lastError = some (clip 4000 error) ∧
    ((job.maxAttempts ≤ job.attempts ∧ job.state = .failed) ∨
      ((job.attempts : Int) < job.maxAttempts ∧ job.state = .available ∧
        job.availableAt = now + seconds (2 ^ job.attempts)))
  | _ => False

/-- A handler that ends does so in its own attempt, or writes what is there. -/
def EndsInTime (e : JobEntry) : Prop :=
  ∀ handler ∈ e.before.handlers, e.input.ender = some handler.worker →
    Holds e.before handler ∨ e.input.Repeats e.before.job

section Ends

theorem Job.complete_eq_iff {job : Job} (hreleased : job.state ≠ .running →
    job.leaseOwner = none ∧ job.leaseExpiresAt = none) :
    job.complete = job ↔ job.state = .completed := by
  constructor
  · intro h
    rw [← h]
    rfl
  · intro h
    obtain ⟨howner, hexpiry⟩ := hreleased (by simp [h])
    cases job
    simp_all [Job.complete]

theorem Job.fail_eq_iff {job : Job} {error : String} {now : Time} (hreleased : job.state ≠ .running →
    job.leaseOwner = none ∧ job.leaseExpiresAt = none) :
    job.fail error now = job ↔ (Step.failed "" error now).Repeats job := by
  cases job with
  | mk state availableAt attempts maxAttempts leaseOwner leaseExpiresAt lastError =>
    by_cases hlast : maxAttempts ≤ attempts
    · simp only [Job.fail, Step.Repeats, hlast, if_true, Job.mk.injEq, true_and, not_lt.mpr hlast,
        false_and, or_false]
      constructor
      · rintro ⟨rfl, -, -, rfl⟩
        exact ⟨rfl, rfl⟩
      · rintro ⟨rfl, rfl⟩
        obtain ⟨howner, hexpiry⟩ := hreleased (by simp)
        exact ⟨rfl, howner.symm, hexpiry.symm, rfl⟩
    · simp only [Job.fail, Step.Repeats, hlast, if_false, Job.mk.injEq, true_and, false_and, false_or,
        not_le.mp hlast]
      constructor
      · rintro ⟨rfl, hat, -, -, rfl⟩
        exact ⟨rfl, rfl, hat.symm⟩
      · rintro ⟨rfl, rfl, hat⟩
        obtain ⟨howner, hexpiry⟩ := hreleased (by simp)
        exact ⟨rfl, hat.symm, howner.symm, hexpiry.symm, rfl⟩

variable {w : Work} {input : Step} {worker : String}

/-- A handler that ends leaves the job as it is when the job already says what it writes. -/
theorem after_job_eq_iff (h : Leased w) (hender : input.ender = some worker)
    (hbusy : w.busy worker = true) :
    (jobs.entry w input).after.job = w.job ↔ input.Repeats w.job := by
  cases input with
  | completed other =>
    obtain rfl := Option.some.inj hender
    simp only [Machine.entry, jobs, Work.step, hbusy, if_true]
    exact Job.complete_eq_iff h.released
  | failed other error now =>
    obtain rfl := Option.some.inj hender
    simp only [Machine.entry, jobs, Work.step, hbusy, if_true]
    exact Job.fail_eq_iff h.released
  | _ => cases hender

/-- A worker without a handler ends nothing. -/
theorem busy_of_changed (hender : input.ender = some worker)
    (hchanged : (jobs.entry w input).after.job ≠ w.job) : w.busy worker = true := by
  by_contra hidle
  refine hchanged ?_
  cases input with
  | completed other =>
    obtain rfl := Option.some.inj hender
    simp [Machine.entry, jobs, Work.step, hidle]
  | failed other error now =>
    obtain rfl := Option.some.inj hender
    simp [Machine.entry, jobs, Work.step, hidle]
  | _ => cases hender

/-- The lease owner is the worker that runs the last attempt, as long as the job is running. -/
theorem ownerEnds_iff (h : Leased w) (input : Step) :
    OwnerEnds (jobs.entry w input) ↔ EndsInTime (jobs.entry w input) := by
  constructor
  · intro howner handler hhandler hender
    have hbusy := busy_iff.mpr ⟨handler, hhandler, rfl⟩
    by_cases hsame : (jobs.entry w input).after.job = w.job
    · exact Or.inr ((after_job_eq_iff h hender hbusy).mp hsame)
    · have hleased : w.job.leaseOwner = some handler.worker := howner handler.worker hender hsame
      refine Or.inl ⟨?_, (h.owner handler hhandler hleased).symm⟩
      by_contra hstopped
      rw [(h.released hstopped).1] at hleased
      cases hleased
  · intro hends worker hender hchanged
    have hbusy := busy_of_changed hender hchanged
    obtain ⟨handler, hhandler, rfl⟩ := busy_iff.mp hbusy
    rcases hends handler hhandler hender with hholds | hrepeats
    · exact h.current hholds.1 handler hhandler hholds.2.symm
    · exact absurd ((after_job_eq_iff h hender hbusy).mpr hrepeats) hchanged

/-- A job that has ended is not claimed and not recovered, and a handler that ends in time keeps it. -/
theorem state_kept (h : Leased w) (hends : EndsInTime (jobs.entry w input))
    (hterminal : w.job.state.Terminal) : (jobs.entry w input).after.job.state = w.job.state := by
  have hstopped : w.job.state ≠ .running := by
    rcases hterminal with hstate | hstate <;> simp [hstate]
  have hkept {worker : String} (hender : input.ender = some worker) (hbusy : w.busy worker = true) :
      (jobs.entry w input).after.job.state = w.job.state := by
    obtain ⟨handler, hhandler, rfl⟩ := busy_iff.mp hbusy
    rcases hends handler hhandler hender with hholds | hrepeats
    · exact absurd hholds.1 hstopped
    · rw [(after_job_eq_iff h hender hbusy).mpr hrepeats]
  rcases step_cases w input with hnothing | ⟨after, hmove, hstep⟩
  · simp only [Machine.entry, hnothing]
  · have hafter : (jobs.entry w input).after = after := congrArg Prod.snd hstep
    cases hmove with
    | claimed worker clock job hidle hstate hjob => simp [JobState.Terminal, hstate] at hterminal
    | completed worker hbusy => exact hkept rfl hbusy
    | failed worker error now hbusy => exact hkept rfl hbusy
    | recovered clock job hstate hjob => exact absurd hstate hstopped
    | abandoned worker hbusy => rw [hafter]

end Ends

/-- In a run jobs that have ended stay as they ended and only lease owners finish the job, exactly when
every handler that ends in the run does so before its lease is taken back, or writes what the job already
says. -/
theorem jobs_final_iff (availableAt : Time) (maxAttempts : Int) (steps : List Step) :
    (jobs.Final (fun w ↦ w.job.state) JobState.Terminal (Work.created availableAt maxAttempts) steps ∧
        ∀ e ∈ jobs.log (Work.created availableAt maxAttempts) steps, OwnerEnds e) ↔
      ∀ e ∈ jobs.log (Work.created availableAt maxAttempts) steps, EndsInTime e := by
  have hentry (e : JobEntry) (he : e ∈ jobs.log (Work.created availableAt maxAttempts) steps) :
      ∃ w input, Leased w ∧ e = jobs.entry w input := by
    obtain ⟨earlier, input, later, -, rfl⟩ := (jobs.mem_log_iff _ _ _).mp he
    exact ⟨_, input, leased_run availableAt maxAttempts earlier, rfl⟩
  rw [Machine.final_iff]
  constructor
  · rintro ⟨-, howner⟩ e he
    obtain ⟨w, input, hleased, rfl⟩ := hentry e he
    exact (ownerEnds_iff hleased input).mp (howner _ he)
  · intro hends
    refine ⟨fun e he hterminal ↦ ?_, fun e he ↦ ?_⟩
    · obtain ⟨w, input, hleased, rfl⟩ := hentry e he
      exact state_kept hleased (hends _ he) hterminal
    · obtain ⟨w, input, hleased, rfl⟩ := hentry e he
      exact (ownerEnds_iff hleased input).mpr (hends _ he)

/-- A clock that stands still. -/
def atMinute (count : Int) (_ : Nat) : Time := minutes count

/-- A slow worker outlives its lease, another one completes the job, and then the slow one fails. -/
def lateFailure : List Step :=
  [.processOne "worker-a" (atMinute 0), .recoverExpiredLease (atMinute 6),
    .processOne "worker-b" (atMinute 6), .completed "worker-b",
    .failed "worker-a" "timeout" (minutes 7)]

/-- The late failure makes a completed job available again, by a worker that does not own it. -/
theorem completed_job_reopened :
    ¬jobs.Final (fun w ↦ w.job.state) JobState.Terminal (Work.created 0 5) lateFailure ∧
      ¬∀ e ∈ jobs.log (Work.created 0 5) lateFailure, OwnerEnds e := by
  constructor
  · intro hfinal
    have hkept := hfinal (lateFailure.take 4) (lateFailure.drop 4) [] (by simp [lateFailure])
      (Or.inl (by decide))
    revert hkept
    decide
  · intro howner
    have hlast := howner (jobs.entry (jobs.run (Work.created 0 5) (lateFailure.take 4))
      (.failed "worker-a" "timeout" (minutes 7)))
      ((jobs.mem_log_iff _ _ _).mpr ⟨lateFailure.take 4, _, [], rfl, rfl⟩) "worker-a" rfl (by decide)
    revert hlast
    decide

/-! ## Attempts -/

/-- A step that starts a handler. -/
def starts (e : JobEntry) : Bool :=
  match e.input with
  | .processOne _ _ => e.output
  | _ => false

/-- The attempts count the handlers that were started, and an available job has one left. -/
structure Counted (maxAttempts : Int) (history : List JobEntry) (w : Work) : Prop where
  bound : w.job.maxAttempts = maxAttempts
  available : w.job.state = .available → (w.job.attempts : Int) < maxAttempts
  attempts : (w.job.attempts : Int) ≤ maxAttempts
  started : (history.filter starts).length = w.job.attempts

theorem Counted.step {maxAttempts : Int} {history : List JobEntry} {w : Work}
    (h : Counted maxAttempts history w) (input : Step) :
    Counted maxAttempts (history ++ [jobs.entry w input]) (jobs.step w input).2 := by
  have hkept (hother : starts (jobs.entry w input) = false) :
      ((history ++ [jobs.entry w input]).filter starts).length = w.job.attempts := by
    rw [List.filter_append, List.filter_singleton, hother, ← h.started]
    simp
  have hreleased : (if (w.job.attempts : Int) < w.job.maxAttempts then JobState.available
      else .failed) = .available → (w.job.attempts : Int) < maxAttempts := by
    intro hstate
    by_contra hlast
    rw [h.bound, if_neg hlast] at hstate
    cases hstate
  rcases step_cases w input with hnothing | ⟨after, hmove, hstep⟩
  · refine ⟨by rw [hnothing]; exact h.bound, by rw [hnothing]; exact h.available,
      by rw [hnothing]; exact h.attempts, ?_⟩
    rw [hnothing]
    refine hkept ?_
    cases input <;> simp [starts, Machine.entry, hnothing]
  · rw [hstep]
    cases hmove with
    | claimed worker clock job hidle hstate hjob =>
      subst hjob
      have hleft := h.available hstate
      refine ⟨h.bound, nofun, by push_cast; omega, ?_⟩
      have hstarts : starts (jobs.entry w (.processOne worker clock)) = true := congrArg Prod.fst hstep
      rw [List.filter_append, List.filter_singleton, hstarts, List.length_append, h.started]
      rfl
    | completed worker hbusy =>
      exact ⟨h.bound, nofun, h.attempts, hkept rfl⟩
    | failed worker error now hbusy =>
      refine ⟨(Job.fail_maxAttempts ..).trans h.bound, ?_, ?_, ?_⟩
      · rw [Job.fail_state, Job.fail_attempts]
        exact hreleased
      · rw [Job.fail_attempts]
        exact h.attempts
      · rw [Job.fail_attempts]
        exact hkept rfl
    | recovered clock job hstate hjob =>
      subst hjob
      exact ⟨h.bound, hreleased, h.attempts, hkept rfl⟩
    | abandoned worker hbusy => exact ⟨h.bound, h.available, h.attempts, hkept rfl⟩

/-- In every run an available job has an attempt left, and its handler is started at most as often as
the job has attempts. -/
theorem attempts_bounded (availableAt : Time) (maxAttempts : Int) (hmax : 1 ≤ maxAttempts)
    (steps : List Step) :
    ((jobs.run (Work.created availableAt maxAttempts) steps).job.state = .available →
        ((jobs.run (Work.created availableAt maxAttempts) steps).job.attempts : Int) <
          (jobs.run (Work.created availableAt maxAttempts) steps).job.maxAttempts) ∧
      (((jobs.log (Work.created availableAt maxAttempts) steps).filter starts).length : Int) ≤
        maxAttempts := by
  have hcounted : Counted maxAttempts (jobs.log (Work.created availableAt maxAttempts) steps)
      (jobs.run (Work.created availableAt maxAttempts) steps) := by
    refine jobs.history_invariant_all (Counted maxAttempts) ?_ (fun _ _ input h ↦ h.step input) steps
    exact ⟨rfl, fun _ ↦ by simp [Work.created]; omega, by simp [Work.created]; omega, rfl⟩
  constructor
  · intro hstate
    rw [hcounted.bound]
    exact hcounted.available hstate
  · rw [hcounted.started]
    exact hcounted.attempts

/-- The run with the late failure starts two handlers of five. -/
theorem attempts_bounded_lateFailure :
    ((jobs.run (Work.created 0 5) lateFailure).job.state = .available →
        ((jobs.run (Work.created 0 5) lateFailure).job.attempts : Int) <
          (jobs.run (Work.created 0 5) lateFailure).job.maxAttempts) ∧
      (((jobs.log (Work.created 0 5) lateFailure).filter starts).length : Int) ≤ 5 :=
  attempts_bounded 0 5 (by decide) lateFailure

end Xyena.Worker
