import Xyena.Guardian.Moves

/-!
# What a refused operation leaves behind

`act_on_approval` and `consume` mark a row as expired and then raise. The
endpoint runs each operation in one transaction that is rolled back when the
operation raises, so the mark is lost together with everything else. A refused
call therefore leaves every row as it was, also the refusals that are meant to
record an expiry.
-/

namespace Xyena.Guardian

open Xyena.Foundation Xyena.Contracts

/-- A refusal for expiry leaves the refused row expired; every other refusal leaves every row as it
was. -/
def RefusalRecorded (platform : Platform) (e : GuardianEntry) : Prop :=
  match e.output, e.input.op with
  | .error (.service .approvalExpired _), .actOnApproval approvalId tenantId _ =>
    (e.after.approvals.find? (isApproval approvalId tenantId)).map (·.status) = some .expired
  | .error (.service .authorizationExpired _), .consume request =>
    (presented platform e.after request).map (·.status) = some .expired
  | .error _, _ => e.after = e.before
  | .ok _, _ => True

/-- The call acts on a pending approval request past its expiry. -/
def ActsOnExpired (db : GuardianDb) (now : Time) (approvalId tenantId : Uuid) : Prop :=
  ∃ approval ∈ db.approvals.find? (isApproval approvalId tenantId),
    approval.status = .pending ∧ approval.expiresAt ≤ now

instance (db : GuardianDb) (now : Time) (approvalId tenantId : Uuid) :
    Decidable (ActsOnExpired db now approvalId tenantId) :=
  inferInstanceAs (Decidable (∃ _ ∈ db.approvals.find? (isApproval approvalId tenantId), _))

/-- The call presents a token that still verifies for an active authorization past its expiry. -/
def ConsumesExpired (platform : Platform) (db : GuardianDb) (clock : Readings)
    (request : AuthorizationConsumeRequest) : Prop :=
  (∃ claims, platform.signer.verify clock.verified request.token = .ok claims ∧
    claims.callId = request.callId ∧ claims.requestHash = request.requestHash) ∧
  ∃ authorization ∈ presented platform db request,
    authorization.status = .active ∧ authorization.expiresAt ≤ clock.now

/-- The call meets a row that is due to be marked as expired. -/
def MeetsExpired (platform : Platform) (e : GuardianEntry) : Prop :=
  match e.input.op with
  | .actOnApproval approvalId tenantId _ =>
    ActsOnExpired e.before e.input.clock.now approvalId tenantId
  | .consume request => ConsumesExpired platform e.before e.input.clock request
  | _ => False

/-! ## Refusals of the operations -/

variable {platform : Platform} {clock : Readings} {ids : FreshIds} {db : GuardianDb}

/-- `act_on_approval` is refused for expiry exactly on a pending request past its expiry. -/
theorem actOnApproval_expired (platform : Platform) (ids : FreshIds) {approvalId tenantId : Uuid}
    (action : ApprovalActionCreate) :
    (∃ message, ((actOnApproval platform clock ids approvalId tenantId action).exec db).1 =
      .error (.service .approvalExpired message)) ↔
    ActsOnExpired db clock.now approvalId tenantId := by
  rw [actOnApproval, Session.exec_get_bind, ActsOnExpired]
  split
  next hfind => simp [refuse, hfind]
  next approval hfind =>
    simp only [hfind, Option.mem_some, exists_eq_left']
    split
    next hresolved => simp [refuse, hresolved]
    next hpending =>
      rw [not_not] at hpending
      split
      next hexpired => simp [refuse, storeApproval, hpending, hexpired]
      next hlive =>
        simp only [hlive, and_false, iff_false, not_exists]
        intro message
        split
        · simp [refuse]
        · -- past the guards only the inserts can raise
          intro hraised
          obtain ⟨after, h⟩ := Session.exec_fst_error.mp hraised
          simp only [storeApproval, Session.exec_modify_bind] at h
          rcases Session.exec_bind_error.mp h with h | ⟨_, acted, -, h⟩
          · exact absurd (Session.insert_error h) (by simp)
          · rcases Session.exec_bind_error.mp h with h | ⟨_, audited, -, h⟩
            · rw [addAudit, Session.exec_get_bind] at h
              exact absurd (Session.insert_error h) (by simp)
            · cases h

/-- `consume` is refused for expiry exactly on an active authorization past its expiry whose token
still verifies. -/
theorem consume_expired {request : AuthorizationConsumeRequest} :
    (∃ message, ((consume platform clock request).exec db).1 =
      .error (.service .authorizationExpired message)) ↔
    ConsumesExpired platform db clock request := by
  rw [consume, ConsumesExpired]
  split
  next message hverify => simp [refuse, hverify]
  next claims hverify =>
    simp only [hverify, Except.ok.injEq, exists_eq_left']
    split
    next hmismatch =>
      simp only [refuse, Session.exec_throw, Except.error.injEq, GuardianError.service.injEq,
        reduceCtorEq, false_and, exists_false, false_iff, not_and]
      intro hmatch
      exact absurd hmatch (by tauto)
    next hmatch =>
      have hscope : claims.callId = request.callId ∧ claims.requestHash = request.requestHash := by
        tauto
      simp only [hscope, and_self, true_and, Session.exec_get_bind]
      split
      next hpresented => simp [refuse, hpresented]
      next authorization hpresented =>
        simp only [hpresented, Option.mem_some, exists_eq_left']
        split
        next hused => simp [refuse, hused]
        next hactive =>
          rw [not_not] at hactive
          split
          next hexpired => simp [refuse, storeAuthorization, hactive, hexpired]
          next hlive =>
            simp only [storeAuthorization, Session.exec_modify_bind, Session.exec_pure, hlive,
              reduceCtorEq, exists_false, and_false]

/-! ## Runs -/

/-- A call that raised is rolled back. -/
theorem entry_after_of_error {call : GuardianCall} {failure : GuardianError}
    (h : ((guardian platform).entry db call).output = .error failure) :
    ((guardian platform).entry db call).after = db :=
  Session.atomically_error (Prod.ext h rfl)

theorem entry_actOnApproval_expired (platform : Platform) {call : GuardianCall} {approvalId tenantId : Uuid}
    {action : ApprovalActionCreate} (hop : call.op = .actOnApproval approvalId tenantId action) :
    (∃ message, ((guardian platform).entry db call).output =
      .error (.service .approvalExpired message)) ↔
    ActsOnExpired db call.clock.now approvalId tenantId := by
  rw [← actOnApproval_expired platform call.ids action]
  change (∃ message, ((serve platform call).atomically db).1 = _) ↔ _
  refine exists_congr fun message ↦ ?_
  rw [Session.atomically_fst, serve, hop]
  exact Session.exec_bind_pure_error

theorem entry_consume_expired {call : GuardianCall} {request : AuthorizationConsumeRequest}
    (hop : call.op = .consume request) :
    (∃ message, ((guardian platform).entry db call).output =
      .error (.service .authorizationExpired message)) ↔
    ConsumesExpired platform db call.clock request := by
  rw [← consume_expired]
  change (∃ message, ((serve platform call).atomically db).1 = _) ↔ _
  refine exists_congr fun message ↦ ?_
  rw [Session.atomically_fst, serve, hop]
  exact Session.exec_bind_pure_error

/-- The pending row that a refused approval action met is still pending. -/
theorem not_recorded_of_actsOnExpired {call : GuardianCall} {approvalId tenantId : Uuid}
    {action : ApprovalActionCreate} (hop : call.op = .actOnApproval approvalId tenantId action)
    (h : ActsOnExpired db call.clock.now approvalId tenantId) :
    ¬ RefusalRecorded platform ((guardian platform).entry db call) := by
  obtain ⟨message, houtput⟩ := (entry_actOnApproval_expired platform hop).mpr h
  have hafter := entry_after_of_error houtput
  obtain ⟨approval, hfind, hpending, -⟩ := h
  have hinput : ((guardian platform).entry db call).input.op =
      .actOnApproval approvalId tenantId action := hop
  simp only [RefusalRecorded, houtput, hinput, hafter]
  rw [hfind, Option.map_some, hpending]
  decide

/-- The active row that a refused consumption met is still active. -/
theorem not_recorded_of_consumesExpired {call : GuardianCall} {request : AuthorizationConsumeRequest}
    (hop : call.op = .consume request) (h : ConsumesExpired platform db call.clock request) :
    ¬ RefusalRecorded platform ((guardian platform).entry db call) := by
  obtain ⟨message, houtput⟩ := (entry_consume_expired hop).mpr h
  have hafter := entry_after_of_error houtput
  obtain ⟨-, authorization, hpresented, hactive, -⟩ := h
  have hinput : ((guardian platform).entry db call).input.op = .consume request := hop
  simp only [RefusalRecorded, houtput, hinput, hafter]
  rw [hpresented, Option.map_some, hactive]
  decide

theorem refusalRecorded_entry (platform : Platform) (db : GuardianDb) (call : GuardianCall) :
    RefusalRecorded platform ((guardian platform).entry db call) ↔
      ¬ MeetsExpired platform ((guardian platform).entry db call) := by
  have hrolledBack {failure : GuardianError}
      (h : ((guardian platform).entry db call).output = .error failure) :
      ((guardian platform).entry db call).after = ((guardian platform).entry db call).before :=
    entry_after_of_error h
  constructor
  · intro hrecorded hexpired
    unfold MeetsExpired at hexpired
    split at hexpired
    next approvalId tenantId action hop =>
      exact not_recorded_of_actsOnExpired hop hexpired hrecorded
    next request hop => exact not_recorded_of_consumesExpired hop hexpired hrecorded
    · exact hexpired
  · intro hfresh
    unfold RefusalRecorded
    split
    next message approvalId tenantId action houtput hop =>
      refine absurd ?_ hfresh
      unfold MeetsExpired
      rw [hop]
      exact (entry_actOnApproval_expired platform hop).mp ⟨message, houtput⟩
    next message request houtput hop =>
      refine absurd ?_ hfresh
      unfold MeetsExpired
      rw [hop]
      exact (entry_consume_expired hop).mp ⟨message, houtput⟩
    next houtput _ _ => exact hrolledBack houtput
    · trivial

/-- In every run, all refusals are recorded as they should be exactly when no call of the run meets
a row that is due to be marked as expired. -/
theorem refusals_recorded_iff (platform : Platform) (calls : List GuardianCall) :
    (∀ e ∈ (guardian platform).log {} calls, RefusalRecorded platform e) ↔
      ∀ e ∈ (guardian platform).log {} calls, ¬ MeetsExpired platform e := by
  refine forall₂_congr fun e he ↦ ?_
  obtain ⟨earlier, call, later, -, rfl⟩ := ((guardian platform).mem_log_iff _ _ _).mp he
  exact refusalRecorded_entry platform _ call

/-- The sample evaluation under a policy that always asks for approval. -/
def escalatedEvaluation : GuardianEvaluationRequest :=
  { sampleEvaluation with policy := { sampleEvaluation.policy with approvalMode := .always } }

/-- The approval is given one minute after the request has expired. -/
def lateApprovalRun : List GuardianCall :=
  [callAt (.evaluate escalatedEvaluation) 0 (sampleIds 100),
    callAt (.actOnApproval (sampleIds 100).approval sampleRequest.scope.tenantId
      { action := .approve
        actorUserId := 3
        actorRoles := ["guardian-approver"]
        reason := "checked"
        correlationId := 4 }) (minutes 16) (sampleIds 200)]

theorem lateApprovalRun_not_recorded :
    ¬ ∀ e ∈ (guardian (samplePlatform [])).log {} lateApprovalRun,
      RefusalRecorded (samplePlatform []) e := by
  intro h
  have hlast := h _ (List.mem_cons_of_mem _ List.mem_cons_self)
  exact not_recorded_of_actsOnExpired rfl (by decide +kernel) hlast

end Xyena.Guardian
