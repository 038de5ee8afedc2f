import Mathlib.Logic.Relation
import Xyena.Foundation.Runs
import Xyena.Guardian.Service

/-!
# What one Guardian transaction can do to the tables

An endpoint call runs one operation in one transaction. `Move` lists the five
changes that a committed call is made of: a decision is stored, an escalated
decision is stored with its approval request, an authorization is issued for a
stored decision, an approval request is resolved, an authorization is consumed.
`serve_moves` says once that every call commits a chain of moves, with all the
guards the code has passed; later invariants are proved per move only.
-/

namespace Xyena.Guardian

open Xyena.Foundation Xyena.Contracts Xyena.Audit Xyena.Tools

/-! ## Calls and the machine -/

inductive GuardianOp where
  | evaluate (evaluation : GuardianEvaluationRequest)
  | actOnApproval (approvalId tenantId : Uuid) (action : ApprovalActionCreate)
  | authorizeApproved (tenantId : Uuid) (request : ApprovedAuthorizationRequest)
  | consume (request : AuthorizationConsumeRequest)

/-- An endpoint call with its clock readings and the identifiers it may draw. -/
structure GuardianCall where
  op : GuardianOp
  clock : Readings
  ids : FreshIds

inductive GuardianReply where
  | evaluated (response : GuardianEvaluationResponse)
  | acted (result : ApprovalActionResult)
  | consumed (result : AuthorizationConsumeResult)

def serve (platform : Platform) (call : GuardianCall) : GuardianSession GuardianReply := do
  match call.op with
  | .evaluate evaluation =>
    let response ← evaluate platform call.clock call.ids evaluation
    pure (.evaluated response)
  | .actOnApproval approvalId tenantId action =>
    let result ← actOnApproval platform call.clock call.ids approvalId tenantId action
    pure (.acted result)
  | .authorizeApproved tenantId request =>
    let response ← authorizeApproved platform call.clock call.ids tenantId request
    pure (.evaluated response)
  | .consume request =>
    let result ← consume platform call.clock request
    pure (.consumed result)

/-- The Guardian endpoints: one transaction per call, rolled back when the call raises. -/
def guardian (platform : Platform) :
    Machine GuardianDb GuardianCall (Except GuardianError GuardianReply) where
  step db call := (serve platform call).atomically db

abbrev GuardianEntry := Entry GuardianDb GuardianCall (Except GuardianError GuardianReply)

/-- The readings of one call are taken in the order of the code. -/
def Readings.Ordered (clock : Readings) : Prop :=
  clock.started ≤ clock.verified ∧ clock.verified ≤ clock.now ∧ clock.now ≤ clock.occurred ∧
    clock.occurred ≤ clock.signed ∧ clock.signed ≤ clock.issued

instance (clock : Readings) : Decidable clock.Ordered := inferInstanceAs (Decidable (_ ∧ _))

/-- The clock does not go backwards, neither inside a call nor from one call to the next. -/
def ClockForward (calls : List GuardianCall) : Prop :=
  (∀ call ∈ calls, call.clock.Ordered) ∧
    calls.Pairwise fun earlier later ↦ earlier.clock.issued ≤ later.clock.started

instance (calls : List GuardianCall) : Decidable (ClockForward calls) :=
  inferInstanceAs (Decidable (_ ∧ _))

/-- The tenant, call and hash that a minting call asks about. -/
def GuardianOp.requestKey : GuardianOp → Option (Uuid × Uuid × String)
  | .evaluate evaluation => some (evaluation.request.scope.tenantId, evaluation.request.callId,
      evaluation.request.requestHash)
  | .authorizeApproved tenantId request => some (tenantId, request.callId, request.requestHash)
  | _ => none

def GuardianDecision.requestKey (decision : GuardianDecision) : Uuid × Uuid × String :=
  (decision.tenantId, decision.toolCallId, decision.requestHash)

def GuardianAuthorization.requestKey (authorization : GuardianAuthorization) :
    Uuid × Uuid × String :=
  (authorization.tenantId, authorization.toolCallId, authorization.requestHash)

/-- Whether Guardian answers the call with a new authorization: the stored decision that is found
resolves to one, or the policy allows a request that has no live decision, or an approved decision
is found before its expiry. -/
def authorizes (db : GuardianDb) (call : GuardianCall) : Bool :=
  match call.op with
  | .evaluate evaluation =>
    match liveDecision db call.clock.now evaluation.request with
    | some decision =>
      match resolution db decision with
      | .issue => true
      | _ => false
    | none => (PolicyEngine.evaluate evaluation).outcome == .allow
  | .authorizeApproved tenantId request =>
    match approvedDecision db tenantId request with
    | some decision => decide (call.clock.now < decision.expiresAt)
    | none => false
  | _ => false

/-! ## Moves -/

/-- The approval request is resolved by an action at the instant `now`. -/
def GuardianApprovalRequest.resolve (approval : GuardianApprovalRequest) (now : Time)
    (action : ApprovalActionCreate) : GuardianApprovalRequest :=
  { approval with
    status := actionStatus action.action
    resolvedAt := some now
    version := approval.version + 1 }

/-- The authorization is used up at the instant `now`. -/
def GuardianAuthorization.useUp (authorization : GuardianAuthorization) (now : Time)
    (correlationId : Uuid) : GuardianAuthorization :=
  { authorization with
    status := .consumed
    consumedAt := some now
    consumedCorrelationId := some correlationId }

/-- The changes that the committed call `call` is made of, when its transaction began on `start`. -/
inductive Move (platform : Platform) (call : GuardianCall) (start : GuardianDb) :
    GuardianDb → GuardianDb → Prop
  /-- A fresh evaluation that is not escalated stores its decision. -/
  | decide {db : GuardianDb} (evaluation : GuardianEvaluationRequest) (audit : List AuditEvent)
      (hop : call.op = .evaluate evaluation)
      (houtcome : (PolicyEngine.evaluate evaluation).outcome ≠ .escalate)
      (hfresh : ∀ old ∈ db.decisions, call.ids.decision ≠ old.id) :
      Move platform call start db
        { db with
          decisions := db.decisions ++ [decisionRow platform call.clock call.ids evaluation]
          audit := audit }
  /-- An escalated evaluation stores its decision together with a pending approval request. -/
  | escalate {db : GuardianDb} (evaluation : GuardianEvaluationRequest) (audit : List AuditEvent)
      (hop : call.op = .evaluate evaluation)
      (houtcome : (PolicyEngine.evaluate evaluation).outcome = .escalate)
      (hdecision : ∀ old ∈ db.decisions, call.ids.decision ≠ old.id)
      (happroval : ∀ old ∈ db.approvals,
        call.ids.approval ≠ old.id ∧ call.ids.decision ≠ old.decisionId) :
      Move platform call start db
        { db with
          decisions := db.decisions ++ [decisionRow platform call.clock call.ids evaluation]
          approvals := db.approvals ++ [approvalRow call.clock call.ids evaluation]
          audit := audit }
  /-- A token is minted for a stored decision that has not expired and is allowed or approved. -/
  | issue {db : GuardianDb} (decision : GuardianDecision) (token : String)
      (hasked : call.op.requestKey = some decision.requestKey)
      (hauthorizes : authorizes start call = true)
      (hfirst : db.authorizations = start.authorizations)
      (hstored : decision ∈ db.decisions)
      (hlive : call.clock.now < decision.expiresAt)
      (hgrounds : decision.outcome = .allow ∨
        ∃ approval ∈ db.approvals, approval.decisionId = decision.id ∧ approval.status = .approved)
      (hfresh : ∀ old ∈ db.authorizations, call.ids.authorization ≠ old.id ∧
        call.ids.token ≠ old.tokenId ∧ platform.tokenHash token ≠ old.tokenHash) :
      Move platform call start db
        { db with
          authorizations := db.authorizations ++
            [authorizationRow platform call.clock call.ids decision token
              (call.clock.signed + seconds 120)] }
  /-- A pending approval request is approved or rejected before its expiry by an action that
  carries every required role. -/
  | resolve {db : GuardianDb} (approvalId tenantId : Uuid) (action : ApprovalActionCreate)
      (approval : GuardianApprovalRequest) (audit : List AuditEvent)
      (hop : call.op = .actOnApproval approvalId tenantId action)
      (hstored : approval ∈ db.approvals)
      (hpending : approval.status = .pending)
      (hlive : call.clock.now < approval.expiresAt)
      (hroles : approval.requiredApproverRoles ⊆ action.actorRoles)
      (hfresh : ∀ old ∈ db.actions, call.ids.action ≠ old.id) :
      Move platform call start db
        { db with
          approvals := Table.replace GuardianApprovalRequest.id
            (approval.resolve call.clock.now action) db.approvals
          actions := db.actions ++ [actionRow call.clock call.ids tenantId approval action]
          audit := audit }
  /-- An active authorization is consumed before its expiry. -/
  | consume {db : GuardianDb} (request : AuthorizationConsumeRequest)
      (authorization : GuardianAuthorization)
      (hop : call.op = .consume request)
      (hstored : authorization ∈ db.authorizations)
      (hactive : authorization.status = .active)
      (hlive : call.clock.now < authorization.expiresAt)
      (hcall : authorization.toolCallId = request.callId)
      (hhash : authorization.requestHash = request.requestHash) :
      Move platform call start db
        { db with
          authorizations := Table.replace GuardianAuthorization.id
            (authorization.useUp call.clock.now request.correlationId) db.authorizations }

/-! ## Success of the single statements -/

variable {platform : Platform} {clock : Readings} {ids : FreshIds} {db after : GuardianDb}

theorem addAudit_ok {draft : AuditDraft} {done : PUnit}
    (h : (addAudit platform clock ids draft).exec db = (.ok done, after)) :
    ∃ audit, after = { db with audit := audit } := by
  rw [addAudit, Session.exec_get_bind] at h
  exact ⟨_, (Session.insert_ok.mp h).2⟩

/-- A successful issue signed a token and stored one new row for it. -/
theorem issueAuthorization_ok {decision : GuardianDecision} {response : GuardianEvaluationResponse}
    (h : (issueAuthorization platform clock ids decision).exec db = (.ok response, after)) :
    ∃ token,
      (∀ old ∈ db.authorizations, ids.authorization ≠ old.id ∧ ids.token ≠ old.tokenId ∧
        platform.tokenHash token ≠ old.tokenHash) ∧
      after = { db with
        authorizations := db.authorizations ++
          [authorizationRow platform clock ids decision token (clock.signed + seconds 120)] } ∧
      response.decisionId = decision.id ∧ response.authorizationId = some ids.authorization ∧
      response.authorizationToken = some token := by
  unfold issueAuthorization at h
  split at h
  · cases h
  next token expiresAt hissue =>
    obtain ⟨_, middle, hadd, hpure⟩ := Session.exec_bind_ok.mp h
    obtain ⟨hfree, rfl⟩ := Session.insert_ok.mp hadd
    obtain ⟨rfl, rfl⟩ := Session.exec_pure_ok.mp hpure
    have hexpires : expiresAt = clock.signed + seconds 120 := by
      unfold AuthorizationSigner.issue at hissue
      split at hissue
      · cases hissue
      · exact (Prod.mk.inj (Except.ok.inj hissue)).2.symm
    subst hexpires
    refine ⟨token, fun old hold ↦ ?_, rfl, rfl, rfl, rfl⟩
    have hkeys := hfree old hold
    simp only [Bool.or_eq_false_iff, beq_eq_false_iff_ne] at hkeys
    exact ⟨hkeys.1.1, hkeys.1.2, hkeys.2⟩

theorem liveDecision_spec {now : Time} {request : CanonicalToolRequest}
    {decision : GuardianDecision} (h : liveDecision db now request = some decision) :
    decision ∈ db.decisions ∧
      decision.requestKey = (request.scope.tenantId, request.callId, request.requestHash) ∧
      now < decision.expiresAt := by
  obtain ⟨hstored, hselected⟩ := Table.latest_filter_spec h
  simp only [Bool.and_eq_true, beq_iff_eq, decide_eq_true_eq] at hselected
  obtain ⟨⟨⟨htenant, hcall⟩, hhash⟩, hlive⟩ := hselected
  exact ⟨hstored, by rw [GuardianDecision.requestKey, htenant, hcall, hhash], hlive⟩

theorem approvedDecision_spec {tenantId : Uuid} {request : ApprovedAuthorizationRequest}
    {decision : GuardianDecision} (h : approvedDecision db tenantId request = some decision) :
    decision ∈ db.decisions ∧
      decision.requestKey = (tenantId, request.callId, request.requestHash) ∧
      ∃ approval ∈ db.approvals, approval.decisionId = decision.id ∧
        approval.status = .approved := by
  obtain ⟨hstored, hselected⟩ := Table.latest_filter_spec h
  simp only [Bool.and_eq_true, beq_iff_eq, List.any_eq_true] at hselected
  obtain ⟨⟨⟨htenant, hcall⟩, hhash⟩, hgrounds⟩ := hselected
  exact ⟨hstored, by rw [GuardianDecision.requestKey, htenant, hcall, hhash], hgrounds⟩

/-- A stored decision resolves to an authorization only when it is allowed or approved. -/
theorem resolution_issue {decision : GuardianDecision} (h : resolution db decision = .issue) :
    decision.outcome = .allow ∨
      ∃ approval ∈ db.approvals, approval.decisionId = decision.id ∧
        approval.status = .approved := by
  unfold resolution at h
  split at h
  next approval hfind =>
    split at h
    next happroved =>
      have hdecision : approval.decisionId = decision.id := by simpa using List.find?_some hfind
      exact Or.inr ⟨approval, List.mem_of_find?_eq_some hfind, hdecision, happroved⟩
    · split at h
      · cases h
      · split at h
        next hallow => exact Or.inl hallow
        · cases h
  next hnone =>
    split at h
    next hallow => exact Or.inl hallow
    · cases h

/-! ## Success of the operations -/

/-- The chain of moves of one committed call. -/
abbrev Moves (platform : Platform) (call : GuardianCall) (start : GuardianDb) :
    GuardianDb → GuardianDb → Prop :=
  Relation.ReflTransGen (Move platform call start)

variable {call : GuardianCall}

theorem resolveExisting_moves {evaluation : GuardianEvaluationRequest} {decision : GuardianDecision}
    {response : GuardianEvaluationResponse} (hop : call.op = .evaluate evaluation)
    (hlive : liveDecision db call.clock.now evaluation.request = some decision)
    (h : (resolveExisting platform call.clock call.ids decision).exec db = (.ok response, after)) :
    Moves platform call db db after := by
  rw [resolveExisting, Session.exec_get_bind] at h
  split at h
  next hresolution =>
    obtain ⟨hstored, hkey, hexpiry⟩ := liveDecision_spec hlive
    obtain ⟨token, hfresh, rfl, -⟩ := issueAuthorization_ok h
    refine .single (.issue decision token ?_ ?_ rfl hstored hexpiry (resolution_issue hresolution)
      hfresh)
    · rw [hop, hkey]
      rfl
    · simp only [authorizes, hop, hlive, hresolution]
  · obtain ⟨-, rfl⟩ := Session.exec_pure_ok.mp h
    exact .refl
  · obtain ⟨-, rfl⟩ := Session.exec_pure_ok.mp h
    exact .refl

theorem evaluate_moves {evaluation : GuardianEvaluationRequest}
    {response : GuardianEvaluationResponse} (hop : call.op = .evaluate evaluation)
    (h : (evaluate platform call.clock call.ids evaluation).exec db = (.ok response, after)) :
    Moves platform call db db after := by
  rw [evaluate, Session.exec_get_bind] at h
  split at h
  next decision hlive => exact resolveExisting_moves hop hlive h
  next hlive =>
    simp only at h
    obtain ⟨_, stored, hadd, h⟩ := Session.exec_bind_ok.mp h
    obtain ⟨hfree, rfl⟩ := Session.insert_ok.mp hadd
    have hdecision : ∀ old ∈ db.decisions, call.ids.decision ≠ old.id := fun old hold ↦
      beq_eq_false_iff_ne.mp (hfree old hold)
    by_cases hescalate : (PolicyEngine.evaluate evaluation).outcome = .escalate
    · simp only [hescalate, if_true, reduceCtorEq, if_false] at h
      obtain ⟨_, escalated, hadd, h⟩ := Session.exec_bind_ok.mp h
      obtain ⟨hfree, rfl⟩ := Session.insert_ok.mp hadd
      obtain ⟨_, audited, haudit, h⟩ := Session.exec_bind_ok.mp h
      obtain ⟨audit, rfl⟩ := addAudit_ok haudit
      obtain ⟨-, rfl⟩ := Session.exec_pure_ok.mp h
      refine .single (.escalate evaluation audit hop hescalate hdecision fun old hold ↦ ?_)
      have hkeys := hfree old hold
      simp only [Bool.or_eq_false_iff, beq_eq_false_iff_ne] at hkeys
      exact hkeys
    · simp only [hescalate, if_false] at h
      obtain ⟨_, audited, haudit, h⟩ := Session.exec_bind_ok.mp h
      obtain ⟨audit, rfl⟩ := addAudit_ok haudit
      have hdecide : Move platform call db db _ :=
        .decide evaluation audit hop hescalate hdecision
      split at h
      next hallow =>
        obtain ⟨token, hfresh, rfl, -⟩ := issueAuthorization_ok h
        refine .tail (.single hdecide) (.issue _ token ?_ ?_ rfl ?_ ?_ (Or.inl hallow) hfresh)
        · rw [hop]
          rfl
        · simp only [authorizes, hop, hlive, hallow, beq_self_eq_true]
        · exact List.mem_append_right _ (List.mem_singleton.mpr rfl)
        · exact lt_add_minutes (by decide) call.clock.now
      · obtain ⟨-, rfl⟩ := Session.exec_pure_ok.mp h
        exact .single hdecide

theorem actOnApproval_moves {approvalId tenantId : Uuid} {action : ApprovalActionCreate}
    {result : ApprovalActionResult} (hop : call.op = .actOnApproval approvalId tenantId action)
    (h : (actOnApproval platform call.clock call.ids approvalId tenantId action).exec db =
      (.ok result, after)) :
    Moves platform call db db after := by
  rw [actOnApproval, Session.exec_get_bind] at h
  split at h
  · cases h
  next approval hfind =>
    split at h
    · cases h
    next hpending =>
      split at h
      · rw [storeApproval, Session.exec_modify_bind] at h
        cases h
      next hlive =>
        split at h
        · cases h
        next hroles =>
          simp only [storeApproval, Session.exec_modify_bind] at h
          obtain ⟨_, acted, hadd, h⟩ := Session.exec_bind_ok.mp h
          obtain ⟨hfree, rfl⟩ := Session.insert_ok.mp hadd
          obtain ⟨_, audited, haudit, h⟩ := Session.exec_bind_ok.mp h
          obtain ⟨audit, rfl⟩ := addAudit_ok haudit
          obtain ⟨-, rfl⟩ := Session.exec_pure_ok.mp h
          refine .single (.resolve approvalId tenantId action approval audit hop
            (List.mem_of_find?_eq_some hfind) (not_not.mp hpending) (not_le.mp hlive)
            (not_not.mp hroles) fun old hold ↦ ?_)
          exact beq_eq_false_iff_ne.mp (hfree old hold)

theorem presented_spec {request : AuthorizationConsumeRequest}
    {authorization : GuardianAuthorization} (h : presented platform db request = some authorization) :
    authorization ∈ db.authorizations ∧
      authorization.tokenHash = platform.tokenHash request.token ∧
      authorization.toolCallId = request.callId ∧
      authorization.requestHash = request.requestHash := by
  have hselected := List.find?_some h
  simp only [Bool.and_eq_true, beq_iff_eq] at hselected
  exact ⟨List.mem_of_find?_eq_some h, hselected.1.1, hselected.1.2, hselected.2⟩

theorem consume_moves {request : AuthorizationConsumeRequest} {result : AuthorizationConsumeResult}
    (hop : call.op = .consume request)
    (h : (consume platform call.clock request).exec db = (.ok result, after)) :
    Moves platform call db db after := by
  unfold consume at h
  split at h
  · cases h
  · split at h
    · cases h
    · rw [Session.exec_get_bind] at h
      split at h
      · cases h
      next authorization hpresented =>
        split at h
        · cases h
        next hactive =>
          split at h
          · rw [storeAuthorization, Session.exec_modify_bind] at h
            cases h
          next hlive =>
            simp only [storeAuthorization, Session.exec_modify_bind] at h
            obtain ⟨-, rfl⟩ := Session.exec_pure_ok.mp h
            obtain ⟨hstored, -, hcall, hhash⟩ := presented_spec hpresented
            exact .single (.consume request authorization hop hstored (not_not.mp hactive)
              (not_le.mp hlive) hcall hhash)

theorem authorizeApproved_moves {tenantId : Uuid} {request : ApprovedAuthorizationRequest}
    {response : GuardianEvaluationResponse}
    (hop : call.op = .authorizeApproved tenantId request)
    (h : (authorizeApproved platform call.clock call.ids tenantId request).exec db =
      (.ok response, after)) :
    Moves platform call db db after := by
  rw [authorizeApproved, Session.exec_get_bind] at h
  split at h
  · cases h
  next decision hfound =>
    split at h
    · cases h
    next hlive =>
      obtain ⟨hstored, hkey, hgrounds⟩ := approvedDecision_spec hfound
      obtain ⟨token, hfresh, rfl, -⟩ := issueAuthorization_ok h
      refine .single (.issue decision token ?_ ?_ rfl hstored (not_le.mp hlive) (Or.inr hgrounds)
        hfresh)
      · rw [hop, hkey]
        rfl
      · simp only [authorizes, hop, hfound, decide_eq_true_eq]
        exact not_le.mp hlive

/-- Every endpoint call commits a chain of moves; a call that raised commits the empty chain. -/
theorem serve_moves (platform : Platform) (db : GuardianDb) (call : GuardianCall) :
    Moves platform call db db ((guardian platform).step db call).2 := by
  obtain hkept | ⟨reply, h⟩ := Session.atomically_snd_cases (serve platform call) db
  · change Moves platform call db db ((serve platform call).atomically db).2
    rw [hkept]
  · change (serve platform call).exec db = (.ok reply, ((guardian platform).step db call).2) at h
    unfold serve at h
    split at h
    all_goals
      rename_i hop
      obtain ⟨_, middle, hserved, hpure⟩ := Session.exec_bind_ok.mp h
      obtain ⟨-, hafter⟩ := Session.exec_pure_ok.mp hpure
      rw [hafter]
    · exact evaluate_moves hop hserved
    · exact actOnApproval_moves hop hserved
    · exact authorizeApproved_moves hop hserved
    · exact consume_moves hop hserved

/-- A property that every move of a call preserves is preserved by the call. -/
theorem step_invariant (platform : Platform) (Inv : GuardianDb → Prop) (db : GuardianDb)
    (call : GuardianCall)
    (hmove : ∀ before after, Move platform call db before after → Inv before → Inv after)
    (h : Inv db) : Inv ((guardian platform).step db call).2 := by
  have hmoves := serve_moves platform db call
  generalize ((guardian platform).step db call).2 = after at hmoves
  induction hmoves with
  | refl => exact h
  | tail _ hlast ih => exact hmove _ _ hlast ih

/-! ## A sample deployment for concrete runs -/

/-- Tokens are the texts of their identifiers, and only the listed ones verify. -/
def sampleSigner (issued : List TokenClaims) : AuthorizationSigner where
  signingKey := some fun claims ↦ claims.jti.str
  verifyKey := some fun token ↦ issued.find? fun claims ↦ claims.jti.str == token

def sampleHash : String := "a5a81fbab0ffd7275ffb6a61e7f5ef535fe9dee69d4d83ec6188e3b30c01e42a"

def sampleEvaluationHash : String :=
  "6c19bed4b71a444b36301ff6141fbeba965b9d4e13b2872cbcd9c3b59457e4b4"

/-- A transfer call of tenant 1 for a tool that changes state. -/
def sampleRequest : CanonicalToolRequest where
  callId := 7
  runId := 5
  agentName := "payments-agent"
  scope := { tenantId := 1, organizationId := 2, userId := 3, correlationId := 4 }
  serverId := 11
  toolVersionId := 12
  canonicalName := "bank.transfers.execute"
  originalName := "transfers.execute"
  normalizedArguments := [("amount", .str "10.00")]
  purpose := "settle invoice"
  idempotencyKey := some "invoice-1"
  requestHash := sampleHash

def sampleEvaluation : GuardianEvaluationRequest where
  request := sampleRequest
  policy := { riskClass := .mutate, sideEffects := true }

/-- The digests of the documents of the sample request; other texts stand for themselves. -/
def sampleSha256 (text : String) : String :=
  if text.toList.head? = some '\x7b' then
    if text = canonicalJson (.obj sampleRequest.document) then sampleHash
    else if text = canonicalJson sampleEvaluation.dump then sampleEvaluationHash
    else text
  else text

def samplePlatform (issued : List TokenClaims) : Platform where
  sha256 := sampleSha256
  isoformat instant := toString instant
  signer := sampleSigner issued

/-- A call all of whose clock readings are one instant. -/
def callAt (op : GuardianOp) (instant : Time) (ids : FreshIds) : GuardianCall where
  op := op
  clock := ⟨instant, instant, instant, instant, instant, instant⟩
  ids := ids

/-- Six different identifiers, counted from `first`. -/
def sampleIds (first : Nat) : FreshIds where
  decision := .ofNat 128 first
  approval := .ofNat 128 (first + 1)
  action := .ofNat 128 (first + 2)
  audit := .ofNat 128 (first + 3)
  authorization := .ofNat 128 (first + 4)
  token := .ofNat 128 (first + 5)

/-- The claims that a token for the sample request carries. -/
def sampleClaims (signed : Time) (decisionId : Uuid) (ids : FreshIds) : TokenClaims :=
  AuthorizationSigner.claims signed ids.token
    { authorizationId := ids.authorization
      tenantId := sampleRequest.scope.tenantId
      callId := sampleRequest.callId
      decisionId := decisionId
      requestHash := sampleRequest.requestHash
      constraints := exactRequest sampleRequest.requestHash }

def sampleConsume (ids : FreshIds) : GuardianOp :=
  .consume
    { token := ids.token.str
      callId := sampleRequest.callId
      requestHash := sampleRequest.requestHash
      correlationId := 4 }

end Xyena.Guardian
