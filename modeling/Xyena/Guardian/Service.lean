import Xyena.Audit.Service
import Xyena.Foundation.Transaction
import Xyena.Guardian.Policy
import Xyena.Guardian.Signing
import Xyena.Tools.Canonical

/-!
# The Guardian service

The four operations of `GuardianService` in `packages/guardian/service.py`
over the four Guardian tables and the audit log. Each operation is a session:
it may assign a row and raise afterwards. The clock is read several times in
one operation and the readings need not agree, so every reading is a named
input; so is every identifier that the operation draws. Inserts respect the
primary keys and the uniqueness that the models declare.
-/

namespace Xyena.Guardian

open Xyena.Foundation Xyena.Contracts Xyena.Audit Xyena.Tools

/-! ## Rows -/

structure GuardianDecision where
  id : Uuid
  tenantId : Uuid
  organizationId : Uuid
  userId : Uuid
  runId : Uuid
  toolCallId : Uuid
  requestHash : String
  evaluationHash : String
  policyBundleVersion : String
  riskClass : ToolRiskClass
  outcome : GuardianOutcome
  reasonCodes : List String
  constraints : Dict
  expiresAt : Time
  createdAt : Time

inductive ApprovalStatus where
  | pending
  | approved
  | rejected
  | expired
deriving DecidableEq, Repr

def ApprovalStatus.value : ApprovalStatus → String
  | .pending => "PENDING"
  | .approved => "APPROVED"
  | .rejected => "REJECTED"
  | .expired => "EXPIRED"

structure GuardianApprovalRequest where
  id : Uuid
  tenantId : Uuid
  decisionId : Uuid
  toolCallId : Uuid
  requestedForUserId : Uuid
  summary : String
  riskClass : ToolRiskClass
  status : ApprovalStatus
  requiredApproverRoles : List String
  expiresAt : Time
  resolvedAt : Option Time := none
  version : Nat := 1
  createdAt : Time

structure GuardianApprovalAction where
  id : Uuid
  tenantId : Uuid
  approvalRequestId : Uuid
  actorUserId : Uuid
  actorRoles : List String
  action : ApprovalVerb
  reason : String
  correlationId : Uuid
  createdAt : Time

inductive AuthorizationStatus where
  | active
  | consumed
  | expired
deriving DecidableEq, Repr

structure GuardianAuthorization where
  id : Uuid
  tenantId : Uuid
  decisionId : Uuid
  toolCallId : Uuid
  requestHash : String
  tokenId : Uuid
  tokenHash : String
  constraints : Dict
  status : AuthorizationStatus
  issuedAt : Time
  expiresAt : Time
  consumedAt : Option Time := none
  consumedCorrelationId : Option Uuid := none

/-- The persisted rows of the Guardian schema and the audit log. -/
structure GuardianDb where
  decisions : List GuardianDecision := []
  approvals : List GuardianApprovalRequest := []
  actions : List GuardianApprovalAction := []
  authorizations : List GuardianAuthorization := []
  audit : List AuditEvent := []

/-! ## What an operation reads from outside the database -/

/-- The readings of the clock in one operation, in the order in which the code takes them: the
start of the transaction, the token check, the operation's own `now`, the audit entry, the
signature and the stored issue time. -/
structure Readings where
  started : Time
  verified : Time
  now : Time
  occurred : Time
  signed : Time
  issued : Time

/-- The identifiers that one operation may draw. -/
structure FreshIds where
  decision : Uuid
  approval : Uuid
  action : Uuid
  audit : Uuid
  authorization : Uuid
  token : Uuid

/-- The functions and keys that the service is configured with. -/
structure Platform where
  sha256 : String → String
  isoformat : Time → String
  signer : AuthorizationSigner

def Platform.auditCodec (platform : Platform) : AuditCodec where
  sha256 := platform.sha256
  isoformat := platform.isoformat

def Platform.tokenHash (platform : Platform) (token : String) : String := platform.sha256 token

inductive ErrorCode where
  | signingUnavailable
  | approvalNotFound
  | approvalResolved
  | approvalExpired
  | approverRoleRequired
  | authorizationInvalid
  | authorizationScopeMismatch
  | authorizationNotActive
  | authorizationExpired
  | approvedDecisionNotFound
  | decisionExpired
deriving DecidableEq, Repr

/-- A refusal of the service, or a uniqueness violation reported by the database. -/
inductive GuardianError where
  | service (code : ErrorCode) (message : String)
  | integrity

abbrev GuardianSession := Session GuardianDb GuardianError

def refuse {α : Type} (code : ErrorCode) (message : String) : GuardianSession α :=
  throw (.service code message)

/-! ## Inserts -/

def addDecision (row : GuardianDecision) : GuardianSession PUnit :=
  Session.insert (·.decisions) (fun rows db ↦ { db with decisions := rows })
    (fun row old ↦ row.id == old.id) .integrity row

def addApproval (row : GuardianApprovalRequest) : GuardianSession PUnit :=
  Session.insert (·.approvals) (fun rows db ↦ { db with approvals := rows })
    (fun row old ↦ row.id == old.id || row.decisionId == old.decisionId) .integrity row

def addAction (row : GuardianApprovalAction) : GuardianSession PUnit :=
  Session.insert (·.actions) (fun rows db ↦ { db with actions := rows })
    (fun row old ↦ row.id == old.id) .integrity row

def addAuthorization (row : GuardianAuthorization) : GuardianSession PUnit :=
  Session.insert (·.authorizations) (fun rows db ↦ { db with authorizations := rows })
    (fun row old ↦ row.id == old.id || row.tokenId == old.tokenId ||
      row.tokenHash == old.tokenHash) .integrity row

def addAudit (platform : Platform) (clock : Readings) (ids : FreshIds) (draft : AuditDraft) :
    GuardianSession PUnit := do
  let event := newEvent platform.auditCodec ids.audit clock.occurred draft (← get).audit
  Session.insert (·.audit) (fun rows db ↦ { db with audit := rows }) AuditEvent.conflicts
    .integrity event

/-! ## Issuing -/

/-- The row that `_issue_authorization` stores for a signed token. -/
def authorizationRow (platform : Platform) (clock : Readings) (ids : FreshIds)
    (decision : GuardianDecision) (token : String) (expiresAt : Time) : GuardianAuthorization where
  id := ids.authorization
  tenantId := decision.tenantId
  decisionId := decision.id
  toolCallId := decision.toolCallId
  requestHash := decision.requestHash
  tokenId := ids.token
  tokenHash := platform.tokenHash token
  constraints := decision.constraints
  status := .active
  issuedAt := clock.issued
  expiresAt := expiresAt

def issueAuthorization (platform : Platform) (clock : Readings) (ids : FreshIds)
    (decision : GuardianDecision) : GuardianSession GuardianEvaluationResponse := do
  match platform.signer.issue clock.signed ids.token
      { authorizationId := ids.authorization
        tenantId := decision.tenantId
        callId := decision.toolCallId
        decisionId := decision.id
        requestHash := decision.requestHash
        constraints := decision.constraints } with
  | .error message => refuse .signingUnavailable message
  | .ok (token, expiresAt) =>
    addAuthorization (authorizationRow platform clock ids decision token expiresAt)
    pure
      { decisionId := decision.id
        outcome := .allow
        reasonCodes := ["EXACT_AUTHORIZATION_ISSUED"]
        constraints := decision.constraints
        policyBundleVersion := decision.policyBundleVersion
        authorizationId := some ids.authorization
        authorizationToken := some token
        expiresAt := some expiresAt }

/-! ## Evaluation -/

/-- The newest unexpired decision for the exact request. -/
def liveDecision (db : GuardianDb) (now : Time) (request : CanonicalToolRequest) :
    Option GuardianDecision :=
  Table.latest GuardianDecision.createdAt (db.decisions.filter fun decision ↦
    decision.tenantId == request.scope.tenantId && decision.toolCallId == request.callId &&
      decision.requestHash == request.requestHash && decide (now < decision.expiresAt))

/-- The approval request of a decision. -/
def approvalOf (db : GuardianDb) (decision : GuardianDecision) : Option GuardianApprovalRequest :=
  db.approvals.find? fun approval ↦ approval.decisionId == decision.id

/-- What a stored decision is answered with. -/
inductive Resolution where
  | issue
  | blocked (approval : GuardianApprovalRequest)
  | stored (approval : Option GuardianApprovalRequest)

def resolution (db : GuardianDb) (decision : GuardianDecision) : Resolution :=
  match approvalOf db decision with
  | some approval =>
    if approval.status = .approved then .issue
    else if approval.status = .rejected ∨ approval.status = .expired then .blocked approval
    else if decision.outcome = .allow then .issue
    else .stored (some approval)
  | none => if decision.outcome = .allow then .issue else .stored none

def resolveExisting (platform : Platform) (clock : Readings) (ids : FreshIds)
    (decision : GuardianDecision) : GuardianSession GuardianEvaluationResponse := do
  match resolution (← get) decision with
  | .issue => issueAuthorization platform clock ids decision
  | .blocked approval =>
    pure
      { decisionId := decision.id
        outcome := .block
        reasonCodes := ["APPROVAL_" ++ approval.status.value]
        constraints := decision.constraints
        policyBundleVersion := decision.policyBundleVersion
        approvalId := some approval.id
        expiresAt := some decision.expiresAt }
  | .stored approval =>
    pure
      { decisionId := decision.id
        outcome := decision.outcome
        reasonCodes := decision.reasonCodes
        constraints := decision.constraints
        policyBundleVersion := decision.policyBundleVersion
        approvalId := approval.map (·.id)
        expiresAt := some decision.expiresAt }

/-- The decision row of a fresh evaluation. -/
def decisionRow (platform : Platform) (clock : Readings) (ids : FreshIds)
    (evaluation : GuardianEvaluationRequest) : GuardianDecision where
  id := ids.decision
  tenantId := evaluation.request.scope.tenantId
  organizationId := evaluation.request.scope.organizationId
  userId := evaluation.request.scope.userId
  runId := evaluation.request.runId
  toolCallId := evaluation.request.callId
  requestHash := evaluation.request.requestHash
  evaluationHash := canonicalHash platform.sha256 evaluation.dump
  policyBundleVersion := evaluation.request.scope.policyBundleVersion
  riskClass := evaluation.policy.riskClass
  outcome := (PolicyEngine.evaluate evaluation).outcome
  reasonCodes := (PolicyEngine.evaluate evaluation).reasonCodes
  constraints := (PolicyEngine.evaluate evaluation).constraints
  expiresAt := clock.now + minutes 15
  createdAt := clock.started

/-- The approval request of an escalated evaluation. -/
def approvalRow (clock : Readings) (ids : FreshIds) (evaluation : GuardianEvaluationRequest) :
    GuardianApprovalRequest where
  id := ids.approval
  tenantId := evaluation.request.scope.tenantId
  decisionId := ids.decision
  toolCallId := evaluation.request.callId
  requestedForUserId := evaluation.request.scope.userId
  summary := "Approve " ++ evaluation.request.canonicalName ++ " for purpose: " ++
    evaluation.request.purpose
  riskClass := evaluation.policy.riskClass
  status := .pending
  requiredApproverRoles := ["guardian-approver"]
  expiresAt := clock.now + minutes 15
  createdAt := clock.started

def decisionAudit (ids : FreshIds) (evaluation : GuardianEvaluationRequest) : AuditDraft where
  tenantId := evaluation.request.scope.tenantId
  actorType := "SERVICE"
  actorId := "guardian"
  eventType := "guardian.decision.created"
  subjectType := "GUARDIAN_DECISION"
  subjectId := ids.decision
  correlationId := evaluation.request.scope.correlationId
  payload := [("outcome", .str (PolicyEngine.evaluate evaluation).outcome.value),
    ("reason_codes", .strings (PolicyEngine.evaluate evaluation).reasonCodes)]

def evaluate (platform : Platform) (clock : Readings) (ids : FreshIds)
    (evaluation : GuardianEvaluationRequest) : GuardianSession GuardianEvaluationResponse := do
  match liveDecision (← get) clock.now evaluation.request with
  | some decision => resolveExisting platform clock ids decision
  | none =>
    let result := PolicyEngine.evaluate evaluation
    let decision := decisionRow platform clock ids evaluation
    addDecision decision
    if result.outcome = .escalate then
      addApproval (approvalRow clock ids evaluation)
    addAudit platform clock ids (decisionAudit ids evaluation)
    if result.outcome = .allow then
      issueAuthorization platform clock ids decision
    else
      pure
        { decisionId := decision.id
          outcome := result.outcome
          reasonCodes := result.reasonCodes
          constraints := result.constraints
          policyBundleVersion := decision.policyBundleVersion
          approvalId := if result.outcome = .escalate then some ids.approval else none
          expiresAt := some decision.expiresAt }

/-! ## Approval -/

structure ApprovalActionResult where
  approval : GuardianApprovalRequest
  resumeRequired : Bool

def isApproval (approvalId tenantId : Uuid) (approval : GuardianApprovalRequest) : Bool :=
  approval.id == approvalId && approval.tenantId == tenantId

/-- Assign a changed approval to its stored row. -/
def storeApproval (changed : GuardianApprovalRequest) : GuardianSession PUnit :=
  modify fun db ↦ { db with
    approvals := Table.replace GuardianApprovalRequest.id changed db.approvals }

def actionStatus : ApprovalVerb → ApprovalStatus
  | .approve => .approved
  | .reject => .rejected

def actionRow (clock : Readings) (ids : FreshIds) (tenantId : Uuid)
    (approval : GuardianApprovalRequest) (action : ApprovalActionCreate) :
    GuardianApprovalAction where
  id := ids.action
  tenantId := tenantId
  approvalRequestId := approval.id
  actorUserId := action.actorUserId
  actorRoles := action.actorRoles
  action := action.action
  reason := action.reason
  correlationId := action.correlationId
  createdAt := clock.started

def actionAudit (tenantId : Uuid) (approval : GuardianApprovalRequest)
    (action : ApprovalActionCreate) : AuditDraft where
  tenantId := tenantId
  actorType := "USER"
  actorId := action.actorUserId.str
  eventType := match action.action with
    | .approve => "guardian.approval.approved"
    | .reject => "guardian.approval.rejected"
  subjectType := "GUARDIAN_APPROVAL"
  subjectId := approval.id
  correlationId := action.correlationId
  payload := [("reason", .str action.reason)]

def actOnApproval (platform : Platform) (clock : Readings) (ids : FreshIds)
    (approvalId tenantId : Uuid) (action : ApprovalActionCreate) :
    GuardianSession ApprovalActionResult := do
  match (← get).approvals.find? (isApproval approvalId tenantId) with
  | none => refuse .approvalNotFound "Approval request was not found."
  | some approval =>
    if approval.status ≠ .pending then
      refuse .approvalResolved "Approval is already resolved."
    else if approval.expiresAt ≤ clock.now then
      storeApproval { approval with status := .expired }
      refuse .approvalExpired "Approval request has expired."
    else if ¬ approval.requiredApproverRoles ⊆ action.actorRoles then
      refuse .approverRoleRequired "Approver role is required."
    else
      let resolved := { approval with
        status := actionStatus action.action
        resolvedAt := some clock.now
        version := approval.version + 1 }
      storeApproval resolved
      addAction (actionRow clock ids tenantId approval action)
      addAudit platform clock ids (actionAudit tenantId approval action)
      pure { approval := resolved, resumeRequired := resolved.status = .approved }

/-! ## Consumption -/

/-- The stored authorization of a presented token. -/
def presented (platform : Platform) (db : GuardianDb) (request : AuthorizationConsumeRequest) :
    Option GuardianAuthorization :=
  db.authorizations.find? fun authorization ↦
    authorization.tokenHash == platform.tokenHash request.token &&
      authorization.toolCallId == request.callId &&
      authorization.requestHash == request.requestHash

/-- Assign a changed authorization to its stored row. -/
def storeAuthorization (changed : GuardianAuthorization) : GuardianSession PUnit :=
  modify fun db ↦ { db with
    authorizations := Table.replace GuardianAuthorization.id changed db.authorizations }

def consume (platform : Platform) (clock : Readings) (request : AuthorizationConsumeRequest) :
    GuardianSession AuthorizationConsumeResult := do
  match platform.signer.verify clock.verified request.token with
  | .error message => refuse .authorizationInvalid message
  | .ok claims =>
    if claims.callId ≠ request.callId ∨ claims.requestHash ≠ request.requestHash then
      refuse .authorizationScopeMismatch "Authorization scope mismatch."
    else
      match presented platform (← get) request with
      | none => refuse .authorizationNotActive "Authorization is not active."
      | some authorization =>
        if authorization.status ≠ .active then
          refuse .authorizationNotActive "Authorization is not active."
        else if authorization.expiresAt ≤ clock.now then
          storeAuthorization { authorization with status := .expired }
          refuse .authorizationExpired "Authorization has expired."
        else
          storeAuthorization { authorization with
            status := .consumed
            consumedAt := some clock.now
            consumedCorrelationId := some request.correlationId }
          pure
            { authorizationId := authorization.id
              consumed := true
              constraints := authorization.constraints }

/-! ## Authorizing an approved decision -/

/-- The newest decision for the exact request whose approval request is approved. -/
def approvedDecision (db : GuardianDb) (tenantId : Uuid) (request : ApprovedAuthorizationRequest) :
    Option GuardianDecision :=
  Table.latest GuardianDecision.createdAt (db.decisions.filter fun decision ↦
    decision.tenantId == tenantId && decision.toolCallId == request.callId &&
      decision.requestHash == request.requestHash &&
      db.approvals.any fun approval ↦
        approval.decisionId == decision.id && approval.status == .approved)

def authorizeApproved (platform : Platform) (clock : Readings) (ids : FreshIds) (tenantId : Uuid)
    (request : ApprovedAuthorizationRequest) : GuardianSession GuardianEvaluationResponse := do
  match approvedDecision (← get) tenantId request with
  | none =>
    refuse .approvedDecisionNotFound "No approved decision matches this exact request."
  | some decision =>
    if decision.expiresAt ≤ clock.now then
      refuse .decisionExpired "The approved decision has expired."
    else
      issueAuthorization platform clock ids decision

end Xyena.Guardian
