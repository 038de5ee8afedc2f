import Xyena.Contracts.Tools

/-!
# Guardian contracts

The request and response models of `packages/contracts/guardian.py`.
-/

namespace Xyena.Contracts

open Xyena.Foundation

inductive GuardianOutcome where
  | allow
  | verify
  | escalate
  | block
deriving DecidableEq, Repr

def GuardianOutcome.value : GuardianOutcome → String
  | .allow => "ALLOW"
  | .verify => "VERIFY"
  | .escalate => "ESCALATE"
  | .block => "BLOCK"

structure ToolPolicySnapshot where
  riskClass : ToolRiskClass
  requiredRoles : List String := []
  requiredPurposes : List String := []
  requiredConsents : List String := []
  allowedAgents : List String := []
  approvalMode : ApprovalMode := .policy
  sideEffects : Bool := false
  idempotent : Bool := true
deriving DecidableEq

def ToolPolicySnapshot.fields (policy : ToolPolicySnapshot) : Dict :=
  [("risk_class", .str policy.riskClass.value),
    ("required_roles", .strings policy.requiredRoles),
    ("required_purposes", .strings policy.requiredPurposes),
    ("required_consents", .strings policy.requiredConsents),
    ("allowed_agents", .strings policy.allowedAgents),
    ("approval_mode", .str policy.approvalMode.value),
    ("side_effects", .bool policy.sideEffects),
    ("idempotent", .bool policy.idempotent)]

def ToolPolicySnapshot.dump (policy : ToolPolicySnapshot) : Json := .obj policy.fields

structure GuardianEvaluationRequest where
  request : CanonicalToolRequest
  policy : ToolPolicySnapshot

def GuardianEvaluationRequest.dump (evaluation : GuardianEvaluationRequest) : Json :=
  .obj [("request", evaluation.request.dump), ("policy", evaluation.policy.dump)]

structure GuardianEvaluationResponse where
  decisionId : Uuid
  outcome : GuardianOutcome
  reasonCodes : List String := []
  constraints : Dict := []
  policyBundleVersion : String
  approvalId : Option Uuid := none
  authorizationId : Option Uuid := none
  authorizationToken : Option String := none
  expiresAt : Option Time := none

/-- The response as the broker hashes it. `isoformat` is the text of an instant. -/
def GuardianEvaluationResponse.dump (isoformat : Time → String)
    (response : GuardianEvaluationResponse) : Json :=
  .obj [("decision_id", .str response.decisionId.str),
    ("outcome", .str response.outcome.value),
    ("reason_codes", .strings response.reasonCodes),
    ("constraints", .obj response.constraints),
    ("policy_bundle_version", .str response.policyBundleVersion),
    ("approval_id", optionalId response.approvalId),
    ("authorization_id", optionalId response.authorizationId),
    ("authorization_token", .ofOption response.authorizationToken),
    ("expires_at", .ofOption (response.expiresAt.map isoformat))]

inductive ApprovalVerb where
  | approve
  | reject
deriving DecidableEq, Repr

structure ApprovalActionCreate where
  action : ApprovalVerb
  actorUserId : Uuid
  actorRoles : List String := []
  reason : String
  correlationId : Uuid

structure AuthorizationConsumeRequest where
  token : String
  callId : Uuid
  requestHash : String
  correlationId : Uuid

structure AuthorizationConsumeResult where
  authorizationId : Uuid
  consumed : Bool
  constraints : Dict := []

structure ApprovedAuthorizationRequest where
  callId : Uuid
  requestHash : String
  correlationId : Uuid

end Xyena.Contracts
