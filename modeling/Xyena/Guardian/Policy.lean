import Xyena.Contracts.Guardian

/-!
# The Guardian policy engine

`GuardianPolicyEngine.evaluate` of `packages/guardian/policy.py`: a chain of
guards that each block with one reason, and three rules behind it.
-/

namespace Xyena.Guardian

open Xyena.Foundation Xyena.Contracts

structure PolicyResult where
  outcome : GuardianOutcome
  reasonCodes : List String := []
  constraints : Dict := []

/-- The constraints of an outcome that is bound to one exact request. -/
def exactRequest (requestHash : String) : Dict :=
  [("exact_request_hash", .str requestHash), ("single_use", .bool true)]

namespace PolicyEngine

def block (code : String) : PolicyResult where
  outcome := .block
  reasonCodes := [code]

def evaluate (evaluation : GuardianEvaluationRequest) : PolicyResult :=
  let request := evaluation.request
  let policy := evaluation.policy
  let scope := request.scope
  if request.requestHash = "" ∨ scope.tenantId = 0 then block "INVALID_SCOPE"
  else if policy.allowedAgents ≠ [] ∧ request.agentName ∉ policy.allowedAgents then
    block "AGENT_NOT_GRANTED"
  else if ¬ policy.requiredRoles ⊆ scope.roles then block "ROLE_REQUIRED"
  else if policy.requiredPurposes ≠ [] ∧ request.purpose ∉ policy.requiredPurposes then
    block "PURPOSE_NOT_ALLOWED"
  else if ¬ policy.requiredConsents ⊆ scope.consentIds.map Uuid.str then block "CONSENT_REQUIRED"
  else if policy.sideEffects = true ∧ ¬ truthy request.idempotencyKey then
    block "IDEMPOTENCY_REQUIRED"
  else if policy.approvalMode = .always ∨ policy.riskClass = .privileged then
    { outcome := .escalate
      reasonCodes := ["HUMAN_APPROVAL_REQUIRED"]
      constraints := exactRequest request.requestHash }
  else if policy.riskClass = .sensitiveRead ∨ policy.riskClass = .mutate then
    { outcome := .allow
      reasonCodes := ["PROTECTED_POLICY_SATISFIED"]
      constraints := exactRequest request.requestHash }
  else if policy.riskClass = .read ∧ policy.approvalMode = .never then
    { outcome := .allow
      reasonCodes := ["SAFE_READ"] }
  else block "NO_ALLOW_RULE"

end PolicyEngine

end Xyena.Guardian
