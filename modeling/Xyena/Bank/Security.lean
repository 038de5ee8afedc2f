import Xyena.Gateway.Server

/-!
# The runtime scope of the bank

`demos/bank-mcp/bank_demo/security.py`: the signed envelope of a call is checked
field by field and becomes the scope that every operation of the bank reads.
-/

namespace Xyena.Bank

open Xyena.Foundation Xyena.Contracts Xyena.Gateway

/-- What the bank raises. `integrity` is the refusal of a commit by the database. -/
inductive BankError where
  | security (text : String)
  | domain (text : String)
  | typeError (text : String)
  | attributeError (text : String)
  | integrity
deriving DecidableEq, Repr

structure RuntimeScope where
  tenantId : String
  organizationId : String
  userId : String
  sessionId : String
  runId : String
  callId : String
  correlationId : String
  agentName : String
  canonicalName : String
  purpose : String
  requestHash : String
  guardianDecisionId : String
  authorizationId : String
  authorizationConsumed : Bool
deriving DecidableEq, Repr

/-- The names of the fields of `RuntimeScope`. -/
def required : List String :=
  ["tenant_id", "organization_id", "user_id", "session_id", "run_id", "call_id", "correlation_id",
    "agent_name", "canonical_name", "purpose", "request_hash", "guardian_decision_id",
    "authorization_id", "authorization_consumed"]

def scopeOf (platform : ServerPlatform) (envelope : Dict) : RuntimeScope where
  tenantId := platform.textOf envelope "tenant_id"
  organizationId := platform.textOf envelope "organization_id"
  userId := platform.textOf envelope "user_id"
  sessionId := platform.textOf envelope "session_id"
  runId := platform.textOf envelope "run_id"
  callId := platform.textOf envelope "call_id"
  correlationId := platform.textOf envelope "correlation_id"
  agentName := platform.textOf envelope "agent_name"
  canonicalName := platform.textOf envelope "canonical_name"
  purpose := platform.textOf envelope "purpose"
  requestHash := platform.textOf envelope "request_hash"
  guardianDecisionId := platform.textOf envelope "guardian_decision_id"
  authorizationId := platform.textOf envelope "authorization_id"
  authorizationConsumed := true

/-- The checks behind the signature. -/
def checkEnvelope (platform : ServerPlatform) (envelope : Dict) (expectedTool : String) :
    Except BankError RuntimeScope :=
  if !required.all fun key ↦ (envelope.lookup key).isSome then
    .error (.security "Xyena runtime scope is incomplete.")
  else if !holdsText envelope "canonical_name" expectedTool then
    .error (.security "Runtime scope tool name does not match this handler.")
  else if blank (platform.textOf envelope "purpose") then
    .error (.security "A signed purpose is required.")
  else if !holdsTruthy envelope "guardian_decision_id" || !holdsTruthy envelope "authorization_id" ||
      !holdsTrue envelope "authorization_consumed" then
    .error (.security "Guardian decision and consumed authorization are required.")
  else .ok (scopeOf platform envelope)

def signatureErrors : SignatureErrors BankError where
  missing := .security "Signed Xyena runtime scope is required."
  algorithm := .security "Unsupported runtime scope signature algorithm."
  unsupported := .typeError compareDigestError
  invalid := .security "Xyena runtime scope signature is invalid."

def verifyRuntimeScope (platform : ServerPlatform) (requestMeta : Option Dict)
    (expectedTool : String) : Except BankError RuntimeScope := do
  checkEnvelope platform (← signedEnvelope platform signatureErrors requestMeta) expectedTool

/-! ## What is accepted -/

theorem checkEnvelope_ok {platform : ServerPlatform} {envelope : Dict} {expectedTool : String}
    {scope : RuntimeScope} :
    checkEnvelope platform envelope expectedTool = .ok scope ↔
      (∀ key ∈ required, (envelope.lookup key).isSome = true) ∧
        holdsText envelope "canonical_name" expectedTool = true ∧
        blank (platform.textOf envelope "purpose") = false ∧
        holdsTruthy envelope "guardian_decision_id" = true ∧
        holdsTruthy envelope "authorization_id" = true ∧
        holdsTrue envelope "authorization_consumed" = true ∧ scope = scopeOf platform envelope := by
  rw [← List.all_eq_true, checkEnvelope]
  cases required.all fun key ↦ (envelope.lookup key).isSome with
  | false => simp
  | true =>
    cases holdsText envelope "canonical_name" expectedTool with
    | false => simp
    | true =>
      cases blank (platform.textOf envelope "purpose") with
      | true => simp
      | false =>
        cases holdsTruthy envelope "guardian_decision_id" <;>
          cases holdsTruthy envelope "authorization_id" <;>
          cases holdsTrue envelope "authorization_consumed" <;> simp [eq_comm]

end Xyena.Bank
