import Xyena.Contracts.Values

/-!
# Tool contracts

The request and result models of `packages/contracts/tools.py` and the runtime
scope of `packages/contracts/context.py`, with the JSON dump of those that are
hashed. A Python dictionary is the list of its fields.
-/

namespace Xyena.Contracts

open Xyena.Foundation

abbrev Dict := List (String × Json)

inductive ToolRiskClass where
  | read
  | sensitiveRead
  | mutate
  | privileged
deriving DecidableEq, Repr

def ToolRiskClass.value : ToolRiskClass → String
  | .read => "READ"
  | .sensitiveRead => "SENSITIVE_READ"
  | .mutate => "MUTATE"
  | .privileged => "PRIVILEGED"

theorem ToolRiskClass.value_inj {first second : ToolRiskClass} :
    first.value = second.value ↔ first = second := by
  cases first <;> cases second <;> decide

inductive ApprovalMode where
  | never
  | policy
  | always
deriving DecidableEq, Repr

def ApprovalMode.value : ApprovalMode → String
  | .never => "NEVER"
  | .policy => "POLICY"
  | .always => "ALWAYS"

theorem ApprovalMode.value_inj {first second : ApprovalMode} :
    first.value = second.value ↔ first = second := by
  cases first <;> cases second <;> decide

inductive ToolCallStatus where
  | requested
  | validated
  | policyCheck
  | waitingApproval
  | calling
  | succeeded
  | failed
  | unknown
  | blocked
deriving DecidableEq, Repr

def ToolCallStatus.value : ToolCallStatus → String
  | .requested => "REQUESTED"
  | .validated => "VALIDATED"
  | .policyCheck => "POLICY_CHECK"
  | .waitingApproval => "WAITING_APPROVAL"
  | .calling => "CALLING"
  | .succeeded => "SUCCEEDED"
  | .failed => "FAILED"
  | .unknown => "UNKNOWN"
  | .blocked => "BLOCKED"

inductive MCPTransport where
  | streamableHttp
  | stdioDev
  | hostedMcp
  | inProcess
deriving DecidableEq, Repr

/-! ## Registration and review -/

def labelStart (char : Char) : Bool := decide ('a' ≤ char ∧ char ≤ 'z')

def labelChar (char : Char) : Bool :=
  labelStart char || decide ('0' ≤ char ∧ char ≤ '9') || char == '_' || char == '-'

/-- The pattern `^[a-z][a-z0-9_-]{2,99}$`. -/
def labelPattern : List Char → Bool
  | [] => false
  | first :: rest =>
    labelStart first && rest.all labelChar && decide (2 ≤ rest.length ∧ rest.length ≤ 99)

/-- A server label. -/
structure Label where
  text : String
  valid : labelPattern text.toList = true

structure MCPServerCreate where
  label : Label
  description : String
  transport : MCPTransport := .streamableHttp
  endpoint : String
  authType : String := "BEARER"
  secretRef : Option String := none
  trustTier : String := "UNREVIEWED"
  allowedEgressHosts : List String := []
  timeoutSeconds : Rat := 30
  maxRetries : Nat := 2

inductive TrustTier where
  | platform
  | reviewedInternal
  | reviewedExternal
deriving DecidableEq, Repr

def TrustTier.value : TrustTier → String
  | .platform => "PLATFORM"
  | .reviewedInternal => "REVIEWED_INTERNAL"
  | .reviewedExternal => "REVIEWED_EXTERNAL"

/-- The statuses that a review can give to a server. -/
inductive ReviewedStatus where
  | active
  | suspended
deriving DecidableEq, Repr

structure MCPServerReview where
  trustTier : TrustTier
  status : ReviewedStatus

structure ToolPolicyCreate where
  canonicalName : String
  riskClass : ToolRiskClass
  requiredRoles : List String := []
  requiredPurposes : List String := []
  requiredConsents : List String := []
  allowedAgents : List String := []
  approvalMode : ApprovalMode := .policy
  sideEffects : Bool := false
  idempotent : Bool := true
  parallelAllowed : Bool := false
  hostedMcpAllowed : Bool := false
  timeoutSeconds : Rat := 30
  maximumResultBytes : Nat := 262144

/-! ## Calls -/

/-- The trusted scope of one run. -/
structure RuntimeContext where
  tenantId : Uuid
  organizationId : Uuid
  userId : Uuid
  sessionId : Option Uuid := none
  conversationId : Option Uuid := none
  runId : Option Uuid := none
  caseId : Option Uuid := none
  correlationId : Uuid
  roles : List String := []
  consentIds : List Uuid := []
  policyBundleVersion : String := "platform-default"
  locale : String := "en"
  timezone : String := "UTC"
deriving DecidableEq

def RuntimeContext.fields (context : RuntimeContext) : Dict :=
  [("tenant_id", .str context.tenantId.str),
    ("organization_id", .str context.organizationId.str),
    ("user_id", .str context.userId.str),
    ("session_id", optionalId context.sessionId),
    ("conversation_id", optionalId context.conversationId),
    ("run_id", optionalId context.runId),
    ("case_id", optionalId context.caseId),
    ("correlation_id", .str context.correlationId.str),
    ("roles", .strings context.roles),
    ("consent_ids", .strings (context.consentIds.map Uuid.str)),
    ("policy_bundle_version", .str context.policyBundleVersion),
    ("locale", .str context.locale),
    ("timezone", .str context.timezone)]

/-- `context.model_dump(mode="json")`. -/
def RuntimeContext.dump (context : RuntimeContext) : Json := .obj context.fields

structure ToolIntent where
  requestedName : String
  arguments : Dict
  purpose : String
  resourceRefs : List String := []
  idempotencyKey : Option String := none

structure ToolCallSubmit where
  runId : Uuid
  agentVersionId : Option Uuid := none
  agentName : String
  context : RuntimeContext
  intent : ToolIntent

structure ToolCallResume where
  tenantId : Uuid
  callId : Uuid
  correlationId : Uuid

structure CanonicalToolRequest where
  callId : Uuid
  runId : Uuid
  agentVersionId : Option Uuid := none
  agentName : String
  scope : RuntimeContext
  serverId : Uuid
  toolVersionId : Uuid
  canonicalName : String
  originalName : String
  normalizedArguments : Dict
  purpose : String
  resourceRefs : List String := []
  idempotencyKey : Option String := none
  requestHash : String

/-- The fields that the request hash is taken of: all but `call_id` and `request_hash`. -/
def CanonicalToolRequest.document (request : CanonicalToolRequest) : Dict :=
  [("run_id", .str request.runId.str),
    ("agent_version_id", optionalId request.agentVersionId),
    ("agent_name", .str request.agentName),
    ("scope", request.scope.dump),
    ("server_id", .str request.serverId.str),
    ("tool_version_id", .str request.toolVersionId.str),
    ("canonical_name", .str request.canonicalName),
    ("original_name", .str request.originalName),
    ("normalized_arguments", .obj request.normalizedArguments),
    ("purpose", .str request.purpose),
    ("resource_refs", .strings request.resourceRefs),
    ("idempotency_key", .ofOption request.idempotencyKey)]

def CanonicalToolRequest.dump (request : CanonicalToolRequest) : Json :=
  .obj (("call_id", .str request.callId.str) :: request.document ++
    [("request_hash", .str request.requestHash)])

/-- What a caller sees of a stored tool result. -/
structure SafeToolResult where
  callId : Uuid
  status : ToolCallStatus
  modelProjection : Json := .null
  resultRef : Option Uuid := none
  provenanceHash : String
  securityFlags : List String := []
  errorCode : Option String := none
  errorMessage : Option String := none

end Xyena.Contracts
