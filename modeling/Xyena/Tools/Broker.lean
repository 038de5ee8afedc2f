import Xyena.Contracts.Guardian
import Xyena.Foundation.Runs
import Xyena.Gateway.Client
import Xyena.Tools.Calls
import Xyena.Tools.Canonical
import Xyena.Tools.Registry

/-!
# The tool broker

`ToolBroker.execute` and `ToolBroker.resume` of `packages/tools/broker.py` as
the broker endpoints call them. Both read the database, ask Guardian, invoke
the tool and assign rows. They are programs whose effects are the questions to
Guardian, the core handlers and the remote servers; the rows that they assign
are committed when they return. The identifiers that a call draws and its
readings of the clock are inputs, and so is the schema validator.
-/

namespace Xyena.Tools

open Xyena.Foundation Xyena.Contracts Xyena.Audit Xyena.Gateway

/-! ## Errors -/

inductive BrokerCode where
  | toolNotFound
  | contextIncomplete
  | toolNotActive
  | agentNotGranted
  | roleRequired
  | purposeNotAllowed
  | consentRequired
  | idempotencyRequired
  | toolArgumentsInvalid
  | idempotencyConflict
  | callInProgress
  | authorizationMissing
  | authorizationRejected
  | callNotFound
  | callNotResumable
deriving DecidableEq, Repr

def BrokerCode.value : BrokerCode → String
  | .toolNotFound => "TOOL_NOT_FOUND"
  | .contextIncomplete => "CONTEXT_INCOMPLETE"
  | .toolNotActive => "TOOL_NOT_ACTIVE"
  | .agentNotGranted => "AGENT_NOT_GRANTED"
  | .roleRequired => "ROLE_REQUIRED"
  | .purposeNotAllowed => "PURPOSE_NOT_ALLOWED"
  | .consentRequired => "CONSENT_REQUIRED"
  | .idempotencyRequired => "IDEMPOTENCY_REQUIRED"
  | .toolArgumentsInvalid => "TOOL_ARGUMENTS_INVALID"
  | .idempotencyConflict => "IDEMPOTENCY_CONFLICT"
  | .callInProgress => "CALL_IN_PROGRESS"
  | .authorizationMissing => "AUTHORIZATION_MISSING"
  | .authorizationRejected => "AUTHORIZATION_REJECTED"
  | .callNotFound => "CALL_NOT_FOUND"
  | .callNotResumable => "CALL_NOT_RESUMABLE"

/-- What a broker call raises: its own error, the fault of the schema validator, an error of the
Guardian client that the broker does not handle, a value that a contract model refuses, or an
error of the database. -/
inductive BrokerError where
  | broker (code : BrokerCode) (message : String)
  | schema (fault : Fault)
  | guardian
  | validation
  | database
deriving DecidableEq, Repr

/-! ## Platform and inputs -/

structure BrokerPlatform where
  sha256 : String → String
  /-- A digest is written with 64 hexadecimal digits. -/
  digest : ∀ text, (sha256 text).toList.length = 64
  isoformat : Time → String
  client : ClientPlatform
  /-- The messages of the schema validator for a schema and arguments, in the order of the paths. -/
  schemaErrors : Dict → Dict → Except Fault (List String)

def BrokerPlatform.auditCodec (platform : BrokerPlatform) : AuditCodec where
  sha256 := platform.sha256
  isoformat := platform.isoformat

/-- The identifiers that one broker call may draw and its readings of the clock. -/
structure Draws where
  callId : Uuid
  attemptId : Uuid
  resultId : Uuid
  outboxId : Uuid
  auditId : Uuid
  startedAt : Time
  completedAt : Time
  createdAt : Time
  occurredAt : Time

/-! ## Effects -/

/-- One invocation of a tool: the call and the catalog row that it is made for, and the arguments
that the tool gets. -/
structure Invocation where
  call : MCPToolCall
  row : CatalogRow
  arguments : Dict

/-- What a broker call asks for. -/
inductive Ask where
  | evaluate (evaluation : GuardianEvaluationRequest)
  | authorizeApproved (tenantId : Uuid) (request : ApprovedAuthorizationRequest)
  | consume (tenantId : Uuid) (request : AuthorizationConsumeRequest)
  | handler (invocation : Invocation)
  | remote (invocation : Invocation) (config : RemoteServerConfig) (runtimeMeta : Dict)

/-- An error of the Guardian client: the one that the broker handles, with its text, or another. -/
inductive GuardianFault where
  | client (message : String)
  | other
deriving DecidableEq, Repr

abbrev Reply : Ask → Type
  | .evaluate _ => Except GuardianFault GuardianEvaluationResponse
  | .authorizeApproved _ _ => Except GuardianFault GuardianEvaluationResponse
  | .consume _ _ => Except GuardianFault AuthorizationConsumeResult
  | .handler _ => Except Fault PyValue
  | .remote _ _ _ => Except Fault RemoteReply

abbrev BrokerEvent := Event Ask Reply

abbrev BrokerProgram := Program Ask Reply

/-- The result for the caller and the rows to commit, if any. -/
structure Outcome where
  result : SafeToolResult
  writes : Option Writes := none

/-! ## Checks of a submitted call -/

def validateAccess (request : ToolCallSubmit) (row : CatalogRow) : Except BrokerError Unit :=
  let policy := row.policy
  if request.context.sessionId = none then
    .error (.broker .contextIncomplete "A tool call requires a scoped session.")
  else if row.allActive = false then
    .error (.broker .toolNotActive "The tool or its policy is not active.")
  else if policy.allowedAgents ≠ [] ∧ request.agentName ∉ policy.allowedAgents then
    .error (.broker .agentNotGranted "The agent is not granted this tool.")
  else if ¬ policy.requiredRoles ⊆ request.context.roles then
    .error (.broker .roleRequired "The caller lacks a required role.")
  else if policy.requiredPurposes ≠ [] ∧ request.intent.purpose ∉ policy.requiredPurposes then
    .error (.broker .purposeNotAllowed "The declared purpose is not allowed.")
  else if ¬ policy.requiredConsents ⊆ request.context.consentIds.map Uuid.str then
    .error (.broker .consentRequired "Required consent is not present.")
  else if row.version.sideEffects = true ∧ ¬ truthy request.intent.idempotencyKey then
    .error (.broker .idempotencyRequired "Mutating tools require an idempotency key.")
  else .ok ⟨⟩

def validateArguments (platform : BrokerPlatform) (schema arguments : Dict) :
    Except BrokerError Unit :=
  match platform.schemaErrors schema arguments with
  | .error fault => .error (.schema fault)
  | .ok [] => .ok ⟨⟩
  | .ok messages => .error (.broker .toolArgumentsInvalid ("; ".intercalate (messages.take 5)))

/-- `json.loads(json.dumps(arguments, sort_keys=True))`. -/
def normalizedArguments (arguments : Dict) : Dict :=
  Json.sortFields (Json.normalizeFields arguments)

/-- The canonical request of a submitted call, with the digest of its document. -/
def canonicalRequest (platform : BrokerPlatform) (callId : Uuid) (request : ToolCallSubmit)
    (row : CatalogRow) : CanonicalToolRequest :=
  let unhashed : CanonicalToolRequest :=
    { callId := callId
      runId := request.runId
      agentVersionId := request.agentVersionId
      agentName := request.agentName
      scope := request.context
      serverId := row.server.id
      toolVersionId := row.version.id
      canonicalName := row.tool.canonicalName
      originalName := row.tool.originalName
      normalizedArguments := normalizedArguments request.intent.arguments
      purpose := request.intent.purpose
      resourceRefs := request.intent.resourceRefs
      idempotencyKey := request.intent.idempotencyKey
      requestHash := "" }
  { unhashed with requestHash := canonicalHash platform.sha256 (.obj unhashed.document) }

def policySnapshot (version : MCPToolVersion) (policy : MCPToolPolicy) : ToolPolicySnapshot where
  riskClass := version.riskClass
  requiredRoles := policy.requiredRoles
  requiredPurposes := policy.requiredPurposes
  requiredConsents := policy.requiredConsents
  allowedAgents := policy.allowedAgents
  approvalMode := policy.approvalMode
  sideEffects := version.sideEffects
  idempotent := version.idempotent

def callRow (request : ToolCallSubmit) (row : CatalogRow) (canonical : CanonicalToolRequest) :
    MCPToolCall where
  id := canonical.callId
  tenantId := request.context.tenantId
  organizationId := request.context.organizationId
  userId := request.context.userId
  sessionId := request.context.sessionId
  runId := request.runId
  agentVersionId := request.agentVersionId
  agentName := request.agentName
  serverId := row.server.id
  toolVersionId := row.version.id
  canonicalName := row.tool.canonicalName
  normalizedArguments := canonical.normalizedArguments
  purpose := request.intent.purpose
  resourceRefs := request.intent.resourceRefs
  requestHash := canonical.requestHash
  idempotencyKey := request.intent.idempotencyKey
  status := .validated
  correlationId := request.context.correlationId

/-! ## Results -/

/-- A bare number or truth value, which the contract of a safe result does not admitCall. -/
def bareScalar : Json → Bool
  | .bool _ => true
  | .int _ => true
  | .float _ => true
  | _ => false

def safeResult (result : MCPToolResult) (callId : Uuid) : Except BrokerError SafeToolResult :=
  if bareScalar result.modelProjection then .error .validation
  else .ok
    { callId := callId
      status := result.status
      modelProjection := result.modelProjection
      resultRef := some result.id
      provenanceHash := result.normalizedHash
      securityFlags := result.classification
      errorCode := result.errorCode
      errorMessage := result.errorMessage }

def storeResult (platform : BrokerPlatform) (draws : Draws) (call : MCPToolCall)
    (status : ToolCallStatus) (projection : Json) (errorCode errorMessage : Option String)
    (flags : List String) : MCPToolResult where
  id := draws.resultId
  tenantId := call.tenantId
  callId := call.id
  status := status
  modelProjection := projection
  normalizedHash := canonicalHash platform.sha256
    (.obj [("status", .str status.value), ("projection", projection), ("flags", .strings flags)])
  classification := flags
  errorCode := errorCode
  errorMessage := errorMessage

/-- The stored call under an idempotency key. -/
def findByKey (db : ToolDb) (tenantId toolVersionId : Uuid) (key : String) : Option MCPToolCall :=
  db.calls.find? fun call ↦ call.tenantId == tenantId && call.toolVersionId == toolVersionId &&
    call.idempotencyKey == some key

def findIdempotentResult (db : ToolDb) (tenantId toolVersionId : Uuid) (key : Option String)
    (requestHash : String) : Except BrokerError (Option SafeToolResult) :=
  match key.filter (· ≠ "") with
  | none => .ok none
  | some key =>
    match findByKey db tenantId toolVersionId key with
    | none => .ok none
    | some existing =>
      if existing.requestHash ≠ requestHash then
        .error (.broker .idempotencyConflict
          "The idempotency key was already used with a different request.")
      else
        match db.results.find? fun result ↦ result.callId == existing.id with
        | none => .error (.broker .callInProgress "The matching tool call has not completed.")
        | some result => (safeResult result existing.id).map some

/-! ## The invocation of a tool -/

/-- The names in `CORE_HANDLERS`. -/
def coreHandlers : List String := ["xyena.platform.describe", "xyena.tools.explain_risk"]

def CatalogRow.isCore (row : CatalogRow) : Bool := coreHandlers.contains row.tool.canonicalName

/-- A remote tool with side effects: a failed call of it leaves the outcome unknown. -/
def CatalogRow.uncertain (row : CatalogRow) : Bool := !row.isCore && row.version.sideEffects

def remoteConfig (row : CatalogRow) : RemoteServerConfig where
  endpoint := row.server.endpoint
  authType := row.server.authType
  secretRef := row.server.secretRef
  timeoutSeconds := row.policy.timeoutSeconds
  maxRetries := if row.version.sideEffects then 0 else row.server.maxRetries
  allowedEgressHosts := row.server.allowedEgressHosts

def runtimeEnvelope (call : MCPToolCall) : Dict :=
  [("tenant_id", .str call.tenantId.str),
    ("organization_id", .str call.organizationId.str),
    ("user_id", .str call.userId.str),
    ("session_id", .str ((call.sessionId.map Uuid.str).getD "None")),
    ("run_id", .str call.runId.str),
    ("call_id", .str call.id.str),
    ("correlation_id", .str call.correlationId.str),
    ("agent_name", .str call.agentName),
    ("canonical_name", .str call.canonicalName),
    ("purpose", .str call.purpose),
    ("request_hash", .str call.requestHash),
    ("guardian_decision_id", optionalId call.guardianDecisionId),
    ("authorization_id", optionalId call.authorizationId),
    ("authorization_consumed", .bool call.authorizationId.isSome)]

/-- The call of the handler or of the remote tool inside the `try` block of `_call`. -/
def invoke (platform : BrokerPlatform) (invocation : Invocation) :
    BrokerProgram (Except Fault PyValue) :=
  if invocation.row.isCore then .send (Ask.handler invocation)
  else
    let config := remoteConfig invocation.row
    match signedRuntimeMeta platform.client config (runtimeEnvelope invocation.call) with
    | .error fault => .ret (.error fault)
    | .ok runtimeMeta => callTool (.send (Ask.remote invocation config runtimeMeta)) config.maxRetries

/-- The projection that is stored, or the exception of the `try` block with its error code. -/
def storedProjection (policy : MCPToolPolicy) :
    Except Fault PyValue → Except (Fault × String) Json
  | .error fault => .error (fault, "TOOL_EXECUTION_FAILED")
  | .ok projection =>
    if policy.maximumResultBytes < projection.encodedSize then
      .error (⟨"ToolBrokerError", "The tool result exceeded its policy limit."⟩, "RESULT_TOO_LARGE")
    else
      match projection.canonical with
      | .error typeName =>
        .error (⟨"TypeError", "Unsupported canonical value: " ++ typeName⟩, "TOOL_EXECUTION_FAILED")
      | .ok value => .ok value

/-! ## The records of a call -/

/-- The attempt and the result of a finished call, which carry its final status. -/
structure Records where
  status : ToolCallStatus
  attempt : MCPCallAttempt
  result : MCPToolResult

def successRecords (platform : BrokerPlatform) (draws : Draws) (call : MCPToolCall)
    (projection : Json) : Records where
  status := .succeeded
  attempt :=
    { id := draws.attemptId
      tenantId := call.tenantId
      callId := call.id
      attemptNumber := 1
      status := .succeeded
      startedAt := draws.startedAt
      completedAt := some draws.completedAt }
  result := storeResult platform draws call .succeeded projection none none []

def failureStatus (row : CatalogRow) : ToolCallStatus := if row.uncertain then .unknown else .failed

/-- The handler of the `except` block of `_call`. -/
def failureRecords (platform : BrokerPlatform) (draws : Draws) (row : CatalogRow)
    (call : MCPToolCall) (fault : Fault) (code : String) : Records where
  status := failureStatus row
  attempt :=
    { id := draws.attemptId
      tenantId := call.tenantId
      callId := call.id
      attemptNumber := 1
      status := failureStatus row
      startedAt := draws.startedAt
      completedAt := some draws.completedAt
      errorClass := some fault.className
      errorDetail := some (String.ofList (fault.detail.toList.take 4000)) }
  result :=
    if row.uncertain then
      storeResult platform draws call .unknown .null (some "TOOL_OUTCOME_UNKNOWN")
        (some "The remote side effect may have occurred; reconcile before any retry.")
        ["reconciliation_required", "no_blind_retry"]
    else
      storeResult platform draws call .failed .null (some code)
        (some "The tool could not be completed.") []

def records (platform : BrokerPlatform) (draws : Draws) (row : CatalogRow) (call : MCPToolCall)
    (projection : Except Fault PyValue) : Records :=
  match storedProjection row.policy projection with
  | .ok value => successRecords platform draws call value
  | .error (fault, code) => failureRecords platform draws row call fault code

def callEventType (status : ToolCallStatus) : String := "mcp.tool_call." ++ status.value.toLower

def outboxEvent (draws : Draws) (call : MCPToolCall) : OutboxEvent where
  id := draws.outboxId
  tenantId := call.tenantId
  aggregateType := "MCP_TOOL_CALL"
  aggregateId := call.id
  aggregateVersion := call.version
  eventType := callEventType call.status
  payload := [("canonical_name", .str call.canonicalName), ("status", .str call.status.value)]
  correlationId := call.correlationId
  createdAt := draws.createdAt

def auditDraft (call : MCPToolCall) : AuditDraft where
  tenantId := call.tenantId
  actorType := "AGENT"
  actorId := call.agentName
  eventType := callEventType call.status
  subjectType := "MCP_TOOL_CALL"
  subjectId := call.id
  correlationId := call.correlationId
  payload :=
    [("canonical_name", .str call.canonicalName),
      ("request_hash", .str call.requestHash),
      ("guardian_decision_id", optionalId call.guardianDecisionId)]

/-- What a finished call assigns. -/
def recordedWrites (platform : BrokerPlatform) (draws : Draws) (inserted : Bool)
    (call : MCPToolCall) (records : Records) : Writes :=
  let finished := call.withStatus records.status
  { inserted := inserted
    call := finished
    attempt := some records.attempt
    result := some records.result
    outbox := some (outboxEvent draws finished)
    audit := some (newEvent platform.auditCodec draws.auditId draws.occurredAt (auditDraft finished)) }

/-- The end of `_call`. The safe result is built last, outside the `try` block. -/
def finishCall (platform : BrokerPlatform) (draws : Draws) (inserted : Bool) (row : CatalogRow)
    (call : MCPToolCall) (projection : Except Fault PyValue) : Except BrokerError Outcome := do
  let records := records platform draws row call projection
  let result ← safeResult records.result call.id
  .ok ⟨result, some (recordedWrites platform draws inserted call records)⟩

/-- `_call`; the new row of `execute` is `inserted`, the row of `resume` is a stored one. -/
def makeCall (platform : BrokerPlatform) (draws : Draws) (inserted : Bool) (row : CatalogRow)
    (call : MCPToolCall) (arguments : Dict) : BrokerProgram (Except BrokerError Outcome) :=
  let calling := call.withStatus .calling
  (invoke platform ⟨calling, row, arguments⟩).bind fun projection ↦
    .ret (finishCall platform draws inserted row calling projection)

/-! ## Execute -/

/-- What `execute` has established before it asks Guardian. -/
inductive Admission where
  | replay (result : SafeToolResult)
  | fresh (row : CatalogRow) (canonical : CanonicalToolRequest)

/-- `execute` up to the flush of the new call row. -/
def admitCall (platform : BrokerPlatform) (db : ToolDb) (draws : Draws) (request : ToolCallSubmit) :
    Except BrokerError Admission :=
  match resolve db.registry request.context.tenantId request.intent.requestedName with
  | none => .error (.broker .toolNotFound "The requested tool is not registered.")
  | some row => do
    validateAccess request row
    validateArguments platform row.version.inputSchema request.intent.arguments
    let canonical := canonicalRequest platform draws.callId request row
    match ← findIdempotentResult db request.context.tenantId row.version.id
        request.intent.idempotencyKey canonical.requestHash with
    | some result => .ok (.replay result)
    | none =>
      let call := callRow request row canonical
      if (db.calls.all fun old ↦ call.id != old.id) && call.storable then .ok (.fresh row canonical)
      else .error .database

/-- A tool that runs without Guardian. -/
def CatalogRow.safeRead (row : CatalogRow) : Bool :=
  row.version.riskClass == .read && row.policy.approvalMode == .never

/-- The token of a decision that carries a token and an authorization. -/
def usableToken (decision : GuardianEvaluationResponse) : Option String :=
  if decision.authorizationId.isSome then decision.authorizationToken.filter (· ≠ "") else none

/-- The call is blocked and its result says why. -/
def blockCall (platform : BrokerPlatform) (draws : Draws) (call : MCPToolCall)
    (code message : String) (flags : List String) : Except BrokerError Outcome := do
  let result := storeResult platform draws call .blocked .null (some code) (some message) flags
  let safe ← safeResult result call.id
  .ok ⟨safe, some
    { inserted := true
      call := call.withStatus .blocked
      result := some result }⟩

def awaitApproval (platform : BrokerPlatform) (call : MCPToolCall)
    (decision : GuardianEvaluationResponse) : Outcome where
  result :=
    { callId := call.id
      status := .blocked
      provenanceHash := canonicalHash platform.sha256 (decision.dump platform.isoformat)
      securityFlags := "approval_required" :: decision.reasonCodes
      errorCode := some "APPROVAL_REQUIRED"
      errorMessage := some "A Guardian approval is required before execution." }
  writes := some
    { inserted := true
      call := call.withStatus .waitingApproval }

/-- `execute` after Guardian's decision. -/
def followDecision (platform : BrokerPlatform) (draws : Draws) (row : CatalogRow)
    (call : MCPToolCall) (arguments : Dict) (decision : GuardianEvaluationResponse) :
    BrokerProgram (Except BrokerError Outcome) :=
  let decided := call.withDecision decision.decisionId
  match decision.outcome with
  | .escalate => .ret (.ok (awaitApproval platform decided decision))
  | .verify => .ret (.ok (awaitApproval platform decided decision))
  | .block => .ret (blockCall platform draws decided "GUARDIAN_BLOCKED"
      "Guardian policy blocked this tool call." decision.reasonCodes)
  | .allow =>
    match usableToken decision with
    | none => .ret (.error (.broker .authorizationMissing
        "Guardian allowed a protected call without authorization."))
    | some token =>
      .ask (.consume call.tenantId ⟨token, call.id, call.requestHash, call.correlationId⟩) fun
        | .error (.client message) => .ret (.error (.broker .authorizationRejected message))
        | .error .other => .ret (.error .guardian)
        | .ok consumed => makeCall platform draws true row
            (decided.withAuthorization consumed.authorizationId) arguments

def execute (platform : BrokerPlatform) (db : ToolDb) (draws : Draws) (request : ToolCallSubmit) :
    BrokerProgram (Except BrokerError Outcome) :=
  match admitCall platform db draws request with
  | .error failure => .ret (.error failure)
  | .ok (.replay result) => .ret (.ok ⟨result, none⟩)
  | .ok (.fresh row canonical) =>
    let call := callRow request row canonical
    if row.safeRead then makeCall platform draws true row call canonical.normalizedArguments
    else
      .ask (.evaluate ⟨canonical, policySnapshot row.version row.policy⟩) fun
        | .error (.client _) => .ret (blockCall platform draws call "GUARDIAN_UNAVAILABLE"
            "Guardian could not authorize this protected tool." ["fail_closed", "protected_tool"])
        | .error .other => .ret (.error .guardian)
        | .ok decision =>
            followDecision platform draws row call canonical.normalizedArguments decision

/-! ## Resume -/

def findCall (db : ToolDb) (request : ToolCallResume) : Option MCPToolCall :=
  db.calls.find? fun call ↦ call.id == request.callId && call.tenantId == request.tenantId

/-- The canonical request that `resume` rebuilds from the stored call. -/
def resumedRequest (request : ToolCallResume) (row : CatalogRow) (call : MCPToolCall) :
    CanonicalToolRequest where
  callId := call.id
  runId := call.runId
  agentVersionId := call.agentVersionId
  agentName := call.agentName
  scope :=
    { tenantId := call.tenantId
      organizationId := call.organizationId
      userId := call.userId
      sessionId := call.sessionId
      runId := some call.runId
      correlationId := request.correlationId }
  serverId := row.server.id
  toolVersionId := row.version.id
  canonicalName := row.tool.canonicalName
  originalName := row.tool.originalName
  normalizedArguments := call.normalizedArguments
  purpose := call.purpose
  resourceRefs := call.resourceRefs
  idempotencyKey := call.idempotencyKey
  requestHash := call.requestHash

/-- `resume` after Guardian has authorized the approved call. -/
def followApproval (platform : BrokerPlatform) (draws : Draws) (request : ToolCallResume)
    (row : CatalogRow) (call : MCPToolCall) (decision : GuardianEvaluationResponse) :
    BrokerProgram (Except BrokerError Outcome) :=
  match usableToken decision with
  | none => .ret (.error (.broker .authorizationRejected
      "Guardian did not return an authorization."))
  | some token =>
    .ask (.consume call.tenantId ⟨token, call.id, call.requestHash, request.correlationId⟩) fun
      | .error (.client message) => .ret (.error (.broker .authorizationRejected message))
      | .error .other => .ret (.error .guardian)
      | .ok consumed => makeCall platform draws false row
          (((call.withDecision decision.decisionId).withAuthorization
            consumed.authorizationId).withCorrelation request.correlationId)
          (resumedRequest request row call).normalizedArguments

def resume (platform : BrokerPlatform) (db : ToolDb) (draws : Draws) (request : ToolCallResume) :
    BrokerProgram (Except BrokerError Outcome) :=
  match findCall db request with
  | none => .ret (.error (.broker .callNotFound "The tool call was not found."))
  | some call =>
    if call.status ≠ .waitingApproval then
      .ret (.error (.broker .callNotResumable "The tool call is not awaiting approval."))
    else
      match resumedRow db.registry call.tenantId call.toolVersionId with
      | none => .ret (.error (.broker .toolNotFound "The approved tool version is unavailable."))
      | some row =>
        .ask (.authorizeApproved call.tenantId ⟨call.id, call.requestHash, request.correlationId⟩) fun
          | .error (.client message) => .ret (.error (.broker .authorizationRejected message))
          | .error .other => .ret (.error .guardian)
          | .ok decision => followApproval platform draws request row call decision

/-! ## The machine -/

inductive BrokerOp where
  | execute (request : ToolCallSubmit)
  | resume (request : ToolCallResume)

/-- A call of a broker endpoint with what it draws. -/
structure BrokerCall where
  op : BrokerOp
  draws : Draws

def serveBroker (platform : BrokerPlatform) (db : ToolDb) (call : BrokerCall) :
    BrokerProgram (Except BrokerError Outcome) :=
  match call.op with
  | .execute request => execute platform db call.draws request
  | .resume request => resume platform db call.draws request

/-- The end of a transaction: what the endpoint answers and the committed tables. -/
def closeTransaction (db : ToolDb) :
    Except BrokerError Outcome → Except BrokerError SafeToolResult × ToolDb
  | .error failure => (.error failure, db)
  | .ok ⟨result, none⟩ => (.ok result, db)
  | .ok ⟨result, some writes⟩ =>
    match writes.commit db with
    | none => (.error .database, db)
    | some after => (.ok result, after)

/-- The endpoints of the tool platform. A broker call comes with the environment that answers it. -/
inductive ToolOp where
  | registry (op : RegistryOp)
  | broker (call : BrokerCall) (oracle : Program.Oracle Ask Reply)

/-- What an endpoint answers; of a broker call also everything that it asked. -/
inductive ToolAnswer where
  | registry (answer : Except RegistryError PUnit)
  | broker (answer : Except BrokerError SafeToolResult) (trace : List BrokerEvent)

/-- The tool platform: one transaction per endpoint call, one after the other. -/
def toolPlatform (platform : BrokerPlatform) : Machine ToolDb ToolOp ToolAnswer where
  step db
    | .registry op =>
      let (answer, registry) := (toolRegistry platform.sha256).step db.registry op
      (.registry answer, { db with registry := registry })
    | .broker call oracle =>
      let (outcome, trace) := (serveBroker platform db call).exec oracle []
      let (answer, after) := closeTransaction db outcome
      (.broker answer trace, after)

abbrev ToolEntry := Entry ToolDb ToolOp ToolAnswer

end Xyena.Tools
