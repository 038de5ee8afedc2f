import Xyena.Audit.Service
import Xyena.Foundation.Columns
import Xyena.Foundation.Transaction
import Xyena.Tools.Catalog
import Xyena.Tools.Values

/-!
# Tool calls and their records

The tables that `ToolBroker` writes: the calls, their attempts and results, the
outbox and the audit log. All rows of one broker call reach the database in the
commit of its transaction, which the database refuses as a whole when a value
does not fit its column or a key is taken.
-/

namespace Xyena.Tools

open Xyena.Foundation Xyena.Contracts Xyena.Audit

/-! ## Rows -/

structure MCPToolCall where
  id : Uuid
  tenantId : Uuid
  organizationId : Uuid
  userId : Uuid
  sessionId : Option Uuid
  runId : Uuid
  agentVersionId : Option Uuid
  agentName : String
  serverId : Uuid
  toolVersionId : Uuid
  canonicalName : String
  normalizedArguments : Dict
  purpose : String
  resourceRefs : List String
  requestHash : String
  idempotencyKey : Option String
  status : ToolCallStatus
  guardianDecisionId : Option Uuid := none
  authorizationId : Option Uuid := none
  correlationId : Uuid
  version : Nat := 1

/-! The columns that the broker assigns after the insert. -/

def MCPToolCall.withStatus (call : MCPToolCall) (status : ToolCallStatus) : MCPToolCall :=
  { call with status := status }

def MCPToolCall.withDecision (call : MCPToolCall) (decisionId : Uuid) : MCPToolCall :=
  { call with guardianDecisionId := some decisionId }

def MCPToolCall.withAuthorization (call : MCPToolCall) (authorizationId : Uuid) : MCPToolCall :=
  { call with authorizationId := some authorizationId }

def MCPToolCall.withCorrelation (call : MCPToolCall) (correlationId : Uuid) : MCPToolCall :=
  { call with correlationId := correlationId }

structure MCPCallAttempt where
  id : Uuid
  tenantId : Uuid
  callId : Uuid
  attemptNumber : Nat
  status : ToolCallStatus
  startedAt : Time
  completedAt : Option Time := none
  errorClass : Option String := none
  errorDetail : Option String := none

structure MCPToolResult where
  id : Uuid
  tenantId : Uuid
  callId : Uuid
  status : ToolCallStatus
  modelProjection : Json
  normalizedHash : String
  classification : List String
  errorCode : Option String
  errorMessage : Option String

structure OutboxEvent where
  id : Uuid
  tenantId : Uuid
  aggregateType : String
  aggregateId : Uuid
  aggregateVersion : Nat
  eventType : String
  schemaVersion : String := "1.0"
  payload : Dict
  correlationId : Uuid
  createdAt : Time
  attemptCount : Nat := 0

/-- The tables of the tool platform. -/
structure ToolDb where
  registry : RegistryDb := {}
  calls : List MCPToolCall := []
  attempts : List MCPCallAttempt := []
  results : List MCPToolResult := []
  outbox : List OutboxEvent := []
  audit : List AuditEvent := []

/-! ## Columns and keys

Digests and enumerated texts fit their columns and are not checked. -/

def MCPToolCall.storable (row : MCPToolCall) : Bool :=
  row.sessionId.isSome && fits 150 row.agentName && fits 200 row.canonicalName &&
    jsonStorable (.obj row.normalizedArguments) && fits 500 row.purpose &&
    row.resourceRefs.all (fits 500) && row.idempotencyKey.all (fits 255)

def MCPCallAttempt.storable (row : MCPCallAttempt) : Bool :=
  row.errorClass.all (fits 100) && row.errorDetail.all textStorable

def MCPCallAttempt.conflicts (row old : MCPCallAttempt) : Bool :=
  row.id == old.id || (row.tenantId == old.tenantId && row.callId == old.callId &&
    row.attemptNumber == old.attemptNumber)

def MCPToolResult.storable (row : MCPToolResult) : Bool :=
  jsonStorable row.modelProjection && row.classification.all (fits 100)

def MCPToolResult.conflicts (row old : MCPToolResult) : Bool :=
  row.id == old.id || (row.tenantId == old.tenantId && row.callId == old.callId)

/-! ## The rows of one transaction -/

/-- What one broker call has assigned when it returns. The call row is a new one, or replaces the
row that the transaction has locked; the audit event continues the log that it is appended to. -/
structure Writes where
  inserted : Bool
  call : MCPToolCall
  attempt : Option MCPCallAttempt := none
  result : Option MCPToolResult := none
  outbox : Option OutboxEvent := none
  audit : Option (List AuditEvent → AuditEvent) := none

/-- Whether the database takes all rows of the transaction. -/
def Writes.accepted (writes : Writes) (db : ToolDb) : Bool :=
  (!writes.inserted || db.calls.all fun old ↦ writes.call.id != old.id) &&
    (writes.attempt.all fun row ↦
      row.storable && db.attempts.all fun old ↦ !row.conflicts old) &&
    (writes.result.all fun row ↦
      row.storable && db.results.all fun old ↦ !row.conflicts old) &&
    (writes.outbox.all fun row ↦ db.outbox.all fun old ↦ row.id != old.id) &&
    (writes.audit.all fun event ↦ db.audit.all fun old ↦ !(event db.audit).conflicts old)

def Writes.apply (writes : Writes) (db : ToolDb) : ToolDb :=
  { db with
    calls := if writes.inserted then db.calls ++ [writes.call]
      else Table.replace MCPToolCall.id writes.call db.calls
    attempts := db.attempts ++ writes.attempt.toList
    results := db.results ++ writes.result.toList
    outbox := db.outbox ++ writes.outbox.toList
    audit := db.audit ++ (writes.audit.map fun event ↦ event db.audit).toList }

/-- The commit of a transaction, `none` when the database refuses it. -/
def Writes.commit (writes : Writes) (db : ToolDb) : Option ToolDb :=
  if writes.accepted db then some (writes.apply db) else none

end Xyena.Tools
