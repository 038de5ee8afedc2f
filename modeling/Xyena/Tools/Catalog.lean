import Xyena.Contracts.Tools
import Mathlib.Data.List.Sort

/-!
# The tool catalog

The registry tables of `packages/persistence/models/mcp.py` and the lookups
that `ToolBroker` makes in them. A server offers tools, a tool has one version
per schema, and every version has a policy. A row of the catalog joins the four.
-/

namespace Xyena.Tools

open Xyena.Foundation Xyena.Contracts

/-! ## Rows -/

inductive ServerStatus where
  | pendingReview
  | active
  | suspended
deriving DecidableEq, Repr

def ServerStatus.ofReview : ReviewedStatus → ServerStatus
  | .active => .active
  | .suspended => .suspended

structure MCPServer where
  id : Uuid
  tenantId : Option Uuid
  label : String
  description : String
  transport : MCPTransport
  endpoint : String
  authType : String
  secretRef : Option String
  trustTier : String
  status : ServerStatus
  allowedEgressHosts : List String
  timeoutSeconds : Rat
  maxRetries : Nat
  discoveryHash : Option String := none
  lastDiscoveredAt : Option Time := none
  version : Nat := 1

/-- What the remote server says about itself. -/
structure ServerInfo where
  implementationName : Option String
  implementationVersion : Option String
  protocolVersion : Option String

structure MCPServerVersion where
  id : Uuid
  serverId : Uuid
  info : ServerInfo
  discoveryHash : String
  discoveryDocument : Dict

inductive ToolStatus where
  | pendingReview
  | active
deriving DecidableEq, Repr

structure MCPTool where
  id : Uuid
  serverId : Uuid
  canonicalName : String
  originalName : String
  description : Option String
  status : ToolStatus
  version : Nat := 1

inductive VersionStatus where
  | pendingReview
  | active
  | superseded
deriving DecidableEq, Repr

structure MCPToolVersion where
  id : Uuid
  toolId : Uuid
  schemaHash : String
  inputSchema : Dict
  outputSchema : Dict
  riskClass : ToolRiskClass
  sideEffects : Bool
  idempotent : Bool
  parallelAllowed : Bool
  hostedMcpAllowed : Bool
  status : VersionStatus

inductive PolicyStatus where
  | draft
  | active
  | disabled
deriving DecidableEq, Repr

structure MCPToolPolicy where
  id : Uuid
  toolVersionId : Uuid
  tenantId : Option Uuid
  requiredRoles : List String := []
  requiredPurposes : List String := []
  requiredConsents : List String := []
  allowedAgents : List String := []
  approvalMode : ApprovalMode
  timeoutSeconds : Rat
  maximumResultBytes : Nat
  status : PolicyStatus
  version : Nat := 1

structure RegistryDb where
  servers : List MCPServer := []
  serverVersions : List MCPServerVersion := []
  tools : List MCPTool := []
  toolVersions : List MCPToolVersion := []
  policies : List MCPToolPolicy := []

/-- One row of the join of tools, versions, policies and servers. -/
structure CatalogRow where
  tool : MCPTool
  version : MCPToolVersion
  policy : MCPToolPolicy
  server : MCPServer

def RegistryDb.catalog (db : RegistryDb) : List CatalogRow :=
  db.tools.flatMap fun tool ↦
    (db.toolVersions.filter fun version ↦ version.toolId == tool.id).flatMap fun version ↦
      (db.policies.filter fun policy ↦ policy.toolVersionId == version.id).flatMap fun policy ↦
        (db.servers.filter fun server ↦ server.id == tool.serverId).map fun server ↦
          ⟨tool, version, policy, server⟩

theorem RegistryDb.mem_catalog {db : RegistryDb} {row : CatalogRow} :
    row ∈ db.catalog ↔
      (row.tool ∈ db.tools ∧ row.version ∈ db.toolVersions ∧ row.policy ∈ db.policies ∧
        row.server ∈ db.servers) ∧
      row.version.toolId = row.tool.id ∧ row.policy.toolVersionId = row.version.id ∧
        row.server.id = row.tool.serverId := by
  simp only [RegistryDb.catalog, List.mem_flatMap, List.mem_map, List.mem_filter, beq_iff_eq]
  constructor
  · rintro ⟨tool, htool, version, ⟨hversion, hv⟩, policy, ⟨hpolicy, hp⟩, server, ⟨hserver, hs⟩, rfl⟩
    exact ⟨⟨htool, hversion, hpolicy, hserver⟩, hv, hp, hs⟩
  · rintro ⟨⟨htool, hversion, hpolicy, hserver⟩, hv, hp, hs⟩
    exact ⟨row.tool, htool, row.version, ⟨hversion, hv⟩, row.policy, ⟨hpolicy, hp⟩, row.server,
      ⟨hserver, hs⟩, rfl⟩

/-! ## Lookups of the broker -/

/-- `ORDER BY tenant_id DESC NULLS LAST`. -/
def tenantFirst : Option Uuid → Option Uuid → Bool
  | _, none => true
  | none, some _ => false
  | some first, some second => decide (second ≤ first)

/-- The order of rows by the tenants of their policies. -/
def CatalogRow.Before (first second : CatalogRow) : Prop :=
  tenantFirst first.policy.tenantId second.policy.tenantId = true

instance : DecidableRel CatalogRow.Before := fun first second ↦
  inferInstanceAs (Decidable (tenantFirst first.policy.tenantId second.policy.tenantId = true))

/-- The first row in the order of the policies' tenants. -/
def firstByTenant (rows : List CatalogRow) : Option CatalogRow :=
  (rows.insertionSort CatalogRow.Before).head?

/-- The tenant's own rows and the global ones. -/
def visible (tenantId : Uuid) (owner : Option Uuid) : Bool :=
  owner == some tenantId || owner == none

def CatalogRow.allActive (row : CatalogRow) : Bool :=
  row.tool.status == .active && row.version.status == .active && row.policy.status == .active &&
    row.server.status == .active

/-- The rows that `_resolve` selects from. -/
def candidates (db : RegistryDb) (tenantId : Uuid) (requestedName : String) : List CatalogRow :=
  db.catalog.filter fun row ↦
    row.tool.canonicalName == requestedName && row.allActive &&
      visible tenantId row.server.tenantId && visible tenantId row.policy.tenantId

def resolve (db : RegistryDb) (tenantId : Uuid) (requestedName : String) : Option CatalogRow :=
  firstByTenant (candidates db tenantId requestedName)

/-- The row that `resume` works on: the stored version of the call, whatever its status. -/
def resumedRow (db : RegistryDb) (tenantId toolVersionId : Uuid) : Option CatalogRow :=
  firstByTenant (db.catalog.filter fun row ↦
    row.version.id == toolVersionId && visible tenantId row.policy.tenantId)

theorem firstByTenant_mem {rows : List CatalogRow} {row : CatalogRow}
    (h : firstByTenant rows = some row) : row ∈ rows :=
  (List.perm_insertionSort _ rows).mem_iff.mp (List.mem_of_head? h)

theorem firstByTenant_eq_none {rows : List CatalogRow} : firstByTenant rows = none ↔ rows = [] := by
  rw [firstByTenant, List.head?_eq_none_iff, ← List.length_eq_zero_iff,
    (List.perm_insertionSort _ rows).length_eq, List.length_eq_zero_iff]

theorem resolve_spec {db : RegistryDb} {tenantId : Uuid} {requestedName : String}
    {row : CatalogRow} (h : resolve db tenantId requestedName = some row) :
    row ∈ db.catalog ∧ row.tool.canonicalName = requestedName ∧ row.allActive = true := by
  have hcandidate := firstByTenant_mem h
  simp only [candidates, List.mem_filter, Bool.and_eq_true, beq_iff_eq] at hcandidate
  exact ⟨hcandidate.1, hcandidate.2.1.1.1, hcandidate.2.1.1.2⟩

end Xyena.Tools
