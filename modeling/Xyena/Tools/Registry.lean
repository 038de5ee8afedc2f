import Xyena.Foundation.Runs
import Xyena.Foundation.Transaction
import Xyena.Tools.Canonical
import Xyena.Tools.Catalog

/-!
# The tool registry

The operations of `ToolRegistry` in `packages/tools/registry.py` as its
endpoints call them, over the five registry tables. The tool list of the remote
server and every identifier that an operation draws are inputs.
-/

namespace Xyena.Tools

open Xyena.Foundation Xyena.Contracts

/-! ## Inputs and errors -/

/-- One entry of the tool list of a remote server. -/
structure DiscoveredTool where
  name : String
  description : Option String := none
  inputSchema : Option Dict := none
  outputSchema : Dict := []

/-- The identifiers that the upsert of one discovered tool may draw. -/
structure ToolIds where
  tool : Uuid
  version : Uuid
  policy : Uuid

/-- The reply of the remote server to a discovery, with the identifiers for each tool. -/
structure Discovery where
  tools : List (DiscoveredTool × ToolIds)
  info : ServerInfo

inductive RegistryError where
  | value (message : String)
  | lookup (message : String)
  | notFound
  | remote
  | integrity
deriving DecidableEq, Repr

abbrev RegistrySession := Session RegistryDb RegistryError

/-! ## Inserts and assignments -/

def addServer (row : MCPServer) : RegistrySession PUnit :=
  Session.insert (·.servers) (fun rows db ↦ { db with servers := rows })
    (fun row old ↦ row.id == old.id ||
      (row.tenantId.isSome && row.tenantId == old.tenantId && row.label == old.label))
    .integrity row

def addServerVersion (row : MCPServerVersion) : RegistrySession PUnit :=
  Session.insert (·.serverVersions) (fun rows db ↦ { db with serverVersions := rows })
    (fun row old ↦ row.id == old.id ||
      (row.serverId == old.serverId && row.discoveryHash == old.discoveryHash))
    .integrity row

def addTool (row : MCPTool) : RegistrySession PUnit :=
  Session.insert (·.tools) (fun rows db ↦ { db with tools := rows })
    (fun row old ↦ row.id == old.id || (row.serverId == old.serverId &&
      (row.originalName == old.originalName || row.canonicalName == old.canonicalName)))
    .integrity row

def addToolVersion (row : MCPToolVersion) : RegistrySession PUnit :=
  Session.insert (·.toolVersions) (fun rows db ↦ { db with toolVersions := rows })
    (fun row old ↦ row.id == old.id ||
      (row.toolId == old.toolId && row.schemaHash == old.schemaHash))
    .integrity row

def addPolicy (row : MCPToolPolicy) : RegistrySession PUnit :=
  Session.insert (·.policies) (fun rows db ↦ { db with policies := rows })
    (fun row old ↦ row.id == old.id) .integrity row

def storeServer (changed : MCPServer) : RegistrySession PUnit :=
  modify fun db ↦ { db with servers := Table.replace MCPServer.id changed db.servers }

/-! ## Servers -/

/-- The row that `register_server` stores. -/
def serverRow (id : Uuid) (tenantId : Option Uuid) (request : MCPServerCreate) : MCPServer where
  id := id
  tenantId := tenantId
  label := request.label.text
  description := request.description
  transport := request.transport
  endpoint := request.endpoint
  authType := request.authType
  secretRef := request.secretRef
  trustTier := request.trustTier
  status := .pendingReview
  allowedEgressHosts := request.allowedEgressHosts
  timeoutSeconds := request.timeoutSeconds
  maxRetries := request.maxRetries

def registerServer (id : Uuid) (tenantId : Option Uuid) (request : MCPServerCreate) :
    RegistrySession MCPServer := do
  let taken := (← get).servers.any fun server ↦
    server.tenantId == tenantId && server.label == request.label.text
  if taken then
    throw (.value ("MCP server label '" ++ request.label.text ++ "' is already registered"))
  else
    addServer (serverRow id tenantId request)
    pure (serverRow id tenantId request)

/-- The server that an endpoint works on. -/
def getServer (serverId : Uuid) (tenantId : Option Uuid) : RegistrySession MCPServer := do
  match (← get).servers.find? fun server ↦ server.id == serverId with
  | none => throw .notFound
  | some server => if server.tenantId ≠ tenantId then throw .notFound else pure server

def reviewServer (server : MCPServer) (review : MCPServerReview) : RegistrySession MCPServer :=
  if server.lastDiscoveredAt = none ∧ review.status = .active then
    throw (.value "Discover the server before activation.")
  else do
    let reviewed := { server with
      trustTier := review.trustTier.value
      status := .ofReview review.status
      version := server.version + 1 }
    storeServer reviewed
    pure reviewed

/-! ## Discovery -/

def ServerInfo.fields (info : ServerInfo) : Dict :=
  [("implementation_name", .ofOption info.implementationName),
    ("implementation_version", .ofOption info.implementationVersion),
    ("protocol_version", .ofOption info.protocolVersion)]

def DiscoveredTool.dump (tool : DiscoveredTool) : Json :=
  .obj [("name", .str tool.name),
    ("description", .ofOption tool.description),
    ("input_schema", tool.inputSchema.elim .null .obj),
    ("output_schema", .obj tool.outputSchema)]

def discoveryDocument (server : MCPServer) (discovery : Discovery) : Dict :=
  [("server", .str server.label),
    ("tools", .arr (((discovery.tools.map Prod.fst).insertionSort
      fun first second ↦ first.name ≤ second.name).map DiscoveredTool.dump))] ++
    discovery.info.fields

def schemaDocument (tool : DiscoveredTool) : Json :=
  .obj [("input", .obj (tool.inputSchema.getD [])), ("output", .obj tool.outputSchema)]

def toolRow (server : MCPServer) (tool : DiscoveredTool) (ids : ToolIds) : MCPTool where
  id := ids.tool
  serverId := server.id
  canonicalName := server.label ++ "." ++ tool.name
  originalName := tool.name
  description := tool.description
  status := .pendingReview

def versionRow (sha256 : String → String) (toolId : Uuid) (tool : DiscoveredTool) (ids : ToolIds) :
    MCPToolVersion where
  id := ids.version
  toolId := toolId
  schemaHash := canonicalHash sha256 (schemaDocument tool)
  inputSchema := tool.inputSchema.getD []
  outputSchema := tool.outputSchema
  riskClass := .read
  sideEffects := false
  idempotent := true
  parallelAllowed := false
  hostedMcpAllowed := false
  status := .pendingReview

def policyRow (server : MCPServer) (ids : ToolIds) : MCPToolPolicy where
  id := ids.policy
  toolVersionId := ids.version
  tenantId := server.tenantId
  approvalMode := .policy
  timeoutSeconds := server.timeoutSeconds
  maximumResultBytes := 262144
  status := .draft

/-- The tool of the discovered name, added when the server does not have it yet. -/
def upsertTool (server : MCPServer) (discovered : DiscoveredTool) (ids : ToolIds) :
    RegistrySession MCPTool := do
  match (← get).tools.find? fun tool ↦
      tool.serverId == server.id && tool.originalName == discovered.name with
  | some tool => pure tool
  | none =>
    addTool (toolRow server discovered ids)
    pure (toolRow server discovered ids)

def upsertDiscoveredTool (sha256 : String → String) (server : MCPServer)
    (discovered : DiscoveredTool) (ids : ToolIds) : RegistrySession PUnit := do
  let tool ← upsertTool server discovered ids
  let schemaHash := canonicalHash sha256 (schemaDocument discovered)
  if (← get).toolVersions.any fun version ↦
      version.toolId == tool.id && version.schemaHash == schemaHash then
    pure ⟨⟩
  else
    addToolVersion (versionRow sha256 tool.id discovered ids)
    addPolicy (policyRow server ids)

def upsertDiscoveredTools (sha256 : String → String) (server : MCPServer) :
    List (DiscoveredTool × ToolIds) → RegistrySession PUnit
  | [] => pure ⟨⟩
  | (discovered, ids) :: rest => do
    upsertDiscoveredTool sha256 server discovered ids
    upsertDiscoveredTools sha256 server rest

/-- The discovery document is stored once per server and hash. -/
def upsertServerVersion (row : MCPServerVersion) : RegistrySession PUnit := do
  if (← get).serverVersions.any fun version ↦
      version.serverId == row.serverId && version.discoveryHash == row.discoveryHash then
    pure ⟨⟩
  else
    addServerVersion row

/-- `reply` is what the remote server answers, `none` when listing its tools raises. -/
def discover (sha256 : String → String) (now : Time) (id : Uuid) (server : MCPServer)
    (reply : Option Discovery) : RegistrySession PUnit := do
  match reply with
  | none => throw .remote
  | some discovery =>
    let document := discoveryDocument server discovery
    let discoveryHash := canonicalHash sha256 (.obj document)
    upsertServerVersion ⟨id, server.id, discovery.info, discoveryHash, document⟩
    upsertDiscoveredTools sha256 server discovery.tools
    storeServer { server with
      discoveryHash := some discoveryHash
      lastDiscoveredAt := some now
      version := server.version + 1 }

/-! ## Review of a tool version -/

def reviewedVersion (version : MCPToolVersion) (review : ToolPolicyCreate) : MCPToolVersion :=
  { version with
    riskClass := review.riskClass
    sideEffects := review.sideEffects
    idempotent := review.idempotent
    parallelAllowed := review.parallelAllowed
    hostedMcpAllowed := review.hostedMcpAllowed
    status := .active }

def reviewedTool (tool : MCPTool) : MCPTool :=
  { tool with
    status := .active
    version := tool.version + 1 }

def reviewedPolicy (policy : MCPToolPolicy) (review : ToolPolicyCreate) : MCPToolPolicy :=
  { policy with
    requiredRoles := review.requiredRoles
    requiredPurposes := review.requiredPurposes
    requiredConsents := review.requiredConsents
    allowedAgents := review.allowedAgents
    approvalMode := review.approvalMode
    timeoutSeconds := review.timeoutSeconds
    maximumResultBytes := review.maximumResultBytes
    status := .active
    version := policy.version + 1 }

/-- The identifiers of the other versions of the tool of a row. -/
def siblingIds (db : RegistryDb) (row : CatalogRow) : List Uuid :=
  (db.toolVersions.filter fun version ↦
    version.toolId == row.tool.id && version.id != row.version.id).map MCPToolVersion.id

/-- The siblings are demoted, then the reviewed rows are assigned. -/
def applyReview (row : CatalogRow) (review : ToolPolicyCreate) (db : RegistryDb) : RegistryDb :=
  { db with
    tools := Table.replace MCPTool.id (reviewedTool row.tool) db.tools
    toolVersions := Table.replace MCPToolVersion.id (reviewedVersion row.version review)
      (Table.update (fun version ↦ (siblingIds db row).contains version.id)
        (fun version ↦ { version with status := .superseded }) db.toolVersions)
    policies := Table.replace MCPToolPolicy.id (reviewedPolicy row.policy review)
      (Table.update (fun policy ↦ (siblingIds db row).contains policy.toolVersionId)
        (fun policy ↦ { policy with status := .disabled }) db.policies) }

def reviewToolVersion (toolVersionId : Uuid) (review : ToolPolicyCreate) (tenantId : Option Uuid) :
    RegistrySession PUnit := do
  match (← get).catalog.find? fun row ↦
      row.version.id == toolVersionId && row.server.tenantId == tenantId with
  | none => throw (.lookup "MCP tool version not found.")
  | some row =>
    if row.server.status ≠ .active then
      throw (.value "Activate the reviewed MCP server before its tools.")
    else if row.tool.canonicalName ≠ review.canonicalName then
      throw (.value "Canonical tool name does not match the reviewed version.")
    else
      modify (applyReview row review)

/-! ## The machine -/

inductive RegistryOp where
  | registerServer (id : Uuid) (tenantId : Option Uuid) (request : MCPServerCreate)
  | discover (serverId : Uuid) (tenantId : Option Uuid) (now : Time) (id : Uuid)
      (reply : Option Discovery)
  | reviewServer (serverId : Uuid) (tenantId : Option Uuid) (review : MCPServerReview)
  | reviewToolVersion (toolVersionId : Uuid) (tenantId : Option Uuid) (review : ToolPolicyCreate)

def serveRegistry (sha256 : String → String) : RegistryOp → RegistrySession PUnit
  | .registerServer id tenantId request => do
    let _ ← registerServer id tenantId request
    pure ⟨⟩
  | .discover serverId tenantId now id reply => do
    let server ← getServer serverId tenantId
    discover sha256 now id server reply
  | .reviewServer serverId tenantId review => do
    let server ← getServer serverId tenantId
    let _ ← reviewServer server review
    pure ⟨⟩
  | .reviewToolVersion toolVersionId tenantId review =>
    reviewToolVersion toolVersionId review tenantId

/-- The registry endpoints: one transaction per call, rolled back when the call raises. -/
def toolRegistry (sha256 : String → String) :
    Machine RegistryDb RegistryOp (Except RegistryError PUnit) where
  step db op := (serveRegistry sha256 op).atomically db

end Xyena.Tools
