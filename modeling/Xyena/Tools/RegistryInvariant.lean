import Mathlib.Data.List.Nodup
import Xyena.Tools.RegistryMoves

/-!
# The registry invariant

The identifying columns of the registry tables form its layout. Discovery
appends to the layout and nothing ever rewrites it, so what the layout
guarantees (distinct identifiers, one server per tenant and label, one tool per
server and name, one policy per version) survives every call. The statuses are
a second, smaller invariant on top. Together they make the row that the broker
resolves unique.
-/

namespace Xyena.Tools

open Xyena.Foundation Xyena.Contracts

/-! ## Layout -/

structure ServerKey where
  id : Uuid
  tenantId : Option Uuid
  label : String

structure ToolKey where
  id : Uuid
  serverId : Uuid
  canonicalName : String

structure VersionKey where
  id : Uuid
  toolId : Uuid

structure PolicyKey where
  id : Uuid
  versionId : Uuid
  tenantId : Option Uuid

def MCPServer.key (server : MCPServer) : ServerKey := ⟨server.id, server.tenantId, server.label⟩

def MCPTool.key (tool : MCPTool) : ToolKey := ⟨tool.id, tool.serverId, tool.canonicalName⟩

def MCPToolVersion.key (version : MCPToolVersion) : VersionKey := ⟨version.id, version.toolId⟩

def MCPToolPolicy.key (policy : MCPToolPolicy) : PolicyKey :=
  ⟨policy.id, policy.toolVersionId, policy.tenantId⟩

/-- The identifying columns of the four joined tables. -/
structure Layout where
  servers : List ServerKey
  tools : List ToolKey
  versions : List VersionKey
  policies : List PolicyKey

def RegistryDb.layout (db : RegistryDb) : Layout where
  servers := db.servers.map MCPServer.key
  tools := db.tools.map MCPTool.key
  versions := db.toolVersions.map MCPToolVersion.key
  policies := db.policies.map MCPToolPolicy.key

structure Layout.WellFormed (layout : Layout) : Prop where
  serverIds : (layout.servers.map ServerKey.id).Nodup
  labels : (layout.servers.map fun server ↦ (server.tenantId, server.label)).Nodup
  dotless : ∀ server ∈ layout.servers, '.' ∉ server.label.toList
  toolIds : (layout.tools.map ToolKey.id).Nodup
  names : (layout.tools.map fun tool ↦ (tool.serverId, tool.canonicalName)).Nodup
  toolServer : ∀ tool ∈ layout.tools, ∃ server ∈ layout.servers, server.id = tool.serverId ∧
    ∃ name, tool.canonicalName = server.label ++ "." ++ name
  versionIds : (layout.versions.map VersionKey.id).Nodup
  versionTool : ∀ version ∈ layout.versions, ∃ tool ∈ layout.tools, tool.id = version.toolId
  policyIds : (layout.policies.map PolicyKey.id).Nodup
  policyVersions : (layout.policies.map PolicyKey.versionId).Nodup
  policyVersion : ∀ policy ∈ layout.policies, ∃ version ∈ layout.versions,
    version.id = policy.versionId ∧ ∃ tool ∈ layout.tools, tool.id = version.toolId ∧
      ∃ server ∈ layout.servers, server.id = tool.serverId ∧ policy.tenantId = server.tenantId

namespace Layout.WellFormed

variable {layout : Layout}

theorem addServer (h : layout.WellFormed) (server : ServerKey)
    (hfresh : ∀ old ∈ layout.servers, server.id ≠ old.id)
    (hlabel : ∀ old ∈ layout.servers, ¬ (old.tenantId = server.tenantId ∧ old.label = server.label))
    (hdotless : '.' ∉ server.label.toList) :
    Layout.WellFormed { layout with servers := layout.servers ++ [server] } where
  serverIds := Table.nodup_keys_append h.serverIds hfresh
  labels := by
    refine Table.nodup_keys_append h.labels fun old hold hsame ↦ hlabel old hold ?_
    obtain ⟨htenant, hname⟩ := Prod.mk.inj hsame
    exact ⟨htenant.symm, hname.symm⟩
  dotless row hrow := by
    rcases List.mem_append.mp hrow with hold | hnew
    · exact h.dotless row hold
    · exact List.mem_singleton.mp hnew ▸ hdotless
  toolIds := h.toolIds
  names := h.names
  toolServer tool htool := by
    obtain ⟨row, hrow, hserver⟩ := h.toolServer tool htool
    exact ⟨row, List.mem_append_left _ hrow, hserver⟩
  versionIds := h.versionIds
  versionTool := h.versionTool
  policyIds := h.policyIds
  policyVersions := h.policyVersions
  policyVersion policy hpolicy := by
    obtain ⟨version, hversion, hv, tool, htool, ht, row, hrow, hserver⟩ :=
      h.policyVersion policy hpolicy
    exact ⟨version, hversion, hv, tool, htool, ht, row, List.mem_append_left _ hrow, hserver⟩

theorem addTool (h : layout.WellFormed) (tool : ToolKey) {server : ServerKey} {name : String}
    (hserver : server ∈ layout.servers) (hoffers : tool.serverId = server.id)
    (hname : tool.canonicalName = server.label ++ "." ++ name)
    (hfresh : ∀ old ∈ layout.tools, tool.id ≠ old.id ∧
      ¬ (old.serverId = tool.serverId ∧ old.canonicalName = tool.canonicalName)) :
    Layout.WellFormed { layout with tools := layout.tools ++ [tool] } where
  serverIds := h.serverIds
  labels := h.labels
  dotless := h.dotless
  toolIds := Table.nodup_keys_append h.toolIds fun old hold ↦ (hfresh old hold).1
  names := by
    refine Table.nodup_keys_append h.names fun old hold hsame ↦ (hfresh old hold).2 ?_
    obtain ⟨hserver', hname'⟩ := Prod.mk.inj hsame
    exact ⟨hserver'.symm, hname'.symm⟩
  toolServer row hrow := by
    rcases List.mem_append.mp hrow with hold | hnew
    · exact h.toolServer row hold
    · rw [List.mem_singleton.mp hnew]
      exact ⟨server, hserver, hoffers.symm, name, hname⟩
  versionIds := h.versionIds
  versionTool version hversion := by
    obtain ⟨row, hrow, ht⟩ := h.versionTool version hversion
    exact ⟨row, List.mem_append_left _ hrow, ht⟩
  policyIds := h.policyIds
  policyVersions := h.policyVersions
  policyVersion policy hpolicy := by
    obtain ⟨version, hversion, hv, row, hrow, hrest⟩ := h.policyVersion policy hpolicy
    exact ⟨version, hversion, hv, row, List.mem_append_left _ hrow, hrest⟩

/-- A version and its policy are added for a tool of the server whose tenant the policy names. -/
theorem addVersion (h : layout.WellFormed) (version : VersionKey) (policy : PolicyKey)
    {server : ServerKey} {tool : ToolKey} (hserver : server ∈ layout.servers)
    (htool : tool ∈ layout.tools) (hoffers : tool.serverId = server.id)
    (hversion : version.toolId = tool.id) (hpolicy : policy.versionId = version.id)
    (htenant : policy.tenantId = server.tenantId)
    (hfreshVersion : ∀ old ∈ layout.versions, version.id ≠ old.id)
    (hfreshPolicy : ∀ old ∈ layout.policies, policy.id ≠ old.id) :
    Layout.WellFormed { layout with
      versions := layout.versions ++ [version]
      policies := layout.policies ++ [policy] } where
  serverIds := h.serverIds
  labels := h.labels
  dotless := h.dotless
  toolIds := h.toolIds
  names := h.names
  toolServer := h.toolServer
  versionIds := Table.nodup_keys_append h.versionIds hfreshVersion
  versionTool row hrow := by
    rcases List.mem_append.mp hrow with hold | hnew
    · exact h.versionTool row hold
    · rw [List.mem_singleton.mp hnew]
      exact ⟨tool, htool, hversion.symm⟩
  policyIds := Table.nodup_keys_append h.policyIds hfreshPolicy
  policyVersions := by
    refine Table.nodup_keys_append h.policyVersions fun old hold hsame ↦ ?_
    -- an older policy belongs to an older version
    obtain ⟨row, hrow, hid, -⟩ := h.policyVersion old hold
    exact hfreshVersion row hrow (hpolicy.symm.trans (hsame.trans hid.symm))
  policyVersion row hrow := by
    rcases List.mem_append.mp hrow with hold | hnew
    · obtain ⟨old, hold', hrest⟩ := h.policyVersion row hold
      exact ⟨old, List.mem_append_left _ hold', hrest⟩
    · rw [List.mem_singleton.mp hnew]
      exact ⟨version, List.mem_append_right _ (List.mem_singleton.mpr rfl), hpolicy.symm, tool, htool,
        hversion.symm, server, hserver, hoffers.symm, htenant⟩

end Layout.WellFormed

namespace RegistryDb

variable {db : RegistryDb}

theorem serverIds (h : db.layout.WellFormed) : (db.servers.map MCPServer.id).Nodup := by
  have hids := h.serverIds
  rwa [layout, List.map_map] at hids

theorem toolIds (h : db.layout.WellFormed) : (db.tools.map MCPTool.id).Nodup := by
  have hids := h.toolIds
  rwa [layout, List.map_map] at hids

theorem versionIds (h : db.layout.WellFormed) : (db.toolVersions.map MCPToolVersion.id).Nodup := by
  have hids := h.versionIds
  rwa [layout, List.map_map] at hids

theorem policyIds (h : db.layout.WellFormed) : (db.policies.map MCPToolPolicy.id).Nodup := by
  have hids := h.policyIds
  rwa [layout, List.map_map] at hids

theorem policyVersions (h : db.layout.WellFormed) :
    (db.policies.map MCPToolPolicy.toolVersionId).Nodup := by
  have hids := h.policyVersions
  rwa [layout, List.map_map] at hids

/-- The rows of a catalog row belong together, also in the tenant. -/
theorem policy_tenant (h : db.layout.WellFormed) {row : CatalogRow} (hrow : row ∈ db.catalog) :
    row.policy.tenantId = row.server.tenantId := by
  obtain ⟨⟨htool, hversion, hpolicy, hserver⟩, hv, hp, hs⟩ := mem_catalog.mp hrow
  obtain ⟨version, hversion', hid, tool, htool', hof, server, hserver', hat, htenant⟩ :=
    h.policyVersion _ (List.mem_map_of_mem (f := MCPToolPolicy.key) hpolicy)
  obtain rfl := Table.eq_of_key h.versionIds hversion'
    (List.mem_map_of_mem (f := MCPToolVersion.key) hversion) (hid.trans hp)
  obtain rfl := Table.eq_of_key h.toolIds htool' (List.mem_map_of_mem (f := MCPTool.key) htool)
    (hof.trans hv)
  obtain rfl := Table.eq_of_key h.serverIds hserver'
    (List.mem_map_of_mem (f := MCPServer.key) hserver) (hat.trans hs.symm)
  exact htenant

end RegistryDb

/-! ## What a review changes -/

/-- A version after the review of `row`. -/
def versionAfter (row : CatalogRow) (review : ToolPolicyCreate) (version : MCPToolVersion) :
    MCPToolVersion :=
  if version.id = row.version.id then reviewedVersion version review
  else if version.toolId = row.tool.id then { version with status := .superseded }
  else version

/-- A policy after the review of `row`. -/
def policyAfter (db : RegistryDb) (row : CatalogRow) (review : ToolPolicyCreate)
    (policy : MCPToolPolicy) : MCPToolPolicy :=
  if policy.toolVersionId = row.version.id then reviewedPolicy policy review
  else if policy.toolVersionId ∈ siblingIds db row then { policy with status := .disabled }
  else policy

section Review

variable {db : RegistryDb} {row : CatalogRow} {review : ToolPolicyCreate}

theorem mem_siblingIds {id : Uuid} :
    id ∈ siblingIds db row ↔ ∃ version ∈ db.toolVersions, version.id = id ∧
      version.toolId = row.tool.id ∧ version.id ≠ row.version.id := by
  simp only [siblingIds, List.mem_map, List.mem_filter, Bool.and_eq_true, beq_iff_eq,
    bne_iff_ne]
  constructor
  · rintro ⟨version, ⟨hversion, hsibling⟩, rfl⟩
    exact ⟨version, hversion, rfl, hsibling⟩
  · rintro ⟨version, hversion, rfl, hsibling⟩
    exact ⟨version, ⟨hversion, hsibling⟩, rfl⟩

theorem version_not_sibling : row.version.id ∉ siblingIds db row := by
  intro h
  obtain ⟨version, -, hid, -, hne⟩ := mem_siblingIds.mp h
  exact hne hid

theorem applyReview_tools (h : db.layout.WellFormed) (hrow : row ∈ db.catalog) :
    (applyReview row review db).tools =
      Table.update (fun tool ↦ tool.id == row.tool.id) reviewedTool db.tools :=
  Table.replace_eq_update (RegistryDb.toolIds h) (RegistryDb.mem_catalog.mp hrow).1.1 reviewedTool rfl

theorem applyReview_versions (h : db.layout.WellFormed) (hrow : row ∈ db.catalog) :
    (applyReview row review db).toolVersions = db.toolVersions.map (versionAfter row review) := by
  have hversion := (RegistryDb.mem_catalog.mp hrow).1.2.1
  -- the reviewed version itself is not demoted
  have hkept : row.version ∈ Table.update (fun version ↦ (siblingIds db row).contains version.id)
      (fun version ↦ { version with status := .superseded }) db.toolVersions :=
    Table.mem_update.mpr ⟨row.version, hversion, by
      rw [if_neg (by simpa using version_not_sibling)]⟩
  have hids : ((Table.update (fun version ↦ (siblingIds db row).contains version.id)
      (fun version ↦ { version with status := .superseded }) db.toolVersions).map
        MCPToolVersion.id).Nodup := by
    rw [Table.map_update MCPToolVersion.id]
    · exact RegistryDb.versionIds h
    · exact fun _ ↦ rfl
  simp only [applyReview]
  rw [Table.replace_eq_update hids hkept (reviewedVersion · review) rfl]
  simp only [Table.update, List.map_map]
  refine List.map_congr_left fun version hmem ↦ ?_
  have hsibling : (siblingIds db row).contains version.id = true ↔
      version.toolId = row.tool.id ∧ version.id ≠ row.version.id := by
    rw [List.contains_iff_mem, mem_siblingIds]
    constructor
    · rintro ⟨other, hother, hid, hof, hne⟩
      obtain rfl := Table.eq_of_key (RegistryDb.versionIds h) hother hmem hid
      exact ⟨hof, hne⟩
    · rintro ⟨hof, hne⟩
      exact ⟨version, hmem, rfl, hof, hne⟩
  simp only [Function.comp_apply, hsibling, versionAfter]
  by_cases hself : version.id = row.version.id
  · simp [hself]
  · by_cases hof : version.toolId = row.tool.id
    · simp [hself, hof]
    · simp [hself, hof]

theorem applyReview_policies (h : db.layout.WellFormed) (hrow : row ∈ db.catalog) :
    (applyReview row review db).policies = db.policies.map (policyAfter db row review) := by
  obtain ⟨⟨-, -, hpolicy, -⟩, -, hof, -⟩ := RegistryDb.mem_catalog.mp hrow
  have hkept : row.policy ∈ Table.update
      (fun policy ↦ (siblingIds db row).contains policy.toolVersionId)
      (fun policy ↦ { policy with status := .disabled }) db.policies :=
    Table.mem_update.mpr ⟨row.policy, hpolicy, by
      rw [if_neg (by simpa [hof] using version_not_sibling)]⟩
  have hids : ((Table.update (fun policy ↦ (siblingIds db row).contains policy.toolVersionId)
      (fun policy ↦ { policy with status := .disabled }) db.policies).map
        MCPToolPolicy.id).Nodup := by
    rw [Table.map_update MCPToolPolicy.id]
    · exact RegistryDb.policyIds h
    · exact fun _ ↦ rfl
  simp only [applyReview]
  rw [Table.replace_eq_update hids hkept (reviewedPolicy · review) rfl]
  simp only [Table.update, List.map_map]
  refine List.map_congr_left fun policy hmem ↦ ?_
  -- the policy of the reviewed version is the reviewed policy
  have hself : policy.id = row.policy.id ↔ policy.toolVersionId = row.version.id := by
    constructor
    · intro hid
      rw [Table.eq_of_key (RegistryDb.policyIds h) hmem hpolicy hid, hof]
    · intro hversion
      rw [Table.eq_of_key (RegistryDb.policyVersions h) hmem hpolicy (hversion.trans hof.symm)]
  simp only [Function.comp_apply, policyAfter, List.contains_iff_mem]
  by_cases hversion : policy.toolVersionId = row.version.id
  · have hunchanged : row.version.id ∉ siblingIds db row := version_not_sibling
    simp [hversion, hunchanged, hself.mpr hversion]
  · have hother : policy.id ≠ row.policy.id := fun hid ↦ hversion (hself.mp hid)
    by_cases hsibling : policy.toolVersionId ∈ siblingIds db row
    · simp [hversion, hother, hsibling]
    · simp [hversion, hother, hsibling]

@[simp] theorem versionAfter_key (version : MCPToolVersion) :
    (versionAfter row review version).key = version.key := by
  unfold versionAfter
  split
  · rfl
  · split <;> rfl

@[simp] theorem policyAfter_key (policy : MCPToolPolicy) :
    (policyAfter db row review policy).key = policy.key := by
  unfold policyAfter
  split
  · rfl
  · split <;> rfl

theorem versionAfter_ids (version : MCPToolVersion) :
    (versionAfter row review version).id = version.id ∧
      (versionAfter row review version).toolId = version.toolId :=
  ⟨congrArg VersionKey.id (versionAfter_key version),
    congrArg VersionKey.toolId (versionAfter_key version)⟩

/-- An active version after a review is the reviewed one or an untouched version of another tool. -/
theorem versionAfter_active (version : MCPToolVersion) :
    (versionAfter row review version).status = .active ↔
      version.id = row.version.id ∨ version.toolId ≠ row.tool.id ∧ version.status = .active := by
  unfold versionAfter
  by_cases hself : version.id = row.version.id
  · simp [hself, reviewedVersion]
  · by_cases htool : version.toolId = row.tool.id
    · simp [hself, htool]
    · simp [hself, htool]

/-- A policy after a review is active exactly when the version that it belongs to is. -/
theorem policyAfter_active (h : (db.toolVersions.map MCPToolVersion.id).Nodup)
    {policy : MCPToolPolicy} {version : MCPToolVersion} (hversion : version ∈ db.toolVersions)
    (hbelongs : policy.toolVersionId = version.id)
    (hbefore : policy.status = .active ↔ version.status = .active) :
    (policyAfter db row review policy).status = .active ↔
      (versionAfter row review version).status = .active := by
  rw [versionAfter_active]
  unfold policyAfter
  by_cases hself : policy.toolVersionId = row.version.id
  · simp [hself, reviewedPolicy, ← hbelongs]
  · by_cases hsibling : policy.toolVersionId ∈ siblingIds db row
    · obtain ⟨sibling, hmem, hid, htools, -⟩ := mem_siblingIds.mp hsibling
      obtain rfl := Table.eq_of_key h hmem hversion (hid.trans hbelongs)
      simp [hself, hsibling, htools, ← hbelongs]
    · have hother : version.toolId ≠ row.tool.id := fun htools ↦
        hsibling (mem_siblingIds.mpr ⟨version, hversion, hbelongs.symm, htools, hbelongs ▸ hself⟩)
      simp only [hself, hsibling, if_false, hother, ne_eq, not_false_eq_true, true_and, ← hbelongs,
        false_or]
      exact hbefore

theorem applyReview_layout (h : db.layout.WellFormed) (hrow : row ∈ db.catalog) :
    (applyReview row review db).layout = db.layout := by
  simp only [RegistryDb.layout, applyReview_tools h hrow, applyReview_versions h hrow,
    applyReview_policies h hrow, List.map_map, Layout.mk.injEq]
  refine ⟨rfl, Table.map_update MCPTool.key ?_ _, ?_, ?_⟩
  · exact fun _ ↦ rfl
  · exact List.map_congr_left fun version _ ↦ versionAfter_key version
  · exact List.map_congr_left fun policy _ ↦ policyAfter_key policy

end Review

/-! ## The invariant -/

/-- The statuses of tools, versions and policies. -/
structure StatusesAgree (db : RegistryDb) : Prop where
  oneActive : ∀ first ∈ db.toolVersions, ∀ second ∈ db.toolVersions, first.status = .active →
    second.status = .active → first.toolId = second.toolId → first.id = second.id
  policyActive : ∀ policy ∈ db.policies, ∀ version ∈ db.toolVersions,
    policy.toolVersionId = version.id → (policy.status = .active ↔ version.status = .active)
  toolActive : ∀ version ∈ db.toolVersions, ∀ tool ∈ db.tools, version.toolId = tool.id →
    version.status = .active → tool.status = .active

structure RegistryInvariant (db : RegistryDb) : Prop where
  layout : db.layout.WellFormed
  statuses : StatusesAgree db

variable {sha256 : String → String} {op : RegistryOp} {db after : RegistryDb}

/-- A valid label has no dot. -/
theorem label_dotless (label : Label) : '.' ∉ label.text.toList := by
  have hvalid := label.valid
  have hstart : labelStart '.' = false := by decide
  have hchar : labelChar '.' = false := by decide
  generalize label.text.toList = chars at hvalid
  cases chars with
  | nil => simp
  | cons first rest =>
    simp only [labelPattern, Bool.and_eq_true, List.all_eq_true] at hvalid
    intro hdot
    rcases List.mem_cons.mp hdot with rfl | hrest
    · rw [hstart] at hvalid
      exact absurd hvalid.1.1 (by simp)
    · have := hvalid.1.2 '.' hrest
      rw [hchar] at this
      cases this

theorem RegistryMove.layout (hmove : RegistryMove sha256 op db after) (h : db.layout.WellFormed) :
    after.layout.WellFormed := by
  cases hmove with
  | register id tenantId request hop hlabel hfresh =>
    have hadd := h.addServer (serverRow id tenantId request).key ?_ ?_
      (label_dotless request.label)
    · simpa only [RegistryDb.layout, List.map_append, List.map_singleton] using hadd
    · intro old hold
      obtain ⟨server, hserver, rfl⟩ := List.mem_map.mp hold
      exact hfresh server hserver
    · intro old hold
      obtain ⟨server, hserver, rfl⟩ := List.mem_map.mp hold
      exact hlabel server hserver
  | observe rows => exact h
  | addTool server discovered ids hserver hfresh =>
    have hadd := h.addTool (toolRow server discovered ids).key
      (List.mem_map_of_mem (f := MCPServer.key) hserver) rfl rfl ?_
    · simpa only [RegistryDb.layout, List.map_append, List.map_singleton] using hadd
    · intro old hold
      obtain ⟨tool, htool, rfl⟩ := List.mem_map.mp hold
      exact hfresh tool htool
  | addVersion server tool discovered ids hserver htool hoffers hversion hpolicy =>
    have hadd := h.addVersion (versionRow sha256 tool.id discovered ids).key
      (policyRow server ids).key (List.mem_map_of_mem (f := MCPServer.key) hserver)
      (List.mem_map_of_mem (f := MCPTool.key) htool) hoffers rfl rfl rfl ?_ ?_
    · simpa only [RegistryDb.layout, List.map_append, List.map_singleton] using hadd
    · intro old hold
      obtain ⟨version, hversion', rfl⟩ := List.mem_map.mp hold
      exact hversion version hversion'
    · intro old hold
      obtain ⟨policy, hpolicy', rfl⟩ := List.mem_map.mp hold
      exact hpolicy policy hpolicy'
  | touchServer server changed hserver hid htenant hlabel =>
    have hkey : changed.key = server.key := by
      rw [MCPServer.key, MCPServer.key, hid, htenant, hlabel]
    have hcolumn := Table.map_replace (RegistryDb.serverIds h) hserver hid hkey
    simp only [RegistryDb.layout, hcolumn]
    exact h
  | review row tenantId review hop hrow hactive =>
    rw [applyReview_layout h hrow]
    exact h

/-- After a review the statuses agree again. -/
theorem StatusesAgree.review (h : StatusesAgree db) (hlayout : db.layout.WellFormed)
    {row : CatalogRow} (hrow : row ∈ db.catalog) (review : ToolPolicyCreate) :
    StatusesAgree (applyReview row review db) := by
  obtain ⟨⟨-, hversion, -, -⟩, hof, -, -⟩ := RegistryDb.mem_catalog.mp hrow
  have hids := RegistryDb.versionIds hlayout
  have hsame : ∀ version ∈ db.toolVersions, version.id = row.version.id →
      version.toolId = row.tool.id := by
    intro version hmem hid
    rw [Table.eq_of_key hids hmem hversion hid, hof]
  constructor
  case oneActive =>
    intro first hfirst second hsecond hone htwo htools
    rw [applyReview_versions hlayout hrow] at hfirst hsecond
    obtain ⟨old₁, hold₁, rfl⟩ := List.mem_map.mp hfirst
    obtain ⟨old₂, hold₂, rfl⟩ := List.mem_map.mp hsecond
    rw [versionAfter_active] at hone htwo
    rw [(versionAfter_ids old₁).2, (versionAfter_ids old₂).2] at htools
    rw [(versionAfter_ids old₁).1, (versionAfter_ids old₂).1]
    rcases hone with hself₁ | ⟨hother₁, hactive₁⟩ <;> rcases htwo with hself₂ | ⟨hother₂, hactive₂⟩
    · rw [hself₁, hself₂]
    · exact absurd (htools.symm.trans (hsame old₁ hold₁ hself₁)) hother₂
    · exact absurd (htools.trans (hsame old₂ hold₂ hself₂)) hother₁
    · exact h.oneActive old₁ hold₁ old₂ hold₂ hactive₁ hactive₂ htools
  case policyActive =>
    intro policy hpolicy version hversion' hbelongs
    rw [applyReview_policies hlayout hrow] at hpolicy
    rw [applyReview_versions hlayout hrow] at hversion'
    obtain ⟨old, hold, rfl⟩ := List.mem_map.mp hpolicy
    obtain ⟨old', hold', rfl⟩ := List.mem_map.mp hversion'
    have hbefore : old.toolVersionId = old'.id := by
      rw [(versionAfter_ids old').1] at hbelongs
      exact (congrArg PolicyKey.versionId (policyAfter_key old)).symm.trans hbelongs
    exact policyAfter_active hids hold' hbefore (h.policyActive old hold old' hold' hbefore)
  case toolActive =>
    intro version hversion' tool htool hbelongs hstatus
    rw [applyReview_versions hlayout hrow] at hversion'
    rw [applyReview_tools hlayout hrow] at htool
    obtain ⟨old, hold, rfl⟩ := List.mem_map.mp hversion'
    obtain ⟨old', hold', rfl⟩ := Table.mem_update.mp htool
    rw [versionAfter_active] at hstatus
    rw [(versionAfter_ids old).2] at hbelongs
    split
    · rfl
    next hother =>
      rw [if_neg hother] at hbelongs
      rcases hstatus with hself | ⟨-, hactive⟩
      · rw [hsame old hold hself] at hbelongs
        simp [← hbelongs] at hother
      · exact h.toolActive old hold old' hold' hbelongs hactive

theorem RegistryMove.statuses (hmove : RegistryMove sha256 op db after)
    (hlayout : db.layout.WellFormed) (h : StatusesAgree db) : StatusesAgree after := by
  cases hmove with
  | register => exact ⟨h.oneActive, h.policyActive, h.toolActive⟩
  | observe => exact ⟨h.oneActive, h.policyActive, h.toolActive⟩
  | touchServer => exact ⟨h.oneActive, h.policyActive, h.toolActive⟩
  | review row tenantId review hop hrow hactive => exact h.review hlayout hrow review
  | addTool server discovered ids hserver hfresh =>
    refine ⟨h.oneActive, h.policyActive, fun version hversion tool htool hbelongs hactive ↦ ?_⟩
    rcases List.mem_append.mp htool with hold | hnew
    · exact h.toolActive version hversion tool hold hbelongs hactive
    · -- the new tool has no version yet
      obtain ⟨owner, howner, hid⟩ := hlayout.versionTool version.key (List.mem_map_of_mem hversion)
      obtain ⟨old, hold, rfl⟩ := List.mem_map.mp howner
      rw [List.mem_singleton.mp hnew] at hbelongs
      exact absurd (hbelongs.symm.trans hid.symm) (hfresh old hold).1
  | addVersion server tool discovered ids hserver htool hoffers hversion hpolicy =>
    refine ⟨fun first hfirst second hsecond hone htwo htools ↦ ?_,
      fun policy hpolicy' version hversion' hbelongs ↦ ?_,
      fun version hversion' tool htool hbelongs hactive ↦ ?_⟩
    · rcases List.mem_append.mp hfirst with hold₁ | hnew₁ <;>
        rcases List.mem_append.mp hsecond with hold₂ | hnew₂
      · exact h.oneActive first hold₁ second hold₂ hone htwo htools
      · rw [List.mem_singleton.mp hnew₂] at htwo
        cases htwo
      · rw [List.mem_singleton.mp hnew₁] at hone
        cases hone
      · rw [List.mem_singleton.mp hnew₁, List.mem_singleton.mp hnew₂]
    · rcases List.mem_append.mp hpolicy' with hold₁ | hnew₁ <;>
        rcases List.mem_append.mp hversion' with hold₂ | hnew₂
      · exact h.policyActive policy hold₁ version hold₂ hbelongs
      · -- an older policy belongs to an older version
        obtain ⟨key, hkey, hid, -⟩ := hlayout.policyVersion policy.key (List.mem_map_of_mem hold₁)
        obtain ⟨old, hold, rfl⟩ := List.mem_map.mp hkey
        rw [List.mem_singleton.mp hnew₂] at hbelongs
        exact absurd (hbelongs.symm.trans hid.symm) (hversion old hold)
      · rw [List.mem_singleton.mp hnew₁] at hbelongs
        exact absurd hbelongs (hversion version hold₂)
      · rw [List.mem_singleton.mp hnew₁, List.mem_singleton.mp hnew₂]
        simp [policyRow, versionRow]
    · rcases List.mem_append.mp hversion' with hold | hnew
      · exact h.toolActive version hold tool htool hbelongs hactive
      · rw [List.mem_singleton.mp hnew] at hactive
        cases hactive

theorem RegistryMove.invariant (hmove : RegistryMove sha256 op db after)
    (h : RegistryInvariant db) : RegistryInvariant after :=
  ⟨hmove.layout h.layout, hmove.statuses h.layout h.statuses⟩

theorem registryInvariant_step (sha256 : String → String) (db : RegistryDb) (op : RegistryOp)
    (h : RegistryInvariant db) : RegistryInvariant ((toolRegistry sha256).step db op).2 :=
  registry_step_invariant RegistryInvariant db op (fun _ _ hmove ↦ hmove.invariant) h

end Xyena.Tools
