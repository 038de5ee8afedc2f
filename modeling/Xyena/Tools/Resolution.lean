import Xyena.Tools.RegistryInvariant

/-!
# Resolution of a tool name

The row that `ToolBroker._resolve` picks is unique in every registry that the
registry endpoints can reach, be it from empty tables or from the rows that the
migration installs: a canonical name begins with the label of its server, labels
have no dot, and a tool has at most one active version.
-/

namespace Xyena.Tools

open Xyena.Foundation Xyena.Contracts

/-! ## The installed registry -/

/-- The starting points of a registry. -/
inductive Installation where
  | blank
  | migrated

def coreServer : MCPServer where
  id := 0x10000000000040008000000000000001
  tenantId := none
  label := "xyena"
  description := "Domain-neutral first-party Xyena platform tools."
  transport := .inProcess
  endpoint := "http://mcp-server:8081/mcp"
  authType := "SERVICE_TOKEN"
  secretRef := none
  trustTier := "PLATFORM"
  status := .active
  allowedEgressHosts := []
  timeoutSeconds := 30
  maxRetries := 2

def coreTool (id : Uuid) (name description : String) : MCPTool where
  id := id
  serverId := coreServer.id
  canonicalName := name
  originalName := name
  description := some description
  status := .active

def coreOutputSchema : Dict := [("type", .str "object")]

def coreVersion (sha256 : String → String) (id toolId : Uuid) (inputSchema : Dict) :
    MCPToolVersion where
  id := id
  toolId := toolId
  schemaHash := sha256 (Json.dumps true
    (.obj [("input", .obj inputSchema), ("output", .obj coreOutputSchema)]))
  inputSchema := inputSchema
  outputSchema := coreOutputSchema
  riskClass := .read
  sideEffects := false
  idempotent := true
  parallelAllowed := true
  hostedMcpAllowed := true
  status := .active

def corePolicy (id toolVersionId : Uuid) : MCPToolPolicy where
  id := id
  toolVersionId := toolVersionId
  tenantId := none
  allowedAgents := ["xyena-supervisor"]
  approvalMode := .never
  timeoutSeconds := 10
  maximumResultBytes := 32768
  status := .active

def describeVersionId : Uuid := 0x10000000000040008000000000000003

def riskVersionId : Uuid := 0x10000000000040008000000000000006

def describeInput : Dict :=
  [("type", .str "object"), ("properties", .obj []), ("additionalProperties", .bool false)]

def riskInput : Dict :=
  [("type", .str "object"),
    ("properties", .obj [("risk_class", .obj [("type", .str "string"),
      ("enum", .strings ["READ", "SENSITIVE_READ", "MUTATE", "PRIVILEGED"])])]),
    ("additionalProperties", .bool false)]

/-- The rows of `_seed_core_tools` in the migration. -/
def seedCoreTools (sha256 : String → String) : RegistryDb where
  servers := [coreServer]
  tools :=
    [coreTool 0x10000000000040008000000000000002 "xyena.platform.describe"
        "Describe Xyena's domain-neutral platform boundary.",
      coreTool 0x10000000000040008000000000000005 "xyena.tools.explain_risk"
        "Explain Guardian tool risk classes."]
  toolVersions :=
    [coreVersion sha256 describeVersionId 0x10000000000040008000000000000002 describeInput,
      coreVersion sha256 riskVersionId 0x10000000000040008000000000000005 riskInput]
  policies :=
    [corePolicy 0x10000000000040008000000000000004 describeVersionId,
      corePolicy 0x10000000000040008000000000000007 riskVersionId]

namespace Installation

def registry (sha256 : String → String) : Installation → RegistryDb
  | .blank => {}
  | .migrated => seedCoreTools sha256

/-- The versions that are installed as active. -/
def seeded : Installation → List Uuid
  | .blank => []
  | .migrated => [describeVersionId, riskVersionId]

theorem layout_registry (sha256 : String → String) (installation : Installation) :
    (installation.registry sha256).layout.WellFormed := by
  cases installation with
  | blank => constructor <;> simp [registry, RegistryDb.layout]
  | migrated =>
    have hdigests : (seedCoreTools sha256).layout = (seedCoreTools id).layout := by
      simp only [RegistryDb.layout, seedCoreTools, List.map_cons, List.map_nil, MCPToolVersion.key,
        coreVersion]
    rw [registry, hdigests]
    have hnames : ∀ tool ∈ (seedCoreTools id).layout.tools, tool.serverId = coreServer.id ∧
        (tool.canonicalName = "xyena" ++ "." ++ "platform.describe" ∨
          tool.canonicalName = "xyena" ++ "." ++ "tools.explain_risk") := by decide
    constructor
    case toolServer =>
      intro tool htool
      obtain ⟨hserver, hname⟩ := hnames tool htool
      refine ⟨coreServer.key, List.mem_singleton.mpr rfl, hserver.symm, ?_⟩
      exact hname.elim (fun h ↦ ⟨_, h⟩) fun h ↦ ⟨_, h⟩
    all_goals decide

theorem statuses_registry (sha256 : String → String) (installation : Installation) :
    StatusesAgree (installation.registry sha256) := by
  cases installation with
  | blank => constructor <;> simp [registry]
  | migrated =>
    have hversions : ∀ version ∈ (seedCoreTools sha256).toolVersions, version.status = .active := by
      simp [seedCoreTools, coreVersion]
    have htools : ∀ tool ∈ (seedCoreTools sha256).tools, tool.status = .active := by
      simp [seedCoreTools, coreTool]
    have hpolicies : ∀ policy ∈ (seedCoreTools sha256).policies, policy.status = .active := by
      simp [seedCoreTools, corePolicy]
    refine ⟨?_, fun policy hpolicy version hversion _ ↦ ?_,
      fun version _ tool htool _ _ ↦ htools tool htool⟩
    · simp [registry, seedCoreTools, coreVersion, describeVersionId, riskVersionId]
    · simp [hpolicies policy hpolicy, hversions version hversion]

theorem invariant_registry (sha256 : String → String) (installation : Installation) :
    RegistryInvariant (installation.registry sha256) :=
  ⟨layout_registry sha256 installation, statuses_registry sha256 installation⟩

end Installation

/-! ## Uniqueness of the resolved row -/

section Unique

variable {db : RegistryDb}

/-- The label of a canonical name ends at its first dot. -/
theorem label_of_canonicalName {first second name₁ name₂ : String} (hfirst : '.' ∉ first.toList)
    (hsecond : '.' ∉ second.toList) (h : first ++ "." ++ name₁ = second ++ "." ++ name₂) :
    first = second := by
  have hstarts (label name : String) (hdotless : '.' ∉ label.toList) :
      ((label ++ "." ++ name).toList.takeWhile (· != '.')) = label.toList := by
    have hall : ∀ char ∈ label.toList, (char != '.') = true := by
      intro char hchar
      rw [bne_iff_ne]
      rintro rfl
      exact hdotless hchar
    rw [String.toList_append, String.toList_append, List.append_assoc,
      List.takeWhile_append_of_pos hall]
    simp
  have htake := congrArg (fun text ↦ text.toList.takeWhile (· != '.')) h
  simp only [hstarts first name₁ hfirst, hstarts second name₂ hsecond] at htake
  exact String.toList_inj.mp htake

/-- Two candidates for one name whose policies belong to the same tenant are one row. -/
theorem candidates_unique (h : RegistryInvariant db) {tenantId : Uuid} {name : String}
    {first second : CatalogRow} (hfirst : first ∈ candidates db tenantId name)
    (hsecond : second ∈ candidates db tenantId name)
    (htenant : first.policy.tenantId = second.policy.tenantId) : first = second := by
  simp only [candidates, List.mem_filter, Bool.and_eq_true, beq_iff_eq, CatalogRow.allActive]
    at hfirst hsecond
  obtain ⟨hrow₁, ⟨⟨hname₁, ⟨⟨-, hactive₁⟩, -⟩, -⟩, -⟩, -⟩ := hfirst
  obtain ⟨hrow₂, ⟨⟨hname₂, ⟨⟨-, hactive₂⟩, -⟩, -⟩, -⟩, -⟩ := hsecond
  have hlayout := h.layout
  have hsame : first.server.tenantId = second.server.tenantId := by
    rw [← RegistryDb.policy_tenant hlayout hrow₁, ← RegistryDb.policy_tenant hlayout hrow₂, htenant]
  obtain ⟨⟨htool₁, hversion₁, hpolicy₁, hserver₁⟩, hof₁, hfor₁, hat₁⟩ :=
    RegistryDb.mem_catalog.mp hrow₁
  obtain ⟨⟨htool₂, hversion₂, hpolicy₂, hserver₂⟩, hof₂, hfor₂, hat₂⟩ :=
    RegistryDb.mem_catalog.mp hrow₂
  have hkey₁ := List.mem_map_of_mem (f := MCPServer.key) hserver₁
  have hkey₂ := List.mem_map_of_mem (f := MCPServer.key) hserver₂
  have htoolKey₁ := List.mem_map_of_mem (f := MCPTool.key) htool₁
  have htoolKey₂ := List.mem_map_of_mem (f := MCPTool.key) htool₂
  -- the common name begins with the labels of both servers
  have hlabel : first.server.label = second.server.label := by
    obtain ⟨owner₁, howner₁, hid₁, name₁, hstarts₁⟩ := hlayout.toolServer _ htoolKey₁
    obtain ⟨owner₂, howner₂, hid₂, name₂, hstarts₂⟩ := hlayout.toolServer _ htoolKey₂
    obtain rfl := Table.eq_of_key hlayout.serverIds howner₁ hkey₁ (hid₁.trans hat₁.symm)
    obtain rfl := Table.eq_of_key hlayout.serverIds howner₂ hkey₂ (hid₂.trans hat₂.symm)
    exact label_of_canonicalName (hlayout.dotless _ hkey₁) (hlayout.dotless _ hkey₂)
      (hstarts₁.symm.trans ((hname₁.trans hname₂.symm).trans hstarts₂))
  have hserver : first.server = second.server := by
    have hkeys := Table.eq_of_key hlayout.labels hkey₁ hkey₂ (Prod.ext hsame hlabel)
    exact Table.eq_of_key (RegistryDb.serverIds hlayout) hserver₁ hserver₂
      (congrArg ServerKey.id hkeys)
  have htool : first.tool = second.tool := by
    have hat : first.tool.serverId = second.tool.serverId := by rw [← hat₁, ← hat₂, hserver]
    have hkeys := Table.eq_of_key hlayout.names htoolKey₁ htoolKey₂
      (Prod.ext hat (hname₁.trans hname₂.symm))
    exact Table.eq_of_key (RegistryDb.toolIds hlayout) htool₁ htool₂ (congrArg ToolKey.id hkeys)
  have hversion : first.version = second.version := by
    have hid := h.statuses.oneActive _ hversion₁ _ hversion₂ hactive₁ hactive₂
      (by rw [hof₁, hof₂, htool])
    exact Table.eq_of_key (RegistryDb.versionIds hlayout) hversion₁ hversion₂ hid
  have hpolicy : first.policy = second.policy :=
    Table.eq_of_key (RegistryDb.policyVersions hlayout) hpolicy₁ hpolicy₂
      (by rw [hfor₁, hfor₂, hversion])
  cases first
  cases second
  simp only at hserver htool hversion hpolicy
  rw [hserver, htool, hversion, hpolicy]

/-- No row of the join occurs twice. -/
theorem catalog_nodup (h : db.layout.WellFormed) : db.catalog.Nodup := by
  refine List.nodup_flatMap.mpr ⟨fun tool _ ↦ List.nodup_flatMap.mpr ⟨fun version _ ↦
    List.nodup_flatMap.mpr ⟨fun policy _ ↦ ?_, ?_⟩, ?_⟩, ?_⟩
  · refine List.Nodup.map ?_ ((List.Nodup.of_map _ (RegistryDb.serverIds h)).filter _)
    intro first second hsame
    exact congrArg CatalogRow.server hsame
  · refine ((List.Nodup.of_map _ (RegistryDb.policyIds h)).filter _).imp ?_
    intro first second hne row hrow₁ hrow₂
    obtain ⟨_, -, rfl⟩ := List.mem_map.mp hrow₁
    obtain ⟨_, -, hsame⟩ := List.mem_map.mp hrow₂
    exact hne (congrArg CatalogRow.policy hsame).symm
  · refine ((List.Nodup.of_map _ (RegistryDb.versionIds h)).filter _).imp ?_
    intro first second hne row hrow₁ hrow₂
    simp only [List.mem_flatMap, List.mem_map] at hrow₁ hrow₂
    obtain ⟨_, -, _, -, rfl⟩ := hrow₁
    obtain ⟨_, -, _, -, hsame⟩ := hrow₂
    exact hne (congrArg CatalogRow.version hsame).symm
  · refine (List.Nodup.of_map _ (RegistryDb.toolIds h)).imp ?_
    intro first second hne row hrow₁ hrow₂
    simp only [List.mem_flatMap, List.mem_map] at hrow₁ hrow₂
    obtain ⟨_, -, _, -, _, -, rfl⟩ := hrow₁
    obtain ⟨_, -, _, -, _, -, hsame⟩ := hrow₂
    exact hne (congrArg CatalogRow.tool hsame).symm

end Unique

/-- The candidates whose policy belongs to `owner`. -/
def candidatesOf (db : RegistryDb) (tenantId : Uuid) (name : String) (owner : Option Uuid) :
    List CatalogRow :=
  (candidates db tenantId name).filter fun row ↦ row.policy.tenantId == owner

theorem mem_candidatesOf {db : RegistryDb} {tenantId : Uuid} {name : String} {owner : Option Uuid}
    {row : CatalogRow} : row ∈ candidatesOf db tenantId name owner ↔
      row ∈ candidates db tenantId name ∧ row.policy.tenantId = owner := by
  simp only [candidatesOf, List.mem_filter, beq_iff_eq]

theorem length_candidatesOf {db : RegistryDb} (h : RegistryInvariant db) (tenantId : Uuid)
    (name : String) (owner : Option Uuid) : (candidatesOf db tenantId name owner).length ≤ 1 := by
  have hnodup : (candidatesOf db tenantId name owner).Nodup :=
    ((catalog_nodup h.layout).filter _).filter _
  match hrows : candidatesOf db tenantId name owner with
  | [] => simp
  | [_] => simp
  | first :: second :: rest =>
    have hfirst : first ∈ candidatesOf db tenantId name owner := by rw [hrows]; simp
    have hsecond : second ∈ candidatesOf db tenantId name owner := by rw [hrows]; simp
    obtain ⟨hfirst, howner₁⟩ := mem_candidatesOf.mp hfirst
    obtain ⟨hsecond, howner₂⟩ := mem_candidatesOf.mp hsecond
    have hsame := candidates_unique h hfirst hsecond (howner₁.trans howner₂.symm)
    rw [hrows, hsame] at hnodup
    simp at hnodup

instance : Std.Total CatalogRow.Before where
  total first second := by
    unfold CatalogRow.Before
    rcases first.policy.tenantId with _ | first <;> rcases second.policy.tenantId with _ | second <;>
      simp [tenantFirst, BitVec.le_total]

instance : IsTrans CatalogRow CatalogRow.Before where
  trans first second third := by
    unfold CatalogRow.Before
    rcases first.policy.tenantId with _ | first <;> rcases second.policy.tenantId with _ | second <;>
      rcases third.policy.tenantId with _ | third <;> simp [tenantFirst]
    exact fun h₁ h₂ ↦ BitVec.le_trans h₂ h₁

/-- The first row comes before every other one in the order of tenants. -/
theorem firstByTenant_first {rows : List CatalogRow} {row other : CatalogRow}
    (h : firstByTenant rows = some row) (hother : other ∈ rows) : row.Before other := by
  have hsorted := List.pairwise_insertionSort CatalogRow.Before rows
  have hmem := (List.mem_insertionSort CatalogRow.Before).mpr hother
  unfold firstByTenant at h
  generalize rows.insertionSort CatalogRow.Before = sorted at h hsorted hmem
  cases sorted with
  | nil => cases h
  | cons head tail =>
    obtain rfl := Option.some.inj h
    rcases List.mem_cons.mp hmem with rfl | htail
    · exact or_self_iff.mp (total_of CatalogRow.Before other other)
    · exact List.rel_of_pairwise_cons hsorted htail

/-- The tenant's own row is resolved before a global one, and either is unique. -/
theorem resolve_candidate {db : RegistryDb} (h : RegistryInvariant db) {tenantId : Uuid}
    {name : String} {row : CatalogRow} (hrow : row ∈ candidates db tenantId name)
    (hfirst : row.policy.tenantId = some tenantId ∨
      candidatesOf db tenantId name (some tenantId) = []) :
    resolve db tenantId name = some row := by
  cases hresolve : resolve db tenantId name with
  | none =>
    rw [resolve, firstByTenant_eq_none] at hresolve
    rw [hresolve] at hrow
    cases hrow
  | some chosen =>
    have hchosen := firstByTenant_mem hresolve
    have hbefore := firstByTenant_first hresolve hrow
    have howner (other : CatalogRow) (hother : other ∈ candidates db tenantId name) :
        other.policy.tenantId = some tenantId ∨ other.policy.tenantId = none := by
      simp only [candidates, List.mem_filter, Bool.and_eq_true, visible, Bool.or_eq_true,
        beq_iff_eq] at hother
      exact hother.2.2
    have hsame : chosen.policy.tenantId = row.policy.tenantId := by
      rcases hfirst with hown | hnone
      · rcases howner chosen hchosen with hchosen' | hglobal
        · rw [hchosen', hown]
        · rw [CatalogRow.Before, hglobal, hown] at hbefore
          cases hbefore
      · have hforeign (other : CatalogRow) (hother : other ∈ candidates db tenantId name) :
            other.policy.tenantId = none := by
          refine (howner other hother).resolve_left fun hown ↦ ?_
          have hmem := mem_candidatesOf.mpr ⟨hother, hown⟩
          rw [hnone] at hmem
          cases hmem
        rw [hforeign chosen hchosen, hforeign row hrow]
    rw [candidates_unique h hchosen hrow hsame]

/-! ## Runs -/

variable {sha256 : String → String} {op : RegistryOp} {db after : RegistryDb}

/-- A review named the version. -/
def RegistryOp.Reviews (op : RegistryOp) (toolVersionId : Uuid) : Prop :=
  ∃ tenantId review, op = .reviewToolVersion toolVersionId tenantId review

/-- Every active version was named by a review among `ops` or is listed as installed. -/
def ActiveReviewed (ops : List RegistryOp) (seeded : List Uuid) (db : RegistryDb) : Prop :=
  ∀ version ∈ db.toolVersions, version.status = .active →
    (∃ op ∈ ops, op.Reviews version.id) ∨ version.id ∈ seeded

theorem RegistryMove.activeReviewed (hmove : RegistryMove sha256 op db after)
    (hlayout : db.layout.WellFormed) {ops : List RegistryOp} {seeded : List Uuid} (hop : op ∈ ops)
    (h : ActiveReviewed ops seeded db) : ActiveReviewed ops seeded after := by
  cases hmove with
  | register => exact h
  | observe => exact h
  | addTool => exact h
  | touchServer => exact h
  | addVersion server tool discovered ids =>
    intro version hversion hactive
    rcases List.mem_append.mp hversion with hold | hnew
    · exact h version hold hactive
    · rw [List.mem_singleton.mp hnew] at hactive
      cases hactive
  | review row tenantId review hnamed hrow =>
    intro version hversion hactive
    rw [applyReview_versions hlayout hrow] at hversion
    obtain ⟨old, hold, rfl⟩ := List.mem_map.mp hversion
    have hid : (versionAfter row review old).id = old.id :=
      congrArg VersionKey.id (versionAfter_key old)
    rw [hid]
    by_cases hself : old.id = row.version.id
    · exact Or.inl ⟨op, hop, tenantId, review, hself ▸ hnamed⟩
    · refine h old hold ?_
      simp only [versionAfter, hself, if_false] at hactive
      split at hactive
      · cases hactive
      · exact hactive

/-- A call that is not a review of a tool version rewrites no version and no policy. -/
theorem RegistryMove.keepsVersions (hmove : RegistryMove sha256 op db after)
    (hop : ∀ toolVersionId, ¬ op.Reviews toolVersionId) :
    db.toolVersions ⊆ after.toolVersions ∧ db.policies ⊆ after.policies := by
  cases hmove with
  | register => exact ⟨List.Subset.refl _, List.Subset.refl _⟩
  | observe => exact ⟨List.Subset.refl _, List.Subset.refl _⟩
  | addTool => exact ⟨List.Subset.refl _, List.Subset.refl _⟩
  | touchServer => exact ⟨List.Subset.refl _, List.Subset.refl _⟩
  | addVersion => exact ⟨List.subset_append_left _ _, List.subset_append_left _ _⟩
  | review row tenantId review hnamed => exact absurd ⟨tenantId, review, hnamed⟩ (hop row.version.id)

theorem step_keepsVersions (sha256 : String → String) (db : RegistryDb) (op : RegistryOp)
    (hop : ∀ toolVersionId, ¬ op.Reviews toolVersionId) :
    db.toolVersions ⊆ ((toolRegistry sha256).step db op).2.toolVersions ∧
      db.policies ⊆ ((toolRegistry sha256).step db op).2.policies :=
  registry_step_invariant
    (fun db' ↦ db.toolVersions ⊆ db'.toolVersions ∧ db.policies ⊆ db'.policies) db op
    (fun _ _ hmove h ↦ ⟨List.Subset.trans h.1 (hmove.keepsVersions hop).1,
      List.Subset.trans h.2 (hmove.keepsVersions hop).2⟩)
    ⟨List.Subset.refl _, List.Subset.refl _⟩

theorem registry_run (sha256 : String → String) (installation : Installation)
    (ops : List RegistryOp) :
    RegistryInvariant ((toolRegistry sha256).run (installation.registry sha256) ops) ∧
      ActiveReviewed ops installation.seeded
        ((toolRegistry sha256).run (installation.registry sha256) ops) := by
  have hstart : ActiveReviewed [] installation.seeded (installation.registry sha256) := by
    cases installation with
    | blank => simp [ActiveReviewed, Installation.registry]
    | migrated =>
      simp [ActiveReviewed, Installation.registry, Installation.seeded, seedCoreTools, coreVersion]
  have hrun := (toolRegistry sha256).history_invariant_all
    (fun history db ↦ RegistryInvariant db ∧
      ActiveReviewed (history.map Entry.input) installation.seeded db)
    ⟨installation.invariant_registry sha256, hstart⟩ ?_ ops
  · rwa [Machine.map_input_log] at hrun
  · rintro history db op ⟨hinv, hreviewed⟩
    rw [List.map_append, List.map_singleton]
    have hlast : op ∈ history.map Entry.input ++ [op] :=
      List.mem_append_right _ (List.mem_singleton.mpr rfl)
    have hmore : ActiveReviewed (history.map Entry.input ++ [op]) installation.seeded db := by
      intro version hversion hactive
      refine (hreviewed version hversion hactive).imp_left ?_
      rintro ⟨earlier, hearlier, hnamed⟩
      exact ⟨earlier, List.mem_append_left _ hearlier, hnamed⟩
    exact registry_step_invariant (fun db' ↦ RegistryInvariant db' ∧
        ActiveReviewed (history.map Entry.input ++ [op]) installation.seeded db') db op
      (fun before after hmove h ↦
        ⟨hmove.invariant h.1, hmove.activeReviewed h.1.layout hlast h.2⟩) ⟨hinv, hmore⟩

/-- What the registry guarantees in a state. -/
structure RegistryGuarantees (ops : List RegistryOp) (seeded : List Uuid) (db : RegistryDb) :
    Prop where
  /-- A tool has at most one active version. -/
  oneActive : ∀ first ∈ db.toolVersions, ∀ second ∈ db.toolVersions, first.status = .active →
    second.status = .active → first.toolId = second.toolId → first = second
  /-- An active version was reviewed, or installed as active. -/
  reviewed : ActiveReviewed ops seeded db
  /-- A policy is active exactly when its version is. -/
  policyActive : ∀ policy ∈ db.policies, ∀ version ∈ db.toolVersions,
    policy.toolVersionId = version.id → (policy.status = .active ↔ version.status = .active)
  /-- At most one candidate has the tenant's own policy and at most one a global policy. -/
  candidates : ∀ tenantId name,
    (candidatesOf db tenantId name (some tenantId)).length ≤ 1 ∧
      (candidatesOf db tenantId name none).length ≤ 1
  /-- The tenant's own candidate is resolved. -/
  own : ∀ tenantId name, ∀ row ∈ candidatesOf db tenantId name (some tenantId),
    resolve db tenantId name = some row
  /-- Without one the global candidate is resolved. -/
  shared : ∀ tenantId name, candidatesOf db tenantId name (some tenantId) = [] →
    ∀ row ∈ candidatesOf db tenantId name none, resolve db tenantId name = some row

theorem registryGuarantees (sha256 : String → String) (installation : Installation)
    (ops : List RegistryOp) :
    RegistryGuarantees ops installation.seeded
      ((toolRegistry sha256).run (installation.registry sha256) ops) := by
  obtain ⟨hinv, hreviewed⟩ := registry_run sha256 installation ops
  exact
    { oneActive := fun first hfirst second hsecond hone htwo htools ↦
        Table.eq_of_key (RegistryDb.versionIds hinv.layout) hfirst hsecond
          (hinv.statuses.oneActive first hfirst second hsecond hone htwo htools)
      reviewed := hreviewed
      policyActive := hinv.statuses.policyActive
      candidates := fun tenantId name ↦
        ⟨length_candidatesOf hinv tenantId name _, length_candidatesOf hinv tenantId name _⟩
      own := fun tenantId name row hrow ↦
        resolve_candidate hinv (mem_candidatesOf.mp hrow).1 (Or.inl (mem_candidatesOf.mp hrow).2)
      shared := fun tenantId name hnone row hrow ↦
        resolve_candidate hinv (mem_candidatesOf.mp hrow).1 (Or.inr hnone) }

/-- In every run of the registry, from empty tables or from the installed rows, every state gives
the guarantees, and discovery keeps every active version and its policy as they are. -/
theorem registry_guarantees_run (sha256 : String → String) (installation : Installation)
    (ops : List RegistryOp) :
    RegistryGuarantees ops installation.seeded
      ((toolRegistry sha256).run (installation.registry sha256) ops) ∧
    ∀ e ∈ (toolRegistry sha256).log (installation.registry sha256) ops,
      (∃ serverId tenantId now id reply, e.input = .discover serverId tenantId now id reply) →
      ∀ version ∈ e.before.toolVersions, version.status = .active →
        version ∈ e.after.toolVersions ∧
          ∀ policy ∈ e.before.policies, policy.toolVersionId = version.id →
            policy ∈ e.after.policies := by
  refine ⟨registryGuarantees sha256 installation ops, fun e he hdiscover version hversion _ ↦ ?_⟩
  obtain ⟨earlier, op, later, -, rfl⟩ := ((toolRegistry sha256).mem_log_iff _ _ _).mp he
  obtain ⟨serverId, tenantId, now, id, reply, hop⟩ := hdiscover
  have hkeeps := step_keepsVersions sha256
    ((toolRegistry sha256).run (installation.registry sha256) earlier) op (by
      rintro toolVersionId ⟨tenant, review, hreview⟩
      change op = _ at hop
      rw [hop] at hreview
      cases hreview)
  exact ⟨hkeeps.1 hversion, fun policy hpolicy _ ↦ hkeeps.2 hpolicy⟩

end Xyena.Tools
