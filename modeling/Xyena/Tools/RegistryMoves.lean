import Mathlib.Logic.Relation
import Xyena.Tools.Registry

/-!
# What one registry transaction can do to the tables

`RegistryMove` lists the changes that a committed registry call is made of,
with the guards that the code has passed, and `serveRegistry_moves` says that
every call commits a chain of them. Discovery only appends rows and touches its
server row; only a review assigns the status of tools, versions and policies.
-/

namespace Xyena.Tools

open Xyena.Foundation Xyena.Contracts

inductive RegistryMove (sha256 : String → String) (op : RegistryOp) :
    RegistryDb → RegistryDb → Prop
  | register {db : RegistryDb} (id : Uuid) (tenantId : Option Uuid) (request : MCPServerCreate)
      (hop : op = .registerServer id tenantId request)
      (hlabel : ∀ old ∈ db.servers, ¬ (old.tenantId = tenantId ∧ old.label = request.label.text))
      (hfresh : ∀ old ∈ db.servers, id ≠ old.id) :
      RegistryMove sha256 op db { db with servers := db.servers ++ [serverRow id tenantId request] }
  /-- The discovery document is stored. -/
  | observe {db : RegistryDb} (rows : List MCPServerVersion) :
      RegistryMove sha256 op db { db with serverVersions := rows }
  | addTool {db : RegistryDb} (server : MCPServer) (discovered : DiscoveredTool) (ids : ToolIds)
      (hserver : server ∈ db.servers)
      (hfresh : ∀ old ∈ db.tools, ids.tool ≠ old.id ∧
        ¬ (old.serverId = server.id ∧ old.canonicalName = server.label ++ "." ++ discovered.name)) :
      RegistryMove sha256 op db { db with tools := db.tools ++ [toolRow server discovered ids] }
  /-- A version with its draft policy is stored for a tool of the server. -/
  | addVersion {db : RegistryDb} (server : MCPServer) (tool : MCPTool)
      (discovered : DiscoveredTool) (ids : ToolIds)
      (hserver : server ∈ db.servers) (htool : tool ∈ db.tools)
      (hoffers : tool.serverId = server.id)
      (hversion : ∀ old ∈ db.toolVersions, ids.version ≠ old.id)
      (hpolicy : ∀ old ∈ db.policies, ids.policy ≠ old.id) :
      RegistryMove sha256 op db
        { db with
          toolVersions := db.toolVersions ++ [versionRow sha256 tool.id discovered ids]
          policies := db.policies ++ [policyRow server ids] }
  /-- A server row is assigned; its identifier, tenant and label stay. -/
  | touchServer {db : RegistryDb} (server changed : MCPServer) (hserver : server ∈ db.servers)
      (hid : changed.id = server.id) (htenant : changed.tenantId = server.tenantId)
      (hlabel : changed.label = server.label) :
      RegistryMove sha256 op db
        { db with servers := Table.replace MCPServer.id changed db.servers }
  | review {db : RegistryDb} (row : CatalogRow) (tenantId : Option Uuid)
      (review : ToolPolicyCreate)
      (hop : op = .reviewToolVersion row.version.id tenantId review)
      (hrow : row ∈ db.catalog) (hactive : row.server.status = .active) :
      RegistryMove sha256 op db (applyReview row review db)

abbrev RegistryMoves (sha256 : String → String) (op : RegistryOp) :
    RegistryDb → RegistryDb → Prop :=
  Relation.ReflTransGen (RegistryMove sha256 op)

variable {sha256 : String → String} {op : RegistryOp} {db after : RegistryDb}

theorem registerServer_moves {id : Uuid} {tenantId : Option Uuid} {request : MCPServerCreate}
    {row : MCPServer} (hop : op = .registerServer id tenantId request)
    (h : (registerServer id tenantId request).exec db = (.ok row, after)) :
    RegistryMoves sha256 op db after := by
  rw [registerServer, Session.exec_get_bind] at h
  simp only at h
  split at h
  · cases h
  next hfree =>
    obtain ⟨_, middle, hadd, hpure⟩ := Session.exec_bind_ok.mp h
    obtain ⟨hunique, rfl⟩ := Session.insert_ok.mp hadd
    obtain ⟨-, rfl⟩ := Session.exec_pure_ok.mp hpure
    refine .single (.register id tenantId request hop ?_ fun old hold ↦ ?_)
    · simpa using hfree
    · have hkeys := hunique old hold
      rw [Bool.or_eq_false_iff] at hkeys
      exact beq_eq_false_iff_ne.mp hkeys.1

theorem getServer_spec {serverId : Uuid} {tenantId : Option Uuid} {server : MCPServer}
    (h : (getServer serverId tenantId).exec db = (.ok server, after)) :
    server ∈ db.servers ∧ after = db := by
  rw [getServer, Session.exec_get_bind] at h
  split at h
  · cases h
  next found hfind =>
    split at h
    · cases h
    · obtain ⟨rfl, rfl⟩ := Session.exec_pure_ok.mp h
      exact ⟨List.mem_of_find?_eq_some hfind, rfl⟩

theorem reviewServer_moves {server reviewed : MCPServer} {review : MCPServerReview}
    (hserver : server ∈ db.servers)
    (h : (reviewServer server review).exec db = (.ok reviewed, after)) :
    RegistryMoves sha256 op db after := by
  unfold reviewServer at h
  split at h
  · cases h
  · simp only [storeServer, Session.exec_modify_bind] at h
    obtain ⟨-, rfl⟩ := Session.exec_pure_ok.mp h
    exact .single (.touchServer server _ hserver rfl rfl rfl)

/-- The upserted tool is stored and belongs to the server. -/
theorem upsertTool_moves {server : MCPServer} {discovered : DiscoveredTool} {ids : ToolIds}
    {tool : MCPTool} (hserver : server ∈ db.servers)
    (h : (upsertTool server discovered ids).exec db = (.ok tool, after)) :
    RegistryMoves sha256 op db after ∧ server ∈ after.servers ∧ tool ∈ after.tools ∧
      tool.serverId = server.id := by
  rw [upsertTool, Session.exec_get_bind] at h
  split at h
  next found hfind =>
    obtain ⟨rfl, rfl⟩ := Session.exec_pure_ok.mp h
    have hselected := List.find?_some hfind
    simp only [Bool.and_eq_true, beq_iff_eq] at hselected
    exact ⟨.refl, hserver, List.mem_of_find?_eq_some hfind, hselected.1⟩
  next hnone =>
    obtain ⟨_, middle, hadd, hpure⟩ := Session.exec_bind_ok.mp h
    obtain ⟨hunique, rfl⟩ := Session.insert_ok.mp hadd
    obtain ⟨rfl, rfl⟩ := Session.exec_pure_ok.mp hpure
    refine ⟨.single (.addTool server discovered ids hserver fun old hold ↦ ?_), hserver,
      List.mem_append_right _ (List.mem_singleton.mpr rfl), rfl⟩
    have hkeys := hunique old hold
    simp only [toolRow, Bool.or_eq_false_iff, Bool.and_eq_false_iff, beq_eq_false_iff_ne] at hkeys
    refine ⟨hkeys.1, fun hsame ↦ ?_⟩
    exact hkeys.2.elim (fun hne ↦ hne hsame.1.symm) fun hne ↦ hne.2 hsame.2.symm

theorem upsertDiscoveredTool_moves (op : RegistryOp) {server : MCPServer}
    {discovered : DiscoveredTool} {ids : ToolIds} {done : PUnit} (hserver : server ∈ db.servers)
    (h : (upsertDiscoveredTool sha256 server discovered ids).exec db = (.ok done, after)) :
    RegistryMoves sha256 op db after ∧ server ∈ after.servers := by
  rw [upsertDiscoveredTool] at h
  obtain ⟨tool, middle, hupsert, h⟩ := Session.exec_bind_ok.mp h
  obtain ⟨hmoves, hserver', htool, hoffers⟩ := upsertTool_moves hserver hupsert
  simp only [Session.exec_get_bind] at h
  split at h
  · obtain ⟨-, rfl⟩ := Session.exec_pure_ok.mp h
    exact ⟨hmoves, hserver'⟩
  · obtain ⟨_, versioned, hadd, h⟩ := Session.exec_bind_ok.mp h
    obtain ⟨hversion, rfl⟩ := Session.insert_ok.mp hadd
    obtain ⟨hpolicy, rfl⟩ := Session.insert_ok.mp h
    refine ⟨hmoves.tail (.addVersion server tool discovered ids hserver' htool hoffers ?_ ?_),
      hserver'⟩
    · intro old hold
      have hkeys := hversion old hold
      rw [Bool.or_eq_false_iff] at hkeys
      exact beq_eq_false_iff_ne.mp hkeys.1
    · intro old hold
      exact beq_eq_false_iff_ne.mp (hpolicy old hold)

theorem upsertDiscoveredTools_moves (op : RegistryOp) {server : MCPServer}
    {discovered : List (DiscoveredTool × ToolIds)} {done : PUnit} (hserver : server ∈ db.servers)
    (h : (upsertDiscoveredTools sha256 server discovered).exec db = (.ok done, after)) :
    RegistryMoves sha256 op db after ∧ server ∈ after.servers := by
  induction discovered generalizing db with
  | nil =>
    obtain ⟨-, rfl⟩ := Session.exec_pure_ok.mp h
    exact ⟨.refl, hserver⟩
  | cons head rest ih =>
    obtain ⟨_, middle, hhead, hrest⟩ := Session.exec_bind_ok.mp h
    obtain ⟨hmoves, hserver'⟩ := upsertDiscoveredTool_moves op hserver hhead
    obtain ⟨hmoves', hserver''⟩ := ih hserver' hrest
    exact ⟨hmoves.trans hmoves', hserver''⟩

theorem upsertServerVersion_ok {row : MCPServerVersion} {done : PUnit}
    (h : (upsertServerVersion row).exec db = (.ok done, after)) :
    ∃ rows, after = { db with serverVersions := rows } := by
  rw [upsertServerVersion, Session.exec_get_bind] at h
  split at h
  · obtain ⟨-, rfl⟩ := Session.exec_pure_ok.mp h
    exact ⟨_, rfl⟩
  · exact ⟨_, (Session.insert_ok.mp h).2⟩

theorem discover_moves {now : Time} {id : Uuid} {server : MCPServer} {reply : Option Discovery}
    {done : PUnit} (hserver : server ∈ db.servers)
    (h : (discover sha256 now id server reply).exec db = (.ok done, after)) :
    RegistryMoves sha256 op db after := by
  unfold discover at h
  split at h
  · cases h
  next discovery =>
    obtain ⟨_, observed, hobserve, h⟩ := Session.exec_bind_ok.mp h
    obtain ⟨rows, rfl⟩ := upsertServerVersion_ok hobserve
    obtain ⟨_, upserted, hupserts, h⟩ := Session.exec_bind_ok.mp h
    have hserver' : server ∈ { db with serverVersions := rows }.servers := hserver
    obtain ⟨hmoves, hserver''⟩ := upsertDiscoveredTools_moves op hserver' hupserts
    simp only [storeServer, Session.exec_modify] at h
    obtain ⟨-, rfl⟩ := Prod.mk.inj h
    exact .head (.observe rows) (hmoves.tail (.touchServer server _ hserver'' rfl rfl rfl))

theorem reviewToolVersion_moves {toolVersionId : Uuid} {tenantId : Option Uuid}
    {review : ToolPolicyCreate} {done : PUnit}
    (hop : op = .reviewToolVersion toolVersionId tenantId review)
    (h : (reviewToolVersion toolVersionId review tenantId).exec db = (.ok done, after)) :
    RegistryMoves sha256 op db after := by
  rw [reviewToolVersion, Session.exec_get_bind] at h
  split at h
  · cases h
  next row hfind =>
    split at h
    · cases h
    next hactive =>
      split at h
      · cases h
      · rw [Session.exec_modify] at h
        obtain ⟨-, rfl⟩ := Prod.mk.inj h
        have hselected := List.find?_some hfind
        simp only [Bool.and_eq_true, beq_iff_eq] at hselected
        rw [← hselected.1] at hop
        exact .single (.review row tenantId review hop (List.mem_of_find?_eq_some hfind)
          (not_not.mp hactive))

/-- Every registry call commits a chain of moves; a call that raised commits the empty chain. -/
theorem serveRegistry_moves (sha256 : String → String) (db : RegistryDb) (op : RegistryOp) :
    RegistryMoves sha256 op db ((toolRegistry sha256).step db op).2 := by
  obtain hkept | ⟨done, h⟩ := Session.atomically_snd_cases (serveRegistry sha256 op) db
  · change RegistryMoves sha256 op db ((serveRegistry sha256 op).atomically db).2
    rw [hkept]
  · change (serveRegistry sha256 op).exec db = (.ok done, ((toolRegistry sha256).step db op).2) at h
    generalize ((toolRegistry sha256).step db op).2 = after at h ⊢
    cases hop : op with
    | registerServer id tenantId request =>
      rw [hop] at h
      obtain ⟨_, middle, hserved, hpure⟩ := Session.exec_bind_ok.mp h
      obtain ⟨-, rfl⟩ := Session.exec_pure_ok.mp hpure
      exact registerServer_moves rfl hserved
    | discover serverId tenantId now id reply =>
      rw [hop] at h
      obtain ⟨server, middle, hget, hserved⟩ := Session.exec_bind_ok.mp h
      obtain ⟨hserver, rfl⟩ := getServer_spec hget
      exact discover_moves hserver hserved
    | reviewServer serverId tenantId review =>
      rw [hop] at h
      obtain ⟨server, middle, hget, hrest⟩ := Session.exec_bind_ok.mp h
      obtain ⟨hserver, rfl⟩ := getServer_spec hget
      obtain ⟨_, middle, hserved, hpure⟩ := Session.exec_bind_ok.mp hrest
      obtain ⟨-, rfl⟩ := Session.exec_pure_ok.mp hpure
      exact reviewServer_moves hserver hserved
    | reviewToolVersion toolVersionId tenantId review =>
      rw [hop] at h
      exact reviewToolVersion_moves rfl h

/-- A property that every move of a call preserves is preserved by the call. -/
theorem registry_step_invariant (Inv : RegistryDb → Prop) (db : RegistryDb) (op : RegistryOp)
    (hmove : ∀ before after, RegistryMove sha256 op before after → Inv before → Inv after)
    (h : Inv db) : Inv ((toolRegistry sha256).step db op).2 := by
  have hmoves := serveRegistry_moves sha256 db op
  generalize ((toolRegistry sha256).step db op).2 = after at hmoves
  induction hmoves with
  | refl => exact h
  | tail _ hlast ih => exact hmove _ _ hlast ih

end Xyena.Tools
