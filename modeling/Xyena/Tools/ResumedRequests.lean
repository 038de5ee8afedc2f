import Xyena.Foundation.JsonText
import Xyena.Guardian.Content
import Xyena.Tools.ActiveTools
import Xyena.Tools.CallRecords

/-!
# The request behind a resumed call

`resume` rebuilds the canonical request of a call from the stored row and
states the stored hash with it. The row does not keep the whole scope that
`execute` has hashed: the conversation, the case, the roles, the consents, the
policy bundle and the language are lost, the run of the scope becomes the run
of the call, and the correlation is that of the resumption. The hash is the
one of the rebuilt request exactly when the submitted scope had nothing to lose.
-/

namespace Xyena.Tools

open Xyena.Foundation Xyena.Contracts Xyena.Gateway
open Xyena.Guardian (NoCollision)

/-! ## Escalations and resumptions -/

/-- The entry executes the submitted call and leaves its new row waiting for approval. -/
structure Escalates (e : ToolEntry) (submitted : ToolCallSubmit) (call : MCPToolCall) : Prop where
  input : ∃ draws oracle, e.input = .broker ⟨.execute submitted, draws⟩ oracle
  fresh : ∀ old ∈ e.before.calls, old.id ≠ call.id
  stored : call ∈ e.after.calls
  waiting : call.status = .waitingApproval

/-- The entry resumes the call, whose authorization Guardian consumes, and rebuilds its request. -/
structure Rebuilds (e : ToolEntry) (request : ToolCallResume) (row : CatalogRow) (call : MCPToolCall) :
    Prop where
  input : ∃ draws oracle, e.input = .broker ⟨.resume request, draws⟩ oracle
  found : findCall e.before request = some call
  waiting : call.status = .waitingApproval
  row : resumedRow e.before.registry call.tenantId call.toolVersionId = some row
  authorized : ∃ answer trace, e.output = .broker answer trace ∧
    ∃ event ∈ trace, consumedFor call event = true

/-- The property holds of every submitted call that is escalated and every resumption of it. -/
def EachResumption (log : List ToolEntry)
    (P : ToolCallSubmit → ToolCallResume → CatalogRow → MCPToolCall → Prop) : Prop :=
  ∀ origin ∈ log, ∀ submitted escalated, Escalates origin submitted escalated →
    ∀ e ∈ log, ∀ request row call, Rebuilds e request row call → call.id = escalated.id →
      P submitted request row call

/-- The rebuilt request has the hash that is stored with the call. -/
def RebuiltAsHashed (platform : BrokerPlatform) (request : ToolCallResume) (row : CatalogRow)
    (call : MCPToolCall) : Prop :=
  canonicalHash platform.sha256 (.obj (resumedRequest request row call).document) = call.requestHash

instance (platform : BrokerPlatform) (request : ToolCallResume) (row : CatalogRow) (call : MCPToolCall) :
    Decidable (RebuiltAsHashed platform request row call) := inferInstanceAs (Decidable (_ = _))

/-- Nothing of the submitted scope is lost. -/
structure Restored (submitted : ToolCallSubmit) (request : ToolCallResume) : Prop where
  conversationId : submitted.context.conversationId = none
  runId : submitted.context.runId = some submitted.runId
  caseId : submitted.context.caseId = none
  correlationId : submitted.context.correlationId = request.correlationId
  roles : submitted.context.roles = []
  consentIds : submitted.context.consentIds = []
  policyBundleVersion : submitted.context.policyBundleVersion = "platform-default"
  locale : submitted.context.locale = "en"
  timezone : submitted.context.timezone = "UTC"

/-- The request document that a broker call with a target is about. -/
def Target.document (platform : BrokerPlatform) (call : BrokerCall) (target : Target) : Dict :=
  match call.op with
  | .execute request => (canonicalRequest platform call.draws.callId request target.row).document
  | .resume request => (resumedRequest request target.row target.call).document

def requestDocument (platform : BrokerPlatform) (e : ToolEntry) : Option Json :=
  match e.input with
  | .registry _ => none
  | .broker call _ => (call.target platform e.before).map fun target ↦ .obj (target.document platform call)

/-! ## Names of the catalog -/

/-- The version of the row is still a version of its tool, and the tool still has its names. -/
structure CatalogRow.Offered (row : CatalogRow) (db : RegistryDb) : Prop where
  server : row.server.id = row.tool.serverId
  version : ∃ version ∈ db.toolVersions, version.id = row.version.id ∧ version.toolId = row.tool.id
  tool : ∃ tool ∈ db.tools, tool.id = row.tool.id ∧ tool.serverId = row.tool.serverId ∧
    tool.canonicalName = row.tool.canonicalName ∧ tool.originalName = row.tool.originalName

section Offered

variable {row other : CatalogRow} {db after : RegistryDb}

theorem CatalogRow.offered_of_mem (h : row ∈ db.catalog) : row.Offered db := by
  obtain ⟨⟨htool, hversion, -, -⟩, hof, -, hserver⟩ := RegistryDb.mem_catalog.mp h
  exact ⟨hserver, ⟨row.version, hversion, rfl, hof⟩, ⟨row.tool, htool, rfl, rfl, rfl, rfl⟩⟩

/-- All catalog rows of one version bring the same server and names. -/
theorem CatalogRow.Offered.names (h : row.Offered db) (hlayout : db.layout.WellFormed)
    (hother : other ∈ db.catalog) (hid : other.version.id = row.version.id) :
    other.server.id = row.server.id ∧ other.tool.canonicalName = row.tool.canonicalName ∧
      other.tool.originalName = row.tool.originalName := by
  obtain ⟨⟨htool, hversion, -, -⟩, hof, -, hserver⟩ := RegistryDb.mem_catalog.mp hother
  obtain ⟨version, hstored, hsame, hbelongs⟩ := h.version
  obtain rfl := Table.eq_of_key (RegistryDb.versionIds hlayout) hstored hversion (hsame.trans hid.symm)
  obtain ⟨tool, hstoredTool, hsameTool, hat, hcanonical, horiginal⟩ := h.tool
  obtain rfl := Table.eq_of_key (RegistryDb.toolIds hlayout) hstoredTool htool
    (hsameTool.trans (hbelongs.symm.trans hof))
  exact ⟨hserver.trans (hat.trans h.server.symm), hcanonical, horiginal⟩

/-- A registry call renames no tool and moves no version. -/
theorem RegistryMove.offered {sha256 : String → String} {op : RegistryOp}
    (hmove : RegistryMove sha256 op db after) (hlayout : db.layout.WellFormed) (h : row.Offered db) :
    row.Offered after := by
  cases hmove with
  | register => exact ⟨h.server, h.version, h.tool⟩
  | observe => exact ⟨h.server, h.version, h.tool⟩
  | touchServer => exact ⟨h.server, h.version, h.tool⟩
  | addTool =>
    obtain ⟨tool, htool, hsame⟩ := h.tool
    exact ⟨h.server, h.version, tool, List.mem_append_left _ htool, hsame⟩
  | addVersion =>
    obtain ⟨version, hversion, hsame⟩ := h.version
    exact ⟨h.server, ⟨version, List.mem_append_left _ hversion, hsame⟩, h.tool⟩
  | review reviewed tenantId review hop hreviewed hactive =>
    obtain ⟨version, hversion, hid, hof⟩ := h.version
    obtain ⟨tool, htool, hsame⟩ := h.tool
    have hids : (versionAfter reviewed review version).id = version.id ∧
        (versionAfter reviewed review version).toolId = version.toolId := versionAfter_ids version
    refine ⟨h.server, ⟨versionAfter reviewed review version, ?_, hids.1.trans hid, hids.2.trans hof⟩, ?_⟩
    · rw [applyReview_versions hlayout hreviewed]
      exact List.mem_map_of_mem hversion
    · rw [applyReview_tools hlayout hreviewed]
      refine ⟨_, Table.mem_update.mpr ⟨tool, htool, rfl⟩, ?_⟩
      split
      · exact hsame
      · exact hsame

theorem offered_step (platform : BrokerPlatform) (db : ToolDb) (op : ToolOp)
    (hregistry : RegistryInvariant db.registry) (h : row.Offered db.registry) :
    row.Offered ((toolPlatform platform).step db op).2.registry := by
  cases op with
  | registry op =>
    have hboth : RegistryInvariant ((toolRegistry platform.sha256).step db.registry op).2 ∧
        row.Offered ((toolRegistry platform.sha256).step db.registry op).2 :=
      registry_step_invariant (fun db ↦ RegistryInvariant db ∧ row.Offered db) db.registry op
        (fun _ _ hmove h ↦ ⟨hmove.invariant h.1, hmove.offered h.1.layout h.2⟩) ⟨hregistry, h⟩
    exact hboth.2
  | broker call oracle =>
    rw [step_broker_registry]
    exact h

end Offered

/-! ## Call rows -/

section Calls

variable {platform : BrokerPlatform} {db : ToolDb} {call : BrokerCall} {target : Target}
  {oracle : Program.Oracle Ask Reply} {outcome : Except BrokerError Outcome} {trace : List BrokerEvent}

/-- Only a new call is left waiting. -/
theorem Target.Ending.inserted_of_waiting {draws : Draws} {result : SafeToolResult} {writes : Writes}
    (hending : target.Ending platform draws trace outcome) (houtcome : outcome = .ok ⟨result, some writes⟩)
    (hwaiting : writes.call.status = .waitingApproval) : target.inserted = true := by
  cases hending with
  | raised => cases houtcome
  | waiting _ _ hinserted => exact hinserted
  | blocked _ _ _ _ hinserted => exact hinserted
  | called called projection =>
    obtain ⟨-, hwrites⟩ := finishCall_ok houtcome
    obtain rfl := Option.some.inj hwrites
    have hfinal := (records_spec platform draws target.row called projection).1
    change (records platform draws target.row called projection).status = .waitingApproval at hwaiting
    rw [hwaiting] at hfinal
    cases hfinal

/-- What the end of a broker call does to the call rows. -/
theorem Target.Ending.close_calls (htarget : call.target platform db = some target)
    (hending : target.Ending platform call.draws trace outcome) :
    (closeTransaction db outcome).2 = db ∨ ∃ new : MCPToolCall, target.call.Advances new ∧
      (new.status = .waitingApproval → target.inserted = true) ∧
      ∀ row, row ∈ (closeTransaction db outcome).2.calls ↔ row = new ∨ row ∈ db.calls ∧ row.id ≠ new.id := by
  match outcome, hending with
  | .error failure, _ => exact Or.inl rfl
  | .ok ⟨result, none⟩, _ => exact Or.inl rfl
  | .ok ⟨result, some writes⟩, hending =>
    rcases closeTransaction_writes db result writes with hrefused | ⟨-, hcommitted⟩
    · exact Or.inl (by rw [hrefused])
    · obtain ⟨rows, hrows, hinserted, hadvances, -⟩ := hending.writes_call rfl
      obtain rfl := Option.some.inj hrows
      refine Or.inr ⟨writes.call, hadvances, hending.inserted_of_waiting rfl, fun row ↦ ?_⟩
      rw [hcommitted]
      exact Writes.mem_apply_calls (placed_of_target htarget hinserted hadvances)

theorem MCPToolCall.Advances.id {old new : MCPToolCall} (h : old.Advances new) : new.id = old.id := by
  obtain ⟨_, _, _, _, rfl⟩ := h
  rfl

/-- An escalated call is a later state of the row that `execute` makes of the submitted call. -/
theorem escalates_spec {submitted : ToolCallSubmit} {escalated : MCPToolCall}
    (h : Escalates ((toolPlatform platform).entry db (.broker call oracle)) submitted escalated) :
    ∃ row, call.op = .execute submitted ∧
      admitCall platform db call.draws submitted =
        .ok (.fresh row (canonicalRequest platform call.draws.callId submitted row)) ∧
      (callRow submitted row (canonicalRequest platform call.draws.callId submitted row)).Advances
        escalated := by
  obtain ⟨draws, oracle', hinput⟩ := h.input
  obtain ⟨rfl, -⟩ := ToolOp.broker.inj hinput
  have hstored := h.stored
  match htarget : BrokerCall.target platform db ⟨.execute submitted, draws⟩ with
  | none =>
    obtain ⟨answer, hstep, -⟩ := step_of_no_target htarget oracle
    rw [Machine.entry, hstep] at hstored
    exact absurd rfl (h.fresh escalated hstored)
  | some target =>
    obtain ⟨outcome, trace, hstep, hending, -⟩ := step_of_target htarget oracle
    rw [Machine.entry, hstep] at hstored
    rcases hending.close_calls htarget with hkept | ⟨new, hadvances, -, hcalls⟩
    · rw [hkept] at hstored
      exact absurd rfl (h.fresh escalated hstored)
    · rcases (hcalls escalated).mp hstored with rfl | ⟨hold, -⟩
      · rcases BrokerCall.target_cases htarget with
          ⟨-, request, canonical, hop, hadmission, hcall⟩ | ⟨-, request, hop, -⟩
        · obtain rfl := BrokerOp.execute.inj hop
          obtain ⟨-, rfl, -⟩ := admitCall_fresh hadmission
          exact ⟨target.row, rfl, hadmission, hcall ▸ hadvances⟩
        · cases hop
      · exact absurd rfl (h.fresh escalated hold)

/-- A step keeps the identifiers of the calls, and a call that waits after it has waited before or is
escalated by it. -/
theorem calls_step (platform : BrokerPlatform) (db : ToolDb) (op : ToolOp) :
    (∀ old ∈ db.calls, ∃ new ∈ ((toolPlatform platform).step db op).2.calls, new.id = old.id) ∧
      ∀ row ∈ ((toolPlatform platform).step db op).2.calls, row.status = .waitingApproval →
        row ∈ db.calls ∨ ∃ submitted, Escalates ((toolPlatform platform).entry db op) submitted row := by
  have hunchanged {after : ToolDb} (hafter : after.calls = db.calls) :
      (∀ old ∈ db.calls, ∃ new ∈ after.calls, new.id = old.id) ∧
        ∀ row ∈ after.calls, row.status = .waitingApproval →
          row ∈ db.calls ∨ ∃ submitted, Escalates ((toolPlatform platform).entry db op) submitted row := by
    rw [hafter]
    exact ⟨fun old hold ↦ ⟨old, hold, rfl⟩, fun row hrow _ ↦ Or.inl hrow⟩
  cases op with
  | registry op => exact hunchanged rfl
  | broker call oracle =>
    match htarget : call.target platform db with
    | none =>
      obtain ⟨answer, hstep, -⟩ := step_of_no_target htarget oracle
      exact hunchanged (by rw [hstep])
    | some target =>
      obtain ⟨outcome, trace, hstep, hending, -⟩ := step_of_target htarget oracle
      rcases hending.close_calls htarget with hkept | ⟨new, hadvances, hinserted, hcalls⟩
      · exact hunchanged (by rw [hstep, hkept])
      · have hafter (row : MCPToolCall) :
            row ∈ ((toolPlatform platform).step db (.broker call oracle)).2.calls ↔
              row = new ∨ row ∈ db.calls ∧ row.id ≠ new.id := by
          rw [hstep]
          exact hcalls row
        refine ⟨fun old hold ↦ ?_, fun row hrow hwaiting ↦ ?_⟩
        · by_cases hid : old.id = new.id
          · exact ⟨new, (hafter new).mpr (Or.inl rfl), hid.symm⟩
          · exact ⟨old, (hafter old).mpr (Or.inr ⟨hold, hid⟩), rfl⟩
        · rcases (hafter row).mp hrow with rfl | ⟨hold, -⟩
          · rcases BrokerCall.target_cases htarget with
              ⟨-, request, canonical, hop, hadmission, hcall⟩ | ⟨hstored, -⟩
            · obtain ⟨-, rfl, -, -, hfresh, -⟩ := admitCall_fresh hadmission
              refine Or.inr ⟨request, ⟨call.draws, oracle, hop ▸ rfl⟩, fun old hold hsame ↦ ?_, hrow, hwaiting⟩
              refine hfresh old hold ?_
              rw [hsame, hadvances.id, hcall]
              rfl
            · rw [hinserted hwaiting] at hstored
              cases hstored
          · exact Or.inl hold

end Calls

/-! ## Rebuilt requests -/

section Rebuilt

variable {platform : BrokerPlatform} {submitted : ToolCallSubmit} {request : ToolCallResume}
  {row other : CatalogRow} {callId : Uuid} {call : MCPToolCall}
  (hmade : (callRow submitted row (canonicalRequest platform callId submitted row)).Advances call)
include hmade

theorem scope_eq_iff :
    (resumedRequest request other call).scope = submitted.context ↔ Restored submitted request := by
  obtain ⟨status, decision, authorization, correlation, rfl⟩ := hmade
  constructor
  · intro h
    constructor <;> rw [← h] <;> rfl
  · intro h
    obtain ⟨runId, agentVersionId, agentName, context, intent⟩ := submitted
    cases context
    cases h
    simp only at *
    subst_vars
    rfl

variable (hid : other.version.id = row.version.id)
  (hnames : other.server.id = row.server.id ∧ other.tool.canonicalName = row.tool.canonicalName ∧
    other.tool.originalName = row.tool.originalName)
include hid hnames

/-- Besides the scope, the rebuilt document is the hashed one. -/
theorem document_eq (hscope : (resumedRequest request other call).scope = submitted.context) :
    (resumedRequest request other call).document =
      (canonicalRequest platform callId submitted row).document := by
  obtain ⟨hserver, hcanonical, horiginal⟩ := hnames
  obtain ⟨status, decision, authorization, correlation, rfl⟩ := hmade
  rw [CanonicalToolRequest.document, hscope]
  simp only [resumedRequest, hserver, hid, hcanonical, horiginal]
  rfl

/-- The hash of the rebuilt request tells whether the scope is restored. -/
theorem rebuiltAsHashed_iff
    (hcollision : canonicalHash platform.sha256 (.obj (resumedRequest request other call).document) =
        canonicalHash platform.sha256 (.obj (canonicalRequest platform callId submitted row).document) →
      Json.Same (.obj (resumedRequest request other call).document)
        (.obj (canonicalRequest platform callId submitted row).document)) :
    RebuiltAsHashed platform request other call ↔ Restored submitted request := by
  have hhash : call.requestHash =
      canonicalHash platform.sha256 (.obj (canonicalRequest platform callId submitted row).document) := by
    obtain ⟨status, decision, authorization, correlation, rfl⟩ := hmade
    rfl
  rw [RebuiltAsHashed, hhash, ← scope_eq_iff hmade]
  constructor
  · intro hsame
    exact (CanonicalToolRequest.sameContent_of_document (hcollision hsame)).scope
  · intro hscope
    rw [document_eq hmade hid hnames hscope]

end Rebuilt

/-! ## Histories -/

/-- Every waiting call was escalated by one entry of the history, whose names are still in the catalog. -/
structure Traced (platform : BrokerPlatform) (history : List ToolEntry) (db : ToolDb) : Prop where
  registry : RegistryInvariant db.registry
  origins : ∀ call ∈ db.calls, call.status = .waitingApproval →
    ∃ e ∈ history, ∃ submitted, Escalates e submitted call
  made : ∀ e ∈ history, ∀ submitted call, Escalates e submitted call → ∃ callId row,
    (callRow submitted row (canonicalRequest platform callId submitted row)).Advances call ∧
      requestDocument platform e = some (.obj (canonicalRequest platform callId submitted row).document) ∧
        row.Offered db.registry
  kept : ∀ e ∈ history, ∀ submitted call, Escalates e submitted call →
    ∃ stored ∈ db.calls, stored.id = call.id
  once : ∀ first ∈ history, ∀ second ∈ history, ∀ submitted call, Escalates first submitted call →
    ∀ submitted' call', Escalates second submitted' call' → call.id = call'.id → first = second

section Histories

variable {platform : BrokerPlatform} {history : List ToolEntry} {db : ToolDb}

theorem made_entry {op : ToolOp} {submitted : ToolCallSubmit} {escalated : MCPToolCall}
    (h : Escalates ((toolPlatform platform).entry db op) submitted escalated) : ∃ callId row,
      (callRow submitted row (canonicalRequest platform callId submitted row)).Advances escalated ∧
        requestDocument platform ((toolPlatform platform).entry db op) =
          some (.obj (canonicalRequest platform callId submitted row).document) ∧
        row.Offered db.registry := by
  cases op with
  | registry op =>
    obtain ⟨draws, oracle, hinput⟩ := h.input
    cases hinput
  | broker call oracle =>
    obtain ⟨row, hop, hadmission, hadvances⟩ := escalates_spec h
    have hrow := (resolve_spec (admitCall_fresh hadmission).1).1
    refine ⟨call.draws.callId, row, hadvances, ?_, CatalogRow.offered_of_mem hrow⟩
    simp [requestDocument, Machine.entry, BrokerCall.target, hop, hadmission, Target.document]

theorem Traced.step (h : Traced platform history db) (op : ToolOp) :
    Traced platform (history ++ [(toolPlatform platform).entry db op])
      ((toolPlatform platform).step db op).2 := by
  obtain ⟨hids, hwaiting⟩ := calls_step platform db op
  have hfresh (e : ToolEntry) (he : e ∈ history) (submitted : ToolCallSubmit) (call : MCPToolCall)
      (hescalates : Escalates e submitted call) (submitted' : ToolCallSubmit) (call' : MCPToolCall)
      (hescalates' : Escalates ((toolPlatform platform).entry db op) submitted' call') :
      call.id ≠ call'.id := by
    obtain ⟨stored, hstored, hid⟩ := h.kept e he submitted call hescalates
    rw [← hid]
    exact hescalates'.fresh stored hstored
  constructor
  case registry => exact registryInvariant_platform_step platform db op h.registry
  case origins =>
    intro call hcall hstatus
    rcases hwaiting call hcall hstatus with hold | ⟨submitted, hescalates⟩
    · obtain ⟨e, he, submitted, hescalates⟩ := h.origins call hold hstatus
      exact ⟨e, List.mem_append_left _ he, submitted, hescalates⟩
    · exact ⟨_, List.mem_append_right _ (List.mem_singleton_self _), submitted, hescalates⟩
  case made =>
    intro e he submitted call hescalates
    have hbefore : ∃ callId row,
        (callRow submitted row (canonicalRequest platform callId submitted row)).Advances call ∧
          requestDocument platform e =
            some (.obj (canonicalRequest platform callId submitted row).document) ∧
          row.Offered db.registry := by
      rcases List.mem_append.mp he with hold | hnew
      · exact h.made e hold submitted call hescalates
      · obtain rfl := List.mem_singleton.mp hnew
        exact made_entry hescalates
    obtain ⟨callId, row, hadvances, hdocument, hoffered⟩ := hbefore
    exact ⟨callId, row, hadvances, hdocument, offered_step platform db op h.registry hoffered⟩
  case kept =>
    intro e he submitted call hescalates
    rcases List.mem_append.mp he with hold | hnew
    · obtain ⟨stored, hstored, hid⟩ := h.kept e hold submitted call hescalates
      obtain ⟨new, hnew, hsame⟩ := hids stored hstored
      exact ⟨new, hnew, hsame.trans hid⟩
    · obtain rfl := List.mem_singleton.mp hnew
      exact ⟨call, hescalates.stored, rfl⟩
  case once =>
    intro first hfirst second hsecond submitted call hescalates submitted' call' hescalates' hid
    rcases List.mem_append.mp hfirst with hold | hnew
    · rcases List.mem_append.mp hsecond with hold' | hnew'
      · exact h.once first hold second hold' submitted call hescalates submitted' call' hescalates' hid
      · obtain rfl := List.mem_singleton.mp hnew'
        exact absurd hid (hfresh first hold submitted call hescalates submitted' call' hescalates')
    · obtain rfl := List.mem_singleton.mp hnew
      rcases List.mem_append.mp hsecond with hold' | hnew'
      · exact absurd hid.symm (hfresh second hold' submitted' call' hescalates' submitted call hescalates)
      · exact (List.mem_singleton.mp hnew').symm

theorem traced_run (platform : BrokerPlatform) (installation : Installation) (ops : List ToolOp) :
    Traced platform
      ((toolPlatform platform).log { registry := installation.registry platform.sha256 } ops)
      ((toolPlatform platform).run { registry := installation.registry platform.sha256 } ops) := by
  refine (toolPlatform platform).history_invariant_all (Traced platform) ?_
    (fun _ _ op h ↦ h.step op) ops
  exact ⟨installation.invariant_registry platform.sha256, by simp, by simp, by simp, by simp⟩

/-- A rebuilt request is among the documents of its entry. -/
theorem document_of_rebuilds {op : ToolOp} {request : ToolCallResume} {row : CatalogRow} {call : MCPToolCall}
    (h : Rebuilds ((toolPlatform platform).entry db op) request row call) :
    requestDocument platform ((toolPlatform platform).entry db op) =
      some (.obj (resumedRequest request row call).document) := by
  obtain ⟨draws, oracle, hinput⟩ := h.input
  obtain rfl : op = .broker ⟨.resume request, draws⟩ oracle := hinput
  have hfound : findCall db request = some call := h.found
  have hrow : resumedRow db.registry call.tenantId call.toolVersionId = some row := h.row
  simp [requestDocument, Machine.entry, BrokerCall.target, hfound, h.waiting, hrow, Target.document]

end Histories

/-- A resumed call is the hashed one exactly when the resumption restores the scope. -/
theorem rebuilt_iff_restored {platform : BrokerPlatform} {installation : Installation} {ops : List ToolOp}
    (hcollision : NoCollision platform.sha256 (((toolPlatform platform).log
      { registry := installation.registry platform.sha256 } ops).filterMap (requestDocument platform)))
    {origin e : ToolEntry} {submitted : ToolCallSubmit} {escalated call : MCPToolCall}
    {request : ToolCallResume} {row : CatalogRow}
    (horigin : origin ∈ (toolPlatform platform).log { registry := installation.registry platform.sha256 } ops)
    (hescalates : Escalates origin submitted escalated)
    (he : e ∈ (toolPlatform platform).log { registry := installation.registry platform.sha256 } ops)
    (hrebuilds : Rebuilds e request row call) (hid : call.id = escalated.id) :
    RebuiltAsHashed platform request row call ↔ Restored submitted request := by
  obtain ⟨earlier, op, later, rfl, rfl⟩ := ((toolPlatform platform).mem_log_iff _ _ _).mp he
  have hbefore := traced_run platform installation earlier
  have hall := traced_run platform installation (earlier ++ op :: later)
  -- the call was escalated by the entry at hand
  have hstored : call ∈ _ := List.mem_of_find?_eq_some hrebuilds.found
  obtain ⟨source, hsource, submitted', hsource'⟩ := hbefore.origins call hstored hrebuilds.waiting
  have hsourceAll : source ∈ (toolPlatform platform).log
      { registry := installation.registry platform.sha256 } (earlier ++ op :: later) := by
    rw [Machine.log_append]
    exact List.mem_append_left _ hsource
  obtain rfl := hall.once source hsourceAll origin horigin submitted' call hsource' submitted escalated
    hescalates hid
  obtain ⟨draws, oracle, hinput⟩ := hsource'.input
  obtain ⟨draws', oracle', hinput'⟩ := hescalates.input
  have hsubmitted : submitted' = submitted := by
    have hsame := (ToolOp.broker.inj (hinput.symm.trans hinput')).1
    exact BrokerOp.execute.inj (BrokerCall.mk.inj hsame).1
  rw [hsubmitted] at hsource'
  obtain ⟨callId, sourceRow, hmade, hdocument, hoffered⟩ := hbefore.made source hsource submitted call hsource'
  have hresumed := List.mem_filter.mp (firstByTenant_mem hrebuilds.row)
  have hversion : row.version.id = sourceRow.version.id := by
    obtain ⟨status, decision, authorization, correlation, rfl⟩ := hmade
    have hselected := hresumed.2
    simp only [Bool.and_eq_true, beq_iff_eq] at hselected
    exact hselected.1
  refine rebuiltAsHashed_iff hmade hversion
    (hoffered.names hbefore.registry.layout hresumed.1 hversion) (hcollision _ ?_ _ ?_)
  · exact List.mem_filterMap.mpr ⟨_, he, document_of_rebuilds hrebuilds⟩
  · exact List.mem_filterMap.mpr ⟨source, hsourceAll, hdocument⟩

/-- Resumed calls are the hashed ones all through a run exactly when every resumption restores the scope
that was submitted. -/
theorem resumed_requests_hashed_iff (platform : BrokerPlatform) (installation : Installation)
    (ops : List ToolOp)
    (hcollision : NoCollision platform.sha256 (((toolPlatform platform).log
      { registry := installation.registry platform.sha256 } ops).filterMap (requestDocument platform))) :
    EachResumption ((toolPlatform platform).log { registry := installation.registry platform.sha256 } ops)
        (fun _ request row call ↦ RebuiltAsHashed platform request row call) ↔
      EachResumption ((toolPlatform platform).log { registry := installation.registry platform.sha256 } ops)
        fun submitted request _ _ ↦ Restored submitted request := by
  constructor
  · intro h origin horigin submitted escalated hescalates e he request row call hrebuilds hid
    exact (rebuilt_iff_restored hcollision horigin hescalates he hrebuilds hid).mp
      (h origin horigin submitted escalated hescalates e he request row call hrebuilds hid)
  · intro h origin horigin submitted escalated hescalates e he request row call hrebuilds hid
    exact (rebuilt_iff_restored hcollision horigin hescalates he hrebuilds hid).mpr
      (h origin horigin submitted escalated hescalates e he request row call hrebuilds hid)

/-! ## A call inside and outside of a conversation -/

/-- The sample call with the scope of an agent run, in a conversation or in none. -/
def scopedSubmit (inConversation : Bool) : ToolCallSubmit :=
  { sampleSubmit with
    context :=
      { sampleSubmit.context with
        runId := some 6
        conversationId := if inConversation then some 7 else none
        policyBundleVersion := if inConversation then "platform-default-v1" else "platform-default" } }

def hashedDocument (inConversation : Bool) : Json :=
  .obj { sampleCanonical with scope := (scopedSubmit inConversation).context }.document

def scopeDigest : Bool → String
  | false => "2a171ee0a79fbad67558a429aa9f0ab12f1dc4f6aa9fb84472762133b45fdd3e"
  | true => "33ebed280ba894c9ee07874b38044394e7809fd07df00a5dee3d5306c4fd1fec"

/-- The digests of the two request documents. -/
def scopeBroker (inConversation : Bool) : BrokerPlatform :=
  { sampleBroker with
    sha256 := fun text ↦
      if text = canonicalJson (hashedDocument inConversation) then scopeDigest inConversation
      else scopeDigest !inConversation
    digest := by
      intro text
      cases inConversation <;> split <;> decide }

def scopedEscalation (inConversation : Bool) : ToolOp :=
  .broker ⟨.execute (scopedSubmit inConversation), sampleDraws 100⟩ (sampleOracle .escalate settledReply)

/-- The call is escalated and resumed. -/
def scopedRun (inConversation : Bool) : List ToolOp :=
  sampleRegistration .always ++ [scopedEscalation inConversation, sampleResume 200 100 settledReply]

/-- The sample Guardian lets every waiting call resume. -/
theorem consumed_of_resume (platform : BrokerPlatform) (draws : Draws) {db : ToolDb}
    {request : ToolCallResume} {call : MCPToolCall} {row : CatalogRow}
    (hcall : findCall db request = some call) (hwaiting : call.status = .waitingApproval)
    (hrow : resumedRow db.registry call.tenantId call.toolVersionId = some row) (reply : RemoteReply) :
    ∃ event ∈ ((serveBroker platform db ⟨.resume request, draws⟩).exec (sampleOracle .allow reply) []).2,
      consumedFor call event = true := by
  have hstatus : ¬call.status ≠ .waitingApproval := not_not.mpr hwaiting
  simp only [serveBroker, resume, hcall, if_neg hstatus, hrow, Program.exec, sampleOracle, followApproval,
    usableToken, Option.isSome_some, if_true, Option.filter_some, ne_eq, String.reduceEq, not_false_eq_true,
    decide_true]
  refine ⟨⟨.consume call.tenantId ⟨"token", call.id, call.requestHash, request.correlationId⟩,
      .ok ⟨23, true, []⟩⟩,
    Program.mem_exec _ _ (List.mem_append_right _ (List.mem_singleton_self _)), ?_⟩
  simp [consumedFor]

section Scoped

variable (inConversation : Bool)

def registeredTools : ToolDb :=
  (toolPlatform (scopeBroker inConversation)).run
    { registry := Installation.blank.registry (scopeBroker inConversation).sha256 } (sampleRegistration .always)

def waitingTools : ToolDb :=
  ((toolPlatform (scopeBroker inConversation)).step (registeredTools inConversation)
    (scopedEscalation inConversation)).2

def scopedLog : List ToolEntry :=
  (toolPlatform (scopeBroker inConversation)).log
    { registry := Installation.blank.registry (scopeBroker inConversation).sha256 } (scopedRun inConversation)

def scopedOrigin : ToolEntry :=
  (toolPlatform (scopeBroker inConversation)).entry (registeredTools inConversation)
    (scopedEscalation inConversation)

def scopedResumption : ToolEntry :=
  (toolPlatform (scopeBroker inConversation)).entry (waitingTools inConversation)
    (sampleResume 200 100 settledReply)

theorem scoped_mem : scopedOrigin inConversation ∈ scopedLog inConversation ∧
    scopedResumption inConversation ∈ scopedLog inConversation := by
  constructor
  · refine ((toolPlatform (scopeBroker inConversation)).mem_log_iff _ _ _).mpr
      ⟨sampleRegistration .always, _, [sampleResume 200 100 settledReply], rfl, rfl⟩
  · refine ((toolPlatform (scopeBroker inConversation)).mem_log_iff _ _ _).mpr
      ⟨sampleRegistration .always ++ [scopedEscalation inConversation],
        sampleResume 200 100 settledReply, [], ?_, ?_⟩
    · rw [scopedRun, List.append_assoc]
      rfl
    · rw [Machine.run_snoc, scopedResumption, waitingTools, registeredTools]

theorem scoped_rebuilds : ∃ call row,
    Escalates (scopedOrigin inConversation) (scopedSubmit inConversation) call ∧
      Rebuilds (scopedResumption inConversation) ⟨1, 100, 5⟩ row call := by
  have hfresh : ∀ old ∈ (registeredTools inConversation).calls, old.id ≠ 100 := by
    cases inConversation <;> decide +kernel
  have hfound : ∃ call ∈ findCall (waitingTools inConversation) ⟨1, 100, 5⟩,
      call.id = 100 ∧ call.status = .waitingApproval ∧
        (resumedRow (waitingTools inConversation).registry call.tenantId call.toolVersionId).isSome = true := by
    cases inConversation <;> decide +kernel
  obtain ⟨call, hcall, hid, hwaiting, hrow⟩ := hfound
  obtain ⟨row, hrow⟩ := Option.isSome_iff_exists.mp hrow
  refine ⟨call, row, ?_, ?_⟩
  · constructor
    case input => exact ⟨sampleDraws 100, sampleOracle .escalate settledReply, by
      simp only [scopedOrigin, Machine.entry, scopedEscalation]⟩
    case fresh =>
      simp only [scopedOrigin, Machine.entry, hid]
      exact hfresh
    case stored =>
      have hstored := List.mem_of_find?_eq_some hcall
      simp only [waitingTools] at hstored
      simp only [scopedOrigin, Machine.entry]
      exact hstored
    case waiting => exact hwaiting
  · have hconsumed := consumed_of_resume (scopeBroker inConversation) (sampleDraws 200) hcall hwaiting hrow
      settledReply
    constructor
    case input => exact ⟨sampleDraws 200, sampleOracle .allow settledReply, by
      simp only [scopedResumption, Machine.entry, sampleResume]⟩
    case found =>
      simp only [scopedResumption, Machine.entry]
      exact hcall
    case waiting => exact hwaiting
    case row =>
      simp only [scopedResumption, Machine.entry]
      exact hrow
    case authorized =>
      let outcome := (serveBroker (scopeBroker inConversation) (waitingTools inConversation)
        ⟨.resume ⟨1, 100, 5⟩, sampleDraws 200⟩).exec (sampleOracle .allow settledReply) []
      refine ⟨(closeTransaction (waitingTools inConversation) outcome.1).1, outcome.2, ?_, hconsumed⟩
      simp only [scopedResumption, Machine.entry, toolPlatform, sampleResume, outcome]

/-- Documents of a run of which one has a digest that no other text has. -/
theorem noCollision_of_pair {sha256 : String → String} {documents : List Json} {document : Json}
    (hlength : documents.length = 2) (hmem : document ∈ documents)
    (hformed : ∀ other ∈ documents, other.wellFormed = true)
    (hseparate : ∀ text, sha256 text = sha256 (canonicalJson document) → text = canonicalJson document) :
    NoCollision sha256 documents := by
  have hsame (other : Json) (hother : other ∈ documents)
      (hhash : canonicalHash sha256 other = canonicalHash sha256 document) : other.Same document :=
    Json.same_of_dumps false (hformed other hother) (hformed document hmem) (hseparate _ hhash)
  intro first hfirst second hsecond hhash
  obtain ⟨left, right, rfl⟩ := List.length_eq_two.mp hlength
  simp only [List.mem_cons, List.not_mem_nil, or_false] at hmem hfirst hsecond
  rcases hfirst with rfl | rfl <;> rcases hsecond with rfl | rfl
  · rfl
  · rcases hmem with rfl | rfl
    · exact (hsame _ (by simp) hhash.symm).symm
    · exact hsame _ (by simp) hhash
  · rcases hmem with rfl | rfl
    · exact hsame _ (by simp) hhash
    · exact (hsame _ (by simp) hhash.symm).symm
  · rfl

/-- The hashed document of the sample call. -/
theorem scoped_document {row : CatalogRow} (hserver : row.server.id = 11) (hversion : row.version.id = 14)
    (hcanonical : row.tool.canonicalName = "bank.transfers.execute")
    (horiginal : row.tool.originalName = "transfers.execute") (platform : BrokerPlatform) (callId : Uuid) :
    .obj (canonicalRequest platform callId (scopedSubmit inConversation) row).document =
      hashedDocument inConversation := by
  simp only [hashedDocument, CanonicalToolRequest.document, canonicalRequest, hserver, hversion, hcanonical,
    horiginal]
  rfl

theorem scopeDigest_ne : scopeDigest (!inConversation) ≠ scopeDigest inConversation := by
  cases inConversation <;> decide

/-- Only the hashed text has its digest. -/
theorem scopeBroker_separates {text : String} (h : (scopeBroker inConversation).sha256 text =
    (scopeBroker inConversation).sha256 (canonicalJson (hashedDocument inConversation))) :
    text = canonicalJson (hashedDocument inConversation) := by
  by_contra hne
  simp only [scopeBroker, if_pos, if_neg hne] at h
  exact scopeDigest_ne inConversation h

theorem scoped_noCollision : NoCollision (scopeBroker inConversation).sha256
    ((scopedLog inConversation).filterMap (requestDocument (scopeBroker inConversation))) := by
  obtain ⟨call, -, hescalates, -⟩ := scoped_rebuilds inConversation
  obtain ⟨row, hop, hadmission, -⟩ := escalates_spec hescalates
  have hrow : ∀ row ∈ resolve (registeredTools inConversation).registry 1 "bank.transfers.execute",
      row.server.id = 11 ∧ row.version.id = 14 ∧ row.tool.canonicalName = "bank.transfers.execute" ∧
        row.tool.originalName = "transfers.execute" := by
    cases inConversation <;> decide +kernel
  obtain ⟨hserver, hversion, hcanonical, horiginal⟩ := hrow row (admitCall_fresh hadmission).1
  have hdocument : requestDocument (scopeBroker inConversation) (scopedOrigin inConversation) =
      some (hashedDocument inConversation) := by
    rw [← scoped_document inConversation hserver hversion hcanonical horiginal
      (scopeBroker inConversation) (sampleDraws 100).callId]
    simp only [requestDocument, scopedOrigin, Machine.entry, scopedEscalation, BrokerCall.target, hadmission,
      Option.map_some, Target.document]
  have hdocuments : ((scopedLog inConversation).filterMap
      (requestDocument (scopeBroker inConversation))).length = 2 ∧
        ∀ document ∈ (scopedLog inConversation).filterMap (requestDocument (scopeBroker inConversation)),
          document.wellFormed = true := by
    cases inConversation <;> decide +kernel
  exact noCollision_of_pair hdocuments.1
    (List.mem_filterMap.mpr ⟨_, (scoped_mem inConversation).1, hdocument⟩) hdocuments.2
    fun _ h ↦ scopeBroker_separates inConversation h

theorem input_scopedRun {op : ToolOp} (h : op ∈ scopedRun inConversation) {call : BrokerCall}
    {oracle : Program.Oracle Ask Reply} (hop : op = .broker call oracle) :
    call = ⟨.execute (scopedSubmit inConversation), sampleDraws 100⟩ ∨
      call = ⟨.resume ⟨1, 100, 5⟩, sampleDraws 200⟩ := by
  rcases List.mem_append.mp h with hregistry | hbroker
  · obtain ⟨review, -, rfl⟩ := List.mem_map.mp hregistry
    cases hop
  · simp only [List.mem_cons, List.not_mem_nil, or_false] at hbroker
    rcases hbroker with rfl | rfl
    · exact Or.inl (ToolOp.broker.inj hop).1.symm
    · exact Or.inr (ToolOp.broker.inj hop).1.symm

theorem restored_scopedRun : EachResumption (scopedLog false) fun submitted request _ _ ↦
    Restored submitted request := by
  intro origin horigin submitted escalated hescalates e he request row call hrebuilds _
  obtain ⟨draws, oracle, hinput⟩ := hescalates.input
  obtain ⟨draws', oracle', hinput'⟩ := hrebuilds.input
  have hsubmitted : submitted = scopedSubmit false := by
    rcases input_scopedRun false ((toolPlatform (scopeBroker false)).input_mem horigin) hinput with h | h
    · exact BrokerOp.execute.inj (BrokerCall.mk.inj h).1
    · cases (BrokerCall.mk.inj h).1
  have hrequest : request = ⟨1, 100, 5⟩ := by
    rcases input_scopedRun false ((toolPlatform (scopeBroker false)).input_mem he) hinput' with h | h
    · cases (BrokerCall.mk.inj h).1
    · exact BrokerOp.resume.inj (BrokerCall.mk.inj h).1
  rw [hsubmitted, hrequest]
  constructor <;> rfl

end Scoped

/-- The call outside of a conversation is resumed as it was hashed. -/
theorem rebuilt_scopedRun :
    EachResumption (scopedLog false)
      (fun _ request row call ↦ RebuiltAsHashed (scopeBroker false) request row call) ∧
      ∃ call row, Rebuilds (scopedResumption false) ⟨1, 100, 5⟩ row call := by
  obtain ⟨call, row, -, hrebuilds⟩ := scoped_rebuilds false
  exact ⟨(resumed_requests_hashed_iff (scopeBroker false) .blank (scopedRun false)
    (scoped_noCollision false)).mpr restored_scopedRun, call, row, hrebuilds⟩

/-- The call from a conversation is resumed with another hash than the stored one. -/
theorem conversation_not_rebuilt :
    ¬EachResumption (scopedLog true) fun _ request row call ↦
      RebuiltAsHashed (scopeBroker true) request row call := by
  intro h
  obtain ⟨call, row, hescalates, hrebuilds⟩ := scoped_rebuilds true
  obtain ⟨horigin, hresumption⟩ := scoped_mem true
  have hrebuilt := h _ horigin _ call hescalates _ hresumption _ row call hrebuilds rfl
  have hrestored := (rebuilt_iff_restored (scoped_noCollision true) horigin hescalates hresumption hrebuilds
    rfl).mp hrebuilt
  exact absurd hrestored.conversationId (by decide)

end Xyena.Tools
