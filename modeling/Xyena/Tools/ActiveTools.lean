import Xyena.Tools.BrokerSpec
import Xyena.Tools.Resolution

/-!
# Which tools the broker runs

`execute` selects active rows only; `resume` selects the stored version of the
call whatever its status has become. A run invokes active tools only as long as
every resumed call still finds its version and its server active: the status of
the tool and of the policy follow that of the version.
-/

namespace Xyena.Tools

open Xyena.Foundation Xyena.Contracts Xyena.Gateway

/-- Every tool that an endpoint call invokes is a row of the catalog that the call has read, and
its tool, version, policy and server are active there. -/
def InvokesActive (e : ToolEntry) : Prop :=
  ∀ invocation ∈ e.output.invocations,
    invocation.row ∈ e.before.registry.catalog ∧ invocation.row.allActive = true

/-- A call that waits for approval finds its version and its server active when it is resumed. -/
def resumesActive (db : ToolDb) : ToolOp → Bool
  | .broker ⟨.resume request, _⟩ _ =>
    (findCall db request).all fun stored ↦
      stored.status != .waitingApproval ||
        (resumedRow db.registry stored.tenantId stored.toolVersionId).all fun row ↦
          row.version.status == .active && row.server.status == .active
  | _ => true

/-- In a well-formed registry an active version has an active tool and an active policy. -/
theorem RegistryInvariant.allActive {db : RegistryDb} (h : RegistryInvariant db) {row : CatalogRow}
    (hrow : row ∈ db.catalog) (hversion : row.version.status = .active)
    (hserver : row.server.status = .active) : row.allActive = true := by
  obtain ⟨⟨htool, hstored, hpolicy, -⟩, hof, hfor, -⟩ := RegistryDb.mem_catalog.mp hrow
  have hactivePolicy := (h.statuses.policyActive _ hpolicy _ hstored hfor).mpr hversion
  have hactiveTool := h.statuses.toolActive _ hstored _ htool hof hversion
  simp [CatalogRow.allActive, hversion, hserver, hactivePolicy, hactiveTool]

theorem registryInvariant_platform_step (platform : BrokerPlatform) (db : ToolDb) (op : ToolOp)
    (h : RegistryInvariant db.registry) :
    RegistryInvariant ((toolPlatform platform).step db op).2.registry := by
  cases op with
  | registry op => exact registryInvariant_step platform.sha256 db.registry op h
  | broker call oracle =>
    rw [step_broker_registry]
    exact h

/-- The row that a broker call works on is an active one of the catalog. -/
theorem target_active {platform : BrokerPlatform} {db : ToolDb} (h : RegistryInvariant db.registry)
    {call : BrokerCall} {oracle : Program.Oracle Ask Reply}
    (hresumes : resumesActive db (.broker call oracle) = true) {target : Target}
    (htarget : call.target platform db = some target) :
    target.row ∈ db.registry.catalog ∧ target.row.allActive = true := by
  rcases BrokerCall.target_cases htarget with
    ⟨-, request, canonical, -, hadmission, -⟩ | ⟨-, request, hop, hfind, hwaiting, hrow⟩
  · obtain ⟨hresolve, -⟩ := admitCall_fresh hadmission
    obtain ⟨hmem, -, hactive⟩ := resolve_spec hresolve
    exact ⟨hmem, hactive⟩
  · have hmem := (List.mem_filter.mp (firstByTenant_mem hrow)).1
    obtain ⟨op, draws⟩ := call
    obtain rfl : op = .resume request := hop
    simp only [resumesActive, hfind, hwaiting, hrow, Option.all_some, bne_self_eq_false,
      Bool.false_or, Bool.and_eq_true, beq_iff_eq] at hresumes
    exact ⟨hmem, h.allActive hmem hresumes.1 hresumes.2⟩

/-- In every run from an installed registry in which every resumed call finds its version and its
server active, only active tools are invoked. -/
theorem invokesActive_of_resumesActive (platform : BrokerPlatform) (installation : Installation)
    (ops : List ToolOp)
    (hresumes : ∀ e ∈ (toolPlatform platform).log
      { registry := installation.registry platform.sha256 } ops,
        resumesActive e.before e.input = true) :
    ∀ e ∈ (toolPlatform platform).log { registry := installation.registry platform.sha256 } ops,
      InvokesActive e := by
  intro e he invocation hinvocation
  have hinvariant := (toolPlatform platform).invariant_before
    (fun db ↦ RegistryInvariant db.registry) (installation.invariant_registry platform.sha256)
    (registryInvariant_platform_step platform) ops he
  have hactive := hresumes e he
  obtain ⟨earlier, op, later, -, rfl⟩ := ((toolPlatform platform).mem_log_iff _ _ _).mp he
  cases op with
  | registry op => cases hinvocation
  | broker call oracle =>
    obtain ⟨target, htarget, hrow, -⟩ := step_invocation hinvocation
    rw [hrow]
    exact target_active hinvariant hactive htarget

theorem invokesActive_escalatedRun :
    (∀ e ∈ (toolPlatform sampleBroker).log
        { registry := Installation.blank.registry sampleBroker.sha256 } (escalatedRun settledReply),
          InvokesActive e) ∧
      (((toolPlatform sampleBroker).log {} (escalatedRun settledReply)).flatMap fun e ↦
        e.output.invocations.map fun invocation ↦ invocation.call.id) = [100] :=
  ⟨invokesActive_of_resumesActive sampleBroker .blank (escalatedRun settledReply) (by decide +kernel),
    by decide +kernel⟩

/-- The server is suspended between the escalation and the resumption. -/
def suspendedRun : List ToolOp :=
  sampleRegistration .always ++
    [sampleExecute 100 .escalate settledReply,
      .registry (.reviewServer 11 (some 1) ⟨.reviewedInternal, .suspended⟩),
      sampleResume 200 100 settledReply]

theorem suspendedRun_not_invokesActive :
    ¬ ∀ e ∈ (toolPlatform sampleBroker).log
        { registry := Installation.blank.registry sampleBroker.sha256 } suspendedRun,
          InvokesActive e := by
  intro h
  have hsuspended : (((toolPlatform sampleBroker).log
      { registry := Installation.blank.registry sampleBroker.sha256 } suspendedRun).any fun e ↦
        e.output.invocations.any fun invocation ↦ !invocation.row.allActive) = true := by
    decide +kernel
  obtain ⟨e, he, hinvocations⟩ := List.any_eq_true.mp hsuspended
  obtain ⟨invocation, hinvocation, hinactive⟩ := List.any_eq_true.mp hinvocations
  rw [(h e he invocation hinvocation).2] at hinactive
  cases hinactive

end Xyena.Tools
