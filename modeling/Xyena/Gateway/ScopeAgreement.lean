import Xyena.Bank.Security
import Xyena.Foundation.JsonText
import Xyena.Foundation.Session
import Xyena.Ledger.Security
import Xyena.Tools.CallRecords

/-!
# The broker's envelope at the bank and at the ledger

The broker signs the envelope of a call with a secret that it shares with a
server, and the bank and the ledger each check it with code of their own. Both
accept it for exactly one tool, the one the call is for, and read every field as
the call row has it; an envelope that differs from the signed one in any field
is refused under that signature.
-/

namespace Xyena.Gateway

open Xyena.Foundation Xyena.Contracts Xyena.Tools

/-- A server that shares the secret of a remote configuration with the client. -/
structure Shares (client : ClientPlatform) (config : RemoteServerConfig) (server : ServerPlatform) :
    Prop where
  secret : resolveSecret client config.secretRef = .ok (some server.mcpToken)
  hmac : server.hmac = client.hmac

/-- What a call needs for its envelope to be accepted for a tool. -/
def Deserves (call : MCPToolCall) (tool : String) : Prop :=
  tool = call.canonicalName ∧ blank call.purpose = false ∧ call.guardianDecisionId.isSome = true ∧
    call.authorizationId.isSome = true

/-- A server agrees with the broker on the envelope of a call that is sent as `sent`. -/
structure Agrees {Scope ε : Type} (verify : Option Dict → String → Except ε Scope)
    (Describes : MCPToolCall → Scope → Prop) (call : MCPToolCall) (sent : Dict) : Prop where
  accepted : ∀ tool, (∃ scope, verify (some sent) tool = .ok scope) ↔ Deserves call tool
  described : ∀ tool scope, verify (some sent) tool = .ok scope → Describes call scope
  /-- The signature admits no other envelope. -/
  altered : ∀ received envelope tool,
    received.lookup "ai.xyena/signature" = sent.lookup "ai.xyena/signature" →
    received.lookup "ai.xyena/runtime" = some (.obj envelope) →
    (Json.obj envelope).wellFormed = true → (envelope.map Prod.fst).Nodup →
    (∃ key, envelope.lookup key ≠ (runtimeEnvelope call).lookup key) →
    ∃ failure, verify (some received) tool = .error failure

/-- The fields of the bank's scope are those of the call row. -/
structure BankDescribes (call : MCPToolCall) (scope : Bank.RuntimeScope) : Prop where
  tenantId : scope.tenantId = call.tenantId.str
  organizationId : scope.organizationId = call.organizationId.str
  userId : scope.userId = call.userId.str
  sessionId : some scope.sessionId = call.sessionId.map Uuid.str
  runId : scope.runId = call.runId.str
  callId : scope.callId = call.id.str
  correlationId : scope.correlationId = call.correlationId.str
  agentName : scope.agentName = call.agentName
  canonicalName : scope.canonicalName = call.canonicalName
  purpose : scope.purpose = call.purpose
  requestHash : scope.requestHash = call.requestHash
  guardianDecisionId : some scope.guardianDecisionId = call.guardianDecisionId.map Uuid.str
  authorizationId : some scope.authorizationId = call.authorizationId.map Uuid.str
  authorizationConsumed : scope.authorizationConsumed = call.authorizationId.isSome

/-- The fields of the ledger's scope are those of the call row. -/
structure LedgerDescribes (call : MCPToolCall) (scope : Ledger.RuntimeScope) : Prop where
  tenantId : scope.tenantId = call.tenantId.str
  organizationId : scope.organizationId = call.organizationId.str
  userId : scope.userId = call.userId.str
  sessionId : some scope.sessionId = call.sessionId.map Uuid.str
  runId : scope.runId = call.runId.str
  callId : scope.callId = call.id.str
  correlationId : scope.correlationId = call.correlationId.str
  agentName : scope.agentName = call.agentName
  canonicalName : scope.canonicalName = call.canonicalName
  purpose : scope.purpose = call.purpose
  requestHash : scope.requestHash = call.requestHash
  guardianDecisionId : some scope.guardianDecisionId = call.guardianDecisionId.map Uuid.str
  authorizationId : some scope.authorizationId = call.authorizationId.map Uuid.str

/-! ## The envelope -/

/-- What the client sends for an envelope that it can sign. -/
def signedMeta (server : ServerPlatform) (envelope : Dict) : Dict :=
  [("ai.xyena/runtime", .obj envelope),
    ("ai.xyena/signature", .str (server.signature envelope)),
    ("ai.xyena/signature-algorithm", .str "hmac-sha256")]

theorem Shares.signed {client : ClientPlatform} {config : RemoteServerConfig}
    {server : ServerPlatform} (h : Shares client config server) (envelope : Dict) :
    signedRuntimeMeta client config envelope = .ok (signedMeta server envelope) := by
  simp only [signedRuntimeMeta, h.secret, bind, Except.bind, signedMeta, ServerPlatform.signature,
    h.hmac]

theorem signedEnvelope_signedMeta {ε : Type} (server : ServerPlatform) (errors : SignatureErrors ε)
    (envelope : Dict) : signedEnvelope server errors (some (signedMeta server envelope)) = .ok envelope :=
  signedEnvelope_ok.mpr ⟨rfl, rfl, rfl⟩

theorem runtimeEnvelope_keys (call : MCPToolCall) :
    (runtimeEnvelope call).map Prod.fst = Bank.required := rfl

theorem runtimeEnvelope_nodup (call : MCPToolCall) :
    ((runtimeEnvelope call).map Prod.fst).Nodup := by
  rw [runtimeEnvelope_keys]
  decide

theorem runtimeEnvelope_isScalar (call : MCPToolCall) :
    ∀ field ∈ runtimeEnvelope call, field.2.isScalar = true := by
  have hoptional (id : Option Uuid) : (optionalId id).isScalar = true := by
    cases id <;> rfl
  intro field hfield
  simp only [runtimeEnvelope, List.mem_cons, List.not_mem_nil, or_false] at hfield
  rcases hfield with rfl | rfl | rfl | rfl | rfl | rfl | rfl | rfl | rfl | rfl | rfl | rfl | rfl | rfl <;>
    first | rfl | exact hoptional _

theorem runtimeEnvelope_wellFormed (call : MCPToolCall) :
    (Json.obj (runtimeEnvelope call)).wellFormed = true := by
  have hoptional (id : Option Uuid) : (optionalId id).wellFormed = true := by
    cases id <;> rfl
  simp [Json.wellFormed, Json.wellFormedFields, runtimeEnvelope, hoptional]

theorem str_ne_empty (id : Uuid) : id.str ≠ "" := by
  intro h
  have hlength := congrArg (fun text ↦ text.toList.length) h
  simp [Uuid.str] at hlength

theorem truthy_optionalId (id : Option Uuid) : (optionalId id).truthy = id.isSome := by
  cases id with
  | none => rfl
  | some id => simp [optionalId, Json.ofOption, Json.truthy, str_ne_empty]

section Checks

variable (call : MCPToolCall)

theorem holdsText_canonicalName (tool : String) :
    holdsText (runtimeEnvelope call) "canonical_name" tool = true ↔ tool = call.canonicalName :=
  beq_iff_eq.trans eq_comm

theorem holdsTruthy_decision :
    holdsTruthy (runtimeEnvelope call) "guardian_decision_id" = call.guardianDecisionId.isSome :=
  truthy_optionalId call.guardianDecisionId

theorem holdsTruthy_authorization :
    holdsTruthy (runtimeEnvelope call) "authorization_id" = call.authorizationId.isSome :=
  truthy_optionalId call.authorizationId

theorem holdsTrue_consumed :
    holdsTrue (runtimeEnvelope call) "authorization_consumed" = call.authorizationId.isSome := rfl

theorem textOf_purpose (server : ServerPlatform) :
    server.textOf (runtimeEnvelope call) "purpose" = call.purpose := rfl

theorem isSome_lookup (key : String) (hkey : key ∈ Bank.required) :
    ((runtimeEnvelope call).lookup key).isSome = true := by
  rw [← runtimeEnvelope_keys call] at hkey
  obtain ⟨field, hfield, rfl⟩ := List.mem_map.mp hkey
  rw [(Json.lookup_eq_some (runtimeEnvelope_nodup call)).mpr hfield]
  rfl

end Checks

/-! ## The two servers -/

section Servers

variable {call : MCPToolCall} {server : ServerPlatform} {tool : String}

theorem bank_checkEnvelope {scope : Bank.RuntimeScope} :
    Bank.checkEnvelope server (runtimeEnvelope call) tool = .ok scope ↔
      Deserves call tool ∧ scope = Bank.scopeOf server (runtimeEnvelope call) := by
  rw [Bank.checkEnvelope_ok, holdsText_canonicalName, holdsTruthy_decision, holdsTruthy_authorization,
    holdsTrue_consumed, textOf_purpose, Deserves]
  constructor
  · rintro ⟨-, hname, hpurpose, hdecision, hauthorization, -, hscope⟩
    exact ⟨⟨hname, hpurpose, hdecision, hauthorization⟩, hscope⟩
  · rintro ⟨⟨hname, hpurpose, hdecision, hauthorization⟩, hscope⟩
    exact ⟨isSome_lookup call, hname, hpurpose, hdecision, hauthorization, hauthorization, hscope⟩

theorem ledger_checkEnvelope {scope : Ledger.RuntimeScope} :
    Ledger.checkEnvelope server (runtimeEnvelope call) tool = .ok scope ↔
      Deserves call tool ∧ scope = Ledger.scopeOf server (runtimeEnvelope call) := by
  rw [Ledger.checkEnvelope_ok, holdsText_canonicalName, holdsTruthy_decision,
    holdsTruthy_authorization, textOf_purpose, Deserves]
  constructor
  · rintro ⟨-, hname, hpurpose, hdecision, hauthorization, hscope⟩
    exact ⟨⟨hname, hpurpose, hdecision, hauthorization⟩, hscope⟩
  · rintro ⟨⟨hname, hpurpose, hdecision, hauthorization⟩, hscope⟩
    refine ⟨fun key hkey ↦ ?_, hname, hpurpose, hdecision, hauthorization, hscope⟩
    exact isSome_lookup call key (List.mem_append_left ["authorization_consumed"] hkey)

theorem textOf_optionalId (id : Option Uuid) (hid : id.isSome = true) :
    some ((optionalId id).text server.containerText) = id.map Uuid.str := by
  cases id with
  | none => cases hid
  | some id => rfl

theorem bankDescribes_scopeOf (hsession : call.sessionId.isSome = true) (h : Deserves call tool) :
    BankDescribes call (Bank.scopeOf server (runtimeEnvelope call)) := by
  obtain ⟨-, -, hdecision, hauthorization⟩ := h
  obtain ⟨session, hsession⟩ := Option.isSome_iff_exists.mp hsession
  constructor
  case sessionId =>
    change some ((call.sessionId.map Uuid.str).getD "None") = _
    rw [hsession]
    rfl
  case guardianDecisionId => exact textOf_optionalId call.guardianDecisionId hdecision
  case authorizationId => exact textOf_optionalId call.authorizationId hauthorization
  case authorizationConsumed => exact hauthorization.symm
  all_goals rfl

theorem ledgerDescribes_scopeOf (hsession : call.sessionId.isSome = true) (h : Deserves call tool) :
    LedgerDescribes call (Ledger.scopeOf server (runtimeEnvelope call)) := by
  obtain ⟨-, -, hdecision, hauthorization⟩ := h
  obtain ⟨session, hsession⟩ := Option.isSome_iff_exists.mp hsession
  constructor
  case sessionId =>
    change some ((call.sessionId.map Uuid.str).getD "None") = _
    rw [hsession]
    rfl
  case guardianDecisionId => exact textOf_optionalId call.guardianDecisionId hdecision
  case authorizationId => exact textOf_optionalId call.authorizationId hauthorization
  all_goals rfl

/-- Under the signature of a call only its own envelope passes. -/
theorem envelope_of_signature {ε : Type} {errors : SignatureErrors ε} {received envelope : Dict}
    (hcollision : ∀ text, server.hmac server.mcpToken text = server.signature (runtimeEnvelope call) →
      text = Json.dumps true (.obj (runtimeEnvelope call)))
    (hsignature : received.lookup "ai.xyena/signature" =
      some (.str (server.signature (runtimeEnvelope call))))
    (hwell : (Json.obj envelope).wellFormed = true) (hnodup : (envelope.map Prod.fst).Nodup)
    (h : signedEnvelope server errors (some received) = .ok envelope) (key : String) :
    envelope.lookup key = (runtimeEnvelope call).lookup key := by
  obtain ⟨-, hown, -⟩ := signedEnvelope_ok.mp h
  have hsame : server.signature envelope = server.signature (runtimeEnvelope call) :=
    Json.str.inj (Option.some.inj (hown.symm.trans hsignature))
  have hdocument := Json.same_of_dumps true hwell (runtimeEnvelope_wellFormed call)
    (hcollision _ hsame)
  exact hdocument.lookup_eq hnodup (runtimeEnvelope_nodup call) (runtimeEnvelope_isScalar call) key

/-- A verifier that checks the signature first agrees with the broker when its other checks do. -/
theorem agrees_of_check {Scope ε : Type} {errors : SignatureErrors ε}
    {check : Dict → String → Except ε Scope} {verify : Option Dict → String → Except ε Scope}
    {Describes : MCPToolCall → Scope → Prop} {read : Dict → Scope}
    (hverify : ∀ requestMeta tool scope, verify requestMeta tool = .ok scope ↔
      ∃ envelope, signedEnvelope server errors requestMeta = .ok envelope ∧
        check envelope tool = .ok scope)
    (hcheck : ∀ tool scope, check (runtimeEnvelope call) tool = .ok scope ↔
      Deserves call tool ∧ scope = read (runtimeEnvelope call))
    (hdescribes : ∀ tool, Deserves call tool → Describes call (read (runtimeEnvelope call)))
    (hcollision : ∀ text, server.hmac server.mcpToken text = server.signature (runtimeEnvelope call) →
      text = Json.dumps true (.obj (runtimeEnvelope call))) :
    Agrees verify Describes call (signedMeta server (runtimeEnvelope call)) := by
  have hsent (tool : String) (scope : Scope) :
      verify (some (signedMeta server (runtimeEnvelope call))) tool = .ok scope ↔
        Deserves call tool ∧ scope = read (runtimeEnvelope call) := by
    rw [hverify, ← hcheck]
    constructor
    · rintro ⟨envelope, henvelope, hok⟩
      rw [signedEnvelope_signedMeta] at henvelope
      rwa [Except.ok.inj henvelope]
    · intro hok
      exact ⟨_, signedEnvelope_signedMeta server errors _, hok⟩
  refine ⟨fun tool ↦ ?_, fun tool scope hok ↦ ?_, ?_⟩
  · constructor
    · rintro ⟨scope, hok⟩
      exact ((hsent tool scope).mp hok).1
    · intro h
      exact ⟨_, (hsent tool _).mpr ⟨h, rfl⟩⟩
  · obtain ⟨hdeserves, rfl⟩ := (hsent tool scope).mp hok
    exact hdescribes tool hdeserves
  · rintro received envelope tool hsignature hruntime hwell hnodup ⟨key, hkey⟩
    cases houtcome : verify (some received) tool with
    | error failure => exact ⟨failure, rfl⟩
    | ok scope =>
      obtain ⟨found, hfound, -⟩ := (hverify _ _ _).mp houtcome
      have henvelope : found = envelope :=
        Json.obj.inj (Option.some.inj ((signedEnvelope_ok.mp hfound).1.symm.trans hruntime))
      rw [henvelope] at hfound
      exact absurd (envelope_of_signature hcollision hsignature hwell hnodup hfound key) hkey

end Servers

/-! ## Committed calls -/

/-- Every stored call belongs to a session: the flush of a new call refuses it otherwise. -/
def InSession (db : ToolDb) : Prop := ∀ call ∈ db.calls, call.sessionId.isSome = true

theorem inSession_step (platform : BrokerPlatform) (db : ToolDb) (op : ToolOp) (h : InSession db) :
    InSession ((toolPlatform platform).step db op).2 := by
  cases op with
  | registry op => exact h
  | broker call oracle =>
    match htarget : call.target platform db with
    | none =>
      obtain ⟨answer, hstep, -⟩ := step_of_no_target htarget oracle
      rw [hstep]
      exact h
    | some target =>
      obtain ⟨outcome, trace, hstep, hending, -⟩ := step_of_target htarget oracle
      rw [hstep]
      rcases hending.close db with hkept | ⟨writes, hinserted, hcall, -, -, hcommitted⟩
      · rw [hkept]
        exact h
      · have hplaced := placed_of_target htarget hinserted hcall
        have hsession : target.call.sessionId.isSome = true := by
          rcases BrokerCall.target_cases htarget with
            ⟨-, request, canonical, -, hadmission, hrow⟩ | ⟨-, request, -, hfind, -⟩
          · obtain ⟨-, -, -, -, -, hstorable⟩ := admitCall_fresh hadmission
            rw [← hrow] at hstorable
            simp only [MCPToolCall.storable, Bool.and_eq_true] at hstorable
            exact hstorable.1.1.1.1.1.1
          · exact h _ (List.mem_of_find?_eq_some hfind)
        simp only [hcommitted]
        intro stored hstored
        rcases (Writes.mem_apply_calls hplaced).mp hstored with rfl | ⟨hold, -⟩
        · obtain ⟨_, _, _, _, hadvanced⟩ := hcall
          rw [hadvanced]
          exact hsession
        · exact h stored hold

/-- In every state that the platform reaches, the envelope of every stored call can be signed for a
server with a shared secret, and both verifiers agree with the broker on it. -/
theorem runtimeScope_agreement (broker : BrokerPlatform) (registry : RegistryDb)
    (outbox : List OutboxEvent) (audit : List Audit.AuditEvent) (ops : List ToolOp) {call : MCPToolCall}
    (hcall : call ∈ ((toolPlatform broker).run
      { registry := registry, outbox := outbox, audit := audit } ops).calls)
    (config : RemoteServerConfig) (server : ServerPlatform) (hshares : Shares broker.client config server)
    (hcollision : ∀ text, server.hmac server.mcpToken text =
      server.hmac server.mcpToken (Json.dumps true (.obj (runtimeEnvelope call))) →
        text = Json.dumps true (.obj (runtimeEnvelope call))) :
    ∃ sent, signedRuntimeMeta broker.client config (runtimeEnvelope call) = .ok sent ∧
      Agrees (Bank.verifyRuntimeScope server) BankDescribes call sent ∧
      Agrees (Ledger.verifyRuntimeScope server) LedgerDescribes call sent := by
  have hsession : call.sessionId.isSome = true :=
    (toolPlatform broker).run_invariant InSession (by simp [InSession])
      (inSession_step broker) ops call hcall
  refine ⟨_, hshares.signed _, ?_, ?_⟩
  · exact agrees_of_check (fun _ _ _ ↦ Session.bind_ok) (fun _ _ ↦ bank_checkEnvelope)
      (fun _ ↦ bankDescribes_scopeOf hsession) hcollision
  · exact agrees_of_check (fun _ _ _ ↦ Session.bind_ok) (fun _ _ ↦ ledger_checkEnvelope)
      (fun _ ↦ ledgerDescribes_scopeOf hsession) hcollision

/-- The envelope of the sample call, as it is signed. -/
def sampleEnvelopeText : String :=
  "\x7b\"agent_name\":\"payments-agent\"," ++
    "\"authorization_consumed\":true," ++
    "\"authorization_id\":\"00000000-0000-0000-0000-000000000017\"," ++
    "\"call_id\":\"00000000-0000-0000-0000-000000000064\"," ++
    "\"canonical_name\":\"bank.transfers.execute\"," ++
    "\"correlation_id\":\"00000000-0000-0000-0000-000000000005\"," ++
    "\"guardian_decision_id\":\"00000000-0000-0000-0000-000000000015\"," ++
    "\"organization_id\":\"00000000-0000-0000-0000-000000000002\"," ++
    "\"purpose\":\"settle invoice\"," ++
    "\"request_hash\":\"770a6bf109d0e1a87cd619486d047fc0e4a360a5089f157f5fe035ccc490c3b6\"," ++
    "\"run_id\":\"00000000-0000-0000-0000-000000000006\"," ++
    "\"session_id\":\"00000000-0000-0000-0000-000000000004\"," ++
    "\"tenant_id\":\"00000000-0000-0000-0000-000000000001\"," ++
    "\"user_id\":\"00000000-0000-0000-0000-000000000003\"\x7d"

/-- The digest of the sample envelope; other texts are marked. -/
def sampleHmac (secret text : String) : String :=
  if text = sampleEnvelopeText then "0208dfad3edcd1bceb1fdf109c3508ebdbb6286b0be9ffc11bef070b5fd6002c"
  else "digest of " ++ text ++ " under " ++ secret

theorem sampleHmac_injective (secret : String) : Function.Injective (sampleHmac secret) := by
  have hmarked (text : String) : ("digest of " ++ text ++ " under " ++ secret).toList.head? = some 'd' := by
    simp
  intro first second h
  simp only [sampleHmac] at h
  split at h <;> split at h
  next hfirst hsecond => rw [hfirst, hsecond]
  · have hhead := hmarked second
    rw [← h] at hhead
    exact absurd hhead (by decide)
  · have hhead := hmarked first
    rw [h] at hhead
    exact absurd hhead (by decide)
  · simpa using h

def signingBroker : BrokerPlatform :=
  { sampleBroker with client := { sampleBroker.client with hmac := sampleHmac } }

def sampleConfig : RemoteServerConfig where
  endpoint := "https://bank.example/mcp"
  authType := "BEARER"
  secretRef := some "env://BANK_SECRET"
  timeoutSeconds := 30
  maxRetries := 0
  allowedEgressHosts := ["bank.example"]

def sampleServer : ServerPlatform where
  mcpToken := "bank-secret"
  hmac := sampleHmac
  sha256 := sampleSha256
  containerText _ := "[]"

/-- The sample call, escalated and resumed, is accepted by the bank for its tool. -/
theorem runtimeScope_agreement_escalatedRun :
    ∃ call ∈ ((toolPlatform signingBroker).run {} (escalatedRun settledReply)).calls,
      ∃ sent, signedRuntimeMeta signingBroker.client sampleConfig (runtimeEnvelope call) = .ok sent ∧
        Agrees (Bank.verifyRuntimeScope sampleServer) BankDescribes call sent ∧
        Agrees (Ledger.verifyRuntimeScope sampleServer) LedgerDescribes call sent ∧
        ∃ scope, Bank.verifyRuntimeScope sampleServer (some sent) "bank.transfers.execute" = .ok scope := by
  have hcalls : (((toolPlatform signingBroker).run {} (escalatedRun settledReply)).calls.any fun call ↦
      call.canonicalName == "bank.transfers.execute" && !blank call.purpose &&
        call.guardianDecisionId.isSome && call.authorizationId.isSome) = true := by
    decide +kernel
  obtain ⟨call, hcall, hfields⟩ := List.any_eq_true.mp hcalls
  simp only [Bool.and_eq_true, beq_iff_eq, Bool.not_eq_true'] at hfields
  obtain ⟨⟨⟨hname, hpurpose⟩, hdecision⟩, hauthorization⟩ := hfields
  have hshares : Shares signingBroker.client sampleConfig sampleServer := ⟨rfl, rfl⟩
  have hinjective : Function.Injective (sampleServer.hmac sampleServer.mcpToken) := by
    dsimp only [sampleServer]
    exact sampleHmac_injective "bank-secret"
  obtain ⟨sent, hsent, hbank, hledger⟩ := runtimeScope_agreement signingBroker {} [] []
    (escalatedRun settledReply) hcall sampleConfig sampleServer hshares
    fun _ h ↦ hinjective h
  exact ⟨call, hcall, sent, hsent, hbank, hledger,
    (hbank.accepted _).mpr ⟨hname.symm, hpurpose, hdecision, hauthorization⟩⟩

end Xyena.Gateway
