import Xyena.Contracts.Guardian

/-!
# What a dumped document determines

Contracts are compared by the hash of their JSON dump. Two dumps that are the
same document come from contracts that agree in every field; only the free
arguments of a tool call are determined up to the order of their keys.
-/

namespace Xyena.Contracts

open Xyena.Foundation

/-- The dumped field of two contracts whose dumps are the same document. -/
theorem same_field {first second : Dict} (h : Json.Same (.obj first) (.obj second))
    (hfirst : (first.map Prod.fst).Nodup) (hsecond : (second.map Prod.fst).Nodup) (key : String)
    {value other : Json} (hvalue : first.lookup key = some value)
    (hother : second.lookup key = some other) : value.normalize = other.normalize := by
  have hlookup := h.lookup hfirst hsecond key
  rw [hvalue, hother] at hlookup
  exact Option.some.inj hlookup

theorem optionalId_inj {first second : Option Uuid} :
    (optionalId first).normalize = (optionalId second).normalize ↔ first = second := by
  rw [optionalId, optionalId, Json.normalize_ofOption, Json.normalize_ofOption, Json.ofOption_inj,
    Uuid.optionMap_str_inj]

theorem id_inj {first second : Uuid} :
    (Json.str first.str).normalize = (Json.str second.str).normalize ↔ first = second := by
  simp only [Json.normalize, Json.str.injEq, Uuid.str_inj]

theorem text_inj {first second : String} :
    (Json.str first).normalize = (Json.str second).normalize ↔ first = second := by
  simp only [Json.normalize, Json.str.injEq]

theorem texts_inj {first second : List String} :
    (Json.strings first).normalize = (Json.strings second).normalize ↔ first = second := by
  rw [Json.normalize_strings, Json.normalize_strings, Json.strings_inj]

theorem optionalText_inj {first second : Option String} :
    (Json.ofOption first).normalize = (Json.ofOption second).normalize ↔ first = second := by
  rw [Json.normalize_ofOption, Json.normalize_ofOption, Json.ofOption_inj]

theorem flag_inj {first second : Bool} :
    (Json.bool first).normalize = (Json.bool second).normalize ↔ first = second := by
  simp only [Json.normalize, Json.bool.injEq]

theorem RuntimeContext.fields_nodup (context : RuntimeContext) :
    (context.fields.map Prod.fst).Nodup := by
  simp [RuntimeContext.fields]

/-- A dumped scope determines the scope. -/
theorem RuntimeContext.eq_of_dump {first second : RuntimeContext}
    (h : Json.Same first.dump second.dump) : first = second := by
  have hfield := same_field h first.fields_nodup second.fields_nodup
  have htenant := id_inj.mp (hfield "tenant_id" rfl rfl)
  have horganization := id_inj.mp (hfield "organization_id" rfl rfl)
  have huser := id_inj.mp (hfield "user_id" rfl rfl)
  have hsession := optionalId_inj.mp (hfield "session_id" rfl rfl)
  have hconversation := optionalId_inj.mp (hfield "conversation_id" rfl rfl)
  have hrun := optionalId_inj.mp (hfield "run_id" rfl rfl)
  have hcase := optionalId_inj.mp (hfield "case_id" rfl rfl)
  have hcorrelation := id_inj.mp (hfield "correlation_id" rfl rfl)
  have hroles := texts_inj.mp (hfield "roles" rfl rfl)
  have hconsents := Uuid.map_str_inj.mp (texts_inj.mp (hfield "consent_ids" rfl rfl))
  have hbundle := text_inj.mp (hfield "policy_bundle_version" rfl rfl)
  have hlocale := text_inj.mp (hfield "locale" rfl rfl)
  have htimezone := text_inj.mp (hfield "timezone" rfl rfl)
  cases first
  cases second
  simp only at *
  subst_vars
  rfl

theorem ToolPolicySnapshot.fields_nodup (policy : ToolPolicySnapshot) :
    (policy.fields.map Prod.fst).Nodup := by
  simp [ToolPolicySnapshot.fields]

/-- A dumped policy snapshot determines the snapshot. -/
theorem ToolPolicySnapshot.eq_of_dump {first second : ToolPolicySnapshot}
    (h : Json.Same first.dump second.dump) : first = second := by
  have hfield := same_field h first.fields_nodup second.fields_nodup
  have hrisk := ToolRiskClass.value_inj.mp (text_inj.mp (hfield "risk_class" rfl rfl))
  have hroles := texts_inj.mp (hfield "required_roles" rfl rfl)
  have hpurposes := texts_inj.mp (hfield "required_purposes" rfl rfl)
  have hconsents := texts_inj.mp (hfield "required_consents" rfl rfl)
  have hagents := texts_inj.mp (hfield "allowed_agents" rfl rfl)
  have hmode := ApprovalMode.value_inj.mp (text_inj.mp (hfield "approval_mode" rfl rfl))
  have heffects := flag_inj.mp (hfield "side_effects" rfl rfl)
  have hidempotent := flag_inj.mp (hfield "idempotent" rfl rfl)
  cases first
  cases second
  simp only at *
  subst_vars
  rfl

/-- Two canonical requests have the same content: they agree in every field that the request hash
covers, the arguments up to the order of their keys. -/
structure CanonicalToolRequest.SameContent (first second : CanonicalToolRequest) : Prop where
  runId : first.runId = second.runId
  agentVersionId : first.agentVersionId = second.agentVersionId
  agentName : first.agentName = second.agentName
  scope : first.scope = second.scope
  serverId : first.serverId = second.serverId
  toolVersionId : first.toolVersionId = second.toolVersionId
  canonicalName : first.canonicalName = second.canonicalName
  originalName : first.originalName = second.originalName
  normalizedArguments : Json.Same (.obj first.normalizedArguments) (.obj second.normalizedArguments)
  purpose : first.purpose = second.purpose
  resourceRefs : first.resourceRefs = second.resourceRefs
  idempotencyKey : first.idempotencyKey = second.idempotencyKey

theorem CanonicalToolRequest.document_nodup (request : CanonicalToolRequest) :
    (request.document.map Prod.fst).Nodup := by
  simp [CanonicalToolRequest.document]

/-- The document that the request hash is taken of determines the content. -/
theorem CanonicalToolRequest.sameContent_of_document {first second : CanonicalToolRequest}
    (h : Json.Same (.obj first.document) (.obj second.document)) : first.SameContent second := by
  have hfield := same_field h first.document_nodup second.document_nodup
  exact
    { runId := id_inj.mp (hfield "run_id" rfl rfl)
      agentVersionId := optionalId_inj.mp (hfield "agent_version_id" rfl rfl)
      agentName := text_inj.mp (hfield "agent_name" rfl rfl)
      scope := RuntimeContext.eq_of_dump (hfield "scope" rfl rfl)
      serverId := id_inj.mp (hfield "server_id" rfl rfl)
      toolVersionId := id_inj.mp (hfield "tool_version_id" rfl rfl)
      canonicalName := text_inj.mp (hfield "canonical_name" rfl rfl)
      originalName := text_inj.mp (hfield "original_name" rfl rfl)
      normalizedArguments := hfield "normalized_arguments" rfl rfl
      purpose := text_inj.mp (hfield "purpose" rfl rfl)
      resourceRefs := texts_inj.mp (hfield "resource_refs" rfl rfl)
      idempotencyKey := optionalText_inj.mp (hfield "idempotency_key" rfl rfl) }

/-- What a dumped evaluation determines of the data that the policy engine reads. -/
theorem GuardianEvaluationRequest.of_dump {first second : GuardianEvaluationRequest}
    (h : Json.Same first.dump second.dump) :
    first.policy = second.policy ∧ first.request.agentName = second.request.agentName ∧
      first.request.scope = second.request.scope ∧
      first.request.purpose = second.request.purpose ∧
      first.request.idempotencyKey = second.request.idempotencyKey ∧
      first.request.requestHash = second.request.requestHash := by
  have hpart := same_field h (by simp) (by simp)
  have hkeys (request : CanonicalToolRequest) :
      ((("call_id", Json.str request.callId.str) :: request.document ++
        [("request_hash", Json.str request.requestHash)]).map Prod.fst).Nodup := by
    simp [CanonicalToolRequest.document]
  have hfield := same_field (hpart "request" rfl rfl) (hkeys first.request) (hkeys second.request)
  exact ⟨ToolPolicySnapshot.eq_of_dump (hpart "policy" rfl rfl),
    text_inj.mp (hfield "agent_name" rfl rfl), RuntimeContext.eq_of_dump (hfield "scope" rfl rfl),
    text_inj.mp (hfield "purpose" rfl rfl), optionalText_inj.mp (hfield "idempotency_key" rfl rfl),
    text_inj.mp (hfield "request_hash" rfl rfl)⟩

end Xyena.Contracts
