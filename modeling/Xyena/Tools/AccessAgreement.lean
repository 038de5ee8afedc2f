import Xyena.Guardian.Policy
import Xyena.Tools.Broker

/-!
# The broker's check and Guardian's policy

`ToolBroker._validate_access` and `GuardianPolicyEngine.evaluate` are two chains
of guards over the same data. Both are the chain `refusal` below behind guards
of their own, so they agree on what is refused and on the reason that is named
first.
-/

namespace Xyena.Tools

open Xyena.Foundation Xyena.Contracts Xyena.Guardian

/-! ## The common chain -/

/-- The first of the five common reasons for which a submitted call is refused. -/
def refusal (request : ToolCallSubmit) (row : CatalogRow) : Option BrokerCode :=
  let policy := row.policy
  if policy.allowedAgents ≠ [] ∧ request.agentName ∉ policy.allowedAgents then some .agentNotGranted
  else if ¬ policy.requiredRoles ⊆ request.context.roles then some .roleRequired
  else if policy.requiredPurposes ≠ [] ∧ request.intent.purpose ∉ policy.requiredPurposes then
    some .purposeNotAllowed
  else if ¬ policy.requiredConsents ⊆ request.context.consentIds.map Uuid.str then
    some .consentRequired
  else if row.version.sideEffects = true ∧ ¬ truthy request.intent.idempotencyKey then
    some .idempotencyRequired
  else none

/-- The codes that the chain can name. -/
def sharedCodes : List BrokerCode :=
  [.agentNotGranted, .roleRequired, .purposeNotAllowed, .consentRequired, .idempotencyRequired]

/-- What Guardian is asked about a submitted call. -/
def evaluationOf (platform : BrokerPlatform) (callId : Uuid) (request : ToolCallSubmit)
    (row : CatalogRow) : GuardianEvaluationRequest :=
  ⟨canonicalRequest platform callId request row, policySnapshot row.version row.policy⟩

/-- Guardian's rules behind the guards. -/
def rules (version : MCPToolVersion) (policy : MCPToolPolicy) (requestHash : String) : PolicyResult :=
  if policy.approvalMode = .always ∨ version.riskClass = .privileged then
    { outcome := .escalate
      reasonCodes := ["HUMAN_APPROVAL_REQUIRED"]
      constraints := exactRequest requestHash }
  else if version.riskClass = .sensitiveRead ∨ version.riskClass = .mutate then
    { outcome := .allow
      reasonCodes := ["PROTECTED_POLICY_SATISFIED"]
      constraints := exactRequest requestHash }
  else if version.riskClass = .read ∧ policy.approvalMode = .never then
    { outcome := .allow
      reasonCodes := ["SAFE_READ"] }
  else PolicyEngine.block "NO_ALLOW_RULE"

section Chains

variable (platform : BrokerPlatform) (callId : Uuid) (request : ToolCallSubmit) (row : CatalogRow)

theorem requestHash_ne_empty : (canonicalRequest platform callId request row).requestHash ≠ "" := by
  intro hempty
  have hlength := platform.digest (canonicalJson
    (.obj (canonicalRequest platform callId request row).document))
  have hhash : platform.sha256 (canonicalJson
      (.obj (canonicalRequest platform callId request row).document)) = "" := hempty
  rw [hhash] at hlength
  cases hlength

/-- The broker checks the session and the statuses first, then the common chain. -/
theorem validateAccess_chain (hsession : request.context.sessionId ≠ none)
    (hactive : row.allActive = true) :
    match refusal request row with
    | some code => ∃ message, validateAccess request row = .error (.broker code message)
    | none => validateAccess request row = .ok ⟨⟩ := by
  simp only [validateAccess, if_neg hsession, hactive, Bool.true_eq_false, if_false, refusal]
  split_ifs <;> first | exact ⟨_, rfl⟩ | rfl

/-- Guardian checks the tenant first, then the common chain, and applies its rules last. -/
theorem evaluate_chain (htenant : request.context.tenantId ≠ 0) :
    PolicyEngine.evaluate (evaluationOf platform callId request row) =
      match refusal request row with
      | some code => PolicyEngine.block code.value
      | none => rules row.version row.policy
          (canonicalRequest platform callId request row).requestHash := by
  have hscope : ¬ ((canonicalRequest platform callId request row).requestHash = "" ∨
      request.context.tenantId = 0) :=
    not_or.mpr ⟨requestHash_ne_empty platform callId request row, htenant⟩
  have hrequest : (canonicalRequest platform callId request row).scope = request.context ∧
      (canonicalRequest platform callId request row).agentName = request.agentName ∧
      (canonicalRequest platform callId request row).purpose = request.intent.purpose ∧
      (canonicalRequest platform callId request row).idempotencyKey =
        request.intent.idempotencyKey := ⟨rfl, rfl, rfl, rfl⟩
  obtain ⟨hcontext, hagent, hpurpose, hkey⟩ := hrequest
  simp only [PolicyEngine.evaluate, evaluationOf, policySnapshot, hcontext, hagent, hpurpose, hkey,
    if_neg hscope, refusal]
  change (if _ then _ else if _ then _ else if _ then _ else if _ then _ else if _ then _ else
    rules row.version row.policy (canonicalRequest platform callId request row).requestHash) = _
  split_ifs <;> rfl

end Chains

theorem refusal_mem {request : ToolCallSubmit} {row : CatalogRow} {code : BrokerCode}
    (h : refusal request row = some code) : code ∈ sharedCodes := by
  simp only [refusal] at h
  split_ifs at h <;> (obtain rfl := Option.some.inj h; decide)

theorem sharedCodes_value {first second : BrokerCode} (hfirst : first ∈ sharedCodes)
    (hsecond : second ∈ sharedCodes) (h : first.value = second.value) : first = second := by
  have hvalues : ∀ first ∈ sharedCodes, ∀ second ∈ sharedCodes, first.value = second.value →
      first = second := by decide
  exact hvalues first hfirst second hsecond h

/-! ## More roles and consents -/

/-- The same call with a scope that has at least the old roles and consents. -/
structure Widens (request wider : ToolCallSubmit) : Prop where
  roles : request.context.roles ⊆ wider.context.roles
  consents : request.context.consentIds ⊆ wider.context.consentIds
  rest : wider = { request with context :=
    { request.context with
      roles := wider.context.roles
      consentIds := wider.context.consentIds } }

theorem refusal_of_widens {request wider : ToolCallSubmit} {row : CatalogRow}
    (hwidens : Widens request wider) (h : refusal request row = none) :
    refusal wider row = none := by
  obtain ⟨hroles, hconsents, hrest⟩ := hwidens
  have hagent : wider.agentName = request.agentName := by rw [hrest]
  have hintent : wider.intent = request.intent := by rw [hrest]
  simp only [refusal] at h ⊢
  simp only [hagent, hintent]
  split_ifs at h with h₁ h₂ h₃ h₄ h₅
  have hgranted : row.policy.requiredRoles ⊆ wider.context.roles := List.Subset.trans h₂ hroles
  have hconsented : row.policy.requiredConsents ⊆ wider.context.consentIds.map Uuid.str :=
    List.Subset.trans h₄ (List.map_subset Uuid.str hconsents)
  rw [if_neg h₁, if_neg (not_not.mpr hgranted), if_neg h₃, if_neg (not_not.mpr hconsented),
    if_neg h₅]

/-! ## Agreement -/

/-- The broker's check and Guardian's policy on the data of one submitted call. -/
structure AccessAgreement (platform : BrokerPlatform) (callId : Uuid) (request : ToolCallSubmit)
    (row : CatalogRow) : Prop where
  /-- After a passed check Guardian blocks for two reasons only. -/
  admitted : validateAccess request row = .ok ⟨⟩ →
    (PolicyEngine.evaluate (evaluationOf platform callId request row)).outcome = .block →
      (PolicyEngine.evaluate (evaluationOf platform callId request row)).reasonCodes =
          ["INVALID_SCOPE"] ∧ request.context.tenantId = 0 ∨
        (PolicyEngine.evaluate (evaluationOf platform callId request row)).reasonCodes =
          ["NO_ALLOW_RULE"] ∧ row.version.riskClass = .read ∧
          row.policy.approvalMode ≠ .never ∧ row.policy.approvalMode ≠ .always
  /-- What Guardian blocks for a common reason, the broker refuses with that reason. -/
  refused : request.context.tenantId ≠ 0 → request.context.sessionId ≠ none →
    row.allActive = true → ∀ code ∈ sharedCodes,
      (PolicyEngine.evaluate (evaluationOf platform callId request row)).outcome = .block →
      code.value ∈ (PolicyEngine.evaluate (evaluationOf platform callId request row)).reasonCodes →
        ∃ message, validateAccess request row = .error (.broker code message)
  /-- More roles and consents do not make Guardian block. -/
  widened : ∀ wider otherId, Widens request wider →
    (PolicyEngine.evaluate (evaluationOf platform callId request row)).outcome = .allow ∨
      (PolicyEngine.evaluate (evaluationOf platform callId request row)).outcome = .escalate →
    (PolicyEngine.evaluate (evaluationOf platform otherId wider row)).outcome ≠ .block
  /-- What needs an approval is never allowed at once. -/
  approved : row.policy.approvalMode = .always ∨ row.version.riskClass = .privileged →
    (PolicyEngine.evaluate (evaluationOf platform callId request row)).outcome ≠ .allow

section Agreement

variable (platform : BrokerPlatform) (callId : Uuid) {request : ToolCallSubmit} {row : CatalogRow}

theorem evaluate_nil_tenant (htenant : request.context.tenantId = 0) :
    PolicyEngine.evaluate (evaluationOf platform callId request row) =
      PolicyEngine.block "INVALID_SCOPE" :=
  if_pos (Or.inr htenant)

/-- The rules block only a read that is neither free nor subject to approval. -/
theorem rules_block {version : MCPToolVersion} {policy : MCPToolPolicy} {requestHash : String}
    (h : (rules version policy requestHash).outcome = .block) :
    (rules version policy requestHash).reasonCodes = ["NO_ALLOW_RULE"] ∧
      version.riskClass = .read ∧ policy.approvalMode ≠ .never ∧ policy.approvalMode ≠ .always := by
  unfold rules at h ⊢
  split_ifs at h ⊢ with hescalate hprotected hread
  have hrisk : version.riskClass = .read := by
    cases hrisk : version.riskClass <;> simp_all
  exact ⟨rfl, hrisk, fun hmode ↦ hread ⟨hrisk, hmode⟩, fun hmode ↦ hescalate (Or.inl hmode)⟩

/-- The outcome of the rules does not depend on the digest of the request. -/
theorem rules_outcome (version : MCPToolVersion) (policy : MCPToolPolicy) (first second : String) :
    (rules version policy first).outcome = (rules version policy second).outcome := by
  unfold rules
  split_ifs <;> rfl

/-- A passed check leaves nothing for the common chain to refuse. -/
theorem refusal_of_validateAccess (h : validateAccess request row = .ok ⟨⟩) :
    refusal request row = none := by
  have hsession : request.context.sessionId ≠ none := by
    intro hnone
    rw [validateAccess, if_pos hnone] at h
    cases h
  have hactive : row.allActive = true := by
    by_contra hinactive
    rw [Bool.not_eq_true] at hinactive
    rw [validateAccess, if_neg hsession, if_pos hinactive] at h
    cases h
  have hchain := validateAccess_chain request row hsession hactive
  split at hchain
  · obtain ⟨message, hrefused⟩ := hchain
    rw [hrefused] at h
    cases h
  next hnone => exact hnone

/-- Guardian applies its rules to a call that the common chain does not refuse. -/
theorem evaluate_of_no_refusal (htenant : request.context.tenantId ≠ 0)
    (h : refusal request row = none) :
    PolicyEngine.evaluate (evaluationOf platform callId request row) =
      rules row.version row.policy (canonicalRequest platform callId request row).requestHash := by
  rw [evaluate_chain platform callId request row htenant, h]

/-- Guardian lets a call through only when neither the tenant nor the common chain stops it. -/
theorem no_refusal_of_outcome
    (h : (PolicyEngine.evaluate (evaluationOf platform callId request row)).outcome ≠ .block) :
    request.context.tenantId ≠ 0 ∧ refusal request row = none := by
  have htenant : request.context.tenantId ≠ 0 := by
    intro hnil
    rw [evaluate_nil_tenant platform callId hnil] at h
    exact h rfl
  refine ⟨htenant, ?_⟩
  rw [evaluate_chain platform callId request row htenant] at h
  split at h
  · exact absurd rfl h
  next hnone => exact hnone

end Agreement

/-- For every submitted call and every catalog row, the broker's check and Guardian's policy agree. -/
theorem access_agreement (platform : BrokerPlatform) (callId : Uuid) (request : ToolCallSubmit)
    (row : CatalogRow) : AccessAgreement platform callId request row where
  admitted := by
    intro haccess hblock
    by_cases htenant : request.context.tenantId = 0
    · refine Or.inl ⟨?_, htenant⟩
      rw [evaluate_nil_tenant platform callId htenant]
      rfl
    · rw [evaluate_of_no_refusal platform callId htenant (refusal_of_validateAccess haccess)]
        at hblock ⊢
      exact Or.inr (rules_block hblock)
  refused := by
    intro htenant hsession hactive code hcode hblock hreason
    have hbroker := validateAccess_chain request row hsession hactive
    rw [evaluate_chain platform callId request row htenant] at hblock hreason
    match hrefusal : refusal request row with
    | some named =>
      rw [hrefusal] at hreason hbroker
      rw [sharedCodes_value hcode (refusal_mem hrefusal) (List.mem_singleton.mp hreason)]
      exact hbroker
    | none =>
      rw [hrefusal] at hblock hreason
      rw [(rules_block hblock).1] at hreason
      have hother : ∀ code ∈ sharedCodes, code.value ∉ ["NO_ALLOW_RULE"] := by decide
      exact absurd hreason (hother code hcode)
  widened := by
    intro wider otherId hwidens hpassed
    have hnotBlocked : (PolicyEngine.evaluate
        (evaluationOf platform callId request row)).outcome ≠ .block := by
      intro hblock
      rw [hblock] at hpassed
      exact hpassed.elim nofun nofun
    obtain ⟨htenant, hnone⟩ := no_refusal_of_outcome platform callId hnotBlocked
    have hwider : wider.context.tenantId ≠ 0 := by
      rw [hwidens.rest]
      exact htenant
    rw [evaluate_of_no_refusal platform otherId hwider (refusal_of_widens hwidens hnone),
      rules_outcome]
    rwa [evaluate_of_no_refusal platform callId htenant hnone] at hnotBlocked
  approved := by
    intro happroval hallow
    obtain ⟨htenant, hnone⟩ := no_refusal_of_outcome platform callId (by rw [hallow]; nofun)
    rw [evaluate_of_no_refusal platform callId htenant hnone, rules, if_pos happroval] at hallow
    cases hallow

end Xyena.Tools
