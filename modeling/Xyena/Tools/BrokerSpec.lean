import Xyena.Tools.Broker

/-!
# What a broker call can do

A broker call works on at most one call row and one catalog row, its target.
`serveBroker_meets` says once, against every environment, which effects a call
with a target has after which events and how it ends; a call without a target
asks for nothing and assigns nothing.
-/

namespace Xyena.Tools

open Xyena.Foundation Xyena.Contracts Xyena.Audit Xyena.Gateway

/-! ## Events -/

/-- The invocation that an effect is. -/
def Ask.invocation : Ask → Option Invocation
  | .handler invocation => some invocation
  | .remote invocation _ _ => some invocation
  | _ => none

/-- Nothing has been invoked in these events. -/
def NoInvocation (trace : List BrokerEvent) : Prop :=
  ∀ event ∈ trace, event.effect.invocation = none

/-- Guardian has consumed an authorization for exactly this call. -/
def consumedFor (call : MCPToolCall) : BrokerEvent → Bool
  | ⟨.consume tenantId request, .ok _⟩ =>
    tenantId == call.tenantId && request.callId == call.id &&
      request.requestHash == call.requestHash
  | _ => false

/-- What the broker reads in the reply to an invocation. -/
def projectionOf : BrokerEvent → Option (Except Fault PyValue)
  | ⟨.handler _, reply⟩ => some reply
  | ⟨.remote _ _ _, reply⟩ => some (readReply reply)
  | _ => none

theorem NoInvocation.append {first second : List BrokerEvent} (hfirst : NoInvocation first)
    (hsecond : NoInvocation second) : NoInvocation (first ++ second) := by
  intro event hevent
  exact (List.mem_append.mp hevent).elim (hfirst event) (hsecond event)

theorem NoInvocation.nil : NoInvocation [] := fun _ hevent ↦ by cases hevent

theorem NoInvocation.singleton {event : BrokerEvent} (h : event.effect.invocation = none) :
    NoInvocation [event] :=
  fun _ hevent ↦ List.mem_singleton.mp hevent ▸ h

/-! ## The target of a broker call -/

/-- The later states of a call row. -/
def MCPToolCall.Advances (old new : MCPToolCall) : Prop :=
  ∃ status decision authorization correlation, new =
    { old with
      status := status
      guardianDecisionId := decision
      authorizationId := authorization
      correlationId := correlation }

theorem MCPToolCall.Advances.refl (call : MCPToolCall) : call.Advances call :=
  ⟨call.status, call.guardianDecisionId, call.authorizationId, call.correlationId, rfl⟩

theorem MCPToolCall.Advances.trans {first second third : MCPToolCall} (h₁ : first.Advances second)
    (h₂ : second.Advances third) : first.Advances third := by
  obtain ⟨_, _, _, _, rfl⟩ := h₁
  obtain ⟨status, decision, authorization, correlation, rfl⟩ := h₂
  exact ⟨status, decision, authorization, correlation, rfl⟩

section Advances

variable {old call : MCPToolCall} (h : old.Advances call)
include h

theorem MCPToolCall.Advances.withStatus (status : ToolCallStatus) :
    old.Advances (call.withStatus status) :=
  h.trans ⟨_, _, _, _, rfl⟩

theorem MCPToolCall.Advances.withDecision (decisionId : Uuid) :
    old.Advances (call.withDecision decisionId) :=
  h.trans ⟨_, _, _, _, rfl⟩

theorem MCPToolCall.Advances.withAuthorization (authorizationId : Uuid) :
    old.Advances (call.withAuthorization authorizationId) :=
  h.trans ⟨_, _, _, _, rfl⟩

theorem MCPToolCall.Advances.withCorrelation (correlationId : Uuid) :
    old.Advances (call.withCorrelation correlationId) :=
  h.trans ⟨_, _, _, _, rfl⟩

end Advances

/-- The catalog row that a broker call works on and its call row: the row that `execute` has
inserted, or the stored row that `resume` has locked. -/
structure Target where
  inserted : Bool
  row : CatalogRow
  call : MCPToolCall

def BrokerCall.target (platform : BrokerPlatform) (db : ToolDb) (call : BrokerCall) :
    Option Target :=
  match call.op with
  | .execute request =>
    match admitCall platform db call.draws request with
    | .ok (.fresh row canonical) => some ⟨true, row, callRow request row canonical⟩
    | _ => none
  | .resume request =>
    match findCall db request with
    | none => none
    | some stored =>
      if stored.status ≠ .waitingApproval then none
      else (resumedRow db.registry stored.tenantId stored.toolVersionId).map (⟨false, ·, stored⟩)

section Admission

variable {platform : BrokerPlatform} {db : ToolDb} {request : ToolCallSubmit} {row : CatalogRow}

/-- Behind the checks of a submitted call only the lookup of its key and the flush are left. -/
theorem admitCall_of_checks (draws : Draws)
    (hresolve : resolve db.registry request.context.tenantId request.intent.requestedName = some row)
    (haccess : validateAccess request row = .ok ())
    (harguments : validateArguments platform row.version.inputSchema request.intent.arguments =
      .ok ()) :
    admitCall platform db draws request =
      match findIdempotentResult db request.context.tenantId row.version.id
          request.intent.idempotencyKey
          (canonicalRequest platform draws.callId request row).requestHash with
      | .error failure => .error failure
      | .ok (some result) => .ok (.replay result)
      | .ok none =>
        if (db.calls.all fun old ↦ draws.callId != old.id) && (callRow request row
            (canonicalRequest platform draws.callId request row)).storable then
          .ok (.fresh row (canonicalRequest platform draws.callId request row))
        else .error .database := by
  simp only [admitCall, hresolve, haccess, harguments, bind, Except.bind]
  rcases findIdempotentResult db request.context.tenantId row.version.id
    request.intent.idempotencyKey (canonicalRequest platform draws.callId request row).requestHash
    with failure | _ | result
  all_goals rfl

variable {draws : Draws}

/-- A call that is admitted has passed the checks. -/
theorem admitCall_ok {admission : Admission} (h : admitCall platform db draws request = .ok admission) :
    ∃ row, resolve db.registry request.context.tenantId request.intent.requestedName = some row ∧
      validateAccess request row = .ok () ∧
      validateArguments platform row.version.inputSchema request.intent.arguments = .ok () := by
  unfold admitCall at h
  split at h
  · cases h
  next row hresolve =>
    refine ⟨row, hresolve, ?_⟩
    simp only [bind, Except.bind] at h
    split at h
    · cases h
    next haccess =>
      split at h
      · cases h
      next harguments => exact ⟨haccess, harguments⟩

/-- The new call of an admitted request. -/
theorem admitCall_fresh {canonical : CanonicalToolRequest}
    (h : admitCall platform db draws request = .ok (.fresh row canonical)) :
    resolve db.registry request.context.tenantId request.intent.requestedName = some row ∧
      canonical = canonicalRequest platform draws.callId request row ∧
      validateAccess request row = .ok () ∧
      findIdempotentResult db request.context.tenantId row.version.id
        request.intent.idempotencyKey canonical.requestHash = .ok none ∧
      (∀ old ∈ db.calls, draws.callId ≠ old.id) ∧ (callRow request row canonical).storable = true := by
  obtain ⟨found, hresolve, haccess, harguments⟩ := admitCall_ok h
  rw [admitCall_of_checks draws hresolve haccess harguments] at h
  split at h
  · cases h
  · cases h
  next hlookup =>
    split at h
    next hflush =>
      cases h
      simp only [Bool.and_eq_true, List.all_eq_true, bne_iff_ne] at hflush
      exact ⟨hresolve, rfl, haccess, hlookup, hflush.1, hflush.2⟩
    · cases h

end Admission

/-- The two ways in which a broker call has a target. -/
theorem BrokerCall.target_cases {platform : BrokerPlatform} {db : ToolDb} {call : BrokerCall}
    {target : Target} (htarget : call.target platform db = some target) :
    (target.inserted = true ∧ ∃ request canonical, call.op = .execute request ∧
        admitCall platform db call.draws request = .ok (.fresh target.row canonical) ∧
        target.call = callRow request target.row canonical) ∨
      target.inserted = false ∧ ∃ request, call.op = .resume request ∧
        findCall db request = some target.call ∧ target.call.status = .waitingApproval ∧
        resumedRow db.registry target.call.tenantId target.call.toolVersionId = some target.row := by
  unfold BrokerCall.target at htarget
  split at htarget
  next request hop =>
    split at htarget
    next row canonical hadmission =>
      obtain rfl := Option.some.inj htarget
      exact Or.inl ⟨rfl, request, canonical, hop, hadmission, rfl⟩
    · cases htarget
  next request hop =>
    split at htarget
    · cases htarget
    next stored hfind =>
      split at htarget
      · cases htarget
      next hwaiting =>
        obtain ⟨row, hrow, rfl⟩ := Option.map_eq_some_iff.mp htarget
        exact Or.inr ⟨rfl, request, hop, hfind, by simpa using hwaiting, hrow⟩

/-- The row of a resumed call is a stored one. -/
theorem BrokerCall.target_stored {platform : BrokerPlatform} {db : ToolDb} {call : BrokerCall}
    {target : Target} (htarget : call.target platform db = some target) :
    target.inserted = true ∨ target.call ∈ db.calls :=
  (BrokerCall.target_cases htarget).imp And.left fun ⟨_, _, _, hfind, _⟩ ↦
    List.mem_of_find?_eq_some hfind

namespace Target

variable (target : Target)

/-- The call may be made: it is a new call of a safe read, or Guardian has consumed its
authorization. -/
def Cleared (trace : List BrokerEvent) : Prop :=
  target.inserted = true ∧ target.row.safeRead = true ∨
    ∃ event ∈ trace, consumedFor target.call event = true

/-- The effects that a call with this target has after the events `trace`. -/
def Allowed (trace : List BrokerEvent) (effect : Ask) : Prop :=
  ∀ invocation, effect.invocation = some invocation →
    invocation.row = target.row ∧ target.call.Advances invocation.call ∧ target.Cleared trace ∧
      (target.row.version.sideEffects = true → NoInvocation trace)

/-- The projection that the events end with. A remote call that cannot be signed is not made. -/
def Projects (trace : List BrokerEvent) (projection : Except Fault PyValue) : Prop :=
  NoInvocation trace ∨ ∃ earlier event, trace = earlier ++ [event] ∧
    projectionOf event = some projection

/-- How a call with this target ends. -/
inductive Ending (platform : BrokerPlatform) (draws : Draws) (trace : List BrokerEvent) :
    Except BrokerError Outcome → Prop
  | raised (failure : BrokerError) (hsilent : NoInvocation trace) :
      Ending platform draws trace (.error failure)
  | waiting (call : MCPToolCall) (decision : GuardianEvaluationResponse)
      (hinserted : target.inserted = true) (hcall : target.call.Advances call)
      (hsilent : NoInvocation trace) :
      Ending platform draws trace (.ok (awaitApproval platform call decision))
  | blocked (call : MCPToolCall) (code message : String) (flags : List String)
      (hinserted : target.inserted = true) (hcall : target.call.Advances call)
      (hsilent : NoInvocation trace) :
      Ending platform draws trace (blockCall platform draws call code message flags)
  | called (call : MCPToolCall) (projection : Except Fault PyValue)
      (hcall : target.call.Advances call) (hcleared : target.Cleared trace)
      (hprojects : Projects trace projection) :
      Ending platform draws trace
        (finishCall platform draws target.inserted target.row call projection)

variable {target}

theorem Cleared.append {trace : List BrokerEvent} (h : target.Cleared trace)
    (later : List BrokerEvent) : target.Cleared (trace ++ later) :=
  h.imp_right fun ⟨event, hevent, hconsumed⟩ ↦
    ⟨event, List.mem_append_left _ hevent, hconsumed⟩

theorem allowed_of_silent {trace : List BrokerEvent} {effect : Ask}
    (h : effect.invocation = none) : target.Allowed trace effect := by
  intro invocation hinvocation
  rw [h] at hinvocation
  cases hinvocation

end Target

/-! ## The invocation -/

section Invoke

variable {target : Target} {invocation : Invocation} (hrow : invocation.row = target.row)
  (hcall : target.call.Advances invocation.call)
include hrow hcall

/-- Every attempt of a remote call is allowed; a tool with side effects gets one. -/
theorem callTool_meets (config : RemoteServerConfig) (runtimeMeta : Dict) (retries : Nat)
    (hretries : target.row.version.sideEffects = true → retries = 0) {trace : List BrokerEvent}
    (hcleared : target.Cleared trace)
    (hfirst : target.row.version.sideEffects = true → NoInvocation trace) :
    Program.Meets target.Allowed
      (fun events projection ↦ target.Cleared events ∧ Target.Projects events projection)
      (callTool (.send (Ask.remote invocation config runtimeMeta)) retries) trace := by
  have hallowed (events : List BrokerEvent) (hcleared : target.Cleared events)
      (hfirst : target.row.version.sideEffects = true → NoInvocation events) :
      target.Allowed events (.remote invocation config runtimeMeta) := by
    rintro _ ⟨⟩
    exact ⟨hrow, hcall, hcleared, hfirst⟩
  have hends (events : List BrokerEvent) (reply : Except Fault RemoteReply)
      (hcleared : target.Cleared events) {projection : Except Fault PyValue}
      (hread : readReply reply = projection) :
      target.Cleared (events ++ [⟨Ask.remote invocation config runtimeMeta, reply⟩]) ∧
        Target.Projects (events ++ [⟨Ask.remote invocation config runtimeMeta, reply⟩]) projection :=
    ⟨hcleared.append _, Or.inr ⟨events, _, rfl, congrArg some hread⟩⟩
  induction retries generalizing trace with
  | zero => exact ⟨hallowed trace hcleared hfirst, fun reply ↦ hends trace reply hcleared rfl⟩
  | succ retries ih =>
    have hsafe : target.row.version.sideEffects ≠ true := fun heffects ↦ by
      cases hretries heffects
    refine ⟨hallowed trace hcleared hfirst, fun reply ↦ ?_⟩
    simp only [Program.bind]
    split
    next projection hread => exact hends trace reply hcleared hread
    · exact ih (fun heffects ↦ absurd heffects hsafe) (hcleared.append _)
        fun heffects ↦ absurd heffects hsafe

theorem invoke_meets (platform : BrokerPlatform) {trace : List BrokerEvent}
    (hcleared : target.Cleared trace) (hsilent : NoInvocation trace) :
    Program.Meets target.Allowed
      (fun events projection ↦ target.Cleared events ∧ Target.Projects events projection)
      (invoke platform invocation) trace := by
  unfold invoke
  split
  · refine ⟨?_, fun reply ↦ ⟨hcleared.append _, Or.inr ⟨trace, _, rfl, rfl⟩⟩⟩
    rintro _ ⟨⟩
    exact ⟨hrow, hcall, hcleared, fun _ ↦ hsilent⟩
  · simp only
    split
    · exact ⟨hcleared, Or.inl hsilent⟩
    · refine callTool_meets hrow hcall _ _ _ (fun heffects ↦ ?_) hcleared fun _ ↦ hsilent
      rw [remoteConfig, hrow, if_pos heffects]

end Invoke

theorem makeCall_meets (platform : BrokerPlatform) (draws : Draws) (arguments : Dict)
    {target : Target} {call : MCPToolCall} {trace : List BrokerEvent}
    (hcall : target.call.Advances call) (hcleared : target.Cleared trace)
    (hsilent : NoInvocation trace) :
    Program.Meets target.Allowed (target.Ending platform draws)
      (makeCall platform draws target.inserted target.row call arguments) trace := by
  refine (invoke_meets rfl (hcall.withStatus .calling) platform hcleared hsilent).bind ?_
  rintro events projection ⟨hlater, hprojects⟩
  exact .called _ projection (hcall.withStatus .calling) hlater hprojects

/-! ## Execute and resume -/

/-- A consumed authorization clears the call that it names. -/
theorem Target.cleared_of_consumed {target : Target} {trace : List BrokerEvent}
    {request : AuthorizationConsumeRequest} {consumed : AuthorizationConsumeResult}
    (hid : request.callId = target.call.id) (hhash : request.requestHash = target.call.requestHash) :
    target.Cleared (trace ++ [⟨.consume target.call.tenantId request, .ok consumed⟩]) := by
  refine Or.inr ⟨_, List.mem_append_right _ (List.mem_singleton.mpr rfl), ?_⟩
  simp [consumedFor, hid, hhash]

section Follow

variable (platform : BrokerPlatform) (draws : Draws) {target : Target} {trace : List BrokerEvent}

theorem followDecision_meets (hinserted : target.inserted = true) (arguments : Dict)
    (decision : GuardianEvaluationResponse) (hsilent : NoInvocation trace) :
    Program.Meets target.Allowed (target.Ending platform draws)
      (followDecision platform draws target.row target.call arguments decision) trace := by
  have hdecided := (MCPToolCall.Advances.refl target.call).withDecision decision.decisionId
  unfold followDecision
  split
  · exact .waiting _ decision hinserted hdecided hsilent
  · exact .waiting _ decision hinserted hdecided hsilent
  · exact .blocked _ _ _ _ hinserted hdecided hsilent
  · split
    · exact .raised _ hsilent
    next token _ =>
      refine ⟨Target.allowed_of_silent rfl, fun reply ↦ ?_⟩
      have hlater (reply) : NoInvocation (trace ++ [⟨Ask.consume target.call.tenantId
          ⟨token, target.call.id, target.call.requestHash, target.call.correlationId⟩, reply⟩]) :=
        hsilent.append (.singleton rfl)
      match reply with
      | .error (.client message) => exact .raised _ (hlater _)
      | .error .other => exact .raised _ (hlater _)
      | .ok consumed =>
        have hmeets := makeCall_meets platform draws arguments
          (hdecided.withAuthorization consumed.authorizationId)
          (Target.cleared_of_consumed rfl rfl) (hlater (.ok consumed))
        rwa [hinserted] at hmeets

theorem followApproval_meets (hstored : target.inserted = false) (request : ToolCallResume)
    (decision : GuardianEvaluationResponse) (hsilent : NoInvocation trace) :
    Program.Meets target.Allowed (target.Ending platform draws)
      (followApproval platform draws request target.row target.call decision) trace := by
  unfold followApproval
  split
  · exact .raised _ hsilent
  next token _ =>
    refine ⟨Target.allowed_of_silent rfl, fun reply ↦ ?_⟩
    have hlater (reply) : NoInvocation (trace ++ [⟨Ask.consume target.call.tenantId
        ⟨token, target.call.id, target.call.requestHash, request.correlationId⟩, reply⟩]) :=
      hsilent.append (.singleton rfl)
    match reply with
    | .error (.client message) => exact .raised _ (hlater _)
    | .error .other => exact .raised _ (hlater _)
    | .ok consumed =>
      have hcall := (((MCPToolCall.Advances.refl target.call).withDecision
        decision.decisionId).withAuthorization consumed.authorizationId).withCorrelation
          request.correlationId
      have hmeets := makeCall_meets platform draws
        (resumedRequest request target.row target.call).normalizedArguments hcall
        (Target.cleared_of_consumed rfl rfl) (hlater (.ok consumed))
      rwa [hstored] at hmeets

end Follow

section Serve

variable (platform : BrokerPlatform) (db : ToolDb) {call : BrokerCall} {target : Target}

theorem execute_meets {request : ToolCallSubmit} (hop : call.op = .execute request)
    (htarget : call.target platform db = some target) :
    Program.Meets target.Allowed (target.Ending platform call.draws)
      (execute platform db call.draws request) [] := by
  simp only [BrokerCall.target, hop] at htarget
  unfold execute
  split at htarget
  next row canonical hadmission =>
    obtain rfl := Option.some.inj htarget
    simp only [hadmission]
    split
    next hsafe => exact makeCall_meets platform call.draws _ (.refl _) (Or.inl ⟨rfl, hsafe⟩) .nil
    · refine ⟨Target.allowed_of_silent rfl, fun reply ↦ ?_⟩
      have hlater (reply) : NoInvocation ([] ++ [⟨Ask.evaluate ⟨canonical,
          policySnapshot row.version row.policy⟩, reply⟩]) := NoInvocation.nil.append (.singleton rfl)
      match reply with
      | .error (.client message) => exact .blocked _ _ _ _ rfl (.refl _) (hlater _)
      | .error .other => exact .raised _ (hlater _)
      | .ok decision =>
        exact followDecision_meets platform call.draws rfl _ decision (hlater (.ok decision))
  · cases htarget

theorem resume_meets {request : ToolCallResume} (hop : call.op = .resume request)
    (htarget : call.target platform db = some target) :
    Program.Meets target.Allowed (target.Ending platform call.draws)
      (resume platform db call.draws request) [] := by
  simp only [BrokerCall.target, hop] at htarget
  unfold resume
  cases hfind : findCall db request with
  | none =>
    rw [hfind] at htarget
    cases htarget
  | some stored =>
    simp only [hfind] at htarget
    split at htarget
    · cases htarget
    next hwaiting =>
      obtain ⟨row, hrow, rfl⟩ := Option.map_eq_some_iff.mp htarget
      simp only [if_neg hwaiting, hrow]
      refine ⟨Target.allowed_of_silent rfl, fun reply ↦ ?_⟩
      have hlater (reply) : NoInvocation ([] ++ [⟨Ask.authorizeApproved stored.tenantId
          ⟨stored.id, stored.requestHash, request.correlationId⟩, reply⟩]) :=
        NoInvocation.nil.append (.singleton rfl)
      match reply with
      | .error (.client message) => exact .raised _ (hlater _)
      | .error .other => exact .raised _ (hlater _)
      | .ok decision =>
        exact followApproval_meets platform call.draws rfl request decision (hlater (.ok decision))

/-- Everything that a broker call with a target can do. -/
theorem serveBroker_meets (htarget : call.target platform db = some target) :
    Program.Meets target.Allowed (target.Ending platform call.draws)
      (serveBroker platform db call) [] := by
  unfold serveBroker
  split
  next request hop => exact execute_meets platform db hop htarget
  next request hop => exact resume_meets platform db hop htarget

/-- A broker call without a target raises or replays a stored result. -/
theorem serveBroker_of_no_target (htarget : call.target platform db = none) :
    (∃ failure, serveBroker platform db call = .ret (.error failure)) ∨
      ∃ request result, call.op = .execute request ∧
        admitCall platform db call.draws request = .ok (.replay result) ∧
        serveBroker platform db call = .ret (.ok ⟨result, none⟩) := by
  unfold BrokerCall.target at htarget
  unfold serveBroker
  split at htarget
  next request hop =>
    simp only [hop, execute]
    split at htarget
    · cases htarget
    next hfresh =>
      split
      next failure _ => exact Or.inl ⟨failure, rfl⟩
      next result hadmission => exact Or.inr ⟨request, result, rfl, hadmission, rfl⟩
      next row canonical hadmission => exact absurd hadmission (hfresh row canonical)
  next request hop =>
    simp only [hop, resume]
    cases hfind : findCall db request with
    | none => exact Or.inl ⟨_, rfl⟩
    | some stored =>
      simp only [hfind] at htarget
      split at htarget
      next hstatus =>
        simp only [if_pos hstatus]
        exact Or.inl ⟨_, rfl⟩
      next hstatus =>
        rw [Option.map_eq_none_iff] at htarget
        simp only [if_neg hstatus, htarget]
        exact Or.inl ⟨_, rfl⟩

end Serve

/-- What the outcomes of a target with writes have in common. -/
theorem Target.Ending.writes_call {platform : BrokerPlatform} {draws : Draws} {target : Target}
    {trace : List BrokerEvent} {outcome : Except BrokerError Outcome}
    (hending : target.Ending platform draws trace outcome) {result : SafeToolResult}
    {writes : Option Writes} (houtcome : outcome = .ok ⟨result, writes⟩) :
    ∃ rows, writes = some rows ∧ rows.inserted = target.inserted ∧ target.call.Advances rows.call ∧
      (target.Cleared trace ∨ NoInvocation trace ∧ target.inserted = true ∧
        (rows.call.status = .blocked ∨ rows.call.status = .waitingApproval)) := by
  cases hending with
  | raised => cases houtcome
  | waiting call decision hinserted hcall hsilent =>
    obtain ⟨-, rfl⟩ := Outcome.mk.inj (Except.ok.inj houtcome)
    exact ⟨_, rfl, hinserted.symm, hcall.withStatus _, Or.inr ⟨hsilent, hinserted, Or.inr rfl⟩⟩
  | blocked call code message flags hinserted hcall hsilent =>
    obtain ⟨-, rfl⟩ := Outcome.mk.inj (Except.ok.inj houtcome)
    exact ⟨_, rfl, hinserted.symm, hcall.withStatus _, Or.inr ⟨hsilent, hinserted, Or.inl rfl⟩⟩
  | called call projection hcall hcleared =>
    simp only [finishCall, bind, Except.bind] at houtcome
    split at houtcome
    · cases houtcome
    · obtain ⟨-, rfl⟩ := Outcome.mk.inj (Except.ok.inj houtcome)
      exact ⟨_, rfl, rfl, hcall.withStatus _, Or.inl hcleared⟩

/-- A call that was not cleared has invoked nothing. -/
theorem Target.Ending.silent_of_not_cleared {platform : BrokerPlatform} {draws : Draws}
    {target : Target} {trace : List BrokerEvent} {outcome : Except BrokerError Outcome}
    (hending : target.Ending platform draws trace outcome) (h : ¬ target.Cleared trace) :
    NoInvocation trace := by
  cases hending with
  | raised _ hsilent => exact hsilent
  | waiting _ _ _ _ hsilent => exact hsilent
  | blocked _ _ _ _ _ _ hsilent => exact hsilent
  | called _ _ _ hcleared => exact absurd hcleared h

/-! ## The end of a transaction -/

section Commit

variable {platform : BrokerPlatform} {db : ToolDb} {target : Target}

/-- A call that assigns rows either fails at the commit or has stored them. -/
theorem closeTransaction_writes (db : ToolDb) (result : SafeToolResult) (writes : Writes) :
    closeTransaction db (.ok ⟨result, some writes⟩) = (.error .database, db) ∨
      writes.accepted db = true ∧
        closeTransaction db (.ok ⟨result, some writes⟩) = (.ok result, writes.apply db) := by
  simp only [closeTransaction, Writes.commit]
  by_cases haccepted : writes.accepted db = true
  · exact Or.inr ⟨haccepted, by rw [if_pos haccepted]⟩
  · exact Or.inl (by rw [if_neg haccepted])

/-- The call row of a transaction is stored by its commit. -/
theorem Writes.call_mem_apply {writes : Writes}
    (h : writes.inserted = true ∨ ∃ old ∈ db.calls, old.id = writes.call.id) :
    writes.call ∈ (writes.apply db).calls := by
  simp only [Writes.apply]
  split
  · exact List.mem_append_right _ (List.mem_singleton.mpr rfl)
  next hupdate =>
    obtain ⟨old, hold, hid⟩ := h.resolve_left hupdate
    exact Table.changed_mem_replace hold hid

end Commit

/-! ## Steps of the platform -/

section Steps

variable {platform : BrokerPlatform} {db : ToolDb} {call : BrokerCall}

/-- What a step of a call without a target answers and leaves. -/
theorem step_of_no_target (htarget : call.target platform db = none)
    (oracle : Program.Oracle Ask Reply) :
    ∃ answer, (toolPlatform platform).step db (.broker call oracle) = (.broker answer [], db) ∧
      ∀ result, answer = .ok result → ∃ request, call.op = .execute request ∧
        admitCall platform db call.draws request = .ok (.replay result) := by
  rcases serveBroker_of_no_target platform db htarget with
    ⟨failure, hserve⟩ | ⟨request, result, hop, hadmission, hserve⟩
  · refine ⟨.error failure, ?_, fun result hresult ↦ by cases hresult⟩
    simp only [toolPlatform, hserve, Program.exec, closeTransaction]
  · refine ⟨.ok result, ?_, fun other hother ↦ ⟨request, hop, ?_⟩⟩
    · simp only [toolPlatform, hserve, Program.exec, closeTransaction]
    · rw [← Except.ok.inj hother]
      exact hadmission

/-- What a step of a call with a target can do. -/
theorem step_of_target {target : Target} (htarget : call.target platform db = some target)
    (oracle : Program.Oracle Ask Reply) :
    ∃ outcome trace, (toolPlatform platform).step db (.broker call oracle) =
        (.broker (closeTransaction db outcome).1 trace, (closeTransaction db outcome).2) ∧
      target.Ending platform call.draws trace outcome ∧
      ∀ earlier event later, trace = earlier ++ event :: later →
        target.Allowed earlier event.effect := by
  obtain ⟨trace, htrace, hending, hallowed⟩ :=
    (serveBroker_meets platform db htarget).exec oracle
  rw [List.nil_append] at htrace hending
  refine ⟨((serveBroker platform db call).exec oracle []).1, trace, ?_, hending, hallowed⟩
  simp only [toolPlatform, htrace]

theorem closeTransaction_registry (db : ToolDb) (outcome : Except BrokerError Outcome) :
    (closeTransaction db outcome).2.registry = db.registry := by
  match outcome with
  | .error failure => rfl
  | .ok ⟨result, none⟩ => rfl
  | .ok ⟨result, some writes⟩ =>
    rcases closeTransaction_writes db result writes with hrefused | ⟨-, hcommitted⟩
    · rw [hrefused]
    · rw [hcommitted]
      rfl

/-- Broker calls do not change the registry. -/
theorem step_broker_registry (platform : BrokerPlatform) (db : ToolDb) (call : BrokerCall)
    (oracle : Program.Oracle Ask Reply) :
    ((toolPlatform platform).step db (.broker call oracle)).2.registry = db.registry :=
  closeTransaction_registry db _

end Steps

/-- The invocations of one endpoint call, oldest first. -/
def ToolAnswer.invocations : ToolAnswer → List Invocation
  | .registry _ => []
  | .broker _ trace => trace.filterMap fun event ↦ event.effect.invocation

theorem ToolAnswer.mem_invocations {answer : Except BrokerError SafeToolResult}
    {trace : List BrokerEvent} {invocation : Invocation} :
    invocation ∈ (ToolAnswer.broker answer trace).invocations ↔
      ∃ event ∈ trace, event.effect.invocation = some invocation := by
  simp only [ToolAnswer.invocations, List.mem_filterMap]

/-- Every invocation of a step was allowed to the target of its call. -/
theorem step_invocation {platform : BrokerPlatform} {db : ToolDb} {call : BrokerCall}
    {oracle : Program.Oracle Ask Reply} {invocation : Invocation}
    (h : invocation ∈ ((toolPlatform platform).step db (.broker call oracle)).1.invocations) :
    ∃ target, call.target platform db = some target ∧ invocation.row = target.row ∧
      target.call.Advances invocation.call := by
  match htarget : call.target platform db with
  | none =>
    obtain ⟨answer, hstep, -⟩ := step_of_no_target htarget oracle
    rw [hstep] at h
    cases h
  | some target =>
    obtain ⟨outcome, trace, hstep, -, hallowed⟩ := step_of_target htarget oracle
    rw [hstep] at h
    obtain ⟨event, hevent, hinvocation⟩ := ToolAnswer.mem_invocations.mp h
    obtain ⟨earlier, later, htrace⟩ := List.append_of_mem hevent
    obtain ⟨hrow, hcall, -⟩ := hallowed earlier event later htrace invocation hinvocation
    exact ⟨target, rfl, hrow, hcall⟩

/-! ## A sample deployment for concrete runs -/

/-- A transfer that agent `payments-agent` submits for tenant 1. -/
def sampleSubmit : ToolCallSubmit where
  runId := 6
  agentName := "payments-agent"
  context := { tenantId := 1, organizationId := 2, userId := 3, sessionId := some 4, correlationId := 5 }
  intent :=
    { requestedName := "bank.transfers.execute"
      arguments := [("amount", .str "10.00")]
      purpose := "settle invoice"
      idempotencyKey := some "invoice-1" }

/-- The canonical request that the broker makes of the sample call. -/
def sampleCanonical : CanonicalToolRequest where
  callId := 100
  runId := sampleSubmit.runId
  agentName := sampleSubmit.agentName
  scope := sampleSubmit.context
  serverId := 11
  toolVersionId := 14
  canonicalName := "bank.transfers.execute"
  originalName := "transfers.execute"
  normalizedArguments := [("amount", .str "10.00")]
  purpose := sampleSubmit.intent.purpose
  idempotencyKey := sampleSubmit.intent.idempotencyKey
  requestHash := "770a6bf109d0e1a87cd619486d047fc0e4a360a5089f157f5fe035ccc490c3b6"

/-- The digest of the canonical document of the sample call; other texts, whose digests no check of
the sample runs reads, get one fixed digest. -/
def sampleSha256 (text : String) : String :=
  if text = canonicalJson (.obj sampleCanonical.document) then sampleCanonical.requestHash
  else "e3b0c44298fc1c149afbf4c8996fb92427ae41e4649b934ca495991b7852b855"

def sampleBroker : BrokerPlatform where
  sha256 := sampleSha256
  digest text := by
    unfold sampleSha256
    split <;> decide
  isoformat instant := toString instant
  client :=
    { getenv := fun name ↦ if name = "BANK_SECRET" then some "bank-secret" else none
      hmac := fun _ _ ↦ "signature" }
  schemaErrors _ _ := .ok []

/-- The reviews that make the sample tool available under an approval mode. -/
def sampleReviews (mode : ApprovalMode) : List RegistryOp :=
  [.registerServer 11 (some 1)
      { label := ⟨"bank", by decide⟩
        description := "Bank tools"
        endpoint := "https://bank.example/mcp"
        secretRef := some "env://BANK_SECRET"
        allowedEgressHosts := ["bank.example"] },
    .discover 11 (some 1) 0 12 (some
      { tools := [(⟨"transfers.execute", none, none, []⟩, ⟨13, 14, 15⟩)]
        info := ⟨none, none, none⟩ }),
    .reviewServer 11 (some 1) ⟨.reviewedInternal, .active⟩,
    .reviewToolVersion 14 (some 1)
      { canonicalName := "bank.transfers.execute"
        riskClass := .mutate
        approvalMode := mode
        sideEffects := true }]

def sampleRegistration (mode : ApprovalMode) : List ToolOp := (sampleReviews mode).map .registry

/-- Different identifiers, counted from `first`. -/
def sampleDraws (first : Nat) : Draws where
  callId := .ofNat 128 first
  attemptId := .ofNat 128 (first + 1)
  resultId := .ofNat 128 (first + 2)
  outboxId := .ofNat 128 (first + 3)
  auditId := .ofNat 128 (first + 4)
  startedAt := 0
  completedAt := 0
  createdAt := 0
  occurredAt := 0

/-- A Guardian that decides as given and authorizes every approved call, and a remote server that
always gives the same reply. -/
def sampleOracle (outcome : GuardianOutcome) (reply : RemoteReply) : Program.Oracle Ask Reply
  | _, .evaluate _ => .ok
    { decisionId := 21
      outcome := outcome
      policyBundleVersion := "platform-default"
      authorizationId := some 23
      authorizationToken := some "token" }
  | _, .authorizeApproved _ _ => .ok
    { decisionId := 21
      outcome := .allow
      policyBundleVersion := "platform-default"
      authorizationId := some 23
      authorizationToken := some "token" }
  | _, .consume _ _ => .ok ⟨23, true, []⟩
  | _, .handler _ => .ok (.dict [])
  | _, .remote _ _ _ => .ok reply

/-- The reply of the bank to a settled transfer. -/
def settledReply : RemoteReply where
  structuredContent := .dict [("status", .str "SETTLED")]

def sampleExecute (first : Nat) (outcome : GuardianOutcome) (reply : RemoteReply) : ToolOp :=
  .broker ⟨.execute sampleSubmit, sampleDraws first⟩ (sampleOracle outcome reply)

def sampleResume (first : Nat) (callId : Uuid) (reply : RemoteReply) : ToolOp :=
  .broker ⟨.resume ⟨1, callId, 5⟩, sampleDraws first⟩ (sampleOracle .allow reply)

/-- The sample call is escalated and resumed. -/
def escalatedRun (reply : RemoteReply) : List ToolOp :=
  sampleRegistration .always ++
    [sampleExecute 100 .escalate reply, sampleResume 200 100 reply]

end Xyena.Tools
