import Xyena.Guardian.Moves

/-!
# Provenance of consumed authorizations

Every consumed authorization can be traced back through the tables: to the
decision it belongs to, to the evaluation that created that decision, and, when
the policy escalated, to the recorded action that approved it in time. The
invariant `Sound` links the four tables; `Origins` says which entries of the
run the rows are traced to, so that one proof per move covers all histories.
-/

namespace Xyena.Guardian

open Xyena.Foundation Xyena.Contracts

/-! ## The property -/

/-- The entry evaluates `evaluation` and its decision appears in it. -/
def Creates (e : GuardianEntry) (evaluation : GuardianEvaluationRequest)
    (decision : GuardianDecision) : Prop :=
  e.input.op = .evaluate evaluation ∧ (∀ old ∈ e.before.decisions, old.id ≠ decision.id) ∧
    decision ∈ e.after.decisions

/-- The approval action is recorded by the entry. -/
def Records (e : GuardianEntry) (action : GuardianApprovalAction) : Prop :=
  (∀ old ∈ e.before.actions, old.id ≠ action.id) ∧ action ∈ e.after.actions

/-- The authorization with this identifier is stored by the entry. -/
def Issues (e : GuardianEntry) (authorizationId : Uuid) : Prop :=
  (∀ old ∈ e.before.authorizations, old.id ≠ authorizationId) ∧
    ∃ new ∈ e.after.authorizations, new.id = authorizationId

/-- The approval request is approved by a recorded action that carries every required role and was
taken before the request expired. -/
def ApprovedInTime (log : List GuardianEntry) (db : GuardianDb)
    (approval : GuardianApprovalRequest) : Prop :=
  approval.status = .approved ∧ ∃ action ∈ db.actions,
    action.approvalRequestId = approval.id ∧ action.action = .approve ∧
      approval.requiredApproverRoles ⊆ action.actorRoles ∧
      ∃ e ∈ log, Records e action ∧ approval.resolvedAt = some e.input.clock.now ∧
        e.input.clock.now < approval.expiresAt

/-- The decision was allowed by the policy engine, or escalated by it and then approved. -/
def Granted (log : List GuardianEntry) (db : GuardianDb) (decision : GuardianDecision) : Prop :=
  ∃ e ∈ log, ∃ evaluation, Creates e evaluation decision ∧
    ((PolicyEngine.evaluate evaluation).outcome = .allow ∨
      (PolicyEngine.evaluate evaluation).outcome = .escalate ∧
        ∃ approval ∈ db.approvals, approval.decisionId = decision.id ∧
          ApprovedInTime log db approval)

/-- Where a consumed authorization comes from. -/
structure Provenance (log : List GuardianEntry) (db : GuardianDb)
    (authorization : GuardianAuthorization) (decision : GuardianDecision) : Prop where
  stored : decision ∈ db.decisions
  belongs : authorization.decisionId = decision.id
  sameRequest : authorization.requestKey = decision.requestKey
  granted : Granted log db decision
  issuedLive : ∃ e ∈ log, Issues e authorization.id ∧ e.input.clock.now < decision.expiresAt
  consumedLive : ∃ instant, authorization.consumedAt = some instant ∧
    instant < authorization.expiresAt

/-! ## The invariant over the four tables -/

/-- What the rows of the tables are traced to. -/
structure Origins where
  decided : GuardianDecision → Prop
  acted : GuardianApprovalAction → GuardianApprovalRequest → Prop
  issued : Uuid → GuardianDecision → Prop

def GuardianDb.Approves (db : GuardianDb) (decision : GuardianDecision) : Prop :=
  ∃ approval ∈ db.approvals, approval.decisionId = decision.id ∧ approval.status = .approved

structure Sound (origins : Origins) (db : GuardianDb) : Prop where
  decisionIds : (db.decisions.map GuardianDecision.id).Nodup
  approvalIds : (db.approvals.map GuardianApprovalRequest.id).Nodup
  approvalDecisions : (db.approvals.map GuardianApprovalRequest.decisionId).Nodup
  decided : ∀ decision ∈ db.decisions, origins.decided decision
  escalated : ∀ approval ∈ db.approvals, ∃ decision ∈ db.decisions,
    decision.id = approval.decisionId ∧ decision.outcome = .escalate
  approved : ∀ approval ∈ db.approvals, approval.status = .approved → ∃ action ∈ db.actions,
    action.approvalRequestId = approval.id ∧ action.action = .approve ∧
      approval.requiredApproverRoles ⊆ action.actorRoles ∧ origins.acted action approval
  backed : ∀ authorization ∈ db.authorizations, ∃ decision ∈ db.decisions,
    authorization.decisionId = decision.id ∧ authorization.requestKey = decision.requestKey ∧
      origins.issued authorization.id decision ∧
      (decision.outcome = .allow ∨ db.Approves decision)
  consumed : ∀ authorization ∈ db.authorizations, authorization.status = .consumed →
    ∃ instant, authorization.consumedAt = some instant ∧ instant < authorization.expiresAt

theorem Sound.empty (origins : Origins) : Sound origins {} := by
  constructor <;> simp

/-- Rows that can be traced keep their trace when more is known. -/
theorem Sound.mono {origins more : Origins} {db : GuardianDb}
    (hdecided : ∀ decision ∈ db.decisions, origins.decided decision → more.decided decision)
    (hacted : ∀ action ∈ db.actions, ∀ approval, origins.acted action approval →
      more.acted action approval)
    (hissued : ∀ authorization ∈ db.authorizations, ∀ decision,
      origins.issued authorization.id decision → more.issued authorization.id decision)
    (h : Sound origins db) : Sound more db where
  decisionIds := h.decisionIds
  approvalIds := h.approvalIds
  approvalDecisions := h.approvalDecisions
  decided decision hstored := hdecided decision hstored (h.decided decision hstored)
  escalated := h.escalated
  approved approval hstored hstatus := by
    obtain ⟨action, haction, hrequest, hverb, hroles, hacts⟩ := h.approved approval hstored hstatus
    exact ⟨action, haction, hrequest, hverb, hroles, hacted action haction approval hacts⟩
  backed authorization hstored := by
    obtain ⟨decision, hdecision, hid, hkey, hissue, hgrounds⟩ := h.backed authorization hstored
    exact ⟨decision, hdecision, hid, hkey, hissued authorization hstored decision hissue, hgrounds⟩
  consumed := h.consumed

/-- The decision of an authorization has no approval request, or an approved one. -/
theorem Sound.approved_of_authorized {origins : Origins} {db : GuardianDb} (h : Sound origins db)
    {authorization : GuardianAuthorization} (hauthorization : authorization ∈ db.authorizations)
    {approval : GuardianApprovalRequest} (happroval : approval ∈ db.approvals)
    (hdecision : approval.decisionId = authorization.decisionId) : approval.status = .approved := by
  obtain ⟨decision, hstored, hid, -, -, hallow | ⟨other, hother, hsame, hstatus⟩⟩ :=
    h.backed authorization hauthorization
  · obtain ⟨escalated, hescalated, hsame, houtcome⟩ := h.escalated approval happroval
    obtain rfl := Table.eq_of_key h.decisionIds hescalated hstored
      (hsame.trans (hdecision.trans hid))
    rw [hallow] at houtcome
    cases houtcome
  · obtain rfl := Table.eq_of_key h.approvalDecisions hother happroval
      (hsame.trans (hid.symm.trans hdecision.symm))
    exact hstatus

/-- The origins of rows once `call` runs on the tables `start`: as before, or this call for rows
whose identifiers are not in `start`. -/
def Origins.during (origins : Origins) (platform : Platform) (start : GuardianDb)
    (call : GuardianCall) : Origins where
  decided decision := origins.decided decision ∨
    (∀ old ∈ start.decisions, old.id ≠ decision.id) ∧ ∃ evaluation,
      call.op = .evaluate evaluation ∧
        decision = decisionRow platform call.clock call.ids evaluation
  acted action approval := origins.acted action approval ∨
    (∀ old ∈ start.actions, old.id ≠ action.id) ∧ approval.resolvedAt = some call.clock.now ∧
      call.clock.now < approval.expiresAt
  issued authorizationId decision := origins.issued authorizationId decision ∨
    (∀ old ∈ start.authorizations, old.id ≠ authorizationId) ∧
      call.clock.now < decision.expiresAt

/-- No move removes or changes a decision or an action. -/
def KeepsRecords (start db : GuardianDb) : Prop :=
  start.decisions ⊆ db.decisions ∧ start.actions ⊆ db.actions

variable {platform : Platform} {call : GuardianCall} {start db after : GuardianDb}
  {origins : Origins}

theorem Move.keepsRecords (hmove : Move platform call start db after)
    (h : KeepsRecords start db) : KeepsRecords start after := by
  cases hmove with
  | decide => exact ⟨List.subset_append_of_subset_left _ h.1, h.2⟩
  | escalate => exact ⟨List.subset_append_of_subset_left _ h.1, h.2⟩
  | resolve => exact ⟨h.1, List.subset_append_of_subset_left _ h.2⟩
  | issue => exact h
  | consume => exact h

/-- Storing a decision with a new identifier. -/
theorem Sound.addDecision (h : Sound origins db) {decision : GuardianDecision}
    (hfresh : ∀ old ∈ db.decisions, decision.id ≠ old.id) (hdecided : origins.decided decision)
    (audit : List Audit.AuditEvent) :
    Sound origins { db with decisions := db.decisions ++ [decision], audit := audit } where
  decisionIds := Table.nodup_keys_append h.decisionIds hfresh
  approvalIds := h.approvalIds
  approvalDecisions := h.approvalDecisions
  decided row hrow := by
    rcases List.mem_append.mp hrow with hold | hnew
    · exact h.decided row hold
    · exact List.mem_singleton.mp hnew ▸ hdecided
  escalated approval happroval := by
    obtain ⟨row, hrow, hescalated⟩ := h.escalated approval happroval
    exact ⟨row, List.mem_append_left _ hrow, hescalated⟩
  approved := h.approved
  backed authorization hauthorization := by
    obtain ⟨row, hrow, hbacked⟩ := h.backed authorization hauthorization
    exact ⟨row, List.mem_append_left _ hrow, hbacked⟩
  consumed := h.consumed

/-- Storing the pending approval request of an escalated decision. -/
theorem Sound.addApproval (h : Sound origins db) (approval : GuardianApprovalRequest)
    {decision : GuardianDecision} (hdecision : decision ∈ db.decisions)
    (hbelongs : decision.id = approval.decisionId) (hescalated : decision.outcome = .escalate)
    (hpending : approval.status = .pending)
    (hfresh : ∀ old ∈ db.approvals, approval.id ≠ old.id ∧ approval.decisionId ≠ old.decisionId) :
    Sound origins { db with approvals := db.approvals ++ [approval] } where
  decisionIds := h.decisionIds
  approvalIds := Table.nodup_keys_append h.approvalIds fun old hold ↦ (hfresh old hold).1
  approvalDecisions := Table.nodup_keys_append h.approvalDecisions fun old hold ↦ (hfresh old hold).2
  decided := h.decided
  escalated row hrow := by
    rcases List.mem_append.mp hrow with hold | hnew
    · exact h.escalated row hold
    · rw [List.mem_singleton.mp hnew]
      exact ⟨decision, hdecision, hbelongs, hescalated⟩
  approved row hrow hstatus := by
    rcases List.mem_append.mp hrow with hold | hnew
    · exact h.approved row hold hstatus
    · rw [List.mem_singleton.mp hnew, hpending] at hstatus
      cases hstatus
  backed authorization hauthorization := by
    obtain ⟨row, hrow, hid, hkey, hissued, hgrounds⟩ := h.backed authorization hauthorization
    refine ⟨row, hrow, hid, hkey, hissued, hgrounds.imp_right ?_⟩
    rintro ⟨granted, hgranted, happroved⟩
    exact ⟨granted, List.mem_append_left _ hgranted, happroved⟩
  consumed := h.consumed

/-- Resolving a pending approval request together with the action that resolves it. -/
theorem Sound.resolve (h : Sound origins db) {approval : GuardianApprovalRequest} {now : Time}
    {action : ApprovalActionCreate} {record : GuardianApprovalAction}
    (hstored : approval ∈ db.approvals) (hpending : approval.status = .pending)
    (hrequest : record.approvalRequestId = approval.id) (hverb : record.action = action.action)
    (hroles : approval.requiredApproverRoles ⊆ record.actorRoles)
    (hacted : origins.acted record (approval.resolve now action)) (audit : List Audit.AuditEvent) :
    Sound origins { db with
      approvals := Table.replace GuardianApprovalRequest.id (approval.resolve now action)
        db.approvals
      actions := db.actions ++ [record]
      audit := audit } where
  decisionIds := h.decisionIds
  approvalIds := by
    rw [Table.map_key_replace]
    exact h.approvalIds
  approvalDecisions := by
    have hupdate := Table.replace_eq_update h.approvalIds hstored
      (fun row ↦ row.resolve now action) rfl
    simp only [hupdate]
    rw [Table.map_update GuardianApprovalRequest.decisionId]
    · exact h.approvalDecisions
    · intro row
      rfl
  decided := h.decided
  escalated row hrow := by
    rcases Table.mem_replace hrow with rfl | ⟨hold, -⟩
    · exact h.escalated approval hstored
    · exact h.escalated row hold
  approved row hrow hstatus := by
    rcases Table.mem_replace hrow with rfl | ⟨hold, -⟩
    · refine ⟨record, List.mem_append_right _ (List.mem_singleton.mpr rfl), hrequest, ?_, hroles,
        hacted⟩
      rw [hverb]
      cases hchoice : action.action with
      | approve => rfl
      | reject =>
        simp only [GuardianApprovalRequest.resolve, hchoice, actionStatus, reduceCtorEq] at hstatus
    · obtain ⟨earlier, hearlier, hrest⟩ := h.approved row hold hstatus
      exact ⟨earlier, List.mem_append_left _ hearlier, hrest⟩
  backed authorization hauthorization := by
    obtain ⟨row, hrow, hid, hkey, hissued, hgrounds⟩ := h.backed authorization hauthorization
    refine ⟨row, hrow, hid, hkey, hissued, hgrounds.imp_right ?_⟩
    rintro ⟨granted, hgranted, hdecision, happroved⟩
    -- an approved request is not the pending one that is replaced
    refine ⟨granted, Table.mem_replace_of_ne hgranted fun hsame ↦ ?_, hdecision, happroved⟩
    obtain rfl := Table.eq_of_key h.approvalIds hgranted hstored hsame
    rw [happroved] at hpending
    cases hpending
  consumed := h.consumed

/-- Storing an authorization that is not consumed for a decision that is allowed or approved. -/
theorem Sound.issue (h : Sound origins db) {decision : GuardianDecision}
    {authorization : GuardianAuthorization} (hstored : decision ∈ db.decisions)
    (hid : authorization.decisionId = decision.id)
    (hkey : authorization.requestKey = decision.requestKey)
    (hissued : origins.issued authorization.id decision)
    (hgrounds : decision.outcome = .allow ∨ db.Approves decision)
    (hactive : authorization.status = .active) :
    Sound origins { db with authorizations := db.authorizations ++ [authorization] } where
  decisionIds := h.decisionIds
  approvalIds := h.approvalIds
  approvalDecisions := h.approvalDecisions
  decided := h.decided
  escalated := h.escalated
  approved := h.approved
  backed row hrow := by
    rcases List.mem_append.mp hrow with hold | hnew
    · exact h.backed row hold
    · rw [List.mem_singleton.mp hnew]
      exact ⟨decision, hstored, hid, hkey, hissued, hgrounds⟩
  consumed row hrow hstatus := by
    rcases List.mem_append.mp hrow with hold | hnew
    · exact h.consumed row hold hstatus
    · rw [List.mem_singleton.mp hnew, hactive] at hstatus
      cases hstatus

theorem Sound.consume (h : Sound origins db) {authorization : GuardianAuthorization} {now : Time}
    (hstored : authorization ∈ db.authorizations) (hlive : now < authorization.expiresAt)
    (correlationId : Uuid) :
    Sound origins { db with
      authorizations := Table.replace GuardianAuthorization.id
        (authorization.useUp now correlationId) db.authorizations } where
  decisionIds := h.decisionIds
  approvalIds := h.approvalIds
  approvalDecisions := h.approvalDecisions
  decided := h.decided
  escalated := h.escalated
  approved := h.approved
  backed row hrow := by
    rcases Table.mem_replace hrow with rfl | ⟨hold, -⟩
    · exact h.backed authorization hstored
    · exact h.backed row hold
  consumed row hrow hstatus := by
    rcases Table.mem_replace hrow with rfl | ⟨hold, -⟩
    · exact ⟨now, rfl, hlive⟩
    · exact h.consumed row hold hstatus

theorem Move.sound (hmove : Move platform call start db after) (hkeeps : KeepsRecords start db)
    (h : Sound (origins.during platform start call) db) :
    Sound (origins.during platform start call) after := by
  have hdecided (evaluation : GuardianEvaluationRequest) (hop : call.op = .evaluate evaluation)
      (hfresh : ∀ old ∈ db.decisions, call.ids.decision ≠ old.id) :
      (origins.during platform start call).decided
        (decisionRow platform call.clock call.ids evaluation) :=
    Or.inr ⟨fun old hold ↦ (hfresh old (hkeeps.1 hold)).symm, evaluation, hop, rfl⟩
  cases hmove with
  | decide evaluation audit hop houtcome hfresh =>
    exact h.addDecision hfresh (hdecided evaluation hop hfresh) audit
  | escalate evaluation audit hop houtcome hfresh happroval =>
    exact (h.addDecision hfresh (hdecided evaluation hop hfresh) audit).addApproval
      (approvalRow call.clock call.ids evaluation)
      (List.mem_append_right _ (List.mem_singleton.mpr rfl)) rfl houtcome rfl happroval
  | issue decision token hasked hauthorizes hfirst hstored hlive hgrounds hfresh =>
    refine h.issue hstored rfl rfl (Or.inr ⟨fun old hold ↦ ?_, hlive⟩) hgrounds rfl
    rw [← hfirst] at hold
    exact (hfresh old hold).1.symm
  | resolve approvalId tenantId action approval audit hop hstored hpending hlive hroles hfresh =>
    exact h.resolve hstored hpending rfl rfl hroles
      (Or.inr ⟨fun old hold ↦ (hfresh old (hkeeps.2 hold)).symm, rfl, hlive⟩) audit
  | consume request authorization hop hstored hactive hlive =>
    exact h.consume hstored hlive request.correlationId

/-! ## Runs -/

/-- The entries of a run that the rows are traced to. -/
def originsOf (platform : Platform) (log : List GuardianEntry) : Origins where
  decided decision := ∃ e ∈ log, ∃ evaluation, Creates e evaluation decision ∧
    decision = decisionRow platform e.input.clock e.input.ids evaluation
  acted action approval := ∃ e ∈ log, Records e action ∧
    approval.resolvedAt = some e.input.clock.now ∧ e.input.clock.now < approval.expiresAt
  issued authorizationId decision := ∃ e ∈ log, Issues e authorizationId ∧
    e.input.clock.now < decision.expiresAt

theorem sound_step (history : List GuardianEntry) (db : GuardianDb) (call : GuardianCall)
    (h : Sound (originsOf platform history) db) :
    Sound (originsOf platform (history ++ [(guardian platform).entry db call]))
      ((guardian platform).step db call).2 := by
  have hstart : Sound ((originsOf platform history).during platform db call) db :=
    h.mono (fun _ _ ↦ Or.inl) (fun _ _ _ ↦ Or.inl) (fun _ _ _ ↦ Or.inl)
  have hstep := step_invariant platform
    (fun db' ↦ KeepsRecords db db' ∧
      Sound ((originsOf platform history).during platform db call) db') db call
    (fun before after hmove hbefore ↦
      ⟨hmove.keepsRecords hbefore.1, hmove.sound hbefore.1 hbefore.2⟩)
    ⟨⟨List.Subset.refl _, List.Subset.refl _⟩, hstart⟩
  have hlast : (guardian platform).entry db call ∈ history ++ [(guardian platform).entry db call] :=
    List.mem_append_right _ (List.mem_singleton.mpr rfl)
  have hearlier {e : GuardianEntry} (he : e ∈ history) :
      e ∈ history ++ [(guardian platform).entry db call] := List.mem_append_left _ he
  -- a row that this call added is in the tables after it
  refine hstep.2.mono ?_ ?_ ?_
  · rintro decision hstored (⟨e, he, hcreated⟩ | ⟨hfresh, evaluation, hop, houtcome⟩)
    · exact ⟨e, hearlier he, hcreated⟩
    · exact ⟨_, hlast, evaluation, ⟨hop, hfresh, hstored⟩, houtcome⟩
  · rintro action hstored approval (⟨e, he, hacted⟩ | ⟨hfresh, hresolved⟩)
    · exact ⟨e, hearlier he, hacted⟩
    · exact ⟨_, hlast, ⟨hfresh, hstored⟩, hresolved⟩
  · rintro authorization hstored decision (⟨e, he, hissued⟩ | ⟨hfresh, hlive⟩)
    · exact ⟨e, hearlier he, hissued⟩
    · exact ⟨_, hlast, ⟨hfresh, authorization, hstored, rfl⟩, hlive⟩

theorem sound_run (platform : Platform) (calls : List GuardianCall) :
    Sound (originsOf platform ((guardian platform).log {} calls))
      ((guardian platform).run {} calls) :=
  (guardian platform).history_invariant_all
    (fun history db ↦ Sound (originsOf platform history) db) (Sound.empty _) sound_step calls

/-- The tables before every entry of a run are traced to entries of that run. -/
theorem sound_before {calls : List GuardianCall} {e : GuardianEntry}
    (he : e ∈ (guardian platform).log {} calls) :
    Sound (originsOf platform ((guardian platform).log {} calls)) e.before := by
  obtain ⟨earlier, call, later, rfl, rfl⟩ := ((guardian platform).mem_log_iff _ _ _).mp he
  rw [Machine.log_append]
  refine (sound_run platform earlier).mono ?_ ?_ ?_
  · rintro decision - ⟨e, he, hcreated⟩
    exact ⟨e, List.mem_append_left _ he, hcreated⟩
  · rintro action - approval ⟨e, he, hacted⟩
    exact ⟨e, List.mem_append_left _ he, hacted⟩
  · rintro authorization - decision ⟨e, he, hissued⟩
    exact ⟨e, List.mem_append_left _ he, hissued⟩

/-- A decision that is allowed or approved was granted by the policy engine or by an approver. -/
theorem Sound.granted {log : List GuardianEntry} (h : Sound (originsOf platform log) db)
    {decision : GuardianDecision} (hstored : decision ∈ db.decisions)
    (hgrounds : decision.outcome = .allow ∨ db.Approves decision) : Granted log db decision := by
  obtain ⟨e, he, evaluation, hcreated, hrow⟩ := h.decided decision hstored
  have houtcome : decision.outcome = (PolicyEngine.evaluate evaluation).outcome :=
    congrArg GuardianDecision.outcome hrow
  refine ⟨e, he, evaluation, hcreated, ?_⟩
  rw [← houtcome]
  refine hgrounds.imp_right ?_
  rintro ⟨approval, happroval, hbelongs, hstatus⟩
  obtain ⟨escalated, hescalated, hsame, houtcome'⟩ := h.escalated approval happroval
  obtain rfl := Table.eq_of_key h.decisionIds hescalated hstored (hsame.trans hbelongs)
  exact ⟨houtcome', approval, happroval, hbelongs, hstatus, h.approved approval happroval hstatus⟩

/-- In every run, whatever the clock shows, a consumed authorization was issued by a call that read
the clock before the expiry of its decision, and the decision was granted; a decision whose approval
request is rejected has no authorization. -/
theorem consumed_provenance (platform : Platform) (calls : List GuardianCall) :
    (∀ authorization ∈ ((guardian platform).run {} calls).authorizations,
      authorization.status = .consumed → ∃ decision, Provenance ((guardian platform).log {} calls)
        ((guardian platform).run {} calls) authorization decision) ∧
    ∀ approval ∈ ((guardian platform).run {} calls).approvals, approval.status = .rejected →
      ∀ authorization ∈ ((guardian platform).run {} calls).authorizations,
        authorization.decisionId ≠ approval.decisionId := by
  have hsound := sound_run platform calls
  constructor
  · intro authorization hauthorization hconsumed
    obtain ⟨decision, hstored, hid, hkey, hissued, hgrounds⟩ :=
      hsound.backed authorization hauthorization
    exact ⟨decision, hstored, hid, hkey, hsound.granted hstored hgrounds, hissued,
      hsound.consumed authorization hauthorization hconsumed⟩
  · intro approval happroval hrejected authorization hauthorization hdecision
    have happroved := hsound.approved_of_authorized hauthorization happroval hdecision.symm
    rw [hrejected] at happroved
    cases happroved

/-- The stored issue time of every consumed authorization is before the expiry of its decision. -/
def IssuedBeforeExpiry (db : GuardianDb) : Prop :=
  ∀ authorization ∈ db.authorizations, authorization.status = .consumed →
    ∃ decision ∈ db.decisions, authorization.decisionId = decision.id ∧
      authorization.issuedAt < decision.expiresAt

instance (db : GuardianDb) : Decidable (IssuedBeforeExpiry db) :=
  inferInstanceAs (Decidable (∀ _ ∈ db.authorizations, _))

/-- The second evaluation reads the clock one microsecond before the decision expires and signs half
a second later. -/
def lateRun : List GuardianCall :=
  [callAt (.evaluate sampleEvaluation) 0 (sampleIds 100),
    { op := .evaluate sampleEvaluation
      clock := ⟨899999999, 899999999, 899999999, 900500000, 900500000, 900500000⟩
      ids := sampleIds 200 },
    callAt (sampleConsume (sampleIds 200)) (seconds 901) (sampleIds 300)]

theorem lateRun_not_issuedBeforeExpiry :
    ClockForward lateRun ∧ ¬ IssuedBeforeExpiry ((guardian
      (samplePlatform [sampleClaims 900500000 100 (sampleIds 200)])).run {} lateRun) := by
  decide +kernel

end Xyena.Guardian
