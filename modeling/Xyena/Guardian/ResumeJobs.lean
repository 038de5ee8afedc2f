import Xyena.Conversations.Service
import Xyena.Guardian.Provenance

/-!
# Approvals and the jobs that resume their calls

`act_on_approval` of `apps/api/routes/approvals.py` with the client of
`packages/guardian/client.py`: the action is committed by Guardian, in a transaction of
its own, before the API stores the job that resumes the call, and the API learns of it by
a reply that can be lost. Calls of the broker come in between.
-/

namespace Xyena.Guardian

open Xyena.Foundation Xyena.Contracts Xyena.Audit
open Xyena.Conversations (AuthenticatedPrincipal Job)

/-! ## The machine -/

/-- The rows of Guardian and the jobs of the API. -/
structure Plane where
  db : GuardianDb := {}
  jobs : List Job := []

/-- A call of the broker, which does not act on approvals. -/
structure BrokerCall extends GuardianCall where
  brokered : ∀ approvalId tenantId action, op ≠ .actOnApproval approvalId tenantId action

/-- What becomes of the request of the client. -/
inductive Exchange where
  | unsent
  | unanswered
  | answered
deriving DecidableEq, Repr

/-- A call of the route, with what Guardian reads and draws, the identifier of the job, and whether the
database refuses the transaction of the API. -/
structure ApprovalAct where
  principal : AuthenticatedPrincipal
  approvalId : Uuid
  action : ApprovalVerb
  reason : String
  correlationId : Uuid
  clock : Readings
  ids : FreshIds
  exchange : Exchange
  jobId : Uuid
  refused : Bool

inductive PlaneCall where
  | broker (call : BrokerCall)
  | act (act : ApprovalAct)

/-- What a call comes to. An action is accepted when the transaction of the API has committed. -/
inductive PlaneReply where
  | brokered (reply : Except GuardianError GuardianReply)
  | roleRequired
  | failed
  | accepted (result : ApprovalActionResult)

/-- The body of the request to Guardian. -/
def ApprovalAct.body (act : ApprovalAct) : ApprovalActionCreate where
  action := act.action
  actorUserId := act.principal.userId
  actorRoles := act.principal.roles
  reason := act.reason
  correlationId := act.correlationId

def ApprovalAct.call (act : ApprovalAct) : GuardianCall where
  op := .actOnApproval act.approvalId act.principal.tenantId act.body
  clock := act.clock
  ids := act.ids

def resumePayload (approvalId toolCallId correlationId : Uuid) : Dict :=
  [("approval_id", .str approvalId.str), ("tool_call_id", .str toolCallId.str),
    ("correlation_id", .str correlationId.str)]

def resumeJob (act : ApprovalAct) (result : ApprovalActionResult) : Job where
  id := act.jobId
  tenantId := act.principal.tenantId
  jobType := "mcp.resume"
  payload := resumePayload act.approvalId result.approval.toolCallId act.correlationId

/-- The transaction of the API once Guardian has replied. -/
def Plane.settle (act : ApprovalAct) (plane : Plane) (result : ApprovalActionResult) : PlaneReply × Plane :=
  if act.refused then (.failed, plane)
  else if result.resumeRequired then
    if plane.jobs.any fun job ↦ job.id == act.jobId then (.failed, plane)
    else (.accepted result, { plane with jobs := plane.jobs ++ [resumeJob act result] })
  else (.accepted result, plane)

/-- `act_on_approval` of the route. -/
def Plane.act (platform : Platform) (plane : Plane) (act : ApprovalAct) : PlaneReply × Plane :=
  if !act.principal.roles.contains "guardian-approver" then (.roleRequired, plane)
  else if act.exchange = .unsent then (.failed, plane)
  else
    let (reply, after) := (guardian platform).step plane.db act.call
    let acted := { plane with db := after }
    if act.exchange = .unanswered then (.failed, acted)
    else
      match reply with
      | .ok (.acted result) => acted.settle act result
      | _ => (.failed, acted)

def controlPlane (platform : Platform) : Machine Plane PlaneCall PlaneReply where
  step plane call :=
    match call with
    | .broker call =>
      let (reply, after) := (guardian platform).step plane.db call.toGuardianCall
      (.brokered reply, { plane with db := after })
    | .act act => plane.act platform act

abbrev PlaneEntry := Entry Plane PlaneCall PlaneReply

/-! ## What is claimed -/

/-- The actions that a request with the status has seen. -/
def verbs : ApprovalStatus → List ApprovalVerb
  | .approved => [.approve]
  | .rejected => [.reject]
  | _ => []

/-- The job resumes the call of an approved request, for the action that approved it. -/
structure Resumes (job : Job) (approval : GuardianApprovalRequest) (action : GuardianApprovalAction) :
    Prop where
  jobType : job.jobType = "mcp.resume"
  payload : job.payload = resumePayload approval.id approval.toolCallId action.correlationId
  tenantId : job.tenantId = approval.tenantId
  approved : approval.status = .approved
  request : action.approvalRequestId = approval.id

/-- The action was taken through the route, by an approver of the tenant. -/
structure TakenBy (action : GuardianApprovalAction) (act : ApprovalAct) : Prop where
  role : "guardian-approver" ∈ act.principal.roles
  request : action.approvalRequestId = act.approvalId
  tenantId : action.tenantId = act.principal.tenantId
  actorUserId : action.actorUserId = act.principal.userId
  actorRoles : action.actorRoles = act.principal.roles
  verb : action.action = act.action
  reason : action.reason = act.reason
  correlationId : action.correlationId = act.correlationId

def Accepts (e : PlaneEntry) (approvalId : Uuid) : Prop :=
  ∃ result, e.output = .accepted result ∧ result.approval.id = approvalId

/-- The jobs, the actions and the requests of a run tell the same story: a request has been acted on at most
once, by an approver, and a call is resumed once and only if its request was approved and the API has
said so. -/
structure Consistent (history : List PlaneEntry) (plane : Plane) : Prop where
  ids : (plane.db.approvals.map GuardianApprovalRequest.id).Nodup
  actions : ∀ approval ∈ plane.db.approvals,
    (plane.db.actions.filter (·.approvalRequestId = approval.id)).map GuardianApprovalAction.action =
      verbs approval.status
  taken : ∀ action ∈ plane.db.actions,
    (∃ e ∈ history, ∃ act, e.input = .act act ∧ TakenBy action act) ∧
      ∃ approval ∈ plane.db.approvals, approval.id = action.approvalRequestId ∧
        approval.tenantId = action.tenantId
  jobs : ∀ job ∈ plane.jobs, ∃ approval ∈ plane.db.approvals, ∃ action ∈ plane.db.actions,
    Resumes job approval action
  once : (plane.jobs.map (·.payload.lookup "approval_id")).Nodup
  accepted : ∀ approval ∈ plane.db.approvals, approval.status = .approved →
    ((∃ job ∈ plane.jobs, ∃ action ∈ plane.db.actions, Resumes job approval action) ↔
      ∃ e ∈ history, Accepts e approval.id)
  decided : ∀ e ∈ history, ∀ approvalId, Accepts e approvalId →
    ∃ approval ∈ plane.db.approvals, approval.id = approvalId ∧ approval.status ≠ .pending

/-! ## What Guardian commits -/

section Guardian

variable {platform : Platform} {call : GuardianCall} {db after : GuardianDb}

/-- A committed action has resolved the pending request, and tells the caller what it has become. -/
theorem actOnApproval_ok {approvalId tenantId : Uuid} {action : ApprovalActionCreate}
    {result : ApprovalActionResult}
    (h : (actOnApproval platform call.clock call.ids approvalId tenantId action).exec db =
      (.ok result, after)) :
    ∃ approval audit, approval ∈ db.approvals ∧ approval.id = approvalId ∧ approval.tenantId = tenantId ∧
      approval.status = .pending ∧
      result = {
        approval := approval.resolve call.clock.now action
        resumeRequired := actionStatus action.action = .approved } ∧
      after = { db with
        approvals :=
          Table.replace GuardianApprovalRequest.id (approval.resolve call.clock.now action) db.approvals
        actions := db.actions ++ [actionRow call.clock call.ids tenantId approval action]
        audit := audit } := by
  rw [actOnApproval, Session.exec_get_bind] at h
  split at h
  · cases h
  next approval hfind =>
    split at h
    · cases h
    next hpending =>
      split at h
      · rw [storeApproval, Session.exec_modify_bind] at h
        cases h
      · split at h
        · cases h
        · simp only [storeApproval, Session.exec_modify_bind] at h
          obtain ⟨_, acted, hadd, h⟩ := Session.exec_bind_ok.mp h
          obtain ⟨-, rfl⟩ := Session.insert_ok.mp hadd
          obtain ⟨_, audited, haudit, h⟩ := Session.exec_bind_ok.mp h
          obtain ⟨audit, rfl⟩ := addAudit_ok haudit
          obtain ⟨rfl, rfl⟩ := Session.exec_pure_ok.mp h
          have hfound := List.find?_some hfind
          rw [isApproval, Bool.and_eq_true, beq_iff_eq, beq_iff_eq] at hfound
          exact ⟨approval, audit, List.mem_of_find?_eq_some hfind, hfound.1, hfound.2,
            not_not.mp hpending, rfl, rfl⟩

/-- A call for an action raises and changes nothing, or commits. -/
theorem step_actOnApproval (platform : Platform) (db : GuardianDb) {approvalId tenantId : Uuid}
    {action : ApprovalActionCreate}
    (hop : call.op = .actOnApproval approvalId tenantId action) :
    (∃ failure, (guardian platform).step db call = (.error failure, db)) ∨
      ∃ result after, (guardian platform).step db call = (.ok (.acted result), after) ∧
        (actOnApproval platform call.clock call.ids approvalId tenantId action).exec db =
          (.ok result, after) := by
  have hserve : serve platform call =
      actOnApproval platform call.clock call.ids approvalId tenantId action >>= fun result ↦
        pure (.acted result) := by
    rw [serve, hop]
  change (∃ failure, (serve platform call).atomically db = (.error failure, db)) ∨
    ∃ result after, (serve platform call).atomically db = (.ok (.acted result), after) ∧ _
  rw [hserve]
  unfold Session.atomically
  rw [Session.exec_bind]
  cases hexec : (actOnApproval platform call.clock call.ids approvalId tenantId action).exec db with
  | mk outcome after =>
    cases outcome with
    | error failure => exact Or.inl ⟨failure, rfl⟩
    | ok result => exact Or.inr ⟨result, after, rfl, rfl⟩

end Guardian

/-! ## What the route can do -/

section Route

variable {platform : Platform} {plane : Plane} {act : ApprovalAct}

/-- The pending request that an approver of its tenant acts on. -/
structure Decides (plane : Plane) (act : ApprovalAct) (approval : GuardianApprovalRequest) : Prop where
  stored : approval ∈ plane.db.approvals
  id : approval.id = act.approvalId
  tenantId : approval.tenantId = act.principal.tenantId
  pending : approval.status = .pending
  role : "guardian-approver" ∈ act.principal.roles

/-- The rows of Guardian after the action. -/
def ApprovalAct.commit (act : ApprovalAct) (db : GuardianDb) (approval : GuardianApprovalRequest)
    (audit : List AuditEvent) : GuardianDb :=
  { db with
    approvals :=
      Table.replace GuardianApprovalRequest.id (approval.resolve act.clock.now act.body) db.approvals
    actions := db.actions ++ [actionRow act.clock act.ids act.principal.tenantId approval act.body]
    audit := audit }

def ApprovalAct.result (act : ApprovalAct) (approval : GuardianApprovalRequest) : ApprovalActionResult where
  approval := approval.resolve act.clock.now act.body
  resumeRequired := actionStatus act.action = .approved

/-- What a call of the route leaves behind: nothing, a decision that the API does not know of, or a decision
with the job of an approved call. -/
inductive ActMove (plane : Plane) (act : ApprovalAct) : PlaneReply → Plane → Prop
  | nothing (reply : PlaneReply) (h : ∀ result, reply ≠ .accepted result) : ActMove plane act reply plane
  | lost (approval : GuardianApprovalRequest) (audit : List AuditEvent) (h : Decides plane act approval) :
    ActMove plane act .failed { plane with db := act.commit plane.db approval audit }
  | rejected (approval : GuardianApprovalRequest) (audit : List AuditEvent) (h : Decides plane act approval)
      (haction : act.action = .reject) :
    ActMove plane act (.accepted (act.result approval))
      { plane with db := act.commit plane.db approval audit }
  | resumed (approval : GuardianApprovalRequest) (audit : List AuditEvent) (h : Decides plane act approval)
      (haction : act.action = .approve) :
    ActMove plane act (.accepted (act.result approval))
      { db := act.commit plane.db approval audit
        jobs := plane.jobs ++ [resumeJob act (act.result approval)] }

theorem act_cases (platform : Platform) (plane : Plane) (act : ApprovalAct) :
    ActMove plane act (plane.act platform act).1 (plane.act platform act).2 := by
  rw [Plane.act]
  split
  · exact .nothing .roleRequired fun _ h ↦ by cases h
  next hrole =>
    split
    · exact .nothing .failed fun _ h ↦ by cases h
    · have hop : act.call.op = .actOnApproval act.approvalId act.principal.tenantId act.body := rfl
      rcases step_actOnApproval platform plane.db hop with
        ⟨failure, hstep⟩ | ⟨result, after, hstep, hexec⟩
      · rw [hstep]
        simp only
        split_ifs
        · exact .nothing .failed fun _ h ↦ by cases h
        · exact .nothing .failed fun _ h ↦ by cases h
      · rw [hstep]
        obtain ⟨approval, audit, hstored, hid, htenant, hpending, rfl, rfl⟩ := actOnApproval_ok hexec
        have hdecides : Decides plane act approval := ⟨hstored, hid, htenant, hpending, by simpa using hrole⟩
        simp only [Plane.settle]
        split_ifs with _ _ hresume
        · exact .lost approval audit hdecides
        · exact .lost approval audit hdecides
        · exact .lost approval audit hdecides
        · refine .resumed approval audit hdecides ?_
          cases haction : act.action with
          | approve => rfl
          | reject => simp [ApprovalAct.body, haction, actionStatus] at hresume
        · refine .rejected approval audit hdecides ?_
          cases haction : act.action with
          | approve => simp [ApprovalAct.body, haction, actionStatus] at hresume
          | reject => rfl

end Route

/-! ## Calls of the broker -/

section Broker

variable {platform : Platform} {plane : Plane} {history : List PlaneEntry} {e : PlaneEntry}

/-- The broker only adds requests, which are pending. -/
structure Grown (db after : GuardianDb) : Prop where
  approvals : ∃ new, after.approvals = db.approvals ++ new ∧ ∀ approval ∈ new, approval.status = .pending
  ids : (after.approvals.map GuardianApprovalRequest.id).Nodup
  actions : after.actions = db.actions

theorem grown_step (platform : Platform) {db : GuardianDb}
    (hids : (db.approvals.map GuardianApprovalRequest.id).Nodup)
    (call : BrokerCall) : Grown db ((guardian platform).step db call.toGuardianCall).2 := by
  refine step_invariant platform (Grown db) db call.toGuardianCall ?_
    ⟨⟨[], (List.append_nil _).symm, by simp⟩, hids, rfl⟩
  intro before after hmove h
  cases hmove with
  | decide => exact ⟨h.approvals, h.ids, h.actions⟩
  | escalate evaluation audit hop houtcome hdecision happroval =>
    obtain ⟨new, hnew, hpending⟩ := h.approvals
    refine ⟨⟨new ++ [approvalRow call.clock call.ids evaluation], ?_, ?_⟩, ?_, h.actions⟩
    · exact (congrArg (· ++ _) hnew).trans (List.append_assoc _ _ _)
    · intro approval hmem
      rcases List.mem_append.mp hmem with hold | hlast
      · exact hpending approval hold
      · rw [List.mem_singleton.mp hlast]
        rfl
    · rw [List.map_append, List.map_singleton, List.nodup_append]
      refine ⟨h.ids, List.nodup_singleton _, ?_⟩
      intro id hid other hother hsame
      obtain ⟨old, hold, rfl⟩ := List.mem_map.mp hid
      rw [List.mem_singleton] at hother
      exact (happroval old hold).1 (hother.symm.trans hsame.symm)
  | issue => exact ⟨h.approvals, h.ids, h.actions⟩
  | resolve approvalId tenantId action _ _ hop => exact absurd hop (call.brokered approvalId tenantId action)
  | consume => exact ⟨h.approvals, h.ids, h.actions⟩

theorem accepts_snoc {approvalId : Uuid} (hquiet : ∀ result, e.output ≠ .accepted result) :
    (∃ entry ∈ history ++ [e], Accepts entry approvalId) ↔ ∃ entry ∈ history, Accepts entry approvalId := by
  simp only [List.mem_append, List.mem_singleton, or_and_right, exists_or, exists_eq_left]
  refine or_iff_left ?_
  rintro ⟨result, hresult, -⟩
  exact hquiet result hresult

theorem TakenBy.later {action : GuardianApprovalAction}
    (h : ∃ e ∈ history, ∃ act, e.input = .act act ∧ TakenBy action act)
    (e : PlaneEntry) : ∃ entry ∈ history ++ [e], ∃ act, entry.input = .act act ∧ TakenBy action act := by
  obtain ⟨entry, hentry, htaken⟩ := h
  exact ⟨entry, List.mem_append_left _ hentry, htaken⟩

theorem Consistent.grown {after : GuardianDb} (h : Consistent history plane) (hgrown : Grown plane.db after)
    (hquiet : ∀ result, e.output ≠ .accepted result) : Consistent (history ++ [e])
    { plane with db := after } := by
  obtain ⟨new, hnew, hpending⟩ := hgrown.approvals
  have hmem (approval : GuardianApprovalRequest) (hstored : approval ∈ after.approvals) :
      approval ∈ plane.db.approvals ∨ approval ∈ new := List.mem_append.mp (hnew ▸ hstored)
  have hkept {approval : GuardianApprovalRequest} (hstored : approval ∈ plane.db.approvals) :
      approval ∈ after.approvals := by
    rw [hnew]
    exact List.mem_append_left _ hstored
  constructor
  case ids => exact hgrown.ids
  case actions =>
    intro approval hstored
    rcases hmem approval hstored with hold | hlast
    · rw [hgrown.actions]
      exact h.actions approval hold
    · have hnone : plane.db.actions.filter (·.approvalRequestId = approval.id) = [] := by
        refine List.filter_eq_nil_iff.mpr fun action haction hsame ↦ ?_
        obtain ⟨-, old, hold, hid, -⟩ := h.taken action haction
        have hids := hgrown.ids
        rw [hnew, List.map_append] at hids
        exact List.disjoint_of_nodup_append hids (List.mem_map_of_mem hold)
          ((hid.trans (of_decide_eq_true hsame)) ▸ List.mem_map_of_mem hlast)
      rw [hgrown.actions, hnone, hpending approval hlast]
      rfl
  case taken =>
    intro action haction
    rw [hgrown.actions] at haction
    obtain ⟨htaken, approval, hstored, hsame⟩ := h.taken action haction
    exact ⟨TakenBy.later htaken e, approval, hkept hstored, hsame⟩
  case jobs =>
    intro job hjob
    obtain ⟨approval, hstored, hresumes⟩ := h.jobs job hjob
    rw [hgrown.actions]
    exact ⟨approval, hkept hstored, hresumes⟩
  case once => exact h.once
  case accepted =>
    intro approval hstored hstatus
    rcases hmem approval hstored with hold | hlast
    · rw [hgrown.actions, accepts_snoc hquiet]
      exact h.accepted approval hold hstatus
    · cases (hpending approval hlast).symm.trans hstatus
  case decided =>
    intro entry hentry approvalId haccepts
    obtain ⟨earlier, hearlier, haccepts⟩ := (accepts_snoc hquiet).mp ⟨entry, hentry, haccepts⟩
    obtain ⟨approval, hstored, hdecided⟩ := h.decided earlier hearlier approvalId haccepts
    exact ⟨approval, hkept hstored, hdecided⟩

end Broker

/-! ## Actions -/

section Actions

variable {platform : Platform} {plane : Plane} {act : ApprovalAct} {approval : GuardianApprovalRequest}
  {history : List PlaneEntry} {e : PlaneEntry}

/-- A job that resumes a request names it. -/
theorem Resumes.names {job : Job} {approval : GuardianApprovalRequest} {action : GuardianApprovalAction}
    (h : Resumes job approval action) : job.payload.lookup "approval_id" = some (.str approval.id.str) := by
  rw [h.payload]
  rfl

/-- One job resumes one request. -/
theorem Resumes.unique {job other : Job} {approval another : GuardianApprovalRequest}
    {action reaction : GuardianApprovalAction}
    (h : Resumes job approval action) (hother : Resumes other another reaction)
    (hsame : job.payload.lookup "approval_id" = other.payload.lookup "approval_id") :
      approval.id = another.id := by
  rw [h.names, hother.names] at hsame
  exact Uuid.str_injective (Json.str.inj (Option.some.inj hsame))

/-- A pending request has neither a job nor an accepted action. -/
theorem Consistent.untouched (h : Consistent history plane) (hdecides : Decides plane act approval) :
    (∀ job ∈ plane.jobs, job.payload.lookup "approval_id" ≠ some (.str approval.id.str)) ∧
      ∀ e ∈ history, ¬Accepts e approval.id := by
  constructor
  · intro job hjob hnames
    obtain ⟨other, hother, action, -, hresumes⟩ := h.jobs job hjob
    have hid : other.id = approval.id := by
      rw [hresumes.names] at hnames
      exact Uuid.str_injective (Json.str.inj (Option.some.inj hnames))
    obtain rfl := Table.eq_of_key h.ids hother hdecides.stored hid
    cases hresumes.approved.symm.trans hdecides.pending
  · intro e he haccepts
    obtain ⟨other, hother, hid, hstatus⟩ := h.decided e he approval.id haccepts
    obtain rfl := Table.eq_of_key h.ids hother hdecides.stored hid
    exact hstatus hdecides.pending

/-- The new row of a job that the API stores. -/
theorem resumes_new (hdecides : Decides plane act approval) (haction : act.action = .approve) :
    Resumes (resumeJob act (act.result approval)) (approval.resolve act.clock.now act.body)
      (actionRow act.clock act.ids act.principal.tenantId approval act.body) where
  jobType := rfl
  payload := by
    rw [resumeJob, ← hdecides.id]
    rfl
  tenantId := hdecides.tenantId.symm
  approved := by
    change actionStatus act.action = .approved
    rw [haction]
    rfl
  request := rfl

/-- What is added with a committed action. -/
theorem resumes_added {new : List Job} (hdecides : Decides plane act approval)
    (hjobs : new = [] ∨ new = [resumeJob act (act.result approval)] ∧ act.action = .approve) :
    ∀ job ∈ new, Resumes job (approval.resolve act.clock.now act.body)
      (actionRow act.clock act.ids act.principal.tenantId approval act.body) := by
  intro job hjob
  rcases hjobs with rfl | ⟨rfl, haction⟩
  · cases hjob
  · rw [List.mem_singleton.mp hjob]
    exact resumes_new hdecides haction

section Committed

variable (audit : List AuditEvent) {new : List Job}

theorem committed_kept {other : GuardianApprovalRequest} (hstored : other ∈ plane.db.approvals)
    (hne : other.id ≠ approval.id) : other ∈ (act.commit plane.db approval audit).approvals :=
  Table.mem_replace_of_ne hstored hne

theorem committed_resolved (hdecides : Decides plane act approval) :
    approval.resolve act.clock.now act.body ∈ (act.commit plane.db approval audit).approvals :=
  Table.changed_mem_replace hdecides.stored rfl

theorem committed_recorded : actionRow act.clock act.ids act.principal.tenantId approval act.body ∈
    (act.commit plane.db approval audit).actions :=
  List.mem_append_right _ (List.mem_singleton_self _)

variable (h : Consistent history plane)
include h

theorem Consistent.committed_ids :
    ((act.commit plane.db approval audit).approvals.map GuardianApprovalRequest.id).Nodup := by
  change ((Table.replace GuardianApprovalRequest.id _ _).map GuardianApprovalRequest.id).Nodup
  rw [Table.map_key_replace]
  exact h.ids

variable (hdecides : Decides plane act approval)
include hdecides

/-- The request has the one action that was taken, and the others keep theirs. -/
theorem Consistent.committed_actions : ∀ other ∈ (act.commit plane.db approval audit).approvals,
    ((act.commit plane.db approval audit).actions.filter (·.approvalRequestId = other.id)).map
      GuardianApprovalAction.action = verbs other.status := by
  intro other hstored
  change ((plane.db.actions ++ [_]).filter _).map _ = _
  rw [List.filter_append, List.map_append]
  rcases Table.mem_replace hstored with rfl | ⟨hother, hne⟩
  · have hnone := h.actions approval hdecides.stored
    rw [hdecides.pending] at hnone
    change (plane.db.actions.filter (·.approvalRequestId = approval.id)).map _ ++ _ = _
    rw [hnone, List.filter_cons_of_pos (by simp [actionRow, GuardianApprovalRequest.resolve])]
    change [act.action] = verbs (actionStatus act.action)
    cases act.action <;> rfl
  · have hanother : approval.id ≠ other.id := fun hid ↦ hne hid.symm
    rw [h.actions other hother, List.filter_cons_of_neg]
    · exact List.append_nil _
    · exact fun hsame ↦ hanother (of_decide_eq_true hsame)

theorem Consistent.committed_taken (hinput : e.input = .act act) :
    ∀ action ∈ (act.commit plane.db approval audit).actions,
      (∃ entry ∈ history ++ [e], ∃ other, entry.input = .act other ∧ TakenBy action other) ∧
        ∃ other ∈ (act.commit plane.db approval audit).approvals, other.id = action.approvalRequestId ∧
          other.tenantId = action.tenantId := by
  have hresolved := committed_resolved audit hdecides
  intro action haction
  rcases List.mem_append.mp haction with hearlier | hlast
  · obtain ⟨htaken, other, hother, hid, htenant⟩ := h.taken action hearlier
    refine ⟨TakenBy.later htaken e, ?_⟩
    by_cases hsame : other.id = approval.id
    · obtain rfl := Table.eq_of_key h.ids hother hdecides.stored hsame
      exact ⟨_, hresolved, hid, htenant⟩
    · exact ⟨other, committed_kept audit hother hsame, hid, htenant⟩
  · obtain rfl := List.mem_singleton.mp hlast
    refine ⟨⟨e, List.mem_append_right _ (List.mem_singleton_self e), act, hinput, ?_⟩, _, hresolved, rfl,
      hdecides.tenantId⟩
    exact ⟨hdecides.role, hdecides.id, rfl, rfl, rfl, rfl, rfl, rfl⟩

/-- An accepted action of a run that did not end with it is about a request that was no longer pending. -/
theorem Consistent.committed_decided (haccepts : ∀ approvalId, Accepts e approvalId → approvalId = approval.id) :
    ∀ entry ∈ history ++ [e], ∀ approvalId, Accepts entry approvalId →
      ∃ other ∈ (act.commit plane.db approval audit).approvals, other.id = approvalId ∧
        other.status ≠ .pending := by
  obtain ⟨-, hsilent⟩ := h.untouched hdecides
  intro entry hentry approvalId haccepted
  rcases List.mem_append.mp hentry with hearlier | hlast
  · obtain ⟨other, hother, hid, hdecided⟩ := h.decided entry hearlier approvalId haccepted
    refine ⟨other, committed_kept audit hother fun hsame ↦ ?_, hid, hdecided⟩
    exact hsilent entry hearlier (hsame ▸ hid ▸ haccepted)
  · obtain rfl := List.mem_singleton.mp hlast
    refine ⟨_, committed_resolved audit hdecides, (haccepts approvalId haccepted).symm, ?_⟩
    change actionStatus act.action ≠ .pending
    cases act.action <;> exact fun hstatus ↦ by cases hstatus

variable (hadded : ∀ job ∈ new, Resumes job (approval.resolve act.clock.now act.body)
  (actionRow act.clock act.ids act.principal.tenantId approval act.body))
include hadded

theorem Consistent.committed_jobs : ∀ job ∈ plane.jobs ++ new,
    ∃ other ∈ (act.commit plane.db approval audit).approvals,
      ∃ action ∈ (act.commit plane.db approval audit).actions, Resumes job other action := by
  obtain ⟨hfree, -⟩ := h.untouched hdecides
  intro job hjob
  rcases List.mem_append.mp hjob with hearlier | hlast
  · obtain ⟨other, hother, action, haction, hresumes⟩ := h.jobs job hearlier
    refine ⟨other, committed_kept audit hother fun hid ↦ ?_, action, List.mem_append_left _ haction, hresumes⟩
    exact hfree job hearlier (hid ▸ hresumes.names)
  · exact ⟨_, committed_resolved audit hdecides, _, committed_recorded audit, hadded job hlast⟩

omit audit in
theorem Consistent.committed_once (hnew : (new.map (·.payload.lookup "approval_id")).Nodup) :
    ((plane.jobs ++ new).map (·.payload.lookup "approval_id")).Nodup := by
  obtain ⟨hfree, -⟩ := h.untouched hdecides
  rw [List.map_append, List.nodup_append]
  refine ⟨h.once, hnew, ?_⟩
  rintro first hfirst second hsecond rfl
  obtain ⟨job, hjob, rfl⟩ := List.mem_map.mp hfirst
  obtain ⟨other, hother, hsame⟩ := List.mem_map.mp hsecond
  exact hfree job hjob (hsame.symm.trans (hadded other hother).names)

/-- The request itself has a job if its approval was accepted by this action. -/
theorem Consistent.committed_accepted_here (hlinked : Accepts e approval.id ↔ new ≠ []) :
    (∃ job ∈ plane.jobs ++ new, ∃ action ∈ (act.commit plane.db approval audit).actions,
      Resumes job (approval.resolve act.clock.now act.body) action) ↔
      ∃ entry ∈ history ++ [e], Accepts entry approval.id := by
  obtain ⟨hfree, hsilent⟩ := h.untouched hdecides
  simp only [List.mem_append, List.mem_singleton, or_and_right, exists_or, exists_eq_left]
  have hnever : ¬∃ entry ∈ history, Accepts entry approval.id := by
    rintro ⟨entry, hentry, haccepted⟩
    exact hsilent entry hentry haccepted
  rw [or_iff_right hnever, hlinked]
  constructor
  · rintro (⟨job, hjob, action, -, hresumes⟩ | ⟨job, hjob, -⟩)
    · exact absurd hresumes.names (hfree job hjob)
    · exact List.ne_nil_of_mem hjob
  · intro hsome
    obtain ⟨job, hjob⟩ := List.exists_mem_of_ne_nil _ hsome
    exact Or.inr ⟨job, hjob, _, committed_recorded audit, hadded job hjob⟩

omit hdecides in
/-- The jobs of the other requests are the earlier ones. -/
theorem Consistent.committed_accepted_other {other : GuardianApprovalRequest}
    (hother : other ∈ plane.db.approvals) (hne : other.id ≠ approval.id) (hstatus : other.status = .approved)
    (hquiet : ¬Accepts e other.id) :
    (∃ job ∈ plane.jobs ++ new, ∃ action ∈ (act.commit plane.db approval audit).actions,
      Resumes job other action) ↔ ∃ entry ∈ history ++ [e], Accepts entry other.id := by
  simp only [List.mem_append, List.mem_singleton, or_and_right, exists_or, exists_eq_left]
  rw [or_iff_left hquiet, ← h.accepted other hother hstatus]
  constructor
  · rintro (⟨job, hjob, action, haction, hresumes⟩ | ⟨job, hjob, action, -, hresumes⟩)
    · rcases List.mem_append.mp haction with hearlier | hlast
      · exact ⟨job, hjob, action, hearlier, hresumes⟩
      · rw [List.mem_singleton.mp hlast] at hresumes
        exact absurd hresumes.request.symm hne
    · exact absurd (hresumes.unique (hadded job hjob) rfl) hne
  · rintro ⟨job, hjob, action, haction, hresumes⟩
    exact Or.inl ⟨job, hjob, action, List.mem_append_left _ haction, hresumes⟩

end Committed

/-- An action that Guardian has committed, with the jobs that the API has added for it. -/
theorem Consistent.committed (h : Consistent history plane) (audit : List AuditEvent) (new : List Job)
    (hdecides : Decides plane act approval) (hinput : e.input = .act act)
    (hjobs : new = [] ∨ new = [resumeJob act (act.result approval)] ∧ act.action = .approve)
    (haccepts : ∀ approvalId, Accepts e approvalId → approvalId = approval.id)
    (hlinked : act.action = .approve → (Accepts e approval.id ↔ new ≠ [])) :
    Consistent (history ++ [e]) { db := act.commit plane.db approval audit, jobs := plane.jobs ++ new } := by
  have hadded := resumes_added hdecides hjobs
  have hnew : (new.map (·.payload.lookup "approval_id")).Nodup := by
    rcases hjobs with rfl | ⟨rfl, -⟩
    · exact List.nodup_nil
    · exact List.nodup_singleton _
  constructor
  case ids => exact h.committed_ids audit
  case actions => exact h.committed_actions audit hdecides
  case taken => exact h.committed_taken audit hdecides hinput
  case jobs => exact h.committed_jobs audit hdecides hadded
  case once => exact h.committed_once hdecides hadded hnew
  case accepted =>
    intro other hstored hstatus
    rcases Table.mem_replace hstored with rfl | ⟨hother, hne⟩
    · have haction : act.action = .approve := by
        cases haction : act.action with
        | approve => rfl
        | reject =>
          change actionStatus act.action = .approved at hstatus
          rw [haction] at hstatus
          cases hstatus
      exact h.committed_accepted_here audit hdecides hadded (hlinked haction)
    · exact h.committed_accepted_other audit hadded hother hne hstatus
        fun haccepted ↦ hne (haccepts other.id haccepted)
  case decided => exact h.committed_decided audit hdecides haccepts

end Actions

/-! ## Runs -/

theorem Consistent.step (platform : Platform) {history : List PlaneEntry} {plane : Plane}
    (h : Consistent history plane)
    (call : PlaneCall) :
    Consistent (history ++ [(controlPlane platform).entry plane call])
      ((controlPlane platform).step plane call).2 := by
  cases call with
  | broker call => exact h.grown (grown_step platform h.ids call) fun _ hreply ↦ by cases hreply
  | act act =>
    have hmove := act_cases platform plane act
    have houtput : ((controlPlane platform).entry plane (.act act)).output = (plane.act platform act).1 := rfl
    change Consistent _ (plane.act platform act).2
    generalize (plane.act platform act).1 = reply, (plane.act platform act).2 = after at hmove houtput
    cases hmove with
    | nothing reply hquiet =>
      exact h.grown ⟨⟨[], (List.append_nil _).symm, by simp⟩, h.ids, rfl⟩ fun result ↦ houtput ▸ hquiet result
    | lost approval audit hdecides =>
      have hquiet (approvalId : Uuid) : ¬Accepts ((controlPlane platform).entry plane (.act act))
          approvalId := by
        rintro ⟨result, hresult, -⟩
        cases houtput.symm.trans hresult
      rw [← List.append_nil plane.jobs]
      exact h.committed audit [] hdecides rfl (Or.inl rfl) (fun id hid ↦ absurd hid (hquiet id))
        fun _ ↦ ⟨fun hid ↦ absurd hid (hquiet _), fun hnone ↦ absurd rfl hnone⟩
    | rejected approval audit hdecides haction =>
      rw [← List.append_nil plane.jobs]
      refine h.committed audit [] hdecides rfl (Or.inl rfl) ?_ fun happrove ↦ ?_
      · rintro approvalId ⟨result, hresult, rfl⟩
        obtain rfl := PlaneReply.accepted.inj (houtput.symm.trans hresult)
        rfl
      · cases haction.symm.trans happrove
    | resumed approval audit hdecides haction =>
      refine h.committed audit _ hdecides rfl (Or.inr ⟨rfl, haction⟩) ?_ fun _ ↦ ?_
      · rintro approvalId ⟨result, hresult, rfl⟩
        obtain rfl := PlaneReply.accepted.inj (houtput.symm.trans hresult)
        rfl
      · exact iff_of_true ⟨_, houtput, rfl⟩ (List.cons_ne_nil _ _)

/-- In every run requests are decided at most once, by approvers of their tenants, and each approved one
has one job if its approval was accepted and no job otherwise. -/
theorem approvals_consistent (platform : Platform) (calls : List PlaneCall) :
    Consistent ((controlPlane platform).log {} calls) ((controlPlane platform).run {} calls) := by
  refine (controlPlane platform).history_invariant_all Consistent ?_ (fun _ _ call h ↦
    h.step platform call) calls
  constructor <;> simp

end Xyena.Guardian
