import Xyena.Demo.Verdict
import Xyena.Foundation.Calendar

/-!
# Operations snapshots

`create_operations_snapshot` of `apps/api/routes/demo.py` after its rate limit. The six
requests are fixed by the body and the date, whatever the tools answer; what counts is
how many of the answers carry the record of their tool.
-/

namespace Xyena.Demo

open Xyena.Foundation Xyena.Contracts

/-! ## The route -/

structure OperationsSnapshotRequest where
  registryIdentifier : String := "29ABCDE1234F1Z5"
  gstInvoiceNumber : String := "MICRO/26/101"
  gstStatus : String := "REGISTERED"
  erpOrderReference : String := "PO-1007"
  deliverySellerId : String := "seller_global_tech"
  deliveryInvoiceNumber : String := "INV-8942"
  bankAccountToken : String := "acct_demo_operating"

inductive SnapshotStatus where
  | verified
  | partly
  | failed
deriving DecidableEq, Repr

structure OperationsSnapshot where
  status : SnapshotStatus
  inputs : List (String × String)
  steps : List AgentTraceStep
  successfulCalls : Nat
  totalCalls : Nat
  evidenceMatchedCalls : Nat
  evidenceMatches : List (String × Bool)
  evidenceComplete : Bool
  fundingGate : String

def OperationsSnapshotRequest.dump (body : OperationsSnapshotRequest) : List (String × String) :=
  [("registry_identifier", body.registryIdentifier), ("gst_invoice_number", body.gstInvoiceNumber),
    ("gst_status", body.gstStatus), ("erp_order_reference", body.erpOrderReference),
    ("delivery_seller_id", body.deliverySellerId), ("delivery_invoice_number", body.deliveryInvoiceNumber),
    ("bank_account_token", body.bankAccountToken)]

def snapshotPurpose : String := "judge_demo_live_operations_snapshot"

/-- The requests of a snapshot. How a text is put in upper case is left to `upper`. -/
def operationCalls (upper : String → String) (today : Nat) (body : OperationsSnapshotRequest) :
    List JudgeCall :=
  [{ toolName := "registry.businesses.get"
     arguments := [("identifier", .str (strip body.registryIdentifier))]
     tenantId := registryTenantId, organizationId := registryOrganizationId, purpose := snapshotPurpose },
    { toolName := "gst.invoices.search"
      arguments := [("query", .str (strip body.gstInvoiceNumber)),
        ("status", .str (upper (strip body.gstStatus))), ("limit", .int 5)]
      purpose := snapshotPurpose },
    { toolName := "erp.purchase_orders.get"
      arguments := [("order_id_or_number", .str (strip body.erpOrderReference))]
      tenantId := sharedDemoTenantId, organizationId := sharedDemoOrganizationId,
        purpose := snapshotPurpose },
    { toolName := "delivery.deliveries.find_by_invoice"
      arguments := [("invoice_id", .null), ("seller_id", .str (strip body.deliverySellerId)),
        ("invoice_number", .str (strip body.deliveryInvoiceNumber))]
      tenantId := sharedDemoTenantId, organizationId := sharedDemoOrganizationId,
        purpose := snapshotPurpose },
    { toolName := "bank.accounts.get_balance"
      arguments := [("account_token", .str (strip body.bankAccountToken))]
      tenantId := sharedDemoTenantId, organizationId := sharedDemoOrganizationId,
        purpose := snapshotPurpose },
    { toolName := "bank.transactions.list"
      arguments := [("account_token", .str (strip body.bankAccountToken)),
        ("from_date", .str (Calendar.dateText (today - 30))),
        ("to_date", .str (Calendar.dateText today)), ("limit", .int 20)]
      tenantId := sharedDemoTenantId, organizationId := sharedDemoOrganizationId,
        purpose := snapshotPurpose }]

/-- Assign a key of a dictionary. -/
def setKey (fields : List (String × Bool)) (key : String) (value : Bool) : List (String × Bool) :=
  if fields.any (·.1 == key) then fields.map fun field ↦ if field.1 = key then (key, value) else field
  else fields ++ [(key, value)]

def addMatch (fields : List (String × Bool)) (step : AgentTraceStep) : List (String × Bool) :=
  match step.toolName with
  | none => fields
  | some toolName => if toolName = "" then fields else setKey fields toolName (operationStepHasEvidence step)

/-- Which tools have answered with their record. -/
def evidenceMatches (steps : List AgentTraceStep) : List (String × Bool) := steps.foldl addMatch []

def summarize (body : OperationsSnapshotRequest) (steps : List AgentTraceStep) : OperationsSnapshot :=
  let found := evidenceMatches steps
  let count := found.countP Prod.snd
  let complete : Bool := count = steps.length
  { status := if complete then .verified else if count ≠ 0 then .partly else .failed
    inputs := body.dump
    steps := steps
    successfulCalls := steps.countP fun step ↦ step.status = .verified
    totalCalls := steps.length
    evidenceMatchedCalls := count
    evidenceMatches := found
    evidenceComplete := complete
    fundingGate := if complete then "READ_ONLY_EVIDENCE_COMPLETE" else "BLOCKED_MISSING_EVIDENCE" }

/-- `create_operations_snapshot`. -/
def createOperationsSnapshot (settings : JudgeSettings) (upper : String → String) (today : Nat)
    (body : OperationsSnapshotRequest) : Judge OperationsSnapshot :=
  (callAll settings (operationCalls upper today body) []).bind fun steps ↦ .ret (summarize body steps)

/-! ## What is claimed -/

def operationTools : List String :=
  ["registry.businesses.get", "gst.invoices.search", "erp.purchase_orders.get",
    "delivery.deliveries.find_by_invoice", "bank.accounts.get_balance", "bank.transactions.list"]

/-- The answer of a call carries the record of the tool. -/
def carries (event : JudgeEvent) : Bool := (callStep event).any operationStepHasEvidence

/-- What a snapshot says about the events of its run. -/
structure FaithfulSnapshot (settings : JudgeSettings) (calls : List JudgeCall) (snapshot : OperationsSnapshot)
    (events : List JudgeEvent) : Prop where
  answers : settings.serviceToken.isSome = true → Answers calls events ∧ snapshot.steps = shownSteps events
  unasked : settings.serviceToken = none → events = []
  governed : ∀ event ∈ events, carries event = true → ∃ answer, Governed answer event
  matched : snapshot.evidenceMatchedCalls = events.countP carries
  verified : snapshot.status = .verified ↔ events.length = 6 ∧ ∀ event ∈ events, carries event = true
  failed : snapshot.status = .failed ↔ ∀ event ∈ events, carries event = false
  gate : snapshot.fundingGate = "READ_ONLY_EVIDENCE_COMPLETE" ↔ snapshot.status = .verified

/-! ## Names -/

theorem setKey_new {fields : List (String × Bool)} {key : String} (h : key ∉ fields.map Prod.fst)
    (value : Bool) : setKey fields key value = fields ++ [(key, value)] := by
  refine if_neg fun hany ↦ h ?_
  obtain ⟨field, hfield, hkey⟩ := List.any_eq_true.mp hany
  exact beq_iff_eq.mp hkey ▸ List.mem_map_of_mem hfield

/-- Steps of different tools have an entry each. -/
theorem evidenceMatches_eq {steps : List AgentTraceStep} {names : List String}
    (hnames : steps.map AgentTraceStep.toolName = names.map some) (hgiven : "" ∉ names)
    (hdistinct : names.Nodup) :
    (evidenceMatches steps).countP Prod.snd = steps.countP operationStepHasEvidence := by
  suffices h : ∀ fields : List (String × Bool), (∀ name ∈ names, name ∉ fields.map Prod.fst) →
      (steps.foldl addMatch fields).countP Prod.snd =
        fields.countP Prod.snd + steps.countP operationStepHasEvidence by
    have hempty := h [] (by simp)
    rwa [List.countP_nil, Nat.zero_add] at hempty
  induction steps generalizing names with
  | nil => exact fun fields _ ↦ rfl
  | cons step rest ih =>
    cases names with
    | nil => cases hnames
    | cons name names =>
      obtain ⟨hname, hrest⟩ := List.cons.inj hnames
      obtain ⟨hnot, hothers⟩ := List.nodup_cons.mp hdistinct
      intro fields hfields
      have hname : step.toolName = some name := hname
      have hgivenName : name ≠ "" := fun hblank ↦ hgiven (hblank ▸ List.mem_cons_self)
      have hnew : name ∉ fields.map Prod.fst := hfields name List.mem_cons_self
      have hadded : addMatch fields step = fields ++ [(name, operationStepHasEvidence step)] := by
        simp only [addMatch, hname, if_neg hgivenName, setKey_new hnew]
      rw [List.foldl_cons, hadded, ih hrest (fun hmem ↦ hgiven (List.mem_cons_of_mem _ hmem)) hothers]
      · simp only [List.countP_append, List.countP_cons, List.countP_nil]
        omega
      · intro other hother
        rw [List.map_append, List.mem_append, not_or]
        refine ⟨hfields other (List.mem_cons_of_mem _ hother), fun hsame ↦ hnot ?_⟩
        have hequal : other = name := List.mem_singleton.mp hsame
        exact hequal ▸ hother

theorem shownSteps_names {calls : List JudgeCall} {events : List JudgeEvent} (h : Answers calls events) :
    (shownSteps events).map AgentTraceStep.toolName = (calls.map JudgeCall.toolName).map some := by
  induction h with
  | nil => rfl
  | @cons call event rest events hhead htail ih =>
    obtain ⟨effect, reply⟩ := event
    cases hhead
    have hname : (toolStep call reply).1.toolName = some call.toolName := by cases reply <;> rfl
    exact List.cons_eq_cons.mpr ⟨hname, ih⟩

theorem countP_shownSteps (events : List JudgeEvent) :
    (shownSteps events).countP operationStepHasEvidence = events.countP carries := by
  induction events with
  | nil => rfl
  | cons event rest ih =>
    rw [List.countP_cons, ← ih, shownSteps, List.filterMap_cons, carries]
    cases callStep event with
    | none => rfl
    | some step => exact List.countP_cons

/-! ## Snapshots -/

/-- Only a verified step has evidence. -/
theorem verified_of_evidence {step : AgentTraceStep} (h : operationStepHasEvidence step = true) :
    step.status = .verified := by
  by_contra hstatus
  rw [operationStepHasEvidence] at h
  cases hname : step.toolName with
  | none => simp [hname] at h
  | some toolName => simp [hname, hstatus] at h

theorem governed_of_carries {event : JudgeEvent} (h : carries event = true) :
    ∃ answer, Governed answer event := by
  obtain ⟨effect, reply⟩ := event
  cases effect with
  | model evidence => cases h
  | tool call =>
    have hverified : (toolStep call reply).1.status = .verified := verified_of_evidence h
    rcases governed_or call reply with ⟨-, -, hfailed⟩ | ⟨hgoverned, -, -⟩
    · exact absurd hverified hfailed
    · exact ⟨_, hgoverned⟩

/-- What a snapshot counts, over steps of the six tools. -/
theorem summarize_spec (body : OperationsSnapshotRequest) {steps : List AgentTraceStep}
    (hnames : steps.map AgentTraceStep.toolName = operationTools.map some) :
    (summarize body steps).evidenceMatchedCalls = steps.countP operationStepHasEvidence ∧
      ((summarize body steps).status = .verified ↔ steps.countP operationStepHasEvidence = 6) ∧
      ((summarize body steps).status = .failed ↔ steps.countP operationStepHasEvidence = 0) ∧
      ((summarize body steps).fundingGate = "READ_ONLY_EVIDENCE_COMPLETE" ↔
        (summarize body steps).status = .verified) := by
  have hcount := evidenceMatches_eq hnames (by decide) (by decide)
  have hlength : steps.length = 6 := by
    have hlengths := congrArg List.length hnames
    rwa [List.length_map, List.length_map] at hlengths
  simp only [summarize, hcount, hlength, decide_eq_true_eq]
  refine ⟨trivial, ?_, ?_, ?_⟩
  · split_ifs with hcomplete hsome
    · exact iff_of_true rfl hcomplete
    · exact iff_of_false (by decide) hcomplete
    · exact iff_of_false (by decide) hcomplete
  · split_ifs with hcomplete hsome
    · exact iff_of_false (by decide) (by omega)
    · exact iff_of_false (by decide) hsome
    · exact iff_of_true rfl (not_not.mp hsome)
  · split_ifs with hcomplete hsome
    · exact iff_of_true rfl rfl
    · exact iff_of_false (by decide) (by decide)
    · exact iff_of_false (by decide) (by decide)

theorem faithful_of_steps {settings : JudgeSettings} {calls : List JudgeCall}
    (body : OperationsSnapshotRequest)
    {steps : List AgentTraceStep} {events : List JudgeEvent}
    (hanswers : settings.serviceToken.isSome = true → Answers calls events ∧ steps = shownSteps events)
    (hunasked : settings.serviceToken = none → events = [])
    (hnames : steps.map AgentTraceStep.toolName = operationTools.map some)
    (hcount : steps.countP operationStepHasEvidence = events.countP carries) (hlength : events.length ≤ 6) :
    FaithfulSnapshot settings calls (summarize body steps) events := by
  obtain ⟨hmatched, hverified, hfailed, hgate⟩ := summarize_spec body hnames
  rw [hcount] at hmatched hverified hfailed
  refine ⟨hanswers, hunasked, fun event _ ↦ governed_of_carries, hmatched, hverified.trans ?_,
    hfailed.trans ?_, hgate⟩
  · have hbound := List.countP_le_length (p := carries) (l := events)
    constructor
    · intro hall
      exact ⟨by omega, List.countP_eq_length.mp (by omega)⟩
    · rintro ⟨hsix, hall⟩
      rw [List.countP_eq_length.mpr hall, hsix]
  · rw [List.countP_eq_zero]
    simp only [Bool.not_eq_true]

/-- A run has a faithful snapshot, whatever the tools answer: the six calls of the body are made, and it
is verified just when all of them were allowed and successful and carry the records of their tools. -/
theorem snapshot_faithful (settings : JudgeSettings) (upper : String → String) (today : Nat)
    (body : OperationsSnapshotRequest) (oracle : Program.Oracle JudgeRequest JudgeReply) :
    let run := (createOperationsSnapshot settings upper today body).exec oracle []
    FaithfulSnapshot settings (operationCalls upper today body) run.1 run.2 := by
  rw [createOperationsSnapshot, Program.exec_bind]
  cases htoken : settings.serviceToken with
  | none =>
    rw [callAll_none htoken]
    refine faithful_of_steps body (fun h ↦ absurd h (by simp [htoken])) (fun _ ↦ rfl) rfl ?_ (Nat.zero_le 6)
    refine List.countP_eq_zero.mpr fun step hstep hevidence ↦ ?_
    obtain ⟨call, -, rfl⟩ := List.mem_map.mp hstep
    cases verified_of_evidence hevidence
  | some token =>
    obtain ⟨⟨answers, hevents, hanswers, hsteps⟩, -⟩ :=
      (meets_callAll htoken (operationCalls upper today body) (fun _ ↦ List.mem_map_of_mem) []
        []).exec_start oracle
    generalize (callAll settings (operationCalls upper today body) []).exec oracle [] = run at hevents hsteps
    obtain ⟨steps, events⟩ := run
    simp only [List.nil_append] at hevents hsteps
    subst hevents hsteps
    have hlength : events.length = 6 := hanswers.length_eq.symm
    refine faithful_of_steps body (fun _ ↦ ⟨hanswers, rfl⟩) (fun h ↦ ?_) (shownSteps_names hanswers)
      (countP_shownSteps events) hlength.le
    cases htoken.symm.trans h

end Xyena.Demo
