import Xyena.Demo.Judge
import Xyena.Demo.TraceRisk

/-!
# What a judge trace proves

A trace is verified just when the calls of its tools have really been made, in their
chain, and were all allowed and successful, with data that pass the checks. The model
is asked at most once, after the last call, and moves nothing but the summary.
-/

namespace Xyena.Demo

open Xyena.Foundation Xyena.Contracts

abbrev JudgeEvent := Event JudgeRequest JudgeReply

/-! ## What is claimed -/

/-- The step that a call of a tool leaves in the trace. -/
def callStep : JudgeEvent → Option AgentTraceStep
  | ⟨.tool call, reply⟩ => some (toolStep call reply).1
  | ⟨.model _, _⟩ => none

def isCall (event : JudgeEvent) : Bool := (callStep event).isSome

/-- The call was allowed and has succeeded, and `data` is what it shows. -/
def Governed (answer : JudgeCall × Dict) (event : JudgeEvent) : Prop :=
  ∃ result guardian, event = ⟨.tool answer.1, .ok (result, guardian)⟩ ∧ governed result guardian = true ∧
    sourceData (toolStep answer.1 (.ok (result, guardian))).1 = answer.2

/-- The five calls of an invoice scenario, each on what the ones before it have shown. -/
def InvoiceEvidence (container : Json → String) (scenario : Scenario) (events : List JudgeEvent) : Prop :=
  ∃ search item invoice verification registration classification,
    List.Forall₂ Governed
      [(searchCall scenario, search), (getCall (textAt container item "id"), invoice),
        (verifyCall scenario (textAt container item "id"), verification),
        (registrationCall (textAt container invoice "seller_gstin"), registration),
        (classificationCall, classification)] events ∧
    firstItem search = some item ∧ textAt container item "id" ≠ "" ∧
    textAt container invoice "seller_gstin" ≠ "" ∧
    isTrue verification "verified" = true ∧ isTrue verification "eligible_registered_invoice" = true ∧
    isTrue registration "active_match" = true ∧ statesVerified classification = true

/-- The evidence that a scenario asks for. -/
def Evidence (container : Json → String) : Scenario → List JudgeEvent → Prop
  | .platformNetwork, events => List.Forall₂ (fun call event ↦
    ∃ data, Governed (call, data) event) platformCalls events
  | scenario, events => InvoiceEvidence container scenario events

/-- The tools of the demonstration, which only read. -/
def demoTools : List String :=
  readTools ++ ["gst.invoices.get", "gst.invoices.verify", "gst.registrations.verify",
    "gst.enterprises.get_classification"]

/-- The reason codes that a trace of the scenario can show. -/
def possibleReasons : Scenario → List String
  | .platformNetwork => ["GUARDIAN_NOT_ALLOWED", "MCP_CALL_FAILED"]
  | _ => ["INVOICE_SEARCH_FAILED", "INVOICE_NOT_FOUND", "INVOICE_ID_MISSING", "INVOICE_FETCH_FAILED",
      "SELLER_GSTIN_MISSING", "INVOICE_VERIFY_FAILED", "REGISTRATION_VERIFY_FAILED", "CLASSIFICATION_FAILED",
      "CLAIM_MISMATCH", "INVOICE_NOT_REGISTERED", "SELLER_REGISTRATION_INACTIVE",
        "MSME_CLASSIFICATION_UNVERIFIED"]

/-- What a trace says about the events of its run. -/
structure FaithfulTrace (settings : JudgeSettings) (container : Json → String) (scenario : Scenario)
    (trace : JudgeTrace) (events : List JudgeEvent) : Prop where
  verified : trace.verified = true ↔ Evidence container scenario (events.filter isCall)
  status : trace.status = .verified ↔ trace.verified = true
  reasons : trace.verified = true ↔ trace.reasonCodes = []
  possible : ∀ reason ∈ trace.reasonCodes, reason ∈ possibleReasons scenario
  shown : settings.serviceToken.isSome = true →
    trace.steps.filter (fun step ↦ step.kind = .tool) = events.filterMap callStep
  decided : ∃ before fields, trace.steps = before ++ [decisionStep trace.verified fields] ∧
    ∀ step ∈ before, step.kind ≠ .decision
  asked : ∀ event ∈ events, ∀ call, event.effect = .tool call → call.toolName ∈ demoTools
  advice : ∃ answers, events = events.filter isCall ++ answers ∧ answers.length ≤ 1 ∧
    ∀ event ∈ answers, isCall event = false

/-! ## Calls -/

/-- The request is a call of one of the tools. -/
def IsTool (tools : List String) (effect : JudgeRequest) : Prop :=
  ∃ call, effect = .tool call ∧ call.toolName ∈ tools

/-- The steps that the calls of a run leave. -/
def shownSteps (events : List JudgeEvent) : List AgentTraceStep := events.filterMap callStep

theorem shownSteps_snoc (events : List JudgeEvent) (call : JudgeCall) (reply : JudgeReply (.tool call)) :
    shownSteps (events ++ [⟨.tool call, reply⟩]) = shownSteps events ++ [(toolStep call reply).1] :=
  List.filterMap_append

theorem toolStep_kind (call : JudgeCall) (reply : JudgeReply (.tool call)) :
    (toolStep call reply).1.kind = .tool := by
  cases reply <;> rfl

/-- A call is governed just when its step is verified, and the trace stops after one that is not. -/
theorem governed_or (call : JudgeCall) (reply : JudgeReply (.tool call)) :
    (∀ answer, ¬Governed answer ⟨.tool call, reply⟩) ∧
        ((toolStep call reply).2.isNone || (toolStep call reply).1.status = .failed) = true ∧
        (toolStep call reply).1.status ≠ .verified ∨
      Governed (call, sourceData (toolStep call reply).1) ⟨.tool call, reply⟩ ∧
        ((toolStep call reply).2.isNone || (toolStep call reply).1.status = .failed) = false ∧
        (toolStep call reply).1.status = .verified := by
  cases reply with
  | error text =>
    refine Or.inl ⟨?_, rfl, StepStatus.noConfusion⟩
    rintro answer ⟨result, guardian, hevent, -⟩
    cases hevent
  | ok replied =>
    obtain ⟨result, guardian⟩ := replied
    cases hgoverned : governed result guardian with
    | false =>
      refine Or.inl ⟨?_, ?_, ?_⟩
      · rintro answer ⟨_, _, hevent, hyes, -⟩
        cases hevent
        exact Bool.false_ne_true (hgoverned.symm.trans hyes)
      all_goals simp [toolStep, hgoverned]
    | true => exact Or.inr ⟨⟨result, guardian, rfl, hgoverned, rfl⟩, by simp [toolStep, hgoverned],
      if_pos hgoverned⟩

/-- What the checks of the Guardian and of success read of a governed call. -/
theorem Governed.step {answer : JudgeCall × Dict} {event : JudgeEvent} (h : Governed answer event) :
    ∃ step, callStep event = some step ∧ allowed step = true ∧ step.status = .verified := by
  obtain ⟨result, guardian, rfl, hgoverned, -⟩ := h
  exact ⟨_, rfl, (Bool.and_eq_true_iff.mp hgoverned).2, if_pos hgoverned⟩

/-- An event answers one call, with one result. -/
theorem governed_unique : Relator.LeftUnique Governed := by
  rintro first ⟨_, _⟩ second ⟨result, guardian, hfirst, -, hdata⟩ ⟨_, _, hsecond, -, hother⟩
  obtain ⟨call, data⟩ := first
  obtain ⟨called, shown⟩ := second
  cases hfirst
  cases hsecond
  exact congrArg _ (hdata.symm.trans hother)

theorem governed_of_mem {answers : List (JudgeCall × Dict)} {events : List JudgeEvent} {event : JudgeEvent}
    (h : List.Forall₂ Governed answers events) (hevent : event ∈ events) :
      ∃ answer, Governed answer event := by
  induction h with
  | nil => cases hevent
  | cons hhead _ ih =>
    rcases List.mem_cons.mp hevent with rfl | htail
    · exact ⟨_, hhead⟩
    · exact ih htail

/-! ## The invoice scenarios -/

section Invoices

variable {settings : JudgeSettings} {container : Json → String} {scenario : Scenario} {token : String}

/-- The five calls have been made, and each was answered by governed data. -/
structure Chain (container : Json → String) (scenario : Scenario) (events : List JudgeEvent)
    (verification registration classification : Dict) : Prop where
  answers : ∃ search item invoice,
    List.Forall₂ Governed
      [(searchCall scenario, search), (getCall (textAt container item "id"), invoice),
        (verifyCall scenario (textAt container item "id"), verification),
        (registrationCall (textAt container invoice "seller_gstin"), registration),
        (classificationCall, classification)] events ∧
    firstItem search = some item ∧ textAt container item "id" ≠ "" ∧
      textAt container invoice "seller_gstin" ≠ ""

/-- What the calls of an invoice scenario come to. -/
inductive Gathered (container : Json → String) (scenario : Scenario) :
    List JudgeEvent → Except JudgeTrace Verdict → Prop where
  | stopped {events : List JudgeEvent} {message reason : String}
    (missing : ¬InvoiceEvidence container scenario events)
      (possible : reason ∈ possibleReasons scenario) :
      Gathered container scenario events (.error (finishError scenario (shownSteps events) message reason))
  | checked {events : List JudgeEvent} {verification registration classification : Dict}
      (chain : Chain container scenario events verification registration classification) :
      Gathered container scenario events
        (.ok (invoiceVerdict scenario (shownSteps events) verification registration classification))

theorem not_evidence_of_length {events : List JudgeEvent} (h : events.length ≠ 5) :
    ¬InvoiceEvidence container scenario events := by
  rintro ⟨_, _, _, _, _, _, hanswers, -⟩
  exact h hanswers.length_eq.symm

theorem not_evidence_of_mem {events : List JudgeEvent} {event : JudgeEvent} (hevent : event ∈ events)
    (h : ∀ answer, ¬Governed answer event) : ¬InvoiceEvidence container scenario events := by
  rintro ⟨_, _, _, _, _, _, hanswers, -⟩
  obtain ⟨answer, hanswer⟩ := governed_of_mem hanswers hevent
  exact h answer hanswer

theorem meets_require (htoken : settings.serviceToken = some token) {events : List JudgeEvent}
    {steps : List AgentTraceStep} {call : JudgeCall} {message reason : String}
    {next : AgentTraceStep → Judge (Except JudgeTrace Verdict)} (hreason : reason ∈ possibleReasons scenario)
    (htool : call.toolName ∈ demoTools)
    (hnext : ∀ reply : JudgeReply (.tool call), Governed (call, sourceData (toolStep call reply).1)
      ⟨.tool call, reply⟩ →
      Program.Meets (fun _ effect ↦ IsTool demoTools effect) (Gathered container scenario)
        (next (toolStep call reply).1)
        (events ++ [⟨.tool call, reply⟩])) (hsteps : shownSteps events = steps := by rfl) :
    Program.Meets (fun _ effect ↦ IsTool demoTools effect) (Gathered container scenario)
      (require settings scenario steps call message reason next) events := by
  rw [← hsteps, require, invokeJudgeTool, htoken]
  refine ⟨⟨call, rfl, htool⟩, fun reply ↦ ?_⟩
  rcases governed_or call reply with ⟨hnot, hfailed, -⟩ | ⟨hgoverned, hfailed, -⟩
  · simp only [Program.bind, hfailed, if_true, ← shownSteps_snoc]
    exact .stopped (not_evidence_of_mem List.mem_concat_self hnot) hreason
  · simp only [Program.bind, hfailed]
    exact hnext reply hgoverned

theorem meets_stop {events : List JudgeEvent} {steps : List AgentTraceStep} {message reason : String}
    (hlength : events.length ≠ 5) (hreason : reason ∈ possibleReasons scenario)
    (hsteps : shownSteps events = steps := by rfl) :
    Program.Meets (fun _ effect ↦ IsTool demoTools effect) (Gathered container scenario)
      (.ret (.error (finishError scenario steps message reason))) events := by
  rw [← hsteps]
  exact .stopped (not_evidence_of_length hlength) hreason

theorem meets_gather (htoken : settings.serviceToken = some token) (hscenario : scenario ≠ .platformNetwork) :
    Program.Meets (fun _ effect ↦ IsTool demoTools effect) (Gathered container scenario)
      (gather settings container scenario) [] := by
  have hpossible : possibleReasons scenario = possibleReasons .verifiedInvoice := by
    cases scenario <;> first | rfl | exact absurd rfl hscenario
  rw [gather]
  have hsearchTool : "gst.invoices.search" ∈ demoTools := by decide
  refine meets_require htoken (by rw [hpossible]; decide) hsearchTool fun search hsearch ↦ ?_
  split
  · exact meets_stop (by simp) (by rw [hpossible]; decide)
  next item hitem =>
    simp only
    split_ifs with hid
    · exact meets_stop (by simp) (by rw [hpossible]; decide)
    have hinvoiceTool : "gst.invoices.get" ∈ demoTools := by decide
    refine meets_require htoken (by rw [hpossible]; decide) hinvoiceTool fun invoice hinvoice ↦ ?_
    split_ifs with hgstin
    · exact meets_stop (by simp) (by rw [hpossible]; decide)
    have hverifyTool : "gst.invoices.verify" ∈ demoTools := by decide
    refine meets_require htoken (by rw [hpossible]; decide) hverifyTool fun verify hverify ↦ ?_
    have hregistrationTool : "gst.registrations.verify" ∈ demoTools := by decide
    refine meets_require htoken (by rw [hpossible]; decide) hregistrationTool fun registration
      hregistration ↦ ?_
    have hclassificationTool : "gst.enterprises.get_classification" ∈ demoTools := by decide
    refine meets_require htoken (by rw [hpossible]; decide) hclassificationTool fun classification
      hclassification ↦ ?_
    refine .checked ⟨_, item, _, ?_, hitem, hid, hgstin⟩
    exact .cons hsearch (.cons hinvoice (.cons hverify (.cons hregistration (.cons hclassification .nil))))

theorem evidence_of_ne (hscenario : scenario ≠ .platformNetwork) (events : List JudgeEvent) :
    Evidence container scenario events = InvoiceEvidence container scenario events := by
  cases scenario <;> first | rfl | exact absurd rfl hscenario

end Invoices

/-! ## Checks -/

theorem reasonCodes_eq_nil {checks : List Check} :
    reasonCodes checks = [] ↔ ∀ check ∈ checks, check.holds = true := by
  rw [reasonCodes, List.map_eq_nil_iff, List.filter_eq_nil_iff]
  simp only [Bool.not_eq_true', Bool.not_eq_false]

theorem mem_reasonCodes {checks : List Check} {reason : String} :
    reason ∈ reasonCodes checks ↔ ∃ check ∈ checks, check.holds = false ∧ check.reason = reason := by
  simp only [reasonCodes, List.mem_map, List.mem_filter, Bool.not_eq_true', and_assoc]

/-- The steps of a list of calls, which the trace shows if the calls could be made. -/
structure Shown (settings : JudgeSettings) (events : List JudgeEvent) (steps : List AgentTraceStep) :
    Prop where
  kind : ∀ step ∈ steps, step.kind = .tool
  shown : settings.serviceToken.isSome = true → steps = shownSteps events

/-- What the calls of a scenario come to. -/
inductive Collected (settings : JudgeSettings) (container : Json → String) (scenario : Scenario)
    (events : List JudgeEvent) : Except JudgeTrace Verdict → Prop where
  | stopped {steps : List AgentTraceStep} {message reason : String} (shown : Shown settings events steps)
      (missing : ¬Evidence container scenario events) (possible : reason ∈ possibleReasons scenario) :
      Collected settings container scenario events (.error (finishError scenario steps message reason))
  | checked {verdict : Verdict} (shown : Shown settings events verdict.steps)
      (holds : reasonCodes verdict.checks = [] ↔ Evidence container scenario events)
      (possible : ∀ reason ∈ reasonCodes verdict.checks, reason ∈ possibleReasons scenario) :
      Collected settings container scenario events (.ok verdict)

theorem kind_of_mem {events : List JudgeEvent} {step : AgentTraceStep} (h : step ∈ shownSteps events) :
    step.kind = .tool := by
  obtain ⟨⟨effect, reply⟩, -, hstep⟩ := List.mem_filterMap.mp h
  cases effect with
  | model => cases hstep
  | tool call =>
    cases hstep
    exact toolStep_kind call reply

theorem shown_shownSteps (settings : JudgeSettings) (events : List JudgeEvent) :
    Shown settings events (shownSteps events) :=
  ⟨fun _ ↦ kind_of_mem, fun _ ↦ rfl⟩

/-- The checks of an invoice scenario, once its calls have been answered. -/
theorem invoice_collected (settings : JudgeSettings) {container : Json → String} {scenario : Scenario}
    (hscenario : scenario ≠ .platformNetwork) {events : List JudgeEvent}
    {verification registration classification : Dict}
    (h : Chain container scenario events verification registration classification) :
    Collected settings container scenario events
      (.ok (invoiceVerdict scenario (shownSteps events) verification registration classification)) := by
  obtain ⟨search, item, invoice, hanswers, hitem, hid, hgstin⟩ := h
  have hsteps : ∀ step ∈ shownSteps events, allowed step = true ∧ step.status = .verified := by
    intro step hstep
    obtain ⟨event, hevent, hcall⟩ := List.mem_filterMap.mp hstep
    obtain ⟨answer, hanswer⟩ := governed_of_mem hanswers hevent
    obtain ⟨shown, hshown, hfacts⟩ := hanswer.step
    obtain rfl := Option.some.inj (hshown.symm.trans hcall)
    exact hfacts
  have hguardian : ((shownSteps events).filter fun step ↦ step.kind = .tool).all allowed = true := by
    rw [List.all_eq_true]
    exact fun step hstep ↦ (hsteps step (List.mem_filter.mp hstep).1).1
  have hsucceeded : (((shownSteps events).filter fun step ↦ step.kind = .tool).all fun step ↦
    step.status = .verified) =
      true := by
    rw [List.all_eq_true]
    exact fun step hstep ↦ decide_eq_true (hsteps step (List.mem_filter.mp hstep).1).2
  refine .checked (shown_shownSteps settings events) ?_ ?_
  · rw [reasonCodes_eq_nil, evidence_of_ne hscenario]
    simp only [invoiceVerdict, List.forall_mem_cons, hguardian, hsucceeded]
    constructor
    · rintro ⟨hclaim, hregistered, hactive, hclassified, -⟩
      exact ⟨search, item, invoice, verification, registration, classification, hanswers, hitem, hid,
        hgstin, hclaim, hregistered, hactive, hclassified⟩
    · rintro ⟨_, _, _, _, _, _, hothers, -, -, -, hclaim, hregistered, hactive, hclassified⟩
      have hsame := List.left_unique_forall₂' governed_unique hanswers hothers
      simp only [List.cons.injEq, Prod.mk.injEq, and_true] at hsame
      obtain ⟨-, -, ⟨-, rfl⟩, ⟨-, rfl⟩, -, rfl⟩ := hsame
      exact ⟨hclaim, hregistered, hactive, hclassified, trivial, trivial, fun _ h ↦ absurd h List.not_mem_nil⟩
  · intro reason hreason
    obtain ⟨check, hcheck, hholds, rfl⟩ := mem_reasonCodes.mp hreason
    simp only [invoiceVerdict, hguardian, hsucceeded, List.mem_cons, List.not_mem_nil, or_false] at hcheck
    rcases hcheck with rfl | rfl | rfl | rfl | rfl | rfl
    any_goals cases hholds
    all_goals cases scenario <;> first | exact absurd rfl hscenario | simp [possibleReasons]


/-! ## The network scenario -/

/-- The events answer the calls, one each and in order. -/
abbrev Answers (calls : List JudgeCall) (events : List JudgeEvent) : Prop :=
  List.Forall₂ (fun call event ↦ event.effect = .tool call) calls events

theorem meets_callAll {settings : JudgeSettings} {token : String}
    (htoken : settings.serviceToken = some token)
    {tools : List String} (calls : List JudgeCall) (htools : ∀ call ∈ calls, call.toolName ∈ tools)
    (before : List AgentTraceStep) (events : List JudgeEvent) :
    Program.Meets (fun _ effect ↦ IsTool tools effect)
      (fun after steps ↦ ∃ answers, after = events ++ answers ∧ Answers calls answers ∧
        steps = before ++ shownSteps answers)
      (callAll settings calls before) events := by
  induction calls generalizing before events with
  | nil => exact ⟨[], (List.append_nil _).symm, .nil, (List.append_nil _).symm⟩
  | cons call rest ih =>
    obtain ⟨htool, hrest⟩ := List.forall_mem_cons.mp htools
    rw [callAll, invokeJudgeTool, htoken]
    refine ⟨⟨call, rfl, htool⟩, fun reply ↦ (ih hrest _ _).imp ?_⟩
    rintro after steps ⟨answers, rfl, hanswers, rfl⟩
    refine ⟨⟨.tool call, reply⟩ :: answers, ?_, .cons rfl hanswers, ?_⟩
    · rw [List.append_assoc, List.singleton_append]
    · rw [List.append_assoc, List.singleton_append]
      rfl

/-- The steps of answered calls say which of the answers are governed. -/
theorem answers_spec {calls : List JudgeCall} {events : List JudgeEvent} (h : Answers calls events) :
    (shownSteps events).length = calls.length ∧
      (∀ step ∈ shownSteps events, ∃ call ∈ calls, step.toolName = some call.toolName) ∧
      (List.Forall₂ (fun call event ↦ ∃ data, Governed (call, data) event) calls events ↔
        ∀ step ∈ shownSteps events, step.status = .verified) ∧
      ∀ step ∈ shownSteps events, step.status = .verified → allowed step = true := by
  induction h with
  | nil => simp [shownSteps]
  | @cons call event rest events hhead htail ih =>
    obtain ⟨hlength, hnames, hgoverned, hallowed⟩ := ih
    obtain ⟨effect, reply⟩ := event
    cases hhead
    have hcons : shownSteps (⟨.tool call, reply⟩ :: events) = (toolStep call reply).1 ::
      shownSteps events := rfl
    have hname : (toolStep call reply).1.toolName = some call.toolName := by cases reply <;> rfl
    simp only [hcons, List.length_cons, hlength, List.forall_mem_cons, List.forall₂_cons, hgoverned]
    refine ⟨trivial, ⟨⟨call, List.mem_cons_self, hname⟩, fun step hstep ↦ ?_⟩, ?_, ?_, hallowed⟩
    · obtain ⟨called, hcalled, hstep⟩ := hnames step hstep
      exact ⟨called, List.mem_cons_of_mem _ hcalled, hstep⟩
    · rcases governed_or call reply with ⟨hnot, -, hfailed⟩ | ⟨hyes, -, hverified⟩
      · exact ⟨fun h ↦ absurd h.1.choose_spec (hnot _), fun h ↦ absurd h.1 hfailed⟩
      · exact ⟨fun h ↦ ⟨hverified, h.2⟩, fun h ↦ ⟨⟨_, hyes⟩, h.2⟩⟩
    · rcases governed_or call reply with ⟨-, -, hfailed⟩ | ⟨hyes, -, -⟩
      · exact fun h ↦ absurd h hfailed
      · obtain ⟨step, hstep, hallow, -⟩ := hyes.step
        obtain rfl := Option.some.inj hstep
        exact fun _ ↦ hallow

theorem network_collected (settings : JudgeSettings) (container : Json → String) {events : List JudgeEvent}
    (h : Answers platformCalls events) :
    Collected settings container .platformNetwork events (.ok (networkVerdict (shownSteps events))) := by
  obtain ⟨hlength, hnames, hgoverned, hallowed⟩ := answers_spec h
  have hread : ((shownSteps events).all fun step ↦ step.toolName.any fun name ↦
      readTools.contains name) = true := by
    refine List.all_eq_true.mpr fun step hstep ↦ ?_
    obtain ⟨call, hcall, hname⟩ := hnames step hstep
    have hlisted : ∀ call ∈ platformCalls, readTools.contains call.toolName = true := by decide
    rw [hname]
    exact hlisted call hcall
  have hcount : decide ((shownSteps events).length = platformCalls.length) = true := decide_eq_true hlength
  refine .checked (shown_shownSteps settings events) ?_ ?_
  · rw [reasonCodes_eq_nil, Evidence, hgoverned]
    simp only [networkVerdict, List.forall_mem_cons, hread, hcount, List.all_eq_true, decide_eq_true_eq]
    constructor
    · rintro ⟨-, -, hverified, -⟩
      exact hverified
    · intro hverified
      exact ⟨trivial, fun step hstep ↦ hallowed step hstep (hverified step hstep), hverified, trivial,
        fun _ h ↦ absurd h List.not_mem_nil⟩
  · intro reason hreason
    obtain ⟨check, hcheck, hholds, rfl⟩ := mem_reasonCodes.mp hreason
    simp only [networkVerdict, hread, hcount, List.mem_cons, List.not_mem_nil, or_false] at hcheck
    rcases hcheck with rfl | rfl | rfl | rfl
    any_goals cases hholds
    all_goals simp [possibleReasons]

/-! ## Collecting -/

/-- Without the token of the service nothing is called. -/
theorem callAll_none {settings : JudgeSettings} (htoken : settings.serviceToken = none)
    (calls : List JudgeCall)
    (before : List AgentTraceStep) :
    callAll settings calls before =
      .ret (before ++ calls.map (failedTool · "MCP service authentication is unavailable.")) := by
  induction calls generalizing before with
  | nil => rw [callAll, List.map_nil, List.append_nil]
  | cons call rest ih =>
    rw [callAll, invokeJudgeTool, htoken]
    refine (ih _).trans ?_
    rw [List.append_assoc, List.singleton_append, List.map_cons]

theorem collect_of_ne (settings : JudgeSettings) (container : Json → String) {scenario : Scenario}
    (hscenario : scenario ≠ .platformNetwork) :
    collect settings container scenario = gather settings container scenario := by
  cases scenario <;> first | rfl | exact absurd rfl hscenario

theorem meets_collect (settings : JudgeSettings) (container : Json → String) (scenario : Scenario) :
    Program.Meets (fun _ effect ↦ IsTool demoTools effect) (fun events collected ↦
      Collected settings container scenario events collected)
      (collect settings container scenario) [] := by
  by_cases hscenario : scenario = .platformNetwork
  · subst hscenario
    cases htoken : settings.serviceToken with
    | none =>
      rw [collect, callAll_none htoken]
      have hkind : ∀ step ∈ (networkVerdict ([] ++ platformCalls.map
          (failedTool · "MCP service authentication is unavailable."))).steps, step.kind = .tool := by
        intro step hstep
        obtain ⟨call, -, rfl⟩ := List.mem_map.mp hstep
        rfl
      refine .checked ⟨hkind, fun h ↦ absurd h (by simp [htoken])⟩ ⟨fun h ↦ ?_, fun h ↦ ?_⟩ ?_
      · exact absurd h (by decide)
      · exact absurd h.length_eq (by decide)
      · decide
    | some token =>
      refine (meets_callAll htoken platformCalls (by decide) [] []).bind ?_
      rintro events steps ⟨answers, rfl, hanswers, rfl⟩
      exact network_collected settings container hanswers
  · rw [collect_of_ne settings container hscenario]
    cases htoken : settings.serviceToken with
    | none =>
      rw [gather, require, invokeJudgeTool, htoken]
      refine .stopped ⟨?_, fun h ↦ absurd h (by simp [htoken])⟩ ?_ ?_
      · exact List.forall_mem_singleton.mpr rfl
      · rw [evidence_of_ne hscenario]
        exact not_evidence_of_length (by decide)
      · cases scenario <;> first | decide | exact absurd rfl hscenario
    | some token =>
      refine (meets_gather htoken hscenario).imp fun events collected h ↦ ?_
      cases h with
      | stopped missing possible =>
        rw [← evidence_of_ne hscenario] at missing
        exact .stopped (shown_shownSteps settings events) missing possible
      | checked chain => exact invoice_collected settings hscenario chain

/-! ## Traces -/

/-- What is left of a run after its calls: at most one request to the model, whose step is no other. -/
theorem exec_conclude (settings : JudgeSettings) (scenario : Scenario) (verdict : Verdict)
    (oracle : Program.Oracle JudgeRequest JudgeReply) (events : List JudgeEvent) :
    ∃ step answers, (conclude settings scenario verdict).exec oracle events =
        (concluded scenario verdict step, events ++ answers) ∧
      step.kind = .model ∧ answers.length ≤ 1 ∧ ∀ event ∈ answers, isCall event = false := by
  rw [conclude, traceModelSummary]
  cases settings.modelApiKey with
  | none => exact ⟨_, [], congrArg _ (List.append_nil events).symm, rfl, by simp, by simp⟩
  | some key =>
    refine ⟨_, [_], rfl, ?_, by simp, by simp [isCall, callStep]⟩
    split <;> rfl

theorem filter_kind {steps : List AgentTraceStep} (h : ∀ step ∈ steps, step.kind = .tool) :
    steps.filter (fun step ↦ step.kind = .tool) = steps :=
  List.filter_eq_self.mpr fun step hstep ↦ decide_eq_true (h step hstep)

theorem isCall_of_tool {tools : List String} {event : JudgeEvent} (h : IsTool tools event.effect) :
    isCall event = true := by
  obtain ⟨effect, reply⟩ := event
  obtain ⟨call, rfl, -⟩ := h
  rfl

theorem filter_calls {events : List JudgeEvent} (h : ∀ event ∈ events, IsTool demoTools event.effect) :
    events.filter isCall = events :=
  List.filter_eq_self.mpr fun event hevent ↦ isCall_of_tool (h event hevent)

theorem asked_of_tool {tools : List String} {event : JudgeEvent} (h : IsTool tools event.effect)
    (call : JudgeCall)
    (hcall : event.effect = .tool call) : call.toolName ∈ tools := by
  obtain ⟨called, hcalled, htool⟩ := h
  obtain rfl := JudgeRequest.tool.inj (hcalled.symm.trans hcall)
  exact htool

theorem filter_silent {events : List JudgeEvent} (h : ∀ event ∈ events, isCall event = false) :
    events.filter isCall = [] := by
  rw [List.filter_eq_nil_iff]
  exact fun event hevent hcall ↦ Bool.false_ne_true ((h event hevent).symm.trans hcall)

/-- A trace that stops early, over the calls before it. -/
theorem stopped_faithful {settings : JudgeSettings} {container : Json → String} {scenario : Scenario}
    {events : List JudgeEvent} {steps : List AgentTraceStep} {message reason : String}
    (hcalls : ∀ event ∈ events, IsTool demoTools event.effect) (hshown : Shown settings events steps)
    (hmissing : ¬Evidence container scenario events) (hpossible : reason ∈ possibleReasons scenario) :
    FaithfulTrace settings container scenario (finishError scenario steps message reason) events where
  verified := by
    rw [filter_calls hcalls]
    exact ⟨fun h ↦ Bool.noConfusion h, fun h ↦ absurd h hmissing⟩
  status := ⟨fun h ↦ TraceStatus.noConfusion h, fun h ↦ Bool.noConfusion h⟩
  reasons := ⟨fun h ↦ Bool.noConfusion h, fun h ↦ absurd h (List.cons_ne_nil _ _)⟩
  possible := List.forall_mem_singleton.mpr hpossible
  shown htoken := by
    rw [finishError, List.filter_append, filter_kind hshown.kind, hshown.shown htoken]
    exact List.append_nil _
  decided := by
    refine ⟨steps, _, rfl, fun step hstep ↦ ?_⟩
    rw [hshown.kind step hstep]
    decide
  asked event hevent := asked_of_tool (hcalls event hevent)
  advice := by
    refine ⟨[], ?_, Nat.zero_le 1, by simp⟩
    rw [filter_calls hcalls, List.append_nil]

/-- A trace that the checks decide, over the calls and what the model has answered. -/
theorem concluded_faithful {settings : JudgeSettings} {container : Json → String} {scenario : Scenario}
    {events answers : List JudgeEvent} {verdict : Verdict} {step : AgentTraceStep}
    (hcalls : ∀ event ∈ events, IsTool demoTools event.effect) (hshown : Shown settings events verdict.steps)
    (hholds : reasonCodes verdict.checks = [] ↔ Evidence container scenario events)
    (hpossible : ∀ reason ∈ reasonCodes verdict.checks, reason ∈ possibleReasons scenario)
    (hstep : step.kind = .model) (hlength : answers.length ≤ 1)
    (hanswers : ∀ event ∈ answers, isCall event = false) :
    FaithfulTrace settings container scenario (concluded scenario verdict step) (events ++ answers) := by
  have hfilter : (events ++ answers).filter isCall = events := by
    rw [List.filter_append, filter_calls hcalls, filter_silent hanswers, List.append_nil]
  have hreasons : (concluded scenario verdict step).verified = true ↔ reasonCodes verdict.checks = [] :=
    List.isEmpty_iff
  constructor
  case verified => rw [hfilter, hreasons, hholds]
  case status =>
    change (if verified verdict then TraceStatus.verified else .notVerified) = .verified ↔
      verified verdict = true
    split_ifs with h
    · simp [h]
    · simp [h]
  case reasons => exact hreasons
  case possible => exact hpossible
  case shown =>
    intro htoken
    have hsilent : answers.filterMap callStep = [] := by
      refine List.filterMap_eq_nil_iff.mpr fun event hevent ↦ ?_
      exact Option.not_isSome_iff_eq_none.mp fun h ↦ Bool.false_ne_true ((hanswers event hevent).symm.trans h)
    rw [List.filterMap_append, hsilent, List.append_nil, concluded, List.filter_append,
      filter_kind hshown.kind, hshown.shown htoken, List.filter_cons_of_neg (by simp [hstep])]
    exact List.append_nil _
  case decided =>
    refine ⟨verdict.steps ++ [step], _, List.append_cons _ _ _, fun shown hmem ↦ ?_⟩
    rcases List.mem_append.mp hmem with hcall | hmodel
    · rw [hshown.kind shown hcall]
      decide
    · rw [List.mem_singleton.mp hmodel, hstep]
      decide
  case asked =>
    intro event hevent call hcall
    rcases List.mem_append.mp hevent with htool | hmodel
    · exact asked_of_tool (hcalls event htool) call hcall
    · obtain ⟨effect, reply⟩ := event
      cases hcall
      exact absurd (hanswers _ hmodel) (by simp [isCall, callStep])
  case advice => exact ⟨answers, by rw [hfilter], hlength, hanswers⟩

/-- A run of a scenario has a faithful trace, whatever the tools and the model answer: it is verified
just when the calls of the scenario were made in their chain, were all allowed and successful, and pass
the checks. -/
theorem judge_trace_faithful (settings : JudgeSettings) (container : Json → String) (scenario : Scenario)
    (oracle : Program.Oracle JudgeRequest JudgeReply) :
    let run := (createJudgeTrace settings container scenario).exec oracle []
    FaithfulTrace settings container scenario run.1 run.2 := by
  obtain ⟨hcollected, hcalls⟩ := (meets_collect settings container scenario).exec_start oracle
  rw [createJudgeTrace, Program.exec_bind]
  generalize (collect settings container scenario).exec oracle [] = run at hcollected hcalls
  obtain ⟨collected, events⟩ := run
  cases hcollected with
  | stopped hshown hmissing hpossible => exact stopped_faithful hcalls hshown hmissing hpossible
  | @checked verdict hshown hholds hpossible =>
    obtain ⟨step, answers, hexec, hstep, hlength, hanswers⟩ :=
      exec_conclude settings scenario verdict oracle events
    simp only [hexec]
    exact concluded_faithful hcalls hshown hholds hpossible hstep hlength hanswers

/-! ## The model -/

/-- The step of the model weighs nothing. -/
theorem risk_concluded (scenario : Scenario) (verdict : Verdict) {first second : AgentTraceStep}
    (hfirst : first.kind = .model) (hsecond : second.kind = .model) :
    (concluded scenario verdict first).risk = (concluded scenario verdict second).risk := by
  have hnone {step : AgentTraceStep} (h : step.kind = .model) : step.toolRisk = none :=
    toolRisk_eq_none (by rw [AgentTraceStep.isToolCall, h]; rfl)
  simp only [concluded, calculateTraceRisk, List.filterMap_append, List.filterMap_cons, hnone hfirst,
    hnone hsecond]

/-- A trace without the model's step and the summary. -/
def unadvised (trace : JudgeTrace) : JudgeTrace :=
  { trace with summary := "", steps := trace.steps.filter fun step ↦ step.kind ≠ .model }

theorem unadvised_concluded (scenario : Scenario) (verdict : Verdict) {first second : AgentTraceStep}
    (hfirst : first.kind = .model) (hsecond : second.kind = .model) :
    unadvised (concluded scenario verdict first) = unadvised (concluded scenario verdict second) := by
  have hrisk := risk_concluded scenario verdict hfirst hsecond
  have hsteps : (concluded scenario verdict first).steps.filter (fun step ↦ step.kind ≠ .model) =
      (concluded scenario verdict second).steps.filter (fun step ↦ step.kind ≠ .model) := by
    simp only [concluded, List.filter_append, List.filter_cons, hfirst, hsecond]
    rfl
  rw [unadvised, unadvised, hrisk, hsteps]
  rfl

theorem invoke_congr {settings other : JudgeSettings} (h : settings.serviceToken = other.serviceToken) :
    invokeJudgeTool settings = invokeJudgeTool other := by
  funext call
  rw [invokeJudgeTool, invokeJudgeTool, h]

theorem collect_congr {settings other : JudgeSettings} (h : settings.serviceToken = other.serviceToken)
    (container : Json → String) (scenario : Scenario) :
    collect settings container scenario = collect other container scenario := by
  have hrequire : require settings = require other := by
    funext scenario steps call message reason next
    rw [require, require, invoke_congr h]
  have hgather : gather settings = gather other := by
    funext container scenario
    simp only [gather, hrequire]
  have hcalls (calls : List JudgeCall) (steps : List AgentTraceStep) :
      callAll settings calls steps = callAll other calls steps := by
    induction calls generalizing steps with
    | nil => rfl
    | cons call rest ih => simp only [callAll, invoke_congr h, ih]
  cases scenario <;> simp only [collect, hgather, hcalls]

/-- The model is advisory: where the tools answer alike, runs with any models, or with none, call the
same tools and differ in no more than the summary and the step of the model. -/
theorem model_advisory (settings other : JudgeSettings) (container : Json → String) (scenario : Scenario)
    (first second : Program.Oracle JudgeRequest JudgeReply)
    (htoken : settings.serviceToken = other.serviceToken)
    (hsame : ∀ events call, first events (.tool call) = second events (.tool call)) :
    let run := (createJudgeTrace settings container scenario).exec first []
    let rerun := (createJudgeTrace other container scenario).exec second []
    unadvised run.1 = unadvised rerun.1 ∧ run.2.filter isCall = rerun.2.filter isCall := by
  have hcollect : (collect other container scenario).exec second [] =
      (collect settings container scenario).exec first [] := by
    rw [← collect_congr htoken]
    refine ((meets_collect settings container scenario).exec_congr ?_).symm
    rintro events effect ⟨call, rfl, -⟩
    exact hsame events call
  obtain ⟨hcollected, -⟩ := (meets_collect settings container scenario).exec_start first
  rw [createJudgeTrace, createJudgeTrace, Program.exec_bind, Program.exec_bind, hcollect]
  generalize (collect settings container scenario).exec first [] = run at hcollected
  obtain ⟨collected, events⟩ := run
  cases hcollected with
  | stopped => exact ⟨rfl, rfl⟩
  | @checked verdict =>
    obtain ⟨step, answers, hexec, hstep, -, hanswers⟩ := exec_conclude settings scenario verdict first events
    obtain ⟨restep, reanswers, hreexec, hrestep, -, hreanswers⟩ :=
      exec_conclude other scenario verdict second events
    simp only [hexec, hreexec]
    refine ⟨unadvised_concluded scenario verdict hstep hrestep, ?_⟩
    rw [List.filter_append, List.filter_append, filter_silent hanswers, filter_silent hreanswers]

/-- Runs in which every call fails: the model of one claims that it did not, and the other has no model. -/
theorem failingNetwork_advisory :
    let reply (advice : Option String) : Program.Oracle JudgeRequest JudgeReply := fun _ effect ↦
      match effect with
      | .tool _ => .error "MCP Gateway returned HTTP 503."
      | .model _ => advice
    let settings : JudgeSettings := ⟨some "token", some "key", "openai", "gpt-5"⟩
    let other : JudgeSettings := ⟨some "token", none, "openai", "gpt-5"⟩
    unadvised ((createJudgeTrace settings (fun _ ↦ "") .platformNetwork).exec
        (reply (some "Every platform verified the supplier.")) []).1 =
      unadvised ((createJudgeTrace other (fun _ ↦ "") .platformNetwork).exec (reply none) []).1 :=
  (model_advisory _ _ _ _ _ _ rfl fun _ _ ↦ rfl).1

end Xyena.Demo
