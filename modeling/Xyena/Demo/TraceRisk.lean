import Xyena.Demo.Trace
import Xyena.Foundation.Domination

/-!
# The risk of a trace

Traces are compared through their tool calls: one dominates another when it has
at least as many, and for each of the other one that weighs as much on every
scale and is on the same platform. Each term of the score, the reduction for
protected reads included, is monotone in this order.
-/

namespace Xyena.Demo

open Xyena.Foundation

/-! ## What is claimed -/

def AgentTraceStep.isToolCall (step : AgentTraceStep) : Bool := step.kind = .tool && step.toolName.isSome

/-- A step of the same kind and tool whose risk class, Guardian outcome, execution status and unexpected
flags weigh at least as much. -/
structure Raises (step raised : AgentTraceStep) : Prop where
  kind : raised.kind = step.kind
  toolName : raised.toolName = step.toolName
  riskClass : step.registeredRiskPoints ≤ raised.registeredRiskPoints
  outcome : step.guardianPoints ≤ raised.guardianPoints
  status : step.executionPoints ≤ raised.executionPoints
  flags : step.securityPoints ≤ raised.securityPoints

/-- The place of a band in the order from low to critical. -/
def RiskBand.level : RiskBand → Nat
  | .low => 0
  | .guarded => 1
  | .high => 2
  | .critical => 3

/-- What the risk of a trace is expected to obey. -/
structure OrderlyRisk (steps : List AgentTraceStep) : Prop where
  nonneg : 0 ≤ (calculateTraceRisk steps).score
  atMost : (calculateTraceRisk steps).score ≤ 100
  orderFree : ∀ others, steps.Perm others →
    (calculateTraceRisk others).score = (calculateTraceRisk steps).score
  toolCalls : ∀ before step after, steps = before ++ after → step.isToolCall = false →
    (calculateTraceRisk (before ++ step :: after)).score = (calculateTraceRisk steps).score
  appended : ∀ step, (calculateTraceRisk steps).score ≤ (calculateTraceRisk (steps ++ [step])).score
  raised : ∀ before step after raised, steps = before ++ step :: after → Raises step raised →
    (calculateTraceRisk steps).score ≤ (calculateTraceRisk (before ++ raised :: after)).score
  band : ∀ others, (calculateTraceRisk steps).score ≤ (calculateTraceRisk others).score →
    (calculateTraceRisk steps).band.level ≤ (calculateTraceRisk others).band.level

/-! ## Weights -/

/-- A key that a table gives at most `bound` is one of those that it lists with such a weight. -/
theorem mem_of_lookup_le {table : List (String × Nat)} {key : String} {default bound : Nat}
    (hdefault : bound < default) (h : (table.lookup key).getD default ≤ bound) :
    key ∈ (table.filter (·.2 ≤ bound)).map Prod.fst := by
  cases hlookup : table.lookup key with
  | none =>
    rw [hlookup, Option.getD_none] at h
    exact absurd hdefault (Nat.not_lt.mpr h)
  | some weight =>
    rw [hlookup, Option.getD_some] at h
    obtain ⟨before, after, rfl, -⟩ := List.lookup_eq_some_iff.mp hlookup
    exact List.mem_map.mpr ⟨(key, weight), List.mem_filter.mpr ⟨by simp, by simpa using h⟩, rfl⟩

/-- Nothing outside the two classes that read weighs as little as they do. -/
theorem readClass_of_le {first second : String}
    (h : (riskWeights.lookup first).getD 90 ≤ (riskWeights.lookup second).getD 90)
    (hread : ["READ", "SENSITIVE_READ"].contains second = true) :
    ["READ", "SENSITIVE_READ"].contains first = true := by
  have hsecond : (riskWeights.lookup second).getD 90 ≤ 15 := by
    rcases List.mem_pair.mp (List.contains_iff_mem.mp hread) with rfl | rfl <;> decide
  exact List.contains_iff_mem.mpr (mem_of_lookup_le (by decide) (h.trans hsecond))

/-- Only an allowed call has no points for its outcome. -/
theorem allowed_of_le {first : String}
    (h : (outcomeModifiers.lookup first).getD 40 ≤ (outcomeModifiers.lookup "ALLOW").getD 40) :
    first = "ALLOW" :=
  List.mem_singleton.mp (mem_of_lookup_le (by decide) h)

/-! ## Tool calls -/

/-- What one tool call has to do with a riskier one. -/
structure LessRisky (low high : ToolRiskEvidence) : Prop where
  platform : low.platform = high.platform
  subtotal : low.subtotal ≤ high.subtotal
  protectedRead : protectedRead high = true → protectedRead low = true

theorem LessRisky.refl (item : ToolRiskEvidence) : LessRisky item item := ⟨rfl, Nat.le_refl _, id⟩

section Steps

variable {step raised : AgentTraceStep}

theorem toolRisk_eq_none (h : step.isToolCall = false) : step.toolRisk = none := by
  rw [AgentTraceStep.toolRisk]
  split
  · rfl
  next hkind =>
    rw [AgentTraceStep.isToolCall, decide_eq_true (not_not.mp hkind), Bool.true_and,
      Option.isSome_eq_false_iff, Option.isNone_iff_eq_none] at h
    rw [h, Option.map_none]

theorem exists_toolRisk (h : step.isToolCall = true) : ∃ item, step.toolRisk = some item := by
  obtain ⟨hkind, hname⟩ := Bool.and_eq_true_iff.mp h
  obtain ⟨toolName, hname⟩ := Option.isSome_iff_exists.mp hname
  rw [AgentTraceStep.toolRisk, if_neg (not_not.mpr (of_decide_eq_true hkind)), hname]
  exact ⟨_, rfl⟩

theorem status_of_le (h : step.executionPoints ≤ raised.executionPoints)
    (hraised : raised.status.value = "verified") : step.status.value = "verified" := by
  have hverified : raised.status = .verified := by
    cases hstatus : raised.status <;> simp_all [StepStatus.value]
  rw [AgentTraceStep.executionPoints, AgentTraceStep.executionPoints, hverified] at h
  by_contra hother
  have hstep : step.status ≠ .verified := fun hstep ↦ hother (by rw [hstep]; rfl)
  simp [hstep] at h

theorem flags_of_le (h : step.securityPoints ≤ raised.securityPoints)
    (hraised : raised.unexpectedFlags.isEmpty = true) : step.unexpectedFlags.isEmpty = true := by
  rw [List.isEmpty_iff_length_eq_zero] at hraised ⊢
  rw [AgentTraceStep.securityPoints, AgentTraceStep.securityPoints, hraised] at h
  omega

/-- A step that weighs more gives a riskier tool call. -/
theorem toolRisk_raises (h : Raises step raised) {low : ToolRiskEvidence}
    (hlow : step.toolRisk = some low) : ∃ high, raised.toolRisk = some high ∧ LessRisky low high := by
  rw [AgentTraceStep.toolRisk] at hlow
  split at hlow
  · cases hlow
  next hkind =>
    obtain ⟨toolName, hname, rfl⟩ := Option.map_eq_some_iff.mp hlow
    rw [AgentTraceStep.toolRisk, h.kind, if_neg hkind, h.toolName, hname]
    refine ⟨_, rfl, rfl, ?_, fun hprotected ↦ ?_⟩
    · have hsum := Nat.add_le_add (Nat.add_le_add (Nat.add_le_add h.riskClass h.outcome) h.status) h.flags
      exact Nat.le_min.mpr ⟨Nat.min_le_left _ _, (Nat.min_le_right _ _).trans hsum⟩
    · simp only [protectedRead, Bool.and_eq_true, beq_iff_eq] at hprotected ⊢
      obtain ⟨⟨⟨hread, hallowed⟩, hstatus⟩, hflags⟩ := hprotected
      have houtcome := h.outcome
      rw [AgentTraceStep.guardianPoints, AgentTraceStep.guardianPoints, hallowed] at houtcome
      exact ⟨⟨⟨readClass_of_le h.riskClass hread, allowed_of_le houtcome⟩, status_of_le h.status hstatus⟩,
        flags_of_le h.flags hflags⟩

end Steps

/-! ## Scores -/

/-- The tool calls of a trace. -/
def toolRisks (steps : List AgentTraceStep) : List ToolRiskEvidence :=
  steps.filterMap AgentTraceStep.toolRisk

def riskScore (tools : List ToolRiskEvidence) : Int :=
  max 0 (min 100 ((riskCalculation tools).map Prod.snd).sum)

theorem score_eq (steps : List AgentTraceStep) :
    (calculateTraceRisk steps).score = riskScore (toolRisks steps) := rfl

section Scores

variable {first second : List ToolRiskEvidence}

theorem protectedReadReduction_le (h : Dominated LessRisky first second) (hfirst : first ≠ []) :
    protectedReadReduction first ≤ protectedReadReduction second := by
  have hsecond : protectedReadReduction second = -5 → protectedReadReduction first = -5 := by
    intro hreduced
    have hall : second.all protectedRead = true := by
      by_contra hnot
      simp [protectedReadReduction, hnot] at hreduced
    have hkept := h.all_of_all (fun _ _ hless ↦ hless.protectedRead) hall
    simp [protectedReadReduction, hkept, hfirst]
  have hrange (tools : List ToolRiskEvidence) :
      protectedReadReduction tools = -5 ∨ protectedReadReduction tools = 0 := by
    rw [protectedReadReduction]
    split
    · exact Or.inl rfl
    · exact Or.inr rfl
  have hlow := hrange first
  have hhigh := hrange second
  omega

/-- Each term of the score grows with the trace. -/
theorem riskScore_le (h : Dominated LessRisky first second) (hfirst : first ≠ []) :
    riskScore first ≤ riskScore second := by
  have hhighest : highestToolSubtotal first ≤ highestToolSubtotal second :=
    h.max_le (fun _ _ hless ↦ hless.subtotal) hfirst
  have hplatforms : (first.map ToolRiskEvidence.platform).dedup.length ≤
      (second.map ToolRiskEvidence.platform).dedup.length :=
    h.dedup_length_le fun _ _ hless ↦ hless.platform
  have hlength := h.length
  have hreduction := protectedReadReduction_le h hfirst
  simp only [riskScore, riskCalculation, crossPlatformBreadth, callVolume, List.map_cons, List.map_nil,
    List.sum_cons, List.sum_nil]
  omega

theorem riskScore_range (tools : List ToolRiskEvidence) : 0 ≤ riskScore tools ∧ riskScore tools ≤ 100 := by
  rw [riskScore]
  omega

end Scores

theorem riskBand_level {first second : Int} (h : first ≤ second) :
    (riskBand first).1.level ≤ (riskBand second).1.level := by
  simp only [riskBand]
  split_ifs <;> first | decide | omega

/-! ## Traces -/

theorem toolRisks_ne_nil {steps : List AgentTraceStep} (h : ∃ step ∈ steps, step.isToolCall = true) :
    toolRisks steps ≠ [] := by
  obtain ⟨step, hstep, hcall⟩ := h
  obtain ⟨item, hitem⟩ := exists_toolRisk hcall
  exact List.ne_nil_of_mem (List.mem_filterMap.mpr ⟨step, hstep, hitem⟩)

theorem toolRisks_raised {before after : List AgentTraceStep} {step raised : AgentTraceStep}
    (h : Raises step raised) :
    Dominated LessRisky (toolRisks (before ++ step :: after)) (toolRisks (before ++ raised :: after)) := by
  have hone : Dominated LessRisky (toolRisks [step]) (toolRisks [raised]) := by
    cases hlow : step.toolRisk with
    | none => exact ⟨by simp [toolRisks, hlow], by simp [toolRisks, hlow]⟩
    | some low =>
      obtain ⟨high, hhigh, hless⟩ := toolRisk_raises h hlow
      exact ⟨by simp [toolRisks, hlow, hhigh], by simp [toolRisks, hlow, hhigh, hless]⟩
  have hall := hone.replace LessRisky.refl (toolRisks before) (toolRisks after)
  simpa only [toolRisks, ← List.filterMap_append, List.append_assoc, List.singleton_append] using hall

/-- The risk of a trace with a tool call is monotone in its steps and does not depend on their order. -/
theorem trace_risk_orderly (steps : List AgentTraceStep) (h : ∃ step ∈ steps, step.isToolCall = true) :
    OrderlyRisk steps where
  nonneg := (riskScore_range _).1
  atMost := (riskScore_range _).2
  orderFree others hperm := by
    have htools : (toolRisks steps).Perm (toolRisks others) := hperm.filterMap _
    have hothers : ∃ step ∈ others, step.isToolCall = true := by simpa only [hperm.mem_iff] using h
    exact le_antisymm (riskScore_le (.of_perm LessRisky.refl htools.symm) (toolRisks_ne_nil hothers))
      (riskScore_le (.of_perm LessRisky.refl htools) (toolRisks_ne_nil h))
  toolCalls before step after hsteps hcall := by
    rw [score_eq, score_eq, hsteps]
    simp only [toolRisks, List.filterMap_append, List.filterMap_cons, toolRisk_eq_none hcall]
  appended step := by
    rw [score_eq, score_eq, toolRisks, toolRisks, List.filterMap_append]
    exact riskScore_le (.append LessRisky.refl _ _) (toolRisks_ne_nil h)
  raised before step after raised hsteps hraises := by
    rw [score_eq, score_eq]
    refine riskScore_le ?_ (toolRisks_ne_nil h)
    rw [hsteps]
    exact toolRisks_raised hraises
  band others hscore := riskBand_level hscore

/-- Two allowed calls on different platforms. -/
def sampleTrace : List AgentTraceStep :=
  [{ kind := .tool, status := .verified, toolName := some "gst.invoices.search",
      guardian := some { outcome := some "ALLOW", riskClass := some "READ" } },
    { kind := .model, status := .info },
    { kind := .tool, status := .verified, toolName := some "ledger.journals.post",
      guardian := some { outcome := some "ALLOW", riskClass := some "MUTATE" } }]

theorem sampleTrace_orderly : OrderlyRisk sampleTrace :=
  trace_risk_orderly sampleTrace ⟨_, List.mem_cons_self, by decide⟩

example : (calculateTraceRisk sampleTrace).score = 47 := by decide

end Xyena.Demo
