import Mathlib.Algebra.Ring.Int.Defs
import Mathlib.Data.List.Dedup
import Xyena.Contracts.Tools
import Xyena.Foundation.PyText

/-!
# Traces of the demo agent

The steps that the routes of `apps/api/routes/demo.py` record, the check that a
step carries evidence, and the risk of a trace. Sequence numbers, actors, titles,
times, arguments and hashes of a step, and the identifiers and reason codes of
its Guardian decision, are read by neither and left out.
-/

namespace Xyena.Demo

open Xyena.Foundation Xyena.Contracts

/-! ## Steps -/

inductive StepKind where
  | tool
  | model
  | decision
deriving DecidableEq, Repr

inductive StepStatus where
  | verified
  | failed
  | info
deriving DecidableEq, Repr

def StepStatus.value : StepStatus → String
  | .verified => "verified"
  | .failed => "failed"
  | .info => "info"

structure GuardianTrace where
  outcome : Option String := none
  riskClass : Option String := none
deriving DecidableEq, Repr

structure AgentTraceStep where
  kind : StepKind
  status : StepStatus
  toolName : Option String := none
  outputData : Json := .null
  securityFlags : List String := []
  guardian : Option GuardianTrace := none

/-! ## Evidence -/

/-- `_source_data`. -/
def sourceData (step : AgentTraceStep) : Dict :=
  match step.outputData with
  | .obj fields =>
    match fields.lookup "data" with
    | some (.obj data) => data
    | _ => []
  | _ => []

/-- `text.upper()`, as far as it can give the letters of a status that is no record. -/
def upperLetter (char : Char) : Char :=
  if char = 'ı' then 'I' else if char = 'ſ' then 'S' else char.toUpper

/-- Whether the data say that there is no record. The text of a value that is no string is not one of
the three words. -/
def statesNoRecord (data : Dict) : Bool :=
  match data.lookup "status" with
  | some (.str status) =>
    ["NOT_FOUND", "FAILED", "ERROR"].contains (String.ofList (status.toList.map upperLetter))
  | _ => false

/-- `bool(data.get(key))`. -/
def given (data : Dict) (key : String) : Bool := (data.lookup key).any Json.truthy

/-- `_operation_step_has_evidence`. -/
def operationStepHasEvidence (step : AgentTraceStep) : Bool :=
  let data := sourceData step
  match step.toolName with
  | none => false
  | some toolName =>
    if step.status ≠ .verified ∨ toolName = "" then false
    else if statesNoRecord data then false
    else if toolName = "registry.businesses.get" then given data "business_id" && given data "legal_name"
    else if toolName = "gst.invoices.search" then given data "items"
    else if toolName = "erp.purchase_orders.get" then given data "po_number" || given data "order_number"
    else if toolName = "delivery.deliveries.find_by_invoice" then given data "deliveries"
    else if toolName = "bank.accounts.get_balance" then
      given data "account_token" && (data.lookup "available_balance").any (fun value ↦ !isNull value)
    else if toolName = "bank.transactions.list" then
      given data "account_token" && (data.lookup "transactions").any isList
    else false
where
  isNull : Json → Bool
    | .null => true
    | _ => false
  isList : Json → Bool
    | .arr _ => true
    | _ => false

/-! ## Risk -/

structure ToolRiskEvidence where
  toolName : String
  platform : String
  riskClass : String
  registeredRiskPoints : Nat
  guardianOutcome : String
  guardianPoints : Nat
  executionPoints : Nat
  securityPoints : Nat
  subtotal : Nat
  unexpectedSecurityFlags : List String
  executionStatus : String
deriving DecidableEq, Repr

inductive RiskBand where
  | low
  | guarded
  | high
  | critical
deriving DecidableEq, Repr

structure TraceRiskAssessment where
  score : Int
  band : RiskBand
  policyAction : String
  calculation : List (String × Int)
  tools : List ToolRiskEvidence
  explanation : String
deriving DecidableEq, Repr

def riskWeights : List (String × Nat) :=
  [("READ", 5), ("SENSITIVE_READ", 15), ("MUTATE", 45), ("PRIVILEGED", 75)]

def outcomeModifiers : List (String × Nat) :=
  [("ALLOW", 0), ("VERIFY", 8), ("ESCALATE", 20), ("BLOCK", 40)]

def expectedDemoFlags : List String := ["SYNTHETIC_DATA", "EXTERNAL_EVIDENCE"]

/-- `value or default`. -/
def orDefault (value : Option String) (default : String) : String :=
  (value.filter (· ≠ "")).getD default

namespace AgentTraceStep

variable (step : AgentTraceStep)

/-- The risk class of a step, which is unknown without a decision of the Guardian. -/
def riskClass : String :=
  orDefault ((step.guardian.map GuardianTrace.riskClass).getD (some "UNKNOWN")) "UNKNOWN"

def guardianOutcome : String :=
  orDefault ((step.guardian.map GuardianTrace.outcome).getD (some "MISSING")) "MISSING"

/-- The security flags that no demonstration expects, without repetition and in order. -/
def unexpectedFlags : List String :=
  (step.securityFlags.filter fun flag ↦ !expectedDemoFlags.contains flag).dedup.insertionSort (· ≤ ·)

def registeredRiskPoints : Nat := (riskWeights.lookup step.riskClass).getD 90

def guardianPoints : Nat := (outcomeModifiers.lookup step.guardianOutcome).getD 40

def executionPoints : Nat := if step.status ≠ .verified then 15 else 0

def securityPoints : Nat := min 15 (step.unexpectedFlags.length * 5)

/-- What the risk of a trace keeps of a step, unless it is no call of a tool. -/
def toolRisk : Option ToolRiskEvidence :=
  if step.kind ≠ .tool then none
  else step.toolName.map fun toolName ↦
    { toolName := toolName
      platform := String.ofList (toolName.toList.takeWhile (· ≠ '.'))
      riskClass := step.riskClass
      registeredRiskPoints := step.registeredRiskPoints
      guardianOutcome := step.guardianOutcome
      guardianPoints := step.guardianPoints
      executionPoints := step.executionPoints
      securityPoints := step.securityPoints
      subtotal := min 100 (step.registeredRiskPoints + step.guardianPoints + step.executionPoints +
        step.securityPoints)
      unexpectedSecurityFlags := step.unexpectedFlags
      executionStatus := step.status.value }

end AgentTraceStep

/-- A call that only reads, was allowed, succeeded and shows no unexpected flag. -/
def protectedRead (item : ToolRiskEvidence) : Bool :=
  ["READ", "SENSITIVE_READ"].contains item.riskClass && item.guardianOutcome == "ALLOW" &&
    item.executionStatus == "verified" && item.unexpectedSecurityFlags.isEmpty

def highestToolSubtotal (tools : List ToolRiskEvidence) : Nat :=
  (tools.map ToolRiskEvidence.subtotal).max?.getD 100

def crossPlatformBreadth (tools : List ToolRiskEvidence) : Nat :=
  min 10 (((tools.map ToolRiskEvidence.platform).dedup.length - 1) * 2)

def callVolume (tools : List ToolRiskEvidence) : Nat := min 5 (tools.length - 3)

def protectedReadReduction (tools : List ToolRiskEvidence) : Int :=
  if !tools.isEmpty && tools.all protectedRead then -5 else 0

def riskCalculation (tools : List ToolRiskEvidence) : List (String × Int) :=
  [("highest_tool_subtotal", highestToolSubtotal tools),
    ("cross_platform_breadth", crossPlatformBreadth tools), ("call_volume", callVolume tools),
    ("protected_read_reduction", protectedReadReduction tools)]

/-- The band of a score with what the policy does in it. -/
def riskBand (score : Int) : RiskBand × String :=
  if score ≤ 24 then (.low, "Allow within the registered read-only scope")
  else if score ≤ 49 then (.guarded, "Require additional deterministic verification")
  else if score ≤ 74 then (.high, "Escalate for human approval before execution")
  else (.critical, "Block execution until risk is resolved")

/-- `_calculate_trace_risk`. -/
def calculateTraceRisk (steps : List AgentTraceStep) : TraceRiskAssessment :=
  let tools := steps.filterMap AgentTraceStep.toolRisk
  let calculation := riskCalculation tools
  let score := max 0 (min 100 (calculation.map Prod.snd).sum)
  { score := score
    band := (riskBand score).1
    policyAction := (riskBand score).2
    calculation := calculation
    tools := tools
    explanation :=
      "Each tool subtotal = registered risk + Guardian + execution + security points. " ++
        "Final score = highest tool subtotal + platform breadth + call volume, then a " ++
        "five-point reduction only when every call is an allowed successful read." }

end Xyena.Demo
