import Xyena.Demo.Trace
import Xyena.Foundation.Program

/-!
# Judge traces

`create_judge_trace` of `apps/api/routes/demo.py` after its rate limit, with
`_invoke_judge_tool` and `_trace_model_summary`. The environment answers each call of
a tool, with what the Guardian has recorded for it, and the one request to the model.
Identifiers, times and the actors of steps are left out as in the steps themselves.
-/

namespace Xyena.Demo

open Xyena.Foundation Xyena.Contracts

/-! ## Scenarios -/

inductive Scenario where
  | platformNetwork
  | verifiedInvoice
  | amountMismatch
  | submittedInvoice
deriving DecidableEq, Repr

structure ScenarioData where
  label : String
  invoiceNumber : String
  searchStatus : String
  claimedTotal : String
  claimedBuyerGstin : String
  claimedStatus : String

/-- `_JUDGE_SCENARIOS`. -/
def judgeScenarios : Scenario → ScenarioData
  | .platformNetwork => ⟨"Six-platform MCP network tour", "NETWORK/READ-ONLY", "REGISTERED", "0.00", "",
    "READ_ONLY"⟩
  | .verifiedInvoice =>
    ⟨"Registered invoice — verified", "MICRO/26/101", "REGISTERED", "545750.00", "29BUYER1234A1Z8",
      "REGISTERED"⟩
  | .amountMismatch =>
    ⟨"Registered invoice — amount mismatch", "MICRO/26/101", "REGISTERED", "545700.00", "29BUYER1234A1Z8",
      "REGISTERED"⟩
  | .submittedInvoice =>
    ⟨"Submitted invoice — not yet eligible", "MICRO/26/102", "SUBMITTED", "339840.00", "27BUYER5678B1Z6",
      "REGISTERED"⟩

def gstTenantId : Uuid := 0x00000000000040008000000000001101

def gstOrganizationId : Uuid := 0x00000000000040008000000000001201

def sharedDemoTenantId : Uuid := 0x00000000000040008000000000000101

def sharedDemoOrganizationId : Uuid := 0x00000000000040008000000000000301

def registryTenantId : Uuid := 0x00000000000040008000000000001301

def registryOrganizationId : Uuid := 0x00000000000040008000000000001201

/-! ## Requests -/

structure JudgeCall where
  toolName : String
  arguments : Dict
  tenantId : Uuid := gstTenantId
  organizationId : Uuid := gstOrganizationId
  purpose : String := "judge_demo_invoice_verification"

inductive JudgeRequest where
  | tool (call : JudgeCall)
  | model (evidence : Dict)

/-- A call of a tool gives a result with the record of the Guardian, or the text of what it raises. The
model gives its final output, if it completes. -/
def JudgeReply : JudgeRequest → Type
  | .tool _ => Except String (SafeToolResult × GuardianTrace)
  | .model _ => Option String

structure JudgeSettings where
  serviceToken : Option String
  modelApiKey : Option String
  modelProvider : String
  openaiModel : String

inductive TraceStatus where
  | verified
  | notVerified
  | error
deriving DecidableEq, Repr

structure JudgeTrace where
  scenarioLabel : String
  subject : List (String × String)
  status : TraceStatus
  verified : Bool
  reasonCodes : List String
  summary : String
  risk : TraceRiskAssessment
  steps : List AgentTraceStep

abbrev Judge (α : Type) := Program JudgeRequest JudgeReply α

/-! ## Steps -/

def failedTool (call : JudgeCall) (error : String) : AgentTraceStep where
  kind := .tool
  status := .failed
  toolName := some call.toolName
  outputData := .obj [("error", .str error)]

/-- What a step shows of a result. -/
def shownOutput (result : SafeToolResult) : Json :=
  match result.modelProjection with
  | .null => .obj [("error_code", .ofOption result.errorCode),
    ("error_message", .ofOption result.errorMessage)]
  | projection => projection

/-- The Guardian has allowed the call, and it has succeeded. -/
def governed (result : SafeToolResult) (guardian : GuardianTrace) : Bool :=
  result.status = .succeeded && guardian.outcome = some "ALLOW"

def toolStep (call : JudgeCall) : Except String (SafeToolResult × GuardianTrace) →
    AgentTraceStep × Option SafeToolResult
  | .error text => (failedTool call (clip 300 text), none)
  | .ok (result, guardian) =>
    ({ kind := .tool
       status := if governed result guardian then .verified else .failed
       toolName := some call.toolName
       outputData := shownOutput result
       securityFlags := result.securityFlags
       guardian := some guardian }, some result)

/-- `_invoke_judge_tool`. -/
def invokeJudgeTool (settings : JudgeSettings) (call : JudgeCall) :
    Judge (AgentTraceStep × Option SafeToolResult) :=
  match settings.serviceToken with
  | none => .ret (failedTool call "MCP service authentication is unavailable.", none)
  | some _ => .ask (.tool call) fun reply ↦ .ret (toolStep call reply)

def modelStep (status : StepStatus) (fields : Dict) : AgentTraceStep where
  kind := .model
  status := status
  outputData := .obj fields

/-- `_trace_model_summary`. -/
def traceModelSummary (settings : JudgeSettings) (evidence : Dict) : Judge AgentTraceStep :=
  match settings.modelApiKey with
  | none => .ret (modelStep .failed [("error", .str "The model provider is not configured.")])
  | some _ => .ask (.model evidence) fun reply : Option String ↦
    .ret (match reply with
      | some output =>
        modelStep .verified [("provider", .str settings.modelProvider), ("model", .str settings.openaiModel),
          ("summary", .str (clip 800 (strip output))), ("authority", .str "advisory-only")]
      | none => modelStep .failed [("error", .str "The model summary did not complete.")])

/-- The summary of a model step, unless there is none or it is empty. -/
def summaryOr (step : AgentTraceStep) (default : String) : String :=
  match step.outputData with
  | .obj fields =>
    match fields.lookup "summary" with
    | some (.str summary) => if summary = "" then default else summary
    | _ => default
  | _ => default

def decisionStep (verified : Bool) (fields : Dict) : AgentTraceStep where
  kind := .decision
  status := if verified then .verified else .failed
  outputData := .obj fields

/-! ## Results -/

/-- A check, with the reason code of its failure. -/
structure Check where
  name : String
  holds : Bool
  reason : String

def reasonCodes (checks : List Check) : List String :=
  (checks.filter fun check ↦ !check.holds).map Check.reason

def checkFields (checks : List Check) : Dict := checks.map fun check ↦ (check.name, .bool check.holds)

/-- `finish_error`. -/
def finishError (scenario : Scenario) (steps : List AgentTraceStep) (message reason : String) : JudgeTrace :=
  let all := steps ++ [decisionStep false
    [("verified", .bool false), ("reason_codes", .strings [reason]), ("message", .str message)]]
  { scenarioLabel := (judgeScenarios scenario).label
    subject := [("invoice_number", (judgeScenarios scenario).invoiceNumber), ("source", "synthetic-gst")]
    status := .error
    verified := false
    reasonCodes := [reason]
    summary := message
    risk := calculateTraceRisk all
    steps := all }

/-- What is left to a trace after its calls of tools: the model is asked for a summary, and the checks
decide. -/
structure Verdict where
  subject : List (String × String)
  evidence : Dict
  checks : List Check
  passed : String
  failed : String
  steps : List AgentTraceStep

def verified (verdict : Verdict) : Bool := (reasonCodes verdict.checks).isEmpty

/-- The trace with the model's step. -/
def concluded (scenario : Scenario) (verdict : Verdict) (step : AgentTraceStep) : JudgeTrace :=
  let reasons := reasonCodes verdict.checks
  let verified := verified verdict
  let steps := verdict.steps ++ [step, decisionStep verified
    [("verified", .bool verified), ("reason_codes", .strings reasons),
      ("model_authority", .str "advisory-only"),
      ("state_changed", .bool false), ("audit_records_created", .bool true)]]
  { scenarioLabel := (judgeScenarios scenario).label
    subject := verdict.subject
    status := if verified then .verified else .notVerified
    verified := verified
    reasonCodes := reasons
    summary := summaryOr step (if verified then verdict.passed else verdict.failed)
    risk := calculateTraceRisk steps
    steps := steps }

/-- The end of `create_judge_trace`. -/
def conclude (settings : JudgeSettings) (scenario : Scenario) (verdict : Verdict) : Judge JudgeTrace :=
  let evidence := verdict.evidence ++
    [("checks", .obj (checkFields verdict.checks)), ("verified", .bool (verified verdict)),
      ("reason_codes", .strings (reasonCodes verdict.checks))]
  (traceModelSummary settings evidence).bind fun step ↦ .ret (concluded scenario verdict step)

def allowed (step : AgentTraceStep) : Bool := step.guardian.any fun guardian ↦ guardian.outcome = some "ALLOW"

/-! ## The network scenario -/

def networkPurpose : String := "judge_demo_cross_platform_read"

def platformCalls : List JudgeCall :=
  [{ toolName := "registry.businesses.verify"
     arguments := [("identifier", .str "29ABCDE1234F1Z5"),
       ("claimed_legal_name", .str "Kaveri Precision Components Private Limited"),
       ("claimed_gstin", .str "29ABCDE1234F1Z5"), ("claimed_status", .str "ACTIVE")]
     tenantId := registryTenantId, organizationId := registryOrganizationId, purpose := networkPurpose },
    { toolName := "gst.invoices.search"
      arguments := [("query", .str "MICRO/26/101"), ("status", .str "REGISTERED"), ("limit", .int 1)]
      purpose := networkPurpose },
    { toolName := "erp.purchase_orders.get", arguments := [("order_id_or_number", .str "PO-1007")]
      tenantId := sharedDemoTenantId, organizationId := sharedDemoOrganizationId, purpose := networkPurpose },
    { toolName := "delivery.deliveries.find_by_invoice", arguments := [("invoice_id", .str "INV-2023-0001")]
      tenantId := sharedDemoTenantId, organizationId := sharedDemoOrganizationId, purpose := networkPurpose },
    { toolName := "bank.accounts.list", arguments := []
      tenantId := sharedDemoTenantId, organizationId := sharedDemoOrganizationId, purpose := networkPurpose },
    { toolName := "ledger.accounts.get_balance", arguments := [("account_id", .str "ledger_cash_clearing")]
      tenantId := sharedDemoTenantId, organizationId := sharedDemoOrganizationId, purpose := networkPurpose }]

/-- The tools of the last check of the scenario. -/
def readTools : List String :=
  ["registry.businesses.verify", "gst.invoices.search", "erp.purchase_orders.get",
    "delivery.deliveries.find_by_invoice", "bank.accounts.list", "ledger.accounts.get_balance"]

/-- The loop of the scenario. -/
def callAll (settings : JudgeSettings) : List JudgeCall → List AgentTraceStep → Judge (List AgentTraceStep)
  | [], steps => .ret steps
  | call :: rest, steps => (invokeJudgeTool settings call).bind fun (step, _) ↦
    callAll settings rest (steps ++ [step])

def networkVerdict (steps : List AgentTraceStep) : Verdict where
  subject := [("reference", "NETWORK/READ-ONLY"), ("source", "six-independent-mcp-platforms")]
  evidence := [("scenario", .str (judgeScenarios .platformNetwork).label),
    ("platforms", .strings ["registry", "gst", "erp", "delivery", "bank", "ledger"])]
  checks :=
    [⟨"six_independent_mcp_sources_called", steps.length = platformCalls.length, "PLATFORM_SOURCE_MISSING"⟩,
      ⟨"guardian_allowed_every_tool", steps.all allowed, "GUARDIAN_NOT_ALLOWED"⟩,
      ⟨"all_mcp_calls_succeeded", steps.all fun step ↦ step.status = .verified, "MCP_CALL_FAILED"⟩,
      ⟨"only_read_tools_used", steps.all fun step ↦ step.toolName.any fun name ↦ readTools.contains name,
        "NON_READ_TOOL_REQUESTED"⟩]
  passed := "Six independent MCP platforms returned governed read-only evidence."
  failed := "One or more platform evidence calls did not complete or pass Guardian."
  steps := steps

/-! ## The invoice scenarios -/

def searchCall (scenario : Scenario) : JudgeCall where
  toolName := "gst.invoices.search"
  arguments := [("query", .str (judgeScenarios scenario).invoiceNumber),
    ("status", .str (judgeScenarios scenario).searchStatus), ("limit", .int 5)]

def getCall (invoiceId : String) : JudgeCall where
  toolName := "gst.invoices.get"
  arguments := [("invoice_id", .str invoiceId)]

def verifyCall (scenario : Scenario) (invoiceId : String) : JudgeCall where
  toolName := "gst.invoices.verify"
  arguments := [("invoice_id", .str invoiceId),
    ("claimed_total", .str (judgeScenarios scenario).claimedTotal),
    ("claimed_buyer_gstin", .str (judgeScenarios scenario).claimedBuyerGstin),
    ("claimed_status", .str (judgeScenarios scenario).claimedStatus)]

def registrationCall (gstin : String) : JudgeCall where
  toolName := "gst.registrations.verify"
  arguments := [("gstin", .str gstin)]

def classificationCall : JudgeCall where
  toolName := "gst.enterprises.get_classification"
  arguments := []

/-- The first item of a search, which has to be a dictionary. -/
def firstItem (data : Dict) : Option Dict :=
  match data.lookup "items" with
  | some (.arr (.obj first :: _)) => some first
  | _ => none

/-- `str(data.get(key, ""))`. How a list or a dictionary is shown is left to `container`. -/
def textAt (container : Json → String) (data : Dict) (key : String) : String :=
  ((data.lookup key).map (Json.text container)).getD ""

/-- `data.get(key) is True`. -/
def isTrue (data : Dict) (key : String) : Bool :=
  match data.lookup key with
  | some (.bool value) => value
  | _ => false

def statesVerified (data : Dict) : Bool :=
  match data.lookup "verification_status" with
  | some (.str status) => status == "VERIFIED"
  | _ => false

def invoiceVerdict (scenario : Scenario) (steps : List AgentTraceStep)
    (verification registration classification : Dict) : Verdict where
  subject := [("invoice_number", (judgeScenarios scenario).invoiceNumber), ("source", "synthetic-gst")]
  evidence := [("invoice_number", .str (judgeScenarios scenario).invoiceNumber),
    ("scenario", .str (judgeScenarios scenario).label)]
  checks :=
    [⟨"claim_fields_match", isTrue verification "verified", "CLAIM_MISMATCH"⟩,
      ⟨"invoice_is_registered", isTrue verification "eligible_registered_invoice", "INVOICE_NOT_REGISTERED"⟩,
      ⟨"seller_registration_active", isTrue registration "active_match", "SELLER_REGISTRATION_INACTIVE"⟩,
      ⟨"msme_classification_verified", statesVerified classification, "MSME_CLASSIFICATION_UNVERIFIED"⟩,
      ⟨"guardian_allowed_every_tool", (steps.filter fun step ↦ step.kind = .tool).all allowed,
        "GUARDIAN_NOT_ALLOWED"⟩,
      ⟨"all_mcp_calls_succeeded", (steps.filter fun step ↦ step.kind = .tool).all fun step ↦
        step.status = .verified, "MCP_CALL_FAILED"⟩]
  passed := "All deterministic source, policy, and claim checks passed."
  failed := "The deterministic verification found one or more exceptions."
  steps := steps

/-- A call that has to complete before the trace goes on. -/
def require (settings : JudgeSettings) (scenario : Scenario) (steps : List AgentTraceStep) (call : JudgeCall)
    (message reason : String) (next : AgentTraceStep → Judge (Except JudgeTrace Verdict)) :
    Judge (Except JudgeTrace Verdict) :=
  (invokeJudgeTool settings call).bind fun (step, result) ↦
    if result.isNone || step.status = .failed then .ret (.error
      (finishError scenario (steps ++ [step]) message reason))
    else next step

/-- The calls of tools of an invoice scenario. -/
def gather (settings : JudgeSettings) (container : Json → String) (scenario : Scenario) :
    Judge (Except JudgeTrace Verdict) :=
  require settings scenario [] (searchCall scenario) "The invoice search tool did not complete."
      "INVOICE_SEARCH_FAILED" fun search ↦
    match firstItem (sourceData search) with
    | none => .ret (.error (finishError scenario [search] "No source invoice matched the selected scenario."
        "INVOICE_NOT_FOUND"))
    | some item =>
      let invoiceId := textAt container item "id"
      if invoiceId = "" then
        .ret (.error (finishError scenario [search] "The source invoice did not include an identifier."
          "INVOICE_ID_MISSING"))
      else
        require settings scenario [search] (getCall invoiceId)
          "The authoritative invoice could not be retrieved."
            "INVOICE_FETCH_FAILED" fun invoice ↦
          let sellerGstin := textAt container (sourceData invoice) "seller_gstin"
          if sellerGstin = "" then
            .ret (.error (finishError scenario [search, invoice]
              "The source invoice did not include the seller GSTIN." "SELLER_GSTIN_MISSING"))
          else
            require settings scenario [search, invoice] (verifyCall scenario invoiceId)
                "The invoice comparison tool did not complete." "INVOICE_VERIFY_FAILED" fun verify ↦
              require settings scenario [search, invoice, verify] (registrationCall sellerGstin)
                  "The GST registration tool did not complete." "REGISTRATION_VERIFY_FAILED"
                    fun registration ↦
                require settings scenario [search, invoice, verify, registration] classificationCall
                    "The MSME classification tool did not complete." "CLASSIFICATION_FAILED"
                      fun classification ↦
                  .ret (.ok (invoiceVerdict scenario [search, invoice, verify, registration, classification]
                    (sourceData verify) (sourceData registration) (sourceData classification)))

/-- The calls of tools of a scenario. -/
def collect (settings : JudgeSettings) (container : Json → String) :
    Scenario → Judge (Except JudgeTrace Verdict)
  | .platformNetwork => (callAll settings platformCalls []).bind fun steps ↦ .ret (.ok (networkVerdict steps))
  | scenario => gather settings container scenario

/-- `create_judge_trace`. -/
def createJudgeTrace (settings : JudgeSettings) (container : Json → String) (scenario : Scenario) :
    Judge JudgeTrace :=
  (collect settings container scenario).bind fun collected ↦
    match collected with
    | .error trace => .ret trace
    | .ok verdict => conclude settings scenario verdict

end Xyena.Demo
