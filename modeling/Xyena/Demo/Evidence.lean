import Xyena.Bank.Disclosure
import Xyena.Bank.Endpoint
import Xyena.Demo.Trace

/-!
# Bank records as evidence

A snapshot looks for the record of a tool under the key `data`. The bank returns
its records without that key, beside the status and the receipt, so the check
recognises none of them. Under the key it would recognise every record whose
account has a token.
-/

namespace Xyena.Demo

open Xyena.Foundation Xyena.Contracts Xyena.Bank

/-! ## What is claimed -/

/-- The two operations of the bank that a snapshot reads. -/
def readsRecord : BankOp → Bool
  | .getBalance _ => true
  | .listTransactions .. => true
  | _ => false

/-- A verified step of the tool of an operation. -/
structure VerifiedStep (op : BankOp) (step : AgentTraceStep) : Prop where
  status : step.status = .verified
  toolName : step.toolName = some op.toolName

/-- A verified step that carries an answer of the bank is recognised as evidence. -/
def RecordsRecognised (platform : BankPlatform) : Prop :=
  ∀ db call answer, readsRecord call.op = true → ((bank platform).step db call).1 = .ok answer →
    ∀ step, VerifiedStep call.op step → step.outputData = .obj (answer.dump platform) →
      operationStepHasEvidence step = true

/-! ## The records -/

section Records

variable {platform : BankPlatform} {db : BankDb} {call : BankCall} {answer : BankAnswer}

/-- What the two operations answer with, for the account that they were asked about. -/
inductive RecordOf : BankOp → BankAnswer → Prop where
  | balance (row : Account) (asOf : Time) (receipt : String) :
      RecordOf (.getBalance row.accountToken) (.balance row asOf receipt)
  | transactions (token : String) (fromDate toDate : Day) (limit : Int) (rows : List Transaction)
      (receipt : String) :
      RecordOf (.listTransactions token fromDate toDate limit)
        (.transactions token fromDate toDate rows receipt)

theorem recordOf_of_ok (hreads : readsRecord call.op = true)
    (hok : ((bank platform).step db call).1 = .ok answer) : RecordOf call.op answer := by
  obtain ⟨writes, hserve, -⟩ := served_of_ok hok
  unfold serve at hserve
  cases hop : call.op with
  | getBalance token =>
    simp only [hop] at hserve
    obtain ⟨_, -, hserve⟩ := Session.bind_ok.mp hserve
    obtain ⟨row, hrow, hserve⟩ := Session.bind_ok.mp hserve
    obtain ⟨rfl, -⟩ := Prod.mk.inj (Except.ok.inj hserve)
    rw [← (lookupAccount_ok hrow).token]
    exact .balance row _ _
  | listTransactions token fromDate toDate limit =>
    simp only [hop] at hserve
    obtain ⟨-, hserve⟩ := ensure_bind_ok.mp hserve
    obtain ⟨_, -, hserve⟩ := Session.bind_ok.mp hserve
    obtain ⟨_, -, hserve⟩ := Session.bind_ok.mp hserve
    obtain ⟨rfl, -⟩ := Prod.mk.inj (Except.ok.inj hserve)
    exact .transactions token fromDate toDate limit _ _
  | _ => cases hop ▸ hreads

/-- The records stand beside the status, not under a key of their own. -/
theorem lookup_data_of_recordOf {op : BankOp} (h : RecordOf op answer) :
    (answer.dump platform).lookup "data" = none := by
  cases h <;> rfl

end Records

/-! ## The check -/

section Check

variable {step : AgentTraceStep}

theorem sourceData_of_lookup_none {fields : Dict} (houtput : step.outputData = .obj fields)
    (hdata : fields.lookup "data" = none) : sourceData step = [] := by
  rw [sourceData, houtput]
  simp only [hdata]

theorem sourceData_of_lookup {fields data : Dict} (houtput : step.outputData = .obj fields)
    (hdata : fields.lookup "data" = some (.obj data)) : sourceData step = data := by
  rw [sourceData, houtput]
  simp only [hdata]

/-- Without data nothing is recognised. -/
theorem no_evidence_of_no_data (h : sourceData step = []) : operationStepHasEvidence step = false := by
  have hgiven (key : String) : given [] key = false := rfl
  have hempty (holds : Json → Bool) (key : String) :
      (List.lookup key ([] : Dict)).any holds = false := rfl
  rw [operationStepHasEvidence]
  cases step.toolName with
  | none => rfl
  | some toolName =>
    simp only [h, hgiven, hempty, Bool.and_false, Bool.or_false, ite_self]

/-- Under the key `data` a record is recognised unless the token of its account is empty. -/
theorem evidence_of_data {platform : BankPlatform} {op : BankOp} {answer : BankAnswer} {fields : Dict}
    (hrecord : RecordOf op answer) (hstep : VerifiedStep op step) (houtput : step.outputData = .obj fields)
    (hdata : fields.lookup "data" = some (.obj (answer.dump platform))) :
    operationStepHasEvidence step = given (answer.dump platform) "account_token" := by
  have hsource := sourceData_of_lookup houtput hdata
  rw [operationStepHasEvidence, hstep.toolName, hstep.status, hsource]
  cases hrecord with
  | balance row asOf receipt => exact Bool.and_true _
  | transactions token fromDate toDate limit rows receipt => exact Bool.and_true _

end Check

/-! ## No record is recognised -/

/-- No step that carries an answer of the bank as it was returned is recognised as evidence, whatever its
tool and its status. -/
theorem bank_record_not_evidence (platform : BankPlatform) (db : BankDb) (call : BankCall)
    (answer : BankAnswer) (hreads : readsRecord call.op = true)
    (hok : ((bank platform).step db call).1 = .ok answer) (step : AgentTraceStep)
    (houtput : step.outputData = .obj (answer.dump platform)) : operationStepHasEvidence step = false :=
  no_evidence_of_no_data
    (sourceData_of_lookup_none houtput (lookup_data_of_recordOf (recordOf_of_ok hreads hok)))

/-- The small bank with a consent to the balance of its first account. -/
def readableBank : BankDb :=
  { (sampleOpening 15000).db with
    consents := (sampleOpening 15000).consents.map fun consent ↦
      { consent with informationTypes := [.balance] } }

def balanceRead : BankCall := sampleCall "1" "bank.accounts.get_balance" (.getBalance "acct-1")

/-- The step of a read that has succeeded. -/
def recordStep (op : BankOp) (answer : BankAnswer) : AgentTraceStep where
  kind := .tool
  status := .verified
  toolName := op.toolName
  outputData := .obj (answer.dump sampleBank)

theorem balanceRead_answered :
    ∃ answer, ((bank sampleBank).step readableBank balanceRead).1 = .ok answer := by
  have hanswered : ((bank sampleBank).step readableBank balanceRead).1.isOk = true := by decide +kernel
  cases hok : ((bank sampleBank).step readableBank balanceRead).1 with
  | ok answer => exact ⟨answer, rfl⟩
  | error failure =>
    rw [hok] at hanswered
    cases hanswered

theorem bank_record_not_evidence_balance :
    ∃ answer, ((bank sampleBank).step readableBank balanceRead).1 = .ok answer ∧
      operationStepHasEvidence (recordStep balanceRead.op answer) = false := by
  obtain ⟨answer, hok⟩ := balanceRead_answered
  exact ⟨answer, hok, bank_record_not_evidence sampleBank readableBank balanceRead answer rfl hok
    (recordStep balanceRead.op answer) rfl⟩

/-- A balance that was read is taken for missing. -/
theorem balance_not_recognised : ¬∀ platform, RecordsRecognised platform := by
  intro h
  obtain ⟨answer, hok⟩ := balanceRead_answered
  have hrecognised : operationStepHasEvidence (recordStep balanceRead.op answer) = true :=
    h sampleBank readableBank balanceRead answer rfl hok (recordStep balanceRead.op answer) ⟨rfl, rfl⟩ rfl
  have hrecord : RecordOf balanceRead.op answer := recordOf_of_ok rfl hok
  rw [no_evidence_of_no_data (sourceData_of_lookup_none rfl (lookup_data_of_recordOf hrecord))] at hrecognised
  cases hrecognised

end Xyena.Demo
