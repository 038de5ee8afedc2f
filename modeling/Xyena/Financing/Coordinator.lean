import Xyena.Bank.Operations
import Xyena.Ledger.Operations

/-!
# The financing coordinator

`Coordinator` of `demos/e2e/xyena_financing_flow.py`, cut at the answers that it
waits for. Between two answers it runs alone. Its state is the dictionary that
it saves as a checkpoint; what it waits for tells where it has stopped. A key
that is missing in an answer raises, and so does a tool call that fails.
-/

namespace Xyena.Financing

open Xyena.Foundation Xyena.Contracts Xyena.Bank Xyena.Ledger

deriving instance DecidableEq for BankOp

/-! ## Checkpoints -/

inductive Stage where
  | preparing
  | waitingLedgerApproval
  | waitingBankApproval
  | reconciled
deriving DecidableEq, Repr

inductive PendingKind where
  | ledger
  | bank
deriving DecidableEq, Repr

/-- The blocked call that a checkpoint waits for. -/
structure Pending where
  kind : PendingKind
  callId : String
deriving DecidableEq, Repr

/-- What a coordinator waits for. One that has exited has saved its checkpoint. -/
inductive Point where
  | bankPreparation
  | ledgerPreparation
  | ledgerExecution
  | bankExecution
  | resumption
  | settlement
  | exited
  | raised
deriving DecidableEq, Repr

/-- A coordinator with its state. -/
structure Coordinator where
  tenantId : String
  bankExecutionId : String
  stage : Stage := .preparing
  pending : Option Pending := none
  bankPreparation : Option Dict := none
  ledgerPreparation : Option Dict := none
  ledgerExecution : Option Dict := none
  bankExecution : Option Dict := none
  reconciliation : Option Dict := none
  point : Point := .bankPreparation

/-! ## Tool calls -/

/-- A string of an answer. -/
def text (value : Dict) (key : String) : Option String :=
  match value.lookup key with
  | some (.str found) => some found
  | _ => none

/-- A dictionary inside an answer. -/
def nested (value : Dict) (key : String) : Option Dict :=
  match value.lookup key with
  | some (.obj found) => some found
  | _ => none

inductive ToolCall where
  | bank (op : BankOp)
  | ledger (op : LedgerOp)

/-- What the gateway returns for a tool call. -/
inductive Response where
  | blocked (callId : String)
  | failed
  | succeeded (projection : Dict)

def financingCaseId : String := "case_demo_e2e_001"

def sourceAccountToken : String := "acct_demo_operating"

def beneficiaryToken : String := "ben_demo_verified"

def bankPreparationCall : BankOp :=
  .prepareTransfer sourceAccountToken beneficiaryToken "125000.00" "INR" "DEMO_BANK_RAIL"
    "e2e-bank-case-demo-001"

def ledgerPreparationCall : LedgerOp :=
  .prepareDisbursement financingCaseId sourceAccountToken beneficiaryToken "125000.00" "INR"
    "DEMO_BANK_RAIL" "e2e-ledger-case-demo-001"

namespace Coordinator

variable (c : Coordinator)

def ledgerExecutionCall : Option LedgerOp := do
  let bank ← c.bankPreparation
  let ledger ← c.ledgerPreparation
  let journal ← nested ledger "journal"
  return .executeDisbursement (← text journal "journal_id") (← text journal "canonical_action_hash")
    (← text bank "proposed_action_id") (← text bank "canonical_action_hash") c.bankExecutionId

def bankExecutionCall : Option BankOp := do
  let bank ← c.bankPreparation
  return .executeTransfer (← text bank "proposed_action_id") (← text bank "canonical_action_hash")
    c.bankExecutionId

/-- The tool call whose answer is outstanding. -/
def outstanding : Option ToolCall :=
  match c.point with
  | .bankPreparation => some (.bank bankPreparationCall)
  | .ledgerPreparation => some (.ledger ledgerPreparationCall)
  | .ledgerExecution => c.ledgerExecutionCall.map .ledger
  | .bankExecution => c.bankExecutionCall.map .bank
  | .resumption =>
    match c.pending with
    | some ⟨.ledger, _⟩ => c.ledgerExecutionCall.map .ledger
    | some ⟨.bank, _⟩ => c.bankExecutionCall.map .bank
    | none => none
  | _ => none

/-! ## Between two answers -/

def raise : Coordinator := { c with point := .raised }

/-- The first step of `start`. -/
def start (tenantId bankExecutionId : String) : Coordinator where
  tenantId := tenantId
  bankExecutionId := bankExecutionId

/-- Make the call of `point`, which raises when the answers so far lack one of its arguments. -/
def await (point : Point) : Coordinator :=
  if ({ c with point := point }).outstanding.isSome then { c with point := point } else c.raise

/-- `_handle_ledger_result`, up to the call of the bank. -/
def handleLedgerResult : Response → Coordinator
  | .blocked callId =>
    { c with
      stage := .waitingLedgerApproval
      pending := some ⟨.ledger, callId⟩
      point := .exited }
  | .failed => c.raise
  | .succeeded projection => ({ c with ledgerExecution := some projection }).await .bankExecution

/-- The end of `_handle_ledger_result`, up to the settlement event. -/
def handleBankResult : Response → Coordinator
  | .blocked callId =>
    { c with
      stage := .waitingBankApproval
      pending := some ⟨.bank, callId⟩
      point := .exited }
  | .failed => c.raise
  | .succeeded projection => { c with bankExecution := some projection, point := .settlement }

/-- What `resume` does with the answer to the pending call. -/
def handleResumption : Response → Coordinator
  | .blocked _ => { c with point := .exited }
  | response =>
    match c.pending with
    | some ⟨.ledger, _⟩ => ({ c with pending := none }).handleLedgerResult response
    | some ⟨.bank, _⟩ => ({ c with pending := none }).handleBankResult response
    | none => c.raise

/-- What a coordinator does with an answer. -/
def receive (response : Response) : Coordinator :=
  match c.point with
  | .bankPreparation =>
    match response with
    | .succeeded projection =>
      ({ c with bankPreparation := some projection }).await .ledgerPreparation
    | _ => c.raise
  | .ledgerPreparation =>
    match response with
    | .succeeded projection =>
      ({ c with ledgerPreparation := some projection }).await .ledgerExecution
    | _ => c.raise
  | .ledgerExecution => c.handleLedgerResult response
  | .bankExecution => c.handleBankResult response
  | .resumption => c.handleResumption response
  | _ => c

/-- The event that `_settle` posts. `settledAt` is the instant that the ledger reads from it. -/
def settlementEvent (settledAt : Time) : Option Settlement := do
  let bank ← c.bankExecution
  let ledger ← c.ledgerPreparation
  let payment ← nested ledger "payment"
  return {
    eventId := "bank-settlement-" ++ c.bankExecutionId
    tenantId := c.tenantId
    paymentId := ← text payment "payment_id"
    bankExecutionId := c.bankExecutionId
    bankReference := ← text bank "bank_reference"
    amount := ← text bank "amount"
    currency := ← text bank "currency"
    settledAt := settledAt }

/-- `_settle` after its event was accepted. -/
def reconcile (record : Dict) : Coordinator :=
  { c with reconciliation := some record, stage := .reconciled, point := .exited }

end Coordinator

end Xyena.Financing
