import Xyena.Ledger.Service

/-!
# The operations of the ledger, one by one

Each definition follows the method of its name in `LedgerService`, check by
check and with the same texts. The machine at the end serves one call after the
other, each in its own transaction.
-/

namespace Xyena.Ledger

open Xyena.Foundation Xyena.Foundation.DoubleEntry Xyena.Foundation.Session Xyena.Contracts

variable (platform : LedgerPlatform) (db : LedgerDb) (call : LedgerCall) (scope : RuntimeScope)

/-! ## Reads -/

def accountBalance (accountId : String) : Except LedgerError Outcome := do
  let value ← lookupAccount db.accounts scope.tenantId accountId
  return (.account value, some
    { auditEvents := [auditRow (call.draws.rowId 0) scope "SUCCESS" [("account_id", .str accountId)]] })

def getJournal (journalId : String) : Except LedgerError Outcome := do
  let value ← lookupJournal db scope.tenantId journalId
  return (.journal value (linesOf db journalId), some
    { auditEvents := [auditRow (call.draws.rowId 0) scope "SUCCESS" [("journal_id", .str journalId)]] })

def paymentStatus (paymentId : String) : Except LedgerError Outcome :=
  match db.payments.find? fun row ↦ row.paymentId == paymentId && row.tenantId == scope.tenantId with
  | none => .error (.domain "Payment was not found in the signed tenant.")
  | some value => .ok (.payment value, none)

def reconciliation (paymentId : String) : Except LedgerError Outcome :=
  match db.reconciliations.find? fun row ↦
      row.paymentId == paymentId && row.tenantId == scope.tenantId with
  | none => .error (.domain "Reconciliation record was not found.")
  | some value => .ok (.reconciliation value, none)

/-! ## Disbursements -/

/-- The first payment of a journal, of whichever tenant. -/
def paymentOf (journalId : String) : Option PaymentInstruction :=
  db.payments.find? fun row ↦ row.journalId == journalId

/-- `_disbursement_projection` of stored rows. -/
def disbursementAnswer (journal : JournalEntry) :
    Option PaymentInstruction → Except LedgerError LedgerAnswer
  | none => .error (.attributeError "'NoneType' object has no attribute 'payment_id'")
  | some payment => .ok (.disbursement journal (linesOf db journal.journalId) payment none)

def disbursementAction (financingCaseId sourceAccountToken beneficiaryToken : String) (amount : Int)
    (currency rail key : String) : Dict :=
  [("tenant_id", .str scope.tenantId), ("financing_case_id", .str financingCaseId),
    ("source_account_token", .str sourceAccountToken), ("beneficiary_token", .str beneficiaryToken),
    ("amount", .str (centsText amount)), ("currency", .str currency), ("rail", .str rail),
    ("client_idempotency_key", .str key), ("purpose", .str scope.purpose)]

def newJournalId : String := "jrnl_" ++ call.draws.token 0

def newDisbursement (financingCaseId : String) (amount : Int) (currency key actionHash : String) :
    JournalEntry where
  journalId := newJournalId call
  tenantId := scope.tenantId
  financingCaseId := financingCaseId
  entryType := .disbursement
  description := "Synthetic financing disbursement for " ++ financingCaseId
  currency := currency
  totalDebits := amount
  totalCredits := amount
  status := .validated
  idempotencyKey := key
  canonicalActionHash := actionHash

def newPayment (financingCaseId sourceAccountToken beneficiaryToken : String) (amount : Int)
    (currency rail key : String) : PaymentInstruction where
  paymentId := "pay_" ++ call.draws.token 1
  tenantId := scope.tenantId
  journalId := newJournalId call
  financingCaseId := financingCaseId
  sourceAccountToken := sourceAccountToken
  beneficiaryToken := beneficiaryToken
  amount := amount
  currency := currency
  rail := rail
  clientIdempotencyKey := key
  status := .prepared

def newLine (index : Nat) (accountId : String) (side : Side) (amount : Int)
    (currency reference : String) : JournalLine where
  lineId := call.draws.rowId index
  journalId := newJournalId call
  accountId := accountId
  side := side
  amount := amount
  currency := currency
  reference := reference

def loanReceivable : String := "ledger_loan_receivable"

def cashClearing : String := "ledger_cash_clearing"

/-- The two lines of a disbursement. -/
def disbursementLines (financingCaseId : String) (amount : Int) (currency : String) :
    List JournalLine :=
  [newLine call 0 loanReceivable .debit amount currency financingCaseId,
    newLine call 1 cashClearing .credit amount currency financingCaseId]

def prepareDisbursement (financingCaseId sourceAccountToken beneficiaryToken amountText currency rail
    key : String) : Except LedgerError Outcome := do
  let amount ← parseAmount amountText
  ensure (currency == "INR" && rail == "DEMO_BANK_RAIL")
    (.domain "Only synthetic INR over DEMO_BANK_RAIL is supported.")
  let actionHash := hash platform
    (disbursementAction scope financingCaseId sourceAccountToken beneficiaryToken amount currency rail
      key)
  match db.journals.find? fun row ↦ row.tenantId == scope.tenantId && row.idempotencyKey == key with
  | some existing =>
    ensure (existing.canonicalActionHash == actionHash)
      (.domain "Idempotency key is bound to another journal payload.")
    let answer ← disbursementAnswer db existing (paymentOf db existing.journalId)
    return (answer, none)
  | none =>
    let _ ← lookupAccount db.accounts scope.tenantId loanReceivable
    let _ ← lookupAccount db.accounts scope.tenantId cashClearing
    let journal := newDisbursement call scope financingCaseId amount currency key actionHash
    let payment := newPayment call scope financingCaseId sourceAccountToken beneficiaryToken amount
      currency rail key
    let lines := disbursementLines call financingCaseId amount currency
    assertBalanced journal
    return (.disbursement journal lines payment none, some
      { journals := [.insert journal]
        payments := [.insert payment]
        lines := lines.map .insert
        auditEvents := [auditRow (call.draws.rowId 2) scope "PREPARED"
          [("journal_id", .str journal.journalId), ("payment_id", .str payment.paymentId)]] })

def JournalEntry.post (journal : JournalEntry) : JournalEntry :=
  { journal with
    status := .posted
    postedAt := some call.now
    guardianCallId := some scope.callId
    guardianDecisionId := some scope.guardianDecisionId }

def PaymentInstruction.submit (payment : PaymentInstruction) (request : BankTransferRequest) :
    PaymentInstruction :=
  { payment with
    status := .submitted
    bankProposedActionId := some request.proposedActionId
    bankActionHash := some request.canonicalActionHash
    bankExecutionId := some request.executionId }

/-- Whether a submitted payment is bound to the request. -/
def PaymentInstruction.boundTo (payment : PaymentInstruction) (request : BankTransferRequest) : Bool :=
  payment.bankProposedActionId == some request.proposedActionId &&
    payment.bankActionHash == some request.canonicalActionHash &&
    payment.bankExecutionId == some request.executionId

/-- The rows of a posted disbursement. -/
def disbursementWrites (accounts : List LedgerAccount) (journal : JournalEntry)
    (payment : PaymentInstruction) : Writes :=
  { accounts := some accounts
    journals := [.update (journal.post call scope)]
    payments := [.update payment]
    outboxEvents := [eventRow (call.draws.rowId 0) scope.tenantId "PAYMENT" payment.paymentId
      "ledger.payment.submitted" (paymentProjection payment)]
    auditEvents := [auditRow (call.draws.rowId 1) scope "POSTED"
      [("journal_id", .str journal.journalId), ("payment_id", .str payment.paymentId)]] }

def executeDisbursement (journalId canonicalActionHash : String) (request : BankTransferRequest) :
    Except LedgerError Outcome := do
  let replay := db.journals.find? fun row ↦
    row.tenantId == scope.tenantId && row.guardianCallId == some scope.callId
  ensure (replay.all (·.journalId == journalId))
    (.security "Guardian call id has already posted another journal.")
  let journal ← lookupJournal db scope.tenantId journalId
  ensure (journal.canonicalActionHash == canonicalActionHash)
    (.security "Canonical journal hash mismatch.")
  if journal.status = .posted then
    match paymentOf db journalId with
    | none => .error (.attributeError "'NoneType' object has no attribute 'bank_proposed_action_id'")
    | some payment =>
      ensure (payment.boundTo request)
        (.domain "Posted journal is bound to different bank execution parameters.")
      let answer ← disbursementAnswer db journal (some payment)
      return (answer, none)
  else
    ensure (journal.status == .validated) (.domain "Only a validated journal can be posted.")
    let lines := linesOf db journalId
    assertLinesBalanced lines
    let accounts ← postLines scope.tenantId db.accounts lines
    match paymentOf db journalId with
    | none => .error (.attributeError "'NoneType' object has no attribute 'status'")
    | some payment =>
      return (.disbursement (journal.post call scope) lines (payment.submit request) (some request),
        some (disbursementWrites call scope accounts journal (payment.submit request)))

/-! ## Reversals -/

def reversalAction (originalJournalId reason key : String) : Dict :=
  [("original_journal_id", .str originalJournalId), ("reason", .str reason),
    ("idempotency_key", .str key)]

def newReversalId : String := "jrnl_rev_" ++ call.draws.token 0

def newReversal (original : JournalEntry) (originalJournalId reason key : String) : JournalEntry where
  journalId := newReversalId call
  tenantId := scope.tenantId
  financingCaseId := original.financingCaseId
  entryType := .reversal
  description := reason
  currency := original.currency
  totalDebits := original.totalCredits
  totalCredits := original.totalDebits
  status := .reviewRequired
  idempotencyKey := key
  canonicalActionHash := hash platform (reversalAction originalJournalId reason key)
  reversalOfJournalId := some originalJournalId

/-- The line that takes a line of the original back. -/
def JournalLine.mirror (originalJournalId : String) (line : JournalLine) (index : Nat) :
    JournalLine where
  lineId := call.draws.rowId index
  journalId := newReversalId call
  accountId := line.accountId
  side := line.side.other
  amount := line.amount
  currency := line.currency
  reference := originalJournalId

def mirrorLines (originalJournalId : String) (lines : List JournalLine) : List JournalLine :=
  lines.zipIdx.map fun item ↦ item.1.mirror call originalJournalId item.2

def prepareReversal (originalJournalId reason key : String) : Except LedgerError Outcome := do
  let original ← lookupJournal db scope.tenantId originalJournalId
  ensure (original.status == .posted) (.domain "Only a posted journal can be reversed.")
  let originalLines := linesOf db originalJournalId
  let reversal := newReversal platform call scope original originalJournalId reason key
  match db.journals.find? fun row ↦ row.tenantId == scope.tenantId && row.idempotencyKey == key with
  | some existing =>
    ensure (existing.canonicalActionHash == reversal.canonicalActionHash)
      (.domain "Reversal idempotency parameter drift detected.")
    return (.journal existing (linesOf db existing.journalId), none)
  | none =>
    let lines := mirrorLines call originalJournalId originalLines
    assertLinesBalanced lines
    return (.journal reversal lines, some
      { journals := [.insert reversal]
        lines := lines.map .insert
        auditEvents := [auditRow (call.draws.rowId originalLines.length) scope "PREPARED"
          [("journal_id", .str reversal.journalId)]] })

def JournalEntry.approve (journal : JournalEntry) (reviewerApprovalId : String) : JournalEntry :=
  { journal.post call scope with reviewerApprovalId := some reviewerApprovalId }

/-- The rows of a posted reversal. -/
def reversalWrites (accounts : List LedgerAccount) (journal : JournalEntry)
    (reviewerApprovalId : String) : Writes :=
  { accounts := some accounts
    journals := [.update (journal.approve call scope reviewerApprovalId)]
    outboxEvents := [eventRow (call.draws.rowId 0) scope.tenantId "JOURNAL" journal.journalId
      "ledger.reversal.posted" [("journal_id", .str journal.journalId)]]
    auditEvents := [auditRow (call.draws.rowId 1) scope "POSTED"
      [("journal_id", .str journal.journalId)]] }

def executeReversal (journalId canonicalActionHash reviewerApprovalId : String) :
    Except LedgerError Outcome := do
  ensure (!blank reviewerApprovalId) (.security "Reviewer approval is mandatory for a reversal.")
  let journal ← lookupJournal db scope.tenantId journalId
  ensure (journal.canonicalActionHash == canonicalActionHash)
    (.security "Reversal canonical hash mismatch.")
  let lines := linesOf db journalId
  if journal.status = .posted then return (.journal journal lines, none)
  else
    ensure (journal.status == .reviewRequired) (.domain "Reversal is not ready for dual approval.")
    assertLinesBalanced lines
    let accounts ← postLines scope.tenantId db.accounts lines
    return (.journal (journal.approve call scope reviewerApprovalId) lines,
      some (reversalWrites call scope accounts journal reviewerApprovalId))

/-! ## Settlements -/

variable (event : Settlement)

def settlementPayload (amount : Int) : Dict :=
  [("payment_id", .str event.paymentId), ("bank_execution_id", .str event.bankExecutionId),
    ("bank_reference", .str event.bankReference), ("amount", .str (centsText amount)),
    ("currency", .str event.currency), ("settled_at", .str (platform.isoformat event.settledAt))]

def newReceipt (amount : Int) : SettlementReceipt where
  receiptId := "stl_" ++ call.draws.token 0
  tenantId := event.tenantId
  paymentId := event.paymentId
  bankExecutionId := event.bankExecutionId
  bankReference := event.bankReference
  amount := amount
  currency := event.currency
  settledAt := event.settledAt
  evidenceHash := hash platform (settlementPayload platform event amount)

def newReconciliation (payment : PaymentInstruction) : ReconciliationRecord where
  reconciliationId := "rec_" ++ call.draws.token 1
  tenantId := event.tenantId
  paymentId := event.paymentId
  journalId := payment.journalId
  settlementReceiptId := some ("stl_" ++ call.draws.token 0)
  status := .matched
  varianceAmount := 0
  reconciledAt := some call.now

def newInbox (amount : Int) : InboxEvent where
  eventId := event.eventId
  tenantId := event.tenantId
  eventType := "bank.transfer.settled"
  payloadHash := hash platform (settlementPayload platform event amount)

def PaymentInstruction.settle (payment : PaymentInstruction) (bankReference : String) :
    PaymentInstruction :=
  { payment with status := .settled, bankReference := some bankReference }

/-- The rows of an accepted settlement. -/
def settlementWrites (amount : Int) (payment : PaymentInstruction) : Writes :=
  { payments := [.update (payment.settle event.bankReference)]
    receipts := [.insert (newReceipt platform call event amount)]
    reconciliations := [.insert (newReconciliation call event payment)]
    inboxEvents := [.insert (newInbox platform event amount)]
    outboxEvents := [eventRow (call.draws.rowId 0) event.tenantId "PAYMENT" event.paymentId
      "ledger.payment.reconciled"
      (reconciliationProjection platform (newReconciliation call event payment))] }

def acceptBankSettlement : Except LedgerError Outcome := do
  let amount ← parseAmount event.amount
  ensure (event.bankReference.toList.length == 10)
    (.domain "Bank reference must contain exactly 10 characters.")
  let inboxEvent := newInbox platform event amount
  match db.inboxEvents.find? fun row ↦ row.eventId == event.eventId with
  | some inbox =>
    ensure (inbox.payloadHash == inboxEvent.payloadHash)
      (.security "Settlement event id parameter drift detected.")
    match db.reconciliations.find? fun row ↦ row.paymentId == event.paymentId with
    | none => .error (.attributeError "'NoneType' object has no attribute 'reconciliation_id'")
    | some record => return (.reconciliation record, none)
  | none =>
    match db.payments.find? fun row ↦
        row.paymentId == event.paymentId && row.tenantId == event.tenantId with
    | none => .error (.domain "Settlement does not match the submitted payment.")
    | some payment =>
      ensure (payment.bankExecutionId == some event.bankExecutionId)
        (.domain "Settlement does not match the submitted payment.")
      ensure (payment.amount == amount && payment.currency == event.currency)
        (.domain "Settlement amount or currency differs from payment.")
      return (.reconciliation (newReconciliation call event payment),
        some (settlementWrites platform call event amount payment))

/-! ## The machine -/

def serveOp : LedgerOp → Except LedgerError Outcome
  | .accountBalance accountId => accountBalance db call scope accountId
  | .getJournal journalId => getJournal db call scope journalId
  | .paymentStatus paymentId => paymentStatus db scope paymentId
  | .reconciliation paymentId => reconciliation db scope paymentId
  | .prepareDisbursement caseId source beneficiary amount currency rail key =>
    prepareDisbursement platform db call scope caseId source beneficiary amount currency rail key
  | .executeDisbursement journalId actionHash bankAction bankHash bankExecution =>
    executeDisbursement db call scope journalId actionHash ⟨bankAction, bankHash, bankExecution⟩
  | .prepareReversal original reason key => prepareReversal platform db call scope original reason key
  | .executeReversal journalId actionHash approval =>
    executeReversal db call scope journalId actionHash approval

def serve : Except LedgerError Outcome :=
  match call.request with
  | .scoped scope op => serveOp platform db call scope op
  | .settlement event => acceptBankSettlement platform db call event

/-- The sessions of the ledger. -/
def sessions : Service LedgerDb LedgerCall LedgerAnswer LedgerError Writes where
  serve := serve platform
  refused := LedgerCall.refused
  accepted := Writes.accepted
  apply := Writes.apply
  integrity := .integrity

/-- The ledger, one call after the other. -/
def ledger : Machine LedgerDb LedgerCall (Except LedgerError LedgerAnswer) :=
  (sessions platform).machine

end Xyena.Ledger
