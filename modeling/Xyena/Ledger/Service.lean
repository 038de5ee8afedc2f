import Xyena.Foundation.Decimal
import Xyena.Foundation.Session
import Xyena.Ledger.Models

/-!
# What the operations of the ledger share

The calls of `LedgerService` in `demos/ledger-payment/ledger_demo/service.py`,
their answers, and the helpers that its operations use. Every reading of the
clock and every identifier that is drawn is an input of the call, so nothing is
assumed about them.
-/

namespace Xyena.Ledger

open Xyena.Foundation Xyena.Foundation.DoubleEntry Xyena.Contracts Xyena.Gateway

/-! ## Calls -/

/-- What the ledger takes from its process. -/
structure LedgerPlatform extends ServerPlatform where
  isoformat : Time → String

/-- What one call draws: the digits of new identifiers and the row identifiers, each in the order in
which they are drawn. -/
structure Draws where
  token : Nat → String
  rowId : Nat → String

inductive LedgerOp where
  | accountBalance (accountId : String)
  | getJournal (journalId : String)
  | paymentStatus (paymentId : String)
  | reconciliation (paymentId : String)
  | prepareDisbursement (financingCaseId sourceAccountToken beneficiaryToken amount currency rail
      clientIdempotencyKey : String)
  | executeDisbursement (journalId canonicalActionHash bankProposedActionId bankActionHash
      bankExecutionId : String)
  | prepareReversal (originalJournalId reason clientIdempotencyKey : String)
  | executeReversal (journalId canonicalActionHash reviewerApprovalId : String)
deriving DecidableEq, Repr

/-- A settlement event of the bank. -/
structure Settlement where
  eventId : String
  tenantId : String
  paymentId : String
  bankExecutionId : String
  bankReference : String
  amount : String
  currency : String
  settledAt : Time
deriving DecidableEq, Repr

/-- A tool call with its signed scope, or a settlement event, which has none. -/
inductive Request where
  | scoped (scope : RuntimeScope) (op : LedgerOp)
  | settlement (event : Settlement)

/-- The tenant that a request is made for. -/
def Request.tenantId : Request → String
  | .scoped scope _ => scope.tenantId
  | .settlement event => event.tenantId

/-- One call of the service. `refused` says whether the database refuses the rows of the call for a
reason outside its keys, such as the width of a column or a lost connection. -/
structure LedgerCall where
  request : Request
  now : Time
  draws : Draws
  refused : Bool := false

/-! ## Answers -/

/-- The request for the transfer at the bank. -/
structure BankTransferRequest where
  proposedActionId : String
  canonicalActionHash : String
  executionId : String
deriving DecidableEq, Repr

inductive LedgerAnswer where
  | account (row : LedgerAccount)
  | journal (row : JournalEntry) (lines : List JournalLine)
  | payment (row : PaymentInstruction)
  | reconciliation (row : ReconciliationRecord)
  | disbursement (entry : JournalEntry) (lines : List JournalLine) (instruction : PaymentInstruction)
      (request : Option BankTransferRequest)

def accountProjection (value : LedgerAccount) : Dict :=
  [("account_id", .str value.accountId), ("code", .str value.code), ("name", .str value.name),
    ("account_type", .str value.accountType), ("normal_side", .str (sideValue value.normalSide)),
    ("currency", .str value.currency), ("balance", .str (centsText value.balance)),
    ("status", .str value.status), ("version", .int value.version)]

def lineProjection (line : JournalLine) : Dict :=
  [("line_id", .str line.lineId), ("account_id", .str line.accountId), ("side", .str (sideValue line.side)),
    ("amount", .str (centsText line.amount)), ("currency", .str line.currency),
    ("reference", .str line.reference)]

def paymentProjection (value : PaymentInstruction) : Dict :=
  [("payment_id", .str value.paymentId), ("journal_id", .str value.journalId),
    ("financing_case_id", .str value.financingCaseId),
    ("source_account_token", .str value.sourceAccountToken),
    ("beneficiary_token", .str value.beneficiaryToken), ("amount", .str (centsText value.amount)),
    ("currency", .str value.currency), ("rail", .str value.rail), ("status", .str value.status.value),
    ("bank_proposed_action_id", .ofOption value.bankProposedActionId),
    ("bank_execution_id", .ofOption value.bankExecutionId),
    ("bank_reference", .ofOption value.bankReference)]

def BankTransferRequest.dump (request : BankTransferRequest) : Dict :=
  [("tool", .str "bank.transfers.execute"), ("proposed_action_id", .str request.proposedActionId),
    ("canonical_action_hash", .str request.canonicalActionHash),
    ("execution_id", .str request.executionId)]

section Projections

variable (platform : LedgerPlatform)

def journalProjection (value : JournalEntry) (lines : List JournalLine) : Dict :=
  [("journal_id", .str value.journalId), ("financing_case_id", .str value.financingCaseId),
    ("entry_type", .str value.entryType.value), ("description", .str value.description),
    ("currency", .str value.currency), ("total_debits", .str (centsText value.totalDebits)),
    ("total_credits", .str (centsText value.totalCredits)), ("status", .str value.status.value),
    ("canonical_action_hash", .str value.canonicalActionHash),
    ("reversal_of_journal_id", .ofOption value.reversalOfJournalId),
    ("posted_at", .ofOption (value.postedAt.map platform.isoformat)),
    ("lines", .arr (lines.map fun line ↦ .obj (lineProjection line)))]

def reconciliationProjection (value : ReconciliationRecord) : Dict :=
  [("reconciliation_id", .str value.reconciliationId), ("payment_id", .str value.paymentId),
    ("journal_id", .str value.journalId),
    ("settlement_receipt_id", .ofOption value.settlementReceiptId),
    ("status", .str value.status.value), ("variance_amount", .str (centsText value.varianceAmount)),
    ("reason", .ofOption value.reason),
    ("reconciled_at", .ofOption (value.reconciledAt.map platform.isoformat))]

/-- The dictionary that a call returns. -/
def LedgerAnswer.dump : LedgerAnswer → Dict
  | .account row => accountProjection row
  | .journal row lines => journalProjection platform row lines
  | .payment row => paymentProjection row
  | .reconciliation row => reconciliationProjection platform row
  | .disbursement entry lines instruction request =>
    [("status", .str entry.status.value), ("journal", .obj (journalProjection platform entry lines)),
      ("payment", .obj (paymentProjection instruction)),
      ("execution_boundary", .str "GUARDIAN_AUTHORIZED_MCP_ONLY"),
      ("security_flags", .strings ["SYNTHETIC_DATA", "DOUBLE_ENTRY_BALANCED"])] ++
      (match request with
        | none => []
        | some request => [("bank_transfer_request", .obj request.dump)])

end Projections

/-! ## Lookups and checks -/

def lookupAccount (accounts : List LedgerAccount) (tenantId accountId : String) :
    Except LedgerError LedgerAccount :=
  match accounts.find? fun row ↦
      row.accountId == accountId && row.tenantId == tenantId && row.status == "ACTIVE" with
  | some row => .ok row
  | none => .error (.domain "Ledger account was not found in the tenant.")

def lookupJournal (db : LedgerDb) (tenantId journalId : String) : Except LedgerError JournalEntry :=
  match db.journals.find? fun row ↦ row.journalId == journalId && row.tenantId == tenantId with
  | some row => .ok row
  | none => .error (.domain "Journal was not found in the tenant.")

def linesOf (db : LedgerDb) (journalId : String) : List JournalLine :=
  db.lines.filter fun line ↦ line.journalId == journalId

def LedgerAccount.post (account : LedgerAccount) (line : JournalLine) : LedgerAccount :=
  { account with
    balance := account.balance + signed account.normalSide line.side line.amount
    version := account.version + 1 }

/-- The accounts after one line has been posted. -/
def postLine (tenantId : String) (accounts : List LedgerAccount) (line : JournalLine) :
    Except LedgerError (List LedgerAccount) := do
  let account ← lookupAccount accounts tenantId line.accountId
  return Table.replace LedgerAccount.accountId (account.post line) accounts

def postLines (tenantId : String) : List LedgerAccount → List JournalLine →
    Except LedgerError (List LedgerAccount)
  | accounts, [] => .ok accounts
  | accounts, line :: rest => do
    let posted ← postLine tenantId accounts line
    postLines tenantId posted rest

/-- The sum of the lines on one side. -/
def sideSum (side : Side) (lines : List JournalLine) : Int :=
  Table.sum JournalLine.amount (lines.filter fun line ↦ line.side == side)

def assertBalanced (journal : JournalEntry) : Except LedgerError Unit :=
  if journal.totalDebits ≠ journal.totalCredits || journal.totalDebits ≤ 0 then
    .error (.domain "Journal debits and credits must be equal and positive.")
  else .ok ()

def assertLinesBalanced (lines : List JournalLine) : Except LedgerError Unit :=
  if sideSum .debit lines ≠ sideSum .credit lines || sideSum .debit lines ≤ 0 then
    .error (.domain "Journal lines violate the double-entry invariant.")
  else .ok ()

def parseAmount (value : String) : Except LedgerError Int :=
  positiveAmount (.domain "Amount must be a decimal value.") (.domain "Amount must be greater than zero.") value

def hash (platform : LedgerPlatform) (value : Dict) : String :=
  platform.sha256 (Json.dumps true (.obj value))

/-! ## Audit and outbox rows -/

def auditRow (id : String) (scope : RuntimeScope) (outcome : String) (detail : Dict) :
    RowWrite AuditEvent :=
  .insert
    { id := id
      tenantId := scope.tenantId
      userId := scope.userId
      callId := scope.callId
      toolName := scope.canonicalName
      outcome := outcome
      detail := detail }

def eventRow (id tenantId aggregateType aggregateId eventType : String) (payload : Dict) :
    RowWrite OutboxEvent :=
  .insert
    { id := id
      tenantId := tenantId
      aggregateType := aggregateType
      aggregateId := aggregateId
      eventType := eventType
      payload := payload }

/-- An answer with the rows that the session commits; a session without rows commits nothing. -/
abbrev Outcome := LedgerAnswer × Option Writes

end Xyena.Ledger
