import Xyena.Bank.Models
import Xyena.Foundation.DoubleEntry
import Xyena.Ledger.Security

/-!
# The tables of the ledger

The rows of `demos/ledger-payment/ledger_demo/models.py` with their primary keys
and unique columns, and the rows that one session writes. Amounts count
hundredths. The columns that the database fills with its own clock are read by
nothing and are left out.
-/

namespace Xyena.Ledger

open Xyena.Foundation Xyena.Foundation.DoubleEntry Xyena.Contracts
open Xyena.Bank (tenantClash tenantClash_symm optionalClash optionalClash_symm)

/-! ## Rows -/

def sideValue : Side → String
  | .debit => "DEBIT"
  | .credit => "CREDIT"

structure LedgerAccount where
  accountId : String
  tenantId : String
  code : String
  name : String
  accountType : String
  normalSide : Side
  currency : String
  balance : Int := 0
  status : String := "ACTIVE"
  version : Int := 1
deriving DecidableEq, Repr

inductive EntryType where
  | disbursement
  | reversal
deriving DecidableEq, Repr

def EntryType.value : EntryType → String
  | .disbursement => "DISBURSEMENT"
  | .reversal => "REVERSAL"

inductive JournalStatus where
  | validated
  | reviewRequired
  | posted
deriving DecidableEq, Repr

def JournalStatus.value : JournalStatus → String
  | .validated => "VALIDATED"
  | .reviewRequired => "REVIEW_REQUIRED"
  | .posted => "POSTED"

structure JournalEntry where
  journalId : String
  tenantId : String
  financingCaseId : String
  entryType : EntryType
  description : String
  currency : String
  totalDebits : Int
  totalCredits : Int
  status : JournalStatus
  idempotencyKey : String
  canonicalActionHash : String
  guardianCallId : Option String := none
  guardianDecisionId : Option String := none
  reversalOfJournalId : Option String := none
  reviewerApprovalId : Option String := none
  postedAt : Option Time := none
deriving DecidableEq, Repr

structure JournalLine where
  lineId : String
  journalId : String
  accountId : String
  side : Side
  amount : Int
  currency : String
  reference : String
deriving DecidableEq, Repr

inductive PaymentStatus where
  | prepared
  | submitted
  | settled
deriving DecidableEq, Repr

def PaymentStatus.value : PaymentStatus → String
  | .prepared => "PREPARED"
  | .submitted => "SUBMITTED"
  | .settled => "SETTLED"

structure PaymentInstruction where
  paymentId : String
  tenantId : String
  journalId : String
  financingCaseId : String
  sourceAccountToken : String
  beneficiaryToken : String
  amount : Int
  currency : String
  rail : String
  clientIdempotencyKey : String
  bankProposedActionId : Option String := none
  bankActionHash : Option String := none
  bankExecutionId : Option String := none
  bankReference : Option String := none
  status : PaymentStatus
deriving DecidableEq, Repr

structure SettlementReceipt where
  receiptId : String
  tenantId : String
  paymentId : String
  bankExecutionId : String
  bankReference : String
  amount : Int
  currency : String
  settledAt : Time
  evidenceHash : String
deriving DecidableEq, Repr

/-- The only status that a record is written with. -/
inductive ReconciliationStatus where
  | matched
deriving DecidableEq, Repr

def ReconciliationStatus.value : ReconciliationStatus → String
  | .matched => "MATCHED"

structure ReconciliationRecord where
  reconciliationId : String
  tenantId : String
  paymentId : String
  journalId : String
  settlementReceiptId : Option String := none
  status : ReconciliationStatus
  varianceAmount : Int := 0
  reason : Option String := none
  reconciledAt : Option Time := none
deriving DecidableEq, Repr

structure AuditEvent where
  id : String
  tenantId : String
  userId : String
  callId : String
  toolName : String
  outcome : String
  detail : Dict

structure OutboxEvent where
  id : String
  tenantId : String
  aggregateType : String
  aggregateId : String
  eventType : String
  payload : Dict

structure InboxEvent where
  eventId : String
  tenantId : String
  eventType : String
  payloadHash : String
deriving DecidableEq, Repr

/-- The tables of the ledger. -/
structure LedgerDb where
  accounts : List LedgerAccount := []
  journals : List JournalEntry := []
  lines : List JournalLine := []
  payments : List PaymentInstruction := []
  receipts : List SettlementReceipt := []
  reconciliations : List ReconciliationRecord := []
  auditEvents : List AuditEvent := []
  outboxEvents : List OutboxEvent := []
  inboxEvents : List InboxEvent := []

/-! ## Keys and unique columns -/

/-- A nullable column that is unique within a tenant. -/
def tenantOptionalClash {Row : Type} (tenant : Row → String) (column : Row → Option String)
    (first second : Row) : Bool :=
  tenant first == tenant second && optionalClash column first second

theorem tenantOptionalClash_symm {Row : Type} (tenant : Row → String) (column : Row → Option String)
    (first second : Row) :
    tenantOptionalClash tenant column first second =
      tenantOptionalClash tenant column second first := by
  rw [tenantOptionalClash, tenantOptionalClash, Bool.beq_comm, optionalClash_symm]

def journalConstraints : Constraints JournalEntry String where
  key := JournalEntry.journalId
  clash first second :=
    tenantClash JournalEntry.tenantId JournalEntry.idempotencyKey first second ||
      tenantOptionalClash JournalEntry.tenantId JournalEntry.guardianCallId first second
  clash_symm first second := by
    rw [tenantClash_symm, tenantOptionalClash_symm]

def lineConstraints : Constraints JournalLine String where
  key := JournalLine.lineId

def paymentConstraints : Constraints PaymentInstruction String where
  key := PaymentInstruction.paymentId
  clash first second :=
    tenantClash PaymentInstruction.tenantId PaymentInstruction.clientIdempotencyKey first second ||
      optionalClash PaymentInstruction.bankExecutionId first second ||
      optionalClash PaymentInstruction.bankReference first second
  clash_symm first second := by
    rw [tenantClash_symm, optionalClash_symm PaymentInstruction.bankExecutionId,
      optionalClash_symm PaymentInstruction.bankReference]

def receiptConstraints : Constraints SettlementReceipt String where
  key := SettlementReceipt.receiptId
  clash first second :=
    first.paymentId == second.paymentId || first.bankExecutionId == second.bankExecutionId ||
      first.bankReference == second.bankReference
  clash_symm first second := by
    rw [Bool.beq_comm, Bool.beq_comm (a := first.bankExecutionId),
      Bool.beq_comm (a := first.bankReference)]

def reconciliationConstraints : Constraints ReconciliationRecord String where
  key := ReconciliationRecord.reconciliationId
  clash first second := first.paymentId == second.paymentId
  clash_symm _ _ := Bool.beq_comm

def auditConstraints : Constraints AuditEvent String where
  key := AuditEvent.id

def outboxConstraints : Constraints OutboxEvent String where
  key := OutboxEvent.id

def inboxConstraints : Constraints InboxEvent String where
  key := InboxEvent.eventId

/-! ## What a session writes -/

/-- The rows that a session has added or changed, and the accounts as it has left them when it has
posted lines to them. -/
structure Writes where
  accounts : Option (List LedgerAccount) := none
  journals : List (RowWrite JournalEntry) := []
  lines : List (RowWrite JournalLine) := []
  payments : List (RowWrite PaymentInstruction) := []
  receipts : List (RowWrite SettlementReceipt) := []
  reconciliations : List (RowWrite ReconciliationRecord) := []
  auditEvents : List (RowWrite AuditEvent) := []
  outboxEvents : List (RowWrite OutboxEvent) := []
  inboxEvents : List (RowWrite InboxEvent) := []

def Writes.apply (writes : Writes) (db : LedgerDb) : LedgerDb where
  accounts := writes.accounts.getD db.accounts
  journals := RowWrite.applyAll journalConstraints db.journals writes.journals
  lines := RowWrite.applyAll lineConstraints db.lines writes.lines
  payments := RowWrite.applyAll paymentConstraints db.payments writes.payments
  receipts := RowWrite.applyAll receiptConstraints db.receipts writes.receipts
  reconciliations :=
    RowWrite.applyAll reconciliationConstraints db.reconciliations writes.reconciliations
  auditEvents := RowWrite.applyAll auditConstraints db.auditEvents writes.auditEvents
  outboxEvents := RowWrite.applyAll outboxConstraints db.outboxEvents writes.outboxEvents
  inboxEvents := RowWrite.applyAll inboxConstraints db.inboxEvents writes.inboxEvents

/-- Whether the keys and unique columns of the tables admit the rows. -/
structure Writes.Accepted (writes : Writes) (db : LedgerDb) : Prop where
  journals : RowWrite.acceptedAll journalConstraints db.journals writes.journals = true
  lines : RowWrite.acceptedAll lineConstraints db.lines writes.lines = true
  payments : RowWrite.acceptedAll paymentConstraints db.payments writes.payments = true
  receipts : RowWrite.acceptedAll receiptConstraints db.receipts writes.receipts = true
  reconciliations :
    RowWrite.acceptedAll reconciliationConstraints db.reconciliations writes.reconciliations = true
  auditEvents : RowWrite.acceptedAll auditConstraints db.auditEvents writes.auditEvents = true
  outboxEvents : RowWrite.acceptedAll outboxConstraints db.outboxEvents writes.outboxEvents = true
  inboxEvents : RowWrite.acceptedAll inboxConstraints db.inboxEvents writes.inboxEvents = true

def Writes.accepted (writes : Writes) (db : LedgerDb) : Bool :=
  RowWrite.acceptedAll journalConstraints db.journals writes.journals &&
  RowWrite.acceptedAll lineConstraints db.lines writes.lines &&
  RowWrite.acceptedAll paymentConstraints db.payments writes.payments &&
  RowWrite.acceptedAll receiptConstraints db.receipts writes.receipts &&
  RowWrite.acceptedAll reconciliationConstraints db.reconciliations writes.reconciliations &&
  RowWrite.acceptedAll auditConstraints db.auditEvents writes.auditEvents &&
  RowWrite.acceptedAll outboxConstraints db.outboxEvents writes.outboxEvents &&
  RowWrite.acceptedAll inboxConstraints db.inboxEvents writes.inboxEvents

theorem Writes.accepted_iff {writes : Writes} {db : LedgerDb} :
    writes.accepted db = true ↔ writes.Accepted db := by
  simp only [Writes.accepted, Bool.and_eq_true]
  constructor
  · rintro ⟨⟨⟨⟨⟨⟨⟨h₁, h₂⟩, h₃⟩, h₄⟩, h₅⟩, h₆⟩, h₇⟩, h₈⟩
    exact ⟨h₁, h₂, h₃, h₄, h₅, h₆, h₇, h₈⟩
  · rintro ⟨h₁, h₂, h₃, h₄, h₅, h₆, h₇, h₈⟩
    exact ⟨⟨⟨⟨⟨⟨⟨h₁, h₂⟩, h₃⟩, h₄⟩, h₅⟩, h₆⟩, h₇⟩, h₈⟩

/-! ## Tables that meet their constraints -/

/-- The declared keys and unique columns hold in all tables. -/
structure LedgerDb.WellKeyed (db : LedgerDb) : Prop where
  journals : journalConstraints.Meets db.journals
  lines : lineConstraints.Meets db.lines
  payments : paymentConstraints.Meets db.payments
  receipts : receiptConstraints.Meets db.receipts
  reconciliations : reconciliationConstraints.Meets db.reconciliations
  inboxEvents : inboxConstraints.Meets db.inboxEvents

/-- A commit keeps the keys and unique columns. -/
theorem LedgerDb.WellKeyed.apply {db : LedgerDb} {writes : Writes} (h : db.WellKeyed)
    (haccepted : writes.Accepted db) : (writes.apply db).WellKeyed where
  journals := RowWrite.meets_applyAll h.journals haccepted.journals
  lines := RowWrite.meets_applyAll h.lines haccepted.lines
  payments := RowWrite.meets_applyAll h.payments haccepted.payments
  receipts := RowWrite.meets_applyAll h.receipts haccepted.receipts
  reconciliations := RowWrite.meets_applyAll h.reconciliations haccepted.reconciliations
  inboxEvents := RowWrite.meets_applyAll h.inboxEvents haccepted.inboxEvents

end Xyena.Ledger
