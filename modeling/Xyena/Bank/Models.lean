import Xyena.Bank.Security
import Xyena.Foundation.RowWrite

/-!
# The tables of the bank

The rows of `demos/bank-mcp/bank_demo/models.py` with the primary keys and the
unique columns that the tables declare. Amounts count hundredths, days are
numbered, and identifiers are the texts that are stored. The columns that the
database fills with its own clock are read by nothing and are left out.
-/

namespace Xyena.Bank

open Xyena.Foundation Xyena.Contracts

/-- A calendar day. -/
abbrev Day := Int

/-! ## Rows -/

structure Account where
  accountToken : String
  tenantId : String
  userId : String
  displayName : String
  maskedNumber : String
  accountType : String
  currency : String
  currentBalance : Int
  availableBalance : Int
  perTransferLimit : Int
  dailyLimit : Int
  status : String := "ACTIVE"
deriving DecidableEq, Repr

inductive Direction where
  | debit
  | credit
deriving DecidableEq, Repr

def Direction.value : Direction → String
  | .debit => "DEBIT"
  | .credit => "CREDIT"

structure Transaction where
  id : String
  accountToken : String
  bookedOn : Day
  direction : Direction
  amount : Int
  currency : String
  category : String
  description : String
  reference : String
deriving DecidableEq, Repr

structure Beneficiary where
  beneficiaryToken : String
  tenantId : String
  ownerName : String
  maskedAccount : String
  bankName : String
  currency : String
  verified : Bool := true
  status : String := "ACTIVE"
deriving DecidableEq, Repr

inductive TransferStatus where
  | readyForGuardian
  | settled
  | expired
deriving DecidableEq, Repr

def TransferStatus.value : TransferStatus → String
  | .readyForGuardian => "READY_FOR_GUARDIAN"
  | .settled => "SETTLED"
  | .expired => "EXPIRED"

structure PreparedTransfer where
  proposedActionId : String
  tenantId : String
  userId : String
  sourceAccountToken : String
  beneficiaryToken : String
  amount : Int
  currency : String
  rail : String
  purpose : String
  idempotencyKey : String
  canonicalActionHash : String
  status : TransferStatus
  expiresAt : Time
deriving DecidableEq, Repr

structure AuditEvent where
  id : String
  tenantId : String
  userId : String
  callId : String
  toolName : String
  purpose : String
  outcome : String
  detail : Dict

inductive InformationType where
  | account
  | balance
  | transactions
deriving DecidableEq, Repr

def InformationType.value : InformationType → String
  | .account => "ACCOUNT"
  | .balance => "BALANCE"
  | .transactions => "TRANSACTIONS"

inductive ConsentStatus where
  | active
  | revoked
deriving DecidableEq, Repr

def ConsentStatus.value : ConsentStatus → String
  | .active => "ACTIVE"
  | .revoked => "REVOKED"

structure AAConsent where
  consentId : String
  tenantId : String
  userId : String
  purpose : String
  accountTokens : List String
  informationTypes : List InformationType
  idempotencyKey : String
  requestHash : String
  status : ConsentStatus
  validFrom : Time
  validUntil : Time
  revokedAt : Option Time := none
  version : Int := 1
deriving DecidableEq, Repr

structure FinancialInformationRequest where
  requestId : String
  tenantId : String
  userId : String
  consentId : String
  informationType : InformationType
  accountToken : String
  fromDate : Option Day
  toDate : Option Day
  idempotencyKey : String
  requestHash : String
  evidenceReceiptId : String
  completedAt : Time
deriving DecidableEq, Repr

/-- An execution is written when it settles. -/
structure TransferExecution where
  id : String
  executionId : String
  tenantId : String
  userId : String
  proposedActionId : String
  canonicalActionHash : String
  guardianDecisionId : String
  guardianCallId : String
  requestHash : String
  amount : Int
  currency : String
  bankReference : String
  settledAt : Time
deriving DecidableEq, Repr

inductive LedgerAccount where
  | disbursementClearing
  | bankCashControl
deriving DecidableEq, Repr

structure LedgerEntry where
  id : String
  tenantId : String
  executionId : String
  journalId : String
  lineNumber : Nat
  ledgerAccount : LedgerAccount
  entryType : Direction
  amount : Int
  currency : String
deriving DecidableEq, Repr

inductive HoldStatus where
  | active
  | released
deriving DecidableEq, Repr

def HoldStatus.value : HoldStatus → String
  | .active => "ACTIVE"
  | .released => "RELEASED"

structure AccountHold where
  holdId : String
  tenantId : String
  userId : String
  accountToken : String
  amount : Int
  currency : String
  purpose : String
  idempotencyKey : String
  guardianCallId : String
  releaseGuardianCallId : Option String := none
  requestHash : String
  status : HoldStatus
  releasedAt : Option Time := none
deriving DecidableEq, Repr

inductive ChangeStatus where
  | readyForGuardian
  | executed
deriving DecidableEq, Repr

def ChangeStatus.value : ChangeStatus → String
  | .readyForGuardian => "READY_FOR_GUARDIAN"
  | .executed => "EXECUTED"

structure PreparedBeneficiaryChange where
  changeId : String
  tenantId : String
  userId : String
  beneficiaryToken : String
  requestedOwnerName : String
  requestedMaskedAccount : String
  requestedBankName : String
  currency : String
  idempotencyKey : String
  canonicalActionHash : String
  guardianCallId : Option String := none
  status : ChangeStatus
  expiresAt : Time
deriving DecidableEq, Repr

inductive ReversalStatus where
  | reviewRequired
  | settled
deriving DecidableEq, Repr

def ReversalStatus.value : ReversalStatus → String
  | .reviewRequired => "REVIEW_REQUIRED"
  | .settled => "SETTLED"

structure PreparedReversal where
  reversalId : String
  tenantId : String
  userId : String
  transferExecutionId : String
  amount : Int
  currency : String
  reason : String
  idempotencyKey : String
  canonicalActionHash : String
  reviewerApprovalId : Option String := none
  guardianCallId : Option String := none
  bankReference : Option String := none
  status : ReversalStatus
  expiresAt : Time
deriving DecidableEq, Repr

structure BankOutboxEvent where
  id : String
  tenantId : String
  aggregateType : String
  aggregateId : String
  eventType : String
  payload : Dict

/-- The tables of the bank. -/
structure BankDb where
  accounts : List Account := []
  transactions : List Transaction := []
  beneficiaries : List Beneficiary := []
  preparedTransfers : List PreparedTransfer := []
  auditEvents : List AuditEvent := []
  consents : List AAConsent := []
  informationRequests : List FinancialInformationRequest := []
  executions : List TransferExecution := []
  ledgerEntries : List LedgerEntry := []
  holds : List AccountHold := []
  beneficiaryChanges : List PreparedBeneficiaryChange := []
  reversals : List PreparedReversal := []
  outboxEvents : List BankOutboxEvent := []

/-! ## Keys and unique columns -/

/-- A column that is unique within a tenant. -/
def tenantClash {Row : Type} (tenant column : Row → String) (first second : Row) : Bool :=
  tenant first == tenant second && column first == column second

/-- A nullable column that is unique: absent values do not clash. -/
def optionalClash {Row : Type} (column : Row → Option String) (first second : Row) : Bool :=
  (column first).isSome && column first == column second

theorem tenantClash_symm {Row : Type} (tenant column : Row → String) (first second : Row) :
    tenantClash tenant column first second = tenantClash tenant column second first := by
  simp only [tenantClash, Bool.beq_comm (a := tenant first), Bool.beq_comm (a := column first)]

theorem optionalClash_symm {Row : Type} (column : Row → Option String) (first second : Row) :
    optionalClash column first second = optionalClash column second first := by
  simp only [optionalClash]
  cases hfirst : column first <;> cases hsecond : column second <;> simp [Bool.beq_comm]

@[simp] theorem tenantClash_eq_false {Row : Type} {tenant column : Row → String} {first second : Row} :
    tenantClash tenant column first second = false ↔
      (tenant first = tenant second → column first ≠ column second) := by
  simp [tenantClash]

@[simp] theorem optionalClash_eq_false {Row : Type} {column : Row → Option String} {first second : Row} :
    optionalClash column first second = false ↔
      ∀ value, column first = some value → column second ≠ some value := by
  cases hfirst : column first with
  | none => simp [optionalClash, hfirst]
  | some value =>
    simp only [optionalClash, hfirst, Option.isSome_some, Bool.true_and, beq_eq_false_iff_ne,
      Option.some.injEq, forall_eq', ne_eq]
    exact not_congr eq_comm

def preparedTransferConstraints : Constraints PreparedTransfer String where
  key := PreparedTransfer.proposedActionId
  clash := tenantClash PreparedTransfer.tenantId PreparedTransfer.idempotencyKey
  clash_symm := tenantClash_symm _ _

def beneficiaryConstraints : Constraints Beneficiary String where
  key := Beneficiary.beneficiaryToken

def transactionConstraints : Constraints Transaction String where
  key := Transaction.id

def auditConstraints : Constraints AuditEvent String where
  key := AuditEvent.id

def consentConstraints : Constraints AAConsent String where
  key := AAConsent.consentId
  clash := tenantClash AAConsent.tenantId AAConsent.idempotencyKey
  clash_symm := tenantClash_symm _ _

def requestConstraints : Constraints FinancialInformationRequest String where
  key := FinancialInformationRequest.requestId
  clash := tenantClash FinancialInformationRequest.tenantId FinancialInformationRequest.idempotencyKey
  clash_symm := tenantClash_symm _ _

def executionConstraints : Constraints TransferExecution String where
  key := TransferExecution.id
  clash first second :=
    tenantClash TransferExecution.tenantId TransferExecution.executionId first second ||
      tenantClash TransferExecution.tenantId TransferExecution.guardianCallId first second ||
      tenantClash TransferExecution.tenantId TransferExecution.proposedActionId first second ||
      first.bankReference == second.bankReference
  clash_symm first second := by
    rw [tenantClash_symm _ TransferExecution.executionId,
      tenantClash_symm _ TransferExecution.guardianCallId,
      tenantClash_symm _ TransferExecution.proposedActionId, Bool.beq_comm]

def ledgerConstraints : Constraints LedgerEntry String where
  key := LedgerEntry.id
  clash first second := first.journalId == second.journalId && first.lineNumber == second.lineNumber
  clash_symm first second := by
    rw [Bool.beq_comm, Bool.beq_comm (a := first.lineNumber)]

def holdConstraints : Constraints AccountHold String where
  key := AccountHold.holdId
  clash first second :=
    tenantClash AccountHold.tenantId AccountHold.idempotencyKey first second ||
      tenantClash AccountHold.tenantId AccountHold.guardianCallId first second ||
      optionalClash AccountHold.releaseGuardianCallId first second
  clash_symm first second := by
    rw [tenantClash_symm _ AccountHold.idempotencyKey, tenantClash_symm _ AccountHold.guardianCallId,
      optionalClash_symm]

def changeConstraints : Constraints PreparedBeneficiaryChange String where
  key := PreparedBeneficiaryChange.changeId
  clash first second :=
    tenantClash PreparedBeneficiaryChange.tenantId PreparedBeneficiaryChange.idempotencyKey
        first second ||
      optionalClash PreparedBeneficiaryChange.guardianCallId first second
  clash_symm first second := by
    rw [tenantClash_symm, optionalClash_symm]

def reversalConstraints : Constraints PreparedReversal String where
  key := PreparedReversal.reversalId
  clash first second :=
    tenantClash PreparedReversal.tenantId PreparedReversal.idempotencyKey first second ||
      optionalClash PreparedReversal.guardianCallId first second ||
      optionalClash PreparedReversal.bankReference first second
  clash_symm first second := by
    rw [tenantClash_symm, optionalClash_symm PreparedReversal.guardianCallId,
      optionalClash_symm PreparedReversal.bankReference]

def outboxConstraints : Constraints BankOutboxEvent String where
  key := BankOutboxEvent.id

end Xyena.Bank
