import Xyena.Bank.Models

/-!
# What one session of the bank writes

The rows that an operation has added or changed when it returns. They reach the
tables in one commit, which the database refuses as a whole when a primary key
or a unique column is taken. Balances are written column by column: an account
row keeps the columns that the operation has not assigned.
-/

namespace Xyena.Bank

open Xyena.Foundation

/-- The assigned balances of one account. -/
structure Balances where
  accountToken : String
  current : Option Int := none
  available : Option Int := none

def Balances.apply (balances : Balances) (account : Account) : Account :=
  { account with
    currentBalance := balances.current.getD account.currentBalance
    availableBalance := balances.available.getD account.availableBalance }

/-- The accounts after an update of the assigned balances. -/
def writeBalances (rows : List Account) : Option Balances → List Account
  | none => rows
  | some balances =>
    Table.update (fun row ↦ row.accountToken == balances.accountToken) balances.apply rows

structure Writes where
  balances : Option Balances := none
  transactions : List (RowWrite Transaction) := []
  beneficiaries : List (RowWrite Beneficiary) := []
  preparedTransfers : List (RowWrite PreparedTransfer) := []
  auditEvents : List (RowWrite AuditEvent) := []
  consents : List (RowWrite AAConsent) := []
  informationRequests : List (RowWrite FinancialInformationRequest) := []
  executions : List (RowWrite TransferExecution) := []
  ledgerEntries : List (RowWrite LedgerEntry) := []
  holds : List (RowWrite AccountHold) := []
  beneficiaryChanges : List (RowWrite PreparedBeneficiaryChange) := []
  reversals : List (RowWrite PreparedReversal) := []
  outboxEvents : List (RowWrite BankOutboxEvent) := []

def Writes.apply (writes : Writes) (db : BankDb) : BankDb where
  accounts := writeBalances db.accounts writes.balances
  transactions := RowWrite.applyAll transactionConstraints db.transactions writes.transactions
  beneficiaries := RowWrite.applyAll beneficiaryConstraints db.beneficiaries writes.beneficiaries
  preparedTransfers :=
    RowWrite.applyAll preparedTransferConstraints db.preparedTransfers writes.preparedTransfers
  auditEvents := RowWrite.applyAll auditConstraints db.auditEvents writes.auditEvents
  consents := RowWrite.applyAll consentConstraints db.consents writes.consents
  informationRequests :=
    RowWrite.applyAll requestConstraints db.informationRequests writes.informationRequests
  executions := RowWrite.applyAll executionConstraints db.executions writes.executions
  ledgerEntries := RowWrite.applyAll ledgerConstraints db.ledgerEntries writes.ledgerEntries
  holds := RowWrite.applyAll holdConstraints db.holds writes.holds
  beneficiaryChanges :=
    RowWrite.applyAll changeConstraints db.beneficiaryChanges writes.beneficiaryChanges
  reversals := RowWrite.applyAll reversalConstraints db.reversals writes.reversals
  outboxEvents := RowWrite.applyAll outboxConstraints db.outboxEvents writes.outboxEvents

/-- Whether the keys and unique columns of the tables admit the rows. -/
structure Writes.Accepted (writes : Writes) (db : BankDb) : Prop where
  transactions :
    RowWrite.acceptedAll transactionConstraints db.transactions writes.transactions = true
  beneficiaries :
    RowWrite.acceptedAll beneficiaryConstraints db.beneficiaries writes.beneficiaries = true
  preparedTransfers : RowWrite.acceptedAll preparedTransferConstraints db.preparedTransfers
    writes.preparedTransfers = true
  auditEvents : RowWrite.acceptedAll auditConstraints db.auditEvents writes.auditEvents = true
  consents : RowWrite.acceptedAll consentConstraints db.consents writes.consents = true
  informationRequests :
    RowWrite.acceptedAll requestConstraints db.informationRequests writes.informationRequests = true
  executions : RowWrite.acceptedAll executionConstraints db.executions writes.executions = true
  ledgerEntries : RowWrite.acceptedAll ledgerConstraints db.ledgerEntries writes.ledgerEntries = true
  holds : RowWrite.acceptedAll holdConstraints db.holds writes.holds = true
  beneficiaryChanges :
    RowWrite.acceptedAll changeConstraints db.beneficiaryChanges writes.beneficiaryChanges = true
  reversals : RowWrite.acceptedAll reversalConstraints db.reversals writes.reversals = true
  outboxEvents : RowWrite.acceptedAll outboxConstraints db.outboxEvents writes.outboxEvents = true

def Writes.accepted (writes : Writes) (db : BankDb) : Bool :=
  RowWrite.acceptedAll transactionConstraints db.transactions writes.transactions &&
  RowWrite.acceptedAll beneficiaryConstraints db.beneficiaries writes.beneficiaries &&
  RowWrite.acceptedAll preparedTransferConstraints db.preparedTransfers writes.preparedTransfers &&
  RowWrite.acceptedAll auditConstraints db.auditEvents writes.auditEvents &&
  RowWrite.acceptedAll consentConstraints db.consents writes.consents &&
  RowWrite.acceptedAll requestConstraints db.informationRequests writes.informationRequests &&
  RowWrite.acceptedAll executionConstraints db.executions writes.executions &&
  RowWrite.acceptedAll ledgerConstraints db.ledgerEntries writes.ledgerEntries &&
  RowWrite.acceptedAll holdConstraints db.holds writes.holds &&
  RowWrite.acceptedAll changeConstraints db.beneficiaryChanges writes.beneficiaryChanges &&
  RowWrite.acceptedAll reversalConstraints db.reversals writes.reversals &&
  RowWrite.acceptedAll outboxConstraints db.outboxEvents writes.outboxEvents

theorem Writes.accepted_iff {writes : Writes} {db : BankDb} :
    writes.accepted db = true ↔ writes.Accepted db := by
  simp only [Writes.accepted, Bool.and_eq_true]
  constructor
  · rintro ⟨⟨⟨⟨⟨⟨⟨⟨⟨⟨⟨h₁, h₂⟩, h₃⟩, h₄⟩, h₅⟩, h₆⟩, h₇⟩, h₈⟩, h₉⟩, h₁₀⟩, h₁₁⟩, h₁₂⟩
    exact ⟨h₁, h₂, h₃, h₄, h₅, h₆, h₇, h₈, h₉, h₁₀, h₁₁, h₁₂⟩
  · rintro ⟨h₁, h₂, h₃, h₄, h₅, h₆, h₇, h₈, h₉, h₁₀, h₁₁, h₁₂⟩
    exact ⟨⟨⟨⟨⟨⟨⟨⟨⟨⟨⟨h₁, h₂⟩, h₃⟩, h₄⟩, h₅⟩, h₆⟩, h₇⟩, h₈⟩, h₉⟩, h₁₀⟩, h₁₁⟩, h₁₂⟩

/-! ## Tables that meet their constraints -/

/-- The declared keys and unique columns hold in all tables. -/
structure BankDb.WellKeyed (db : BankDb) : Prop where
  accounts : (db.accounts.map Account.accountToken).Nodup
  transactions : transactionConstraints.Meets db.transactions
  beneficiaries : beneficiaryConstraints.Meets db.beneficiaries
  preparedTransfers : preparedTransferConstraints.Meets db.preparedTransfers
  consents : consentConstraints.Meets db.consents
  informationRequests : requestConstraints.Meets db.informationRequests
  executions : executionConstraints.Meets db.executions
  ledgerEntries : ledgerConstraints.Meets db.ledgerEntries
  holds : holdConstraints.Meets db.holds
  beneficiaryChanges : changeConstraints.Meets db.beneficiaryChanges
  reversals : reversalConstraints.Meets db.reversals

theorem map_accountToken_writeBalances (rows : List Account) (balances : Option Balances) :
    (writeBalances rows balances).map Account.accountToken = rows.map Account.accountToken := by
  cases balances with
  | none => rfl
  | some balances =>
    have hkept (row : Account) : (balances.apply row).accountToken = row.accountToken := rfl
    exact Table.map_update Account.accountToken hkept rows

/-- A commit keeps the keys and unique columns. -/
theorem BankDb.WellKeyed.apply {db : BankDb} {writes : Writes} (h : db.WellKeyed)
    (haccepted : writes.Accepted db) : (writes.apply db).WellKeyed where
  accounts := by
    simp only [Writes.apply, map_accountToken_writeBalances]
    exact h.accounts
  transactions := RowWrite.meets_applyAll h.transactions haccepted.transactions
  beneficiaries := RowWrite.meets_applyAll h.beneficiaries haccepted.beneficiaries
  preparedTransfers := RowWrite.meets_applyAll h.preparedTransfers haccepted.preparedTransfers
  consents := RowWrite.meets_applyAll h.consents haccepted.consents
  informationRequests := RowWrite.meets_applyAll h.informationRequests haccepted.informationRequests
  executions := RowWrite.meets_applyAll h.executions haccepted.executions
  ledgerEntries := RowWrite.meets_applyAll h.ledgerEntries haccepted.ledgerEntries
  holds := RowWrite.meets_applyAll h.holds haccepted.holds
  beneficiaryChanges := RowWrite.meets_applyAll h.beneficiaryChanges haccepted.beneficiaryChanges
  reversals := RowWrite.meets_applyAll h.reversals haccepted.reversals

end Xyena.Bank
