import Xyena.Ledger.Operations

/-!
# What one call of the ledger can do

`Move` lists the ways in which a session ends with rows to commit and `Reply`
the ways in which it ends without any, each with the guards that led to it.
Everything later is derived from these two lists: an invariant is kept when
every move keeps it, and an answer is one of the listed ones.
-/

namespace Xyena.Ledger

open Xyena.Foundation Xyena.Foundation.DoubleEntry Xyena.Foundation.Session Xyena.Contracts

/-! ## Lookups and checks -/

section Lookups

variable {db : LedgerDb} {tenantId : String}

/-- An account that lines of a tenant can be posted to. -/
structure AccountOf (accounts : List LedgerAccount) (tenantId accountId : String)
    (account : LedgerAccount) : Prop where
  stored : account ∈ accounts
  id : account.accountId = accountId
  tenant : account.tenantId = tenantId

theorem lookupAccount_ok {accounts : List LedgerAccount} {accountId : String} {account : LedgerAccount}
    (h : lookupAccount accounts tenantId accountId = .ok account) :
    AccountOf accounts tenantId accountId account := by
  unfold lookupAccount at h
  split at h
  next row hfind =>
    obtain rfl := Except.ok.inj h
    have hrow := List.find?_some hfind
    simp only [Bool.and_eq_true, beq_iff_eq] at hrow
    exact ⟨List.mem_of_find?_eq_some hfind, hrow.1.1, hrow.1.2⟩
  · cases h

/-- A journal that a tenant can work on. -/
structure JournalOf (db : LedgerDb) (tenantId journalId : String) (journal : JournalEntry) : Prop where
  stored : journal ∈ db.journals
  id : journal.journalId = journalId
  tenant : journal.tenantId = tenantId

theorem lookupJournal_ok {journalId : String} {journal : JournalEntry}
    (h : lookupJournal db tenantId journalId = .ok journal) : JournalOf db tenantId journalId journal := by
  unfold lookupJournal at h
  split at h
  next row hfind =>
    obtain rfl := Except.ok.inj h
    have hrow := List.find?_some hfind
    simp only [Bool.and_eq_true, beq_iff_eq] at hrow
    exact ⟨List.mem_of_find?_eq_some hfind, hrow.1, hrow.2⟩
  · cases h

/-- With distinct journal identifiers the lookup finds the journal. -/
theorem JournalOf.lookup {journalId : String} {journal : JournalEntry}
    (hkeys : (db.journals.map JournalEntry.journalId).Nodup) (h : JournalOf db tenantId journalId journal) :
    lookupJournal db tenantId journalId = .ok journal := by
  have hfind : (db.journals.find? fun row ↦ row.journalId == journalId && row.tenantId == tenantId) =
      some journal := by
    refine Table.find?_eq_some_of_unique h.stored (by simp [h.id, h.tenant]) fun other hother hsame ↦ ?_
    simp only [Bool.and_eq_true, beq_iff_eq] at hsame
    exact Table.eq_of_key hkeys hother h.stored (hsame.1.trans h.id.symm)
  simp only [lookupJournal, hfind]

theorem paymentOf_some {journalId : String} {payment : PaymentInstruction}
    (h : paymentOf db journalId = some payment) : payment ∈ db.payments ∧ payment.journalId = journalId :=
  ⟨List.mem_of_find?_eq_some h, by simpa using List.find?_some h⟩

theorem assertLinesBalanced_ok {lines : List JournalLine} (h : assertLinesBalanced lines = .ok ()) :
    sideSum .debit lines = sideSum .credit lines ∧ 0 < sideSum .debit lines := by
  unfold assertLinesBalanced at h
  split at h
  · cases h
  next hbalanced =>
    simp only [Bool.or_eq_true, decide_eq_true_eq, not_or, not_not, not_le] at hbalanced
    exact hbalanced

theorem PaymentInstruction.boundTo_iff {payment : PaymentInstruction} {request : BankTransferRequest} :
    payment.boundTo request = true ↔ payment.bankProposedActionId = some request.proposedActionId ∧
      payment.bankActionHash = some request.canonicalActionHash ∧
      payment.bankExecutionId = some request.executionId := by
  simp [PaymentInstruction.boundTo, and_assoc]

end Lookups

/-! ## Moves -/

section Guards

variable (db : LedgerDb) (call : LedgerCall) (scope : RuntimeScope)

/-- No journal of the tenant has the idempotency key yet. -/
def KeyUnused (key : String) : Prop :=
  ∀ row ∈ db.journals, row.tenantId = scope.tenantId → row.idempotencyKey ≠ key

/-- A new preparation of a disbursement. -/
structure PreparesDisbursement (caseId source beneficiary amountText currency rail key : String)
    (amount : Int) : Prop where
  request : call.request = .scoped scope
    (.prepareDisbursement caseId source beneficiary amountText currency rail key)
  parsed : parseAmount amountText = .ok amount
  domestic : currency = "INR" ∧ rail = "DEMO_BANK_RAIL"
  unused : KeyUnused db scope key
  receivable : ∃ account, AccountOf db.accounts scope.tenantId loanReceivable account
  clearing : ∃ account, AccountOf db.accounts scope.tenantId cashClearing account

/-- The posting of a prepared disbursement. -/
structure PostsDisbursement (bank : BankTransferRequest) (journal : JournalEntry)
    (payment : PaymentInstruction) (accounts : List LedgerAccount) : Prop where
  request : call.request = .scoped scope (.executeDisbursement journal.journalId
    journal.canonicalActionHash bank.proposedActionId bank.canonicalActionHash bank.executionId)
  found : JournalOf db scope.tenantId journal.journalId journal
  validated : journal.status = .validated
  balanced : assertLinesBalanced (linesOf db journal.journalId) = .ok ()
  posted : postLines scope.tenantId db.accounts (linesOf db journal.journalId) = .ok accounts
  paid : paymentOf db journal.journalId = some payment

/-- A new preparation of a reversal. -/
structure PreparesReversal (original : JournalEntry) (reason key : String) : Prop where
  request : call.request = .scoped scope (.prepareReversal original.journalId reason key)
  found : JournalOf db scope.tenantId original.journalId original
  posted : original.status = .posted
  unused : KeyUnused db scope key

/-- The posting of a prepared reversal. -/
structure PostsReversal (approval : String) (journal : JournalEntry) (accounts : List LedgerAccount) :
    Prop where
  request : call.request = .scoped scope
    (.executeReversal journal.journalId journal.canonicalActionHash approval)
  approved : blank approval = false
  found : JournalOf db scope.tenantId journal.journalId journal
  pending : journal.status = .reviewRequired
  balanced : assertLinesBalanced (linesOf db journal.journalId) = .ok ()
  posted : postLines scope.tenantId db.accounts (linesOf db journal.journalId) = .ok accounts

/-- A settlement event that the ledger has not seen yet. -/
structure Settles (event : Settlement) (amount : Int) (payment : PaymentInstruction) : Prop where
  request : call.request = .settlement event
  parsed : parseAmount event.amount = .ok amount
  reference : event.bankReference.toList.length = 10
  unused : ∀ row ∈ db.inboxEvents, row.eventId ≠ event.eventId
  stored : payment ∈ db.payments
  id : payment.paymentId = event.paymentId
  tenant : payment.tenantId = event.tenantId
  executed : payment.bankExecutionId = some event.bankExecutionId
  sameAmount : payment.amount = amount
  sameCurrency : payment.currency = event.currency

end Guards

/-- How a session ends with rows to commit. -/
inductive Move (platform : LedgerPlatform) (db : LedgerDb) (call : LedgerCall) :
    LedgerAnswer → Writes → Prop
  | accountRead (scope : RuntimeScope) (accountId : String) (account : LedgerAccount)
      (audits : List (RowWrite AuditEvent))
      (hrequest : call.request = .scoped scope (.accountBalance accountId))
      (hfound : AccountOf db.accounts scope.tenantId accountId account) :
      Move platform db call (.account account) { auditEvents := audits }
  | journalRead (scope : RuntimeScope) (journal : JournalEntry) (audits : List (RowWrite AuditEvent))
      (hrequest : call.request = .scoped scope (.getJournal journal.journalId))
      (hfound : JournalOf db scope.tenantId journal.journalId journal) :
      Move platform db call (.journal journal (linesOf db journal.journalId)) { auditEvents := audits }
  | disbursementPrepared (scope : RuntimeScope)
      (caseId source beneficiary amountText currency rail key actionHash : String) (amount : Int)
      (audits : List (RowWrite AuditEvent))
      (hhash : actionHash = hash platform
        (disbursementAction scope caseId source beneficiary amount currency rail key))
      (h : PreparesDisbursement db call scope caseId source beneficiary amountText currency rail key
        amount) :
      Move platform db call
        (.disbursement (newDisbursement call scope caseId amount currency key actionHash)
          (disbursementLines call caseId amount currency)
          (newPayment call scope caseId source beneficiary amount currency rail key) none)
        { journals := [.insert (newDisbursement call scope caseId amount currency key actionHash)]
          payments := [.insert (newPayment call scope caseId source beneficiary amount currency rail key)]
          lines := (disbursementLines call caseId amount currency).map .insert
          auditEvents := audits }
  | disbursementPosted (scope : RuntimeScope) (bank : BankTransferRequest) (journal : JournalEntry)
      (payment : PaymentInstruction) (accounts : List LedgerAccount)
      (h : PostsDisbursement db call scope bank journal payment accounts) :
      Move platform db call
        (.disbursement (journal.post call scope) (linesOf db journal.journalId) (payment.submit bank)
          (some bank))
        (disbursementWrites call scope accounts journal (payment.submit bank))
  | reversalPrepared (scope : RuntimeScope) (original : JournalEntry) (reason key : String)
      (audits : List (RowWrite AuditEvent)) (h : PreparesReversal db call scope original reason key) :
      Move platform db call
        (.journal (newReversal platform call scope original original.journalId reason key)
          (mirrorLines call original.journalId (linesOf db original.journalId)))
        { journals :=
            [.insert (newReversal platform call scope original original.journalId reason key)]
          lines := (mirrorLines call original.journalId (linesOf db original.journalId)).map .insert
          auditEvents := audits }
  | reversalPosted (scope : RuntimeScope) (approval : String) (journal : JournalEntry)
      (accounts : List LedgerAccount) (h : PostsReversal db call scope approval journal accounts) :
      Move platform db call
        (.journal (journal.approve call scope approval) (linesOf db journal.journalId))
        (reversalWrites call scope accounts journal approval)
  | settled (event : Settlement) (amount : Int) (payment : PaymentInstruction)
      (h : Settles db call event amount payment) :
      Move platform db call (.reconciliation (newReconciliation call event payment))
        (settlementWrites platform call event amount payment)

/-- How a session ends without rows. -/
inductive Reply (platform : LedgerPlatform) (db : LedgerDb) (call : LedgerCall) : LedgerAnswer → Prop
  | paymentRead (scope : RuntimeScope) (payment : PaymentInstruction)
      (hrequest : call.request = .scoped scope (.paymentStatus payment.paymentId))
      (hstored : payment ∈ db.payments) (htenant : payment.tenantId = scope.tenantId) :
      Reply platform db call (.payment payment)
  | reconciliationRead (scope : RuntimeScope) (record : ReconciliationRecord)
      (hrequest : call.request = .scoped scope (.reconciliation record.paymentId))
      (hstored : record ∈ db.reconciliations) (htenant : record.tenantId = scope.tenantId) :
      Reply platform db call (.reconciliation record)
  | preparationReplayed (scope : RuntimeScope)
      (caseId source beneficiary amountText currency rail : String) (amount : Int)
      (journal : JournalEntry) (payment : PaymentInstruction)
      (hrequest : call.request = .scoped scope (.prepareDisbursement caseId source beneficiary amountText
        currency rail journal.idempotencyKey))
      (hparsed : parseAmount amountText = .ok amount)
      (hfound : JournalOf db scope.tenantId journal.journalId journal)
      (hsame : journal.canonicalActionHash = hash platform (disbursementAction scope caseId source
        beneficiary amount currency rail journal.idempotencyKey))
      (hpaid : paymentOf db journal.journalId = some payment) :
      Reply platform db call (.disbursement journal (linesOf db journal.journalId) payment none)
  | postingReplayed (scope : RuntimeScope) (bank : BankTransferRequest) (journal : JournalEntry)
      (payment : PaymentInstruction)
      (hrequest : call.request = .scoped scope (.executeDisbursement journal.journalId
        journal.canonicalActionHash bank.proposedActionId bank.canonicalActionHash bank.executionId))
      (hfound : JournalOf db scope.tenantId journal.journalId journal)
      (hposted : journal.status = .posted) (hpaid : paymentOf db journal.journalId = some payment)
      (hbound : payment.boundTo bank = true) :
      Reply platform db call (.disbursement journal (linesOf db journal.journalId) payment none)
  | reversalReplayed (scope : RuntimeScope) (originalJournalId reason : String) (journal : JournalEntry)
      (hrequest : call.request = .scoped scope
        (.prepareReversal originalJournalId reason journal.idempotencyKey))
      (hfound : JournalOf db scope.tenantId journal.journalId journal)
      (hsame : journal.canonicalActionHash =
        hash platform (reversalAction originalJournalId reason journal.idempotencyKey)) :
      Reply platform db call (.journal journal (linesOf db journal.journalId))
  | approvalReplayed (scope : RuntimeScope) (approval : String) (journal : JournalEntry)
      (hrequest : call.request = .scoped scope
        (.executeReversal journal.journalId journal.canonicalActionHash approval))
      (hfound : JournalOf db scope.tenantId journal.journalId journal)
      (hposted : journal.status = .posted) :
      Reply platform db call (.journal journal (linesOf db journal.journalId))
  | settlementReplayed (event : Settlement) (amount : Int) (inbox : InboxEvent)
      (record : ReconciliationRecord) (hrequest : call.request = .settlement event)
      (hparsed : parseAmount event.amount = .ok amount)
      (hreference : event.bankReference.toList.length = 10) (hinbox : inbox ∈ db.inboxEvents)
      (hid : inbox.eventId = event.eventId)
      (hsame : inbox.payloadHash = hash platform (settlementPayload platform event amount))
      (hrecord : (db.reconciliations.find? fun row ↦ row.paymentId == event.paymentId) = some record) :
      Reply platform db call (.reconciliation record)

/-! ## Moves of one request -/

section OneRequest

variable {platform : LedgerPlatform} {db : LedgerDb} {call : LedgerCall} {answer : LedgerAnswer}
  {writes : Writes}

/-- Two requests of one call are one request. -/
theorem request_absurd {first second : Request} {P : Prop} (h : call.request = first)
    (h' : call.request = second) (hne : first ≠ second) : P :=
  absurd (h.symm.trans h') hne

theorem Move.of_settlement (h : Move platform db call answer writes) {event : Settlement}
    (hrequest : call.request = .settlement event) :
    ∃ amount payment, Settles db call event amount payment ∧
      answer = .reconciliation (newReconciliation call event payment) ∧
      writes = settlementWrites platform call event amount payment := by
  cases h with
  | settled event' amount payment hs =>
    obtain rfl := Request.settlement.inj (hrequest.symm.trans hs.request)
    exact ⟨amount, payment, hs, rfl, rfl⟩
  | accountRead _ _ _ _ hother => exact request_absurd hrequest hother (by simp)
  | journalRead _ _ _ hother => exact request_absurd hrequest hother (by simp)
  | disbursementPrepared _ _ _ _ _ _ _ _ _ _ _ _ hp =>
    exact request_absurd hrequest hp.request (by simp)
  | disbursementPosted _ _ _ _ _ hp => exact request_absurd hrequest hp.request (by simp)
  | reversalPrepared _ _ _ _ _ hp => exact request_absurd hrequest hp.request (by simp)
  | reversalPosted _ _ _ _ hp => exact request_absurd hrequest hp.request (by simp)

theorem Move.of_executeDisbursement (h : Move platform db call answer writes) {scope : RuntimeScope}
    {journalId actionHash : String} (bank : BankTransferRequest)
    (hrequest : call.request = .scoped scope (.executeDisbursement journalId actionHash
      bank.proposedActionId bank.canonicalActionHash bank.executionId)) :
    ∃ journal payment accounts, PostsDisbursement db call scope bank journal payment accounts ∧
      journal.journalId = journalId ∧
      answer = .disbursement (journal.post call scope) (linesOf db journal.journalId)
        (payment.submit bank) (some bank) ∧
      writes = disbursementWrites call scope accounts journal (payment.submit bank) := by
  cases h with
  | disbursementPosted scope' bank' journal payment accounts hp =>
    obtain ⟨rfl, hop⟩ := Request.scoped.inj (hrequest.symm.trans hp.request)
    injection hop with hid _ haction hhash hexecution
    obtain rfl : bank = bank' := by cases bank; cases bank'; simp_all
    exact ⟨journal, payment, accounts, hp, hid.symm, rfl, rfl⟩
  | accountRead _ _ _ _ hother => exact request_absurd hrequest hother (by simp)
  | journalRead _ _ _ hother => exact request_absurd hrequest hother (by simp)
  | disbursementPrepared _ _ _ _ _ _ _ _ _ _ _ _ hp =>
    exact request_absurd hrequest hp.request (by simp)
  | reversalPrepared _ _ _ _ _ hp => exact request_absurd hrequest hp.request (by simp)
  | reversalPosted _ _ _ _ hp => exact request_absurd hrequest hp.request (by simp)
  | settled _ _ _ hs => exact request_absurd hrequest hs.request (by simp)

theorem Reply.of_settlement (h : Reply platform db call answer) {event : Settlement}
    (hrequest : call.request = .settlement event) :
    ∃ amount inbox record, parseAmount event.amount = .ok amount ∧
      event.bankReference.toList.length = 10 ∧ inbox ∈ db.inboxEvents ∧
      inbox.eventId = event.eventId ∧
      inbox.payloadHash = hash platform (settlementPayload platform event amount) ∧
      (db.reconciliations.find? fun row ↦ row.paymentId == event.paymentId) = some record ∧
      answer = .reconciliation record := by
  cases h with
  | settlementReplayed event' amount inbox record hother hparsed hreference hinbox hid hsame hrecord =>
    obtain rfl := Request.settlement.inj (hrequest.symm.trans hother)
    exact ⟨amount, inbox, record, hparsed, hreference, hinbox, hid, hsame, hrecord, rfl⟩
  | _ => simp_all

theorem Reply.of_executeDisbursement (h : Reply platform db call answer) {scope : RuntimeScope}
    {journalId actionHash : String} (bank : BankTransferRequest)
    (hrequest : call.request = .scoped scope (.executeDisbursement journalId actionHash
      bank.proposedActionId bank.canonicalActionHash bank.executionId)) :
    ∃ journal payment, JournalOf db scope.tenantId journalId journal ∧ journal.status = .posted ∧
      paymentOf db journalId = some payment ∧ payment.boundTo bank = true ∧
      answer = .disbursement journal (linesOf db journal.journalId) payment none := by
  cases h with
  | postingReplayed scope' bank' journal payment hother hfound hposted hpaid hbound =>
    obtain ⟨rfl, hop⟩ := Request.scoped.inj (hrequest.symm.trans hother)
    injection hop with hid _ haction hhash hexecution
    obtain rfl : bank = bank' := by cases bank; cases bank'; simp_all
    rw [hid]
    exact ⟨journal, payment, hfound, hposted, hpaid, hbound, rfl⟩
  | _ => simp_all

theorem Move.of_prepareDisbursement (h : Move platform db call answer writes) {scope : RuntimeScope}
    {caseId source beneficiary amountText currency rail key : String}
    (hrequest : call.request = .scoped scope
      (.prepareDisbursement caseId source beneficiary amountText currency rail key)) :
    ∃ actionHash amount, parseAmount amountText = .ok amount ∧
      answer = .disbursement (newDisbursement call scope caseId amount currency key actionHash)
        (disbursementLines call caseId amount currency)
        (newPayment call scope caseId source beneficiary amount currency rail key) none ∧
      writes.payments =
        [.insert (newPayment call scope caseId source beneficiary amount currency rail key)] := by
  cases h with
  | disbursementPrepared scope' caseId' source' beneficiary' amountText' currency' rail' key' actionHash
      amount audits hhash hp =>
    obtain ⟨rfl, hop⟩ := Request.scoped.inj (hrequest.symm.trans hp.request)
    obtain ⟨rfl, rfl, rfl, rfl, rfl, rfl, rfl⟩ := LedgerOp.prepareDisbursement.inj hop
    exact ⟨actionHash, amount, hp.parsed, rfl, rfl⟩
  | accountRead _ _ _ _ hother => exact request_absurd hrequest hother (by simp)
  | journalRead _ _ _ hother => exact request_absurd hrequest hother (by simp)
  | disbursementPosted _ _ _ _ _ hp => exact request_absurd hrequest hp.request (by simp)
  | reversalPrepared _ _ _ _ _ hp => exact request_absurd hrequest hp.request (by simp)
  | reversalPosted _ _ _ _ hp => exact request_absurd hrequest hp.request (by simp)
  | settled _ _ _ hs => exact request_absurd hrequest hs.request (by simp)

theorem Reply.of_prepareDisbursement (h : Reply platform db call answer) {scope : RuntimeScope}
    {caseId source beneficiary amountText currency rail key : String}
    (hrequest : call.request = .scoped scope
      (.prepareDisbursement caseId source beneficiary amountText currency rail key)) :
    ∃ amount journal payment, parseAmount amountText = .ok amount ∧
      JournalOf db scope.tenantId journal.journalId journal ∧
      journal.canonicalActionHash = hash platform
        (disbursementAction scope caseId source beneficiary amount currency rail key) ∧
      paymentOf db journal.journalId = some payment ∧
      answer = .disbursement journal (linesOf db journal.journalId) payment none := by
  cases h with
  | preparationReplayed scope' caseId' source' beneficiary' amountText' currency' rail' amount journal
      payment hother hparsed hfound hsame hpaid =>
    obtain ⟨rfl, hop⟩ := Request.scoped.inj (hrequest.symm.trans hother)
    obtain ⟨rfl, rfl, rfl, rfl, rfl, rfl, rfl⟩ := LedgerOp.prepareDisbursement.inj hop
    exact ⟨amount, journal, payment, hparsed, hfound, hsame, hpaid, rfl⟩
  | _ => simp_all

end OneRequest

/-! ## Inversion, one operation after the other -/

/-- How a session that returns has ended. -/
def Ends (platform : LedgerPlatform) (db : LedgerDb) (call : LedgerCall) (answer : LedgerAnswer) :
    Option Writes → Prop
  | none => Reply platform db call answer
  | some writes => Move platform db call answer writes

section Inversion

variable {platform : LedgerPlatform} {db : LedgerDb} {call : LedgerCall} {scope : RuntimeScope}
  {answer : LedgerAnswer} {writes : Option Writes}

/-- An operation that returns an outcome returns just this one. -/
theorem returned {value answer : LedgerAnswer} {rows writes : Option Writes}
    (h : (pure (value, rows) : Except LedgerError Outcome) = .ok (answer, writes)) :
    value = answer ∧ rows = writes :=
  Prod.mk.inj (Except.ok.inj h)

/-- A journal that was found by its key. -/
theorem keyed_of_find {key : String} {journal : JournalEntry}
    (h : (db.journals.find? fun row ↦ row.tenantId == scope.tenantId && row.idempotencyKey == key) =
      some journal) :
    JournalOf db scope.tenantId journal.journalId journal ∧ journal.idempotencyKey = key := by
  have hrow := List.find?_some h
  simp only [Bool.and_eq_true, beq_iff_eq] at hrow
  exact ⟨⟨List.mem_of_find?_eq_some h, rfl, hrow.1⟩, hrow.2⟩

theorem keyUnused_of_find {key : String}
    (h : (db.journals.find? fun row ↦ row.tenantId == scope.tenantId && row.idempotencyKey == key) =
      none) : KeyUnused db scope key := by
  intro row hrow htenant hkey
  simpa [htenant, hkey] using List.find?_eq_none.mp h row hrow

theorem ends_accountBalance {accountId : String}
    (hrequest : call.request = .scoped scope (.accountBalance accountId))
    (h : accountBalance db call scope accountId = .ok (answer, writes)) :
    Ends platform db call answer writes := by
  obtain ⟨account, haccount, h⟩ := bind_ok.mp h
  obtain ⟨rfl, rfl⟩ := returned h
  exact Move.accountRead scope accountId account _ hrequest (lookupAccount_ok haccount)

theorem ends_getJournal {journalId : String}
    (hrequest : call.request = .scoped scope (.getJournal journalId))
    (h : getJournal db call scope journalId = .ok (answer, writes)) :
    Ends platform db call answer writes := by
  obtain ⟨journal, hjournal, h⟩ := bind_ok.mp h
  obtain ⟨rfl, rfl⟩ := returned h
  have hfound := lookupJournal_ok hjournal
  obtain rfl := hfound.id
  exact Move.journalRead scope journal _ hrequest hfound

theorem ends_paymentStatus {paymentId : String}
    (hrequest : call.request = .scoped scope (.paymentStatus paymentId))
    (h : paymentStatus db scope paymentId = .ok (answer, writes)) :
    Ends platform db call answer writes := by
  unfold paymentStatus at h
  split at h
  · cases h
  next payment hfind =>
    obtain ⟨rfl, rfl⟩ := returned h
    have hrow := List.find?_some hfind
    simp only [Bool.and_eq_true, beq_iff_eq] at hrow
    obtain ⟨rfl, htenant⟩ := hrow
    exact Reply.paymentRead scope payment hrequest (List.mem_of_find?_eq_some hfind) htenant

theorem ends_reconciliation {paymentId : String}
    (hrequest : call.request = .scoped scope (.reconciliation paymentId))
    (h : reconciliation db scope paymentId = .ok (answer, writes)) :
    Ends platform db call answer writes := by
  unfold reconciliation at h
  split at h
  · cases h
  next record hfind =>
    obtain ⟨rfl, rfl⟩ := returned h
    have hrow := List.find?_some hfind
    simp only [Bool.and_eq_true, beq_iff_eq] at hrow
    obtain ⟨rfl, htenant⟩ := hrow
    exact Reply.reconciliationRead scope record hrequest (List.mem_of_find?_eq_some hfind) htenant

theorem ends_prepareDisbursement {caseId source beneficiary amountText currency rail key : String}
    (hrequest : call.request = .scoped scope
      (.prepareDisbursement caseId source beneficiary amountText currency rail key))
    (h : prepareDisbursement platform db call scope caseId source beneficiary amountText currency rail
      key = .ok (answer, writes)) : Ends platform db call answer writes := by
  obtain ⟨amount, hamount, h⟩ := bind_ok.mp h
  obtain ⟨hdomestic, h⟩ := ensure_bind_ok.mp h
  simp only [Bool.and_eq_true, beq_iff_eq] at hdomestic
  split at h
  next journal hfind =>
    obtain ⟨hsame, h⟩ := ensure_bind_ok.mp h
    obtain ⟨value, hvalue, h⟩ := bind_ok.mp h
    obtain ⟨rfl, rfl⟩ := returned h
    obtain ⟨hfound, rfl⟩ := keyed_of_find hfind
    cases hpaid : paymentOf db journal.journalId with
    | none =>
      rw [hpaid] at hvalue
      cases hvalue
    | some payment =>
      rw [hpaid] at hvalue
      obtain rfl := Except.ok.inj hvalue
      exact Reply.preparationReplayed scope caseId source beneficiary amountText currency rail amount
        journal payment hrequest hamount hfound (by simpa using hsame) hpaid
  next hfind =>
    obtain ⟨receivable, hreceivable, h⟩ := bind_ok.mp h
    obtain ⟨clearing, hclearing, h⟩ := bind_ok.mp h
    obtain ⟨⟨⟩, -, h⟩ := bind_ok.mp h
    obtain ⟨rfl, rfl⟩ := returned h
    exact Move.disbursementPrepared scope caseId source beneficiary amountText currency rail key _ amount
      _ rfl ⟨hrequest, hamount, hdomestic, keyUnused_of_find hfind,
        ⟨receivable, lookupAccount_ok hreceivable⟩, ⟨clearing, lookupAccount_ok hclearing⟩⟩

theorem ends_executeDisbursement {journalId actionHash : String} {bank : BankTransferRequest}
    (hrequest : call.request = .scoped scope (.executeDisbursement journalId actionHash
      bank.proposedActionId bank.canonicalActionHash bank.executionId))
    (h : executeDisbursement db call scope journalId actionHash bank = .ok (answer, writes)) :
    Ends platform db call answer writes := by
  obtain ⟨-, h⟩ := ensure_bind_ok.mp h
  obtain ⟨journal, hjournal, h⟩ := bind_ok.mp h
  obtain ⟨hhash, hrest⟩ := ensure_bind_ok.mp h
  have hfound := lookupJournal_ok hjournal
  obtain rfl := hfound.id
  obtain rfl : journal.canonicalActionHash = actionHash := by simpa using hhash
  by_cases hposted : journal.status = .posted
  · rw [if_pos hposted] at hrest
    cases hpaid : paymentOf db journal.journalId with
    | none =>
      rw [hpaid] at hrest
      cases hrest
    | some payment =>
      rw [hpaid] at hrest
      obtain ⟨hbound, hrest⟩ := ensure_bind_ok.mp hrest
      obtain ⟨value, hvalue, hrest⟩ := bind_ok.mp hrest
      obtain ⟨rfl, rfl⟩ := returned hrest
      obtain rfl := Except.ok.inj hvalue
      exact Reply.postingReplayed scope bank journal payment hrequest hfound hposted hpaid hbound
  · rw [if_neg hposted] at hrest
    obtain ⟨hvalidated, hrest⟩ := ensure_bind_ok.mp hrest
    obtain ⟨⟨⟩, hbalanced, hrest⟩ := bind_ok.mp hrest
    obtain ⟨accounts, haccounts, hrest⟩ := bind_ok.mp hrest
    cases hpaid : paymentOf db journal.journalId with
    | none =>
      rw [hpaid] at hrest
      cases hrest
    | some payment =>
      rw [hpaid] at hrest
      obtain ⟨rfl, rfl⟩ := returned hrest
      exact Move.disbursementPosted scope bank journal payment accounts
        ⟨hrequest, hfound, by simpa using hvalidated, hbalanced, haccounts, hpaid⟩

theorem ends_prepareReversal {originalJournalId reason key : String}
    (hrequest : call.request = .scoped scope (.prepareReversal originalJournalId reason key))
    (h : prepareReversal platform db call scope originalJournalId reason key = .ok (answer, writes)) :
    Ends platform db call answer writes := by
  obtain ⟨original, horiginal, h⟩ := bind_ok.mp h
  obtain ⟨hposted, h⟩ := ensure_bind_ok.mp h
  have horigin := lookupJournal_ok horiginal
  obtain rfl := horigin.id
  split at h
  next journal hfind =>
    obtain ⟨hsame, h⟩ := ensure_bind_ok.mp h
    obtain ⟨rfl, rfl⟩ := returned h
    obtain ⟨hfound, rfl⟩ := keyed_of_find hfind
    exact Reply.reversalReplayed scope original.journalId reason journal hrequest hfound
      (by simpa [newReversal] using hsame)
  next hfind =>
    obtain ⟨⟨⟩, -, h⟩ := bind_ok.mp h
    obtain ⟨rfl, rfl⟩ := returned h
    exact Move.reversalPrepared scope original reason key _
      ⟨hrequest, horigin, by simpa using hposted, keyUnused_of_find hfind⟩

theorem ends_executeReversal {journalId actionHash approval : String}
    (hrequest : call.request = .scoped scope (.executeReversal journalId actionHash approval))
    (h : executeReversal db call scope journalId actionHash approval = .ok (answer, writes)) :
    Ends platform db call answer writes := by
  obtain ⟨happroved, h⟩ := ensure_bind_ok.mp h
  obtain ⟨journal, hjournal, h⟩ := bind_ok.mp h
  obtain ⟨hhash, hrest⟩ := ensure_bind_ok.mp h
  have hfound := lookupJournal_ok hjournal
  obtain rfl := hfound.id
  obtain rfl : journal.canonicalActionHash = actionHash := by simpa using hhash
  split at hrest
  next hposted =>
    obtain ⟨rfl, rfl⟩ := returned hrest
    exact Reply.approvalReplayed scope approval journal hrequest hfound hposted
  · obtain ⟨hpending, hrest⟩ := ensure_bind_ok.mp hrest
    obtain ⟨⟨⟩, hbalanced, hrest⟩ := bind_ok.mp hrest
    obtain ⟨accounts, haccounts, hrest⟩ := bind_ok.mp hrest
    obtain ⟨rfl, rfl⟩ := returned hrest
    exact Move.reversalPosted scope approval journal accounts
      ⟨hrequest, by simpa using happroved, hfound, by simpa using hpending, hbalanced, haccounts⟩

theorem ends_acceptBankSettlement {event : Settlement} (hrequest : call.request = .settlement event)
    (h : acceptBankSettlement platform db call event = .ok (answer, writes)) :
    Ends platform db call answer writes := by
  obtain ⟨amount, hamount, h⟩ := bind_ok.mp h
  obtain ⟨hreference, h⟩ := ensure_bind_ok.mp h
  have hreference := beq_iff_eq.mp hreference
  split at h
  next inbox hfind =>
    obtain ⟨hsame, h⟩ := ensure_bind_ok.mp h
    split at h
    · cases h
    next record hrecord =>
      obtain ⟨rfl, rfl⟩ := returned h
      exact Reply.settlementReplayed event amount inbox record hrequest hamount hreference
        (List.mem_of_find?_eq_some hfind) (by simpa using List.find?_some hfind)
        (by simpa [newInbox] using hsame) hrecord
  next hinbox =>
    split at h
    · cases h
    next payment hfind =>
      obtain ⟨hexecuted, h⟩ := ensure_bind_ok.mp h
      obtain ⟨hagrees, h⟩ := ensure_bind_ok.mp h
      obtain ⟨rfl, rfl⟩ := returned h
      have hrow := List.find?_some hfind
      simp only [Bool.and_eq_true, beq_iff_eq] at hrow hexecuted hagrees
      exact Move.settled event amount payment
        ⟨hrequest, hamount, hreference, fun row hrow ↦ by simpa using List.find?_eq_none.mp hinbox row hrow,
          List.mem_of_find?_eq_some hfind, hrow.1, hrow.2, hexecuted, hagrees.1, hagrees.2⟩

/-- Every session that returns has ended in one of the listed ways. -/
theorem ends_of_serve (h : serve platform db call = .ok (answer, writes)) :
    Ends platform db call answer writes := by
  unfold serve at h
  split at h
  next scope op hrequest =>
    cases op with
    | accountBalance => exact ends_accountBalance hrequest h
    | getJournal => exact ends_getJournal hrequest h
    | paymentStatus => exact ends_paymentStatus hrequest h
    | reconciliation => exact ends_reconciliation hrequest h
    | prepareDisbursement => exact ends_prepareDisbursement hrequest h
    | executeDisbursement => exact ends_executeDisbursement hrequest h
    | prepareReversal => exact ends_prepareReversal hrequest h
    | executeReversal => exact ends_executeReversal hrequest h
  next event hrequest => exact ends_acceptBankSettlement hrequest h

end Inversion

end Xyena.Ledger
