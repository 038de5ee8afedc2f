import Xyena.Bank.Operations
import Xyena.Foundation.Session

/-!
# What one call can write

`Move` lists the ways in which a session of the bank ends with rows to commit,
each with the guards that led to it. `seen` is the state of the tables that the
session has read. Everything later is derived from this list: an invariant of
the bank is kept when every move keeps it.
-/

namespace Xyena.Bank

open Xyena.Foundation Xyena.Contracts
open Xyena.Foundation.Session (bind_ok)

/-! ## Sequences that may raise -/

section Sequences

variable {ε α β : Type}

theorem ensure_bind_ok {condition : Bool} {failure : BankError} {next : Unit → Except BankError β}
    {result : β} :
    (ensure condition failure >>= next) = .ok result ↔ condition = true ∧ next () = .ok result := by
  cases condition <;> simp [ensure, bind, Except.bind]

/-- An operation that returns rows returns just these. -/
theorem returned {value answer : BankAnswer} {rows writes : Writes}
    (h : (pure (value, some rows) : Except BankError Outcome) = .ok (answer, some writes)) :
    value = answer ∧ rows = writes := by
  obtain ⟨hvalue, hrows⟩ := Prod.mk.inj (Except.ok.inj h)
  exact ⟨hvalue, Option.some.inj hrows⟩

/-- A replay returns no rows. -/
theorem replayed {condition : Bool} {failure : BankError} {value answer : BankAnswer} {writes : Writes} :
    (do ensure condition failure; return (value, none)) ≠
      (.ok (answer, some writes) : Except BankError Outcome) := by
  intro h
  cases (ensure_bind_ok.mp h).2

end Sequences

/-! ## Lookups -/

section Lookups

variable {db : BankDb} {scope : RuntimeScope} {token : String}

/-- The account that an operation works on belongs to the scope of the call. -/
structure AccountOf (db : BankDb) (scope : RuntimeScope) (token : String) (account : Account) : Prop where
  stored : account ∈ db.accounts
  token : account.accountToken = token
  tenant : account.tenantId = scope.tenantId
  user : account.userId = scope.userId
  active : account.status = "ACTIVE"

theorem lookupAccount_ok {account : Account} (h : lookupAccount db scope token = .ok account) :
    AccountOf db scope token account := by
  unfold lookupAccount at h
  cases hfind : db.accounts.find? fun row ↦ row.accountToken == token &&
      row.tenantId == scope.tenantId && row.userId == scope.userId && row.status == "ACTIVE" with
  | none =>
    simp only [hfind] at h
    cases h
  | some row =>
    simp only [hfind] at h
    obtain rfl := Except.ok.inj h
    have hrow := List.find?_some hfind
    simp only [Bool.and_eq_true, beq_iff_eq] at hrow
    obtain ⟨⟨⟨htoken, htenant⟩, huser⟩, hactive⟩ := hrow
    exact ⟨List.mem_of_find?_eq_some hfind, htoken, htenant, huser, hactive⟩

/-- The tokens of the accounts are distinct, so that the lookup finds it. -/
theorem AccountOf.lookup {account : Account} (hkeys : (db.accounts.map Account.accountToken).Nodup)
    (h : AccountOf db scope token account) : lookupAccount db scope token = .ok account := by
  have hfind : (db.accounts.find? fun row ↦ row.accountToken == token &&
      row.tenantId == scope.tenantId && row.userId == scope.userId && row.status == "ACTIVE") =
        some account := by
    refine Table.find?_eq_some_of_unique h.stored ?_ fun other hother hsame ↦ ?_
    · simp [h.token, h.tenant, h.user, h.active]
    · simp only [Bool.and_eq_true, beq_iff_eq] at hsame
      exact Table.eq_of_key hkeys hother h.stored (hsame.1.1.1.trans h.token.symm)
  simp only [lookupAccount, hfind]

/-- The beneficiary that a payment goes to. -/
structure PayeeOf (db : BankDb) (scope : RuntimeScope) (token : String) (payee : Beneficiary) : Prop where
  stored : payee ∈ db.beneficiaries
  token : payee.beneficiaryToken = token
  tenant : payee.tenantId = scope.tenantId
  verified : payee.verified = true
  active : payee.status = "ACTIVE"

theorem lookupBeneficiary_ok {payee : Beneficiary} (h : lookupBeneficiary db scope token = .ok payee) :
    PayeeOf db scope token payee := by
  unfold lookupBeneficiary at h
  cases hfind : db.beneficiaries.find? fun row ↦ row.beneficiaryToken == token &&
      row.tenantId == scope.tenantId with
  | none =>
    simp only [hfind] at h
    cases h
  | some row =>
    simp only [hfind, Bool.true_and] at h
    split at h
    · cases h
    next hverified =>
      obtain rfl := Except.ok.inj h
      have hrow := List.find?_some hfind
      simp only [Bool.and_eq_true, beq_iff_eq] at hrow
      simp only [Bool.or_eq_true, Bool.not_eq_true', bne_iff_ne, not_or, Bool.not_eq_false,
        ne_eq, not_not] at hverified
      exact ⟨List.mem_of_find?_eq_some hfind, hrow.1, hrow.2, hverified.1, hverified.2⟩

theorem checkPaymentCapacity_ok {account : Account} {amount : Int} {now : Time}
    {excludeAction : Option String}
    (h : checkPaymentCapacity db account amount now excludeAction = .ok ()) :
    amount ≤ account.perTransferLimit ∧ amount ≤ account.availableBalance ∧
      pendingAmount db account now (excludeAction.filter (· ≠ "")) + amount ≤ account.dailyLimit := by
  unfold checkPaymentCapacity at h
  split at h
  · cases h
  next hlimits =>
    split at h
    · cases h
    next hdaily =>
      simp only [gt_iff_lt, Bool.or_eq_true, decide_eq_true_eq, not_or, not_lt] at hlimits hdaily
      exact ⟨hlimits.1, hlimits.2, hdaily⟩

theorem lookupConsent_ok {consentId : String} {now : Time} {requireActive : Bool} {consent : AAConsent}
    (h : lookupConsent db scope consentId now requireActive = .ok consent) :
    consent ∈ db.consents ∧ consent.consentId = consentId ∧ consent.tenantId = scope.tenantId ∧
      consent.userId = scope.userId ∧
      (requireActive = true → consent.status = .active ∧ now < consent.validUntil) := by
  unfold lookupConsent at h
  cases hfind : db.consents.find? fun row ↦ row.consentId == consentId &&
      row.tenantId == scope.tenantId && row.userId == scope.userId with
  | none =>
    simp only [hfind] at h
    cases h
  | some row =>
    simp only [hfind] at h
    split at h
    · cases h
    next hactive =>
      obtain rfl := Except.ok.inj h
      have hrow := List.find?_some hfind
      simp only [Bool.and_eq_true, beq_iff_eq] at hrow
      refine ⟨List.mem_of_find?_eq_some hfind, hrow.1.1, hrow.1.2, hrow.2, fun hrequired ↦ ?_⟩
      simp only [hrequired, Bool.true_and, Bool.or_eq_true, bne_iff_ne, decide_eq_true_eq, not_or,
        ne_eq, not_not, not_le] at hactive
      exact hactive

theorem findExecution_ok {tenantId executionId : String} {execution : TransferExecution}
    (h : findExecution db tenantId executionId = some execution) :
    execution ∈ db.executions ∧ execution.tenantId = tenantId ∧ execution.executionId = executionId := by
  have hrow := List.find?_some h
  simp only [Bool.and_eq_true, beq_iff_eq] at hrow
  exact ⟨List.mem_of_find?_eq_some h, hrow.2, hrow.1⟩

end Lookups

/-! ## Moves -/

/-- Writes that only record what was read or done. -/
structure Writes.Quiet (writes : Writes) : Prop where
  balances : writes.balances = none
  transactions : writes.transactions = []
  beneficiaries : writes.beneficiaries = []
  preparedTransfers : writes.preparedTransfers = []
  consents : writes.consents = []
  executions : writes.executions = []
  ledgerEntries : writes.ledgerEntries = []
  holds : writes.holds = []
  beneficiaryChanges : writes.beneficiaryChanges = []
  reversals : writes.reversals = []

/-- No row of a tenant has a key yet. -/
def Unused {Row : Type} (rows : List Row) (tenant key : Row → String) (tenantId value : String) : Prop :=
  ∀ row ∈ rows, tenant row = tenantId → key row ≠ value

/-- A new preparation of a transfer. -/
structure Prepares (platform : BankPlatform) (seen : BankDb) (call : BankCall)
    (source beneficiary amountText currency rail key : String) (amount : Int) (account : Account)
    (payee : Beneficiary) : Prop where
  op : call.op = .prepareTransfer source beneficiary amountText currency rail key
  parsed : parseAmount amountText = .ok amount
  payment : validatePayment currency rail key = .ok ()
  unused : Unused seen.preparedTransfers PreparedTransfer.tenantId PreparedTransfer.idempotencyKey
    call.scope.tenantId key
  owned : AccountOf seen call.scope source account
  paid : PayeeOf seen call.scope beneficiary payee
  capacity : checkPaymentCapacity seen account amount (call.clock.now 0) = .ok ()

/-- The settlement of a prepared transfer. -/
structure Settles (seen : BankDb) (call : BankCall) (executionId : String) (prepared : PreparedTransfer)
    (account : Account) (payee : Beneficiary) : Prop where
  op : call.op = .executeTransfer prepared.proposedActionId prepared.canonicalActionHash executionId
  unexecuted : Unused seen.executions TransferExecution.tenantId TransferExecution.executionId
    call.scope.tenantId executionId
  action : Unused seen.executions TransferExecution.tenantId TransferExecution.proposedActionId
    call.scope.tenantId prepared.proposedActionId
  callId : Unused seen.executions TransferExecution.tenantId TransferExecution.guardianCallId
    call.scope.tenantId call.scope.callId
  stored : prepared ∈ seen.preparedTransfers
  tenant : prepared.tenantId = call.scope.tenantId
  user : prepared.userId = call.scope.userId
  ready : prepared.status = .readyForGuardian
  live : call.clock.now 0 < prepared.expiresAt
  owned : AccountOf seen call.scope prepared.sourceAccountToken account
  paid : PayeeOf seen call.scope prepared.beneficiaryToken payee
  capacity : checkPaymentCapacity seen account prepared.amount (call.clock.now 1)
    (some prepared.proposedActionId) = .ok ()

/-- A new hold. -/
structure Places (seen : BankDb) (call : BankCall) (token amountText currency key : String)
    (amount : Int) (account : Account) : Prop where
  op : call.op = .placeHold token amountText currency key
  parsed : parseAmount amountText = .ok amount
  unused : Unused seen.holds AccountHold.tenantId AccountHold.idempotencyKey call.scope.tenantId key
  owned : AccountOf seen call.scope token account
  sameCurrency : currency = account.currency
  covered : amount ≤ account.availableBalance

/-- The release of a hold. -/
structure Releases (seen : BankDb) (call : BankCall) (value : AccountHold) (account : Account) : Prop where
  op : call.op = .releaseHold value.holdId
  stored : value ∈ seen.holds
  tenant : value.tenantId = call.scope.tenantId
  user : value.userId = call.scope.userId
  active : value.status = .active
  unreleased : truthy value.releaseGuardianCallId = false
  owned : AccountOf seen call.scope value.accountToken account

/-- The execution of a beneficiary change, which writes `write`. -/
structure Changes (seen : BankDb) (call : BankCall) (value : PreparedBeneficiaryChange)
    (write : RowWrite Beneficiary) : Prop where
  op : call.op = .executeBeneficiaryChange value.changeId value.canonicalActionHash
  stored : value ∈ seen.beneficiaryChanges
  tenant : value.tenantId = call.scope.tenantId
  ready : value.status = .readyForGuardian
  live : call.clock.now 0 < value.expiresAt
  target : (write = .insert (value.target call.scope.tenantId) ∧
      ∀ row ∈ seen.beneficiaries, row.beneficiaryToken ≠ value.beneficiaryToken) ∨
    write = .update (value.target call.scope.tenantId) ∧ ∃ stored ∈ seen.beneficiaries,
      stored.beneficiaryToken = value.beneficiaryToken ∧ stored.tenantId = call.scope.tenantId

/-- A new preparation of a reversal. -/
structure PreparesReversal (seen : BankDb) (call : BankCall)
    (transferExecutionId amountText reason key : String) (amount : Int)
    (execution : TransferExecution) : Prop where
  op : call.op = .prepareReversal transferExecutionId amountText reason key
  parsed : parseAmount amountText = .ok amount
  found : findExecution seen call.scope.tenantId transferExecutionId = some execution
  bounded : amount ≤ execution.amount
  unused : Unused seen.reversals PreparedReversal.tenantId PreparedReversal.idempotencyKey
    call.scope.tenantId key

/-- The settlement of a reversal. -/
structure Reverses (seen : BankDb) (call : BankCall) (approval : String) (value : PreparedReversal)
    (execution : TransferExecution) (prepared : PreparedTransfer) (account : Account) : Prop where
  op : call.op = .executeReversal value.reversalId value.canonicalActionHash approval
  approved : blank approval = false
  stored : value ∈ seen.reversals
  tenant : value.tenantId = call.scope.tenantId
  pending : value.status = .reviewRequired
  live : call.clock.now 0 < value.expiresAt
  found : findExecution seen call.scope.tenantId value.transferExecutionId = some execution
  origin : prepared ∈ seen.preparedTransfers
  action : prepared.proposedActionId = execution.proposedActionId
  owned : AccountOf seen call.scope prepared.sourceAccountToken account

/-- How a session that has read `seen` ends with rows to commit. -/
inductive Move (platform : BankPlatform) (seen : BankDb) (call : BankCall) : BankAnswer → Writes → Prop
  | quiet (answer : BankAnswer) (writes : Writes) (hquiet : writes.Quiet) :
      Move platform seen call answer writes
  | consentCreated (value : AAConsent) (events : List (RowWrite BankOutboxEvent))
      (audits : List (RowWrite AuditEvent)) (hactive : value.status = .active) :
      Move platform seen call (.consent value)
        { consents := [.insert value], outboxEvents := events, auditEvents := audits }
  | consentRevoked (value : AAConsent) (now : Time) (events : List (RowWrite BankOutboxEvent))
      (audits : List (RowWrite AuditEvent)) (hstored : value ∈ seen.consents) :
      Move platform seen call (.consent (value.revoke now))
        { consents := [.update (value.revoke now)], outboxEvents := events, auditEvents := audits }
  | transferPrepared (source beneficiary amountText currency rail key : String) (amount : Int)
      (account : Account) (payee : Beneficiary) (audits : List (RowWrite AuditEvent))
      (h : Prepares platform seen call source beneficiary amountText currency rail key amount account
        payee) :
      Move platform seen call
        (.prepared (newTransfer platform call source beneficiary amount currency rail key))
        { preparedTransfers :=
            [.insert (newTransfer platform call source beneficiary amount currency rail key)]
          auditEvents := audits }
  | transferSettled (executionId : String) (prepared : PreparedTransfer) (account : Account)
      (payee : Beneficiary) (h : Settles seen call executionId prepared account payee) :
      Move platform seen call
        (.settled (newExecution call prepared executionId) (journalId call)
          call.scope.authorizationConsumed)
        (settlementWrites platform call account prepared executionId)
  | transferExpired (value : PreparedTransfer) (hstored : value ∈ seen.preparedTransfers)
      (hready : value.status = .readyForGuardian) :
      Move platform seen call (.prepared { value with status := .expired })
        { preparedTransfers := [.update { value with status := .expired }] }
  | holdPlaced (token amountText currency key : String) (amount : Int) (account : Account)
      (events : List (RowWrite BankOutboxEvent)) (audits : List (RowWrite AuditEvent))
      (h : Places seen call token amountText currency key amount account) :
      Move platform seen call (.hold (newHold call token amount currency key))
        { balances := some
            { accountToken := account.accountToken
              available := some (account.availableBalance - amount) }
          holds := [.insert (newHold call token amount currency key)]
          outboxEvents := events
          auditEvents := audits }
  | holdReleased (value : AccountHold) (account : Account) (now : Time)
      (events : List (RowWrite BankOutboxEvent)) (audits : List (RowWrite AuditEvent))
      (h : Releases seen call value account) :
      Move platform seen call (.hold (value.release now call.scope.callId))
        { balances := some
            { accountToken := account.accountToken
              available := some (account.availableBalance + value.amount) }
          holds := [.update (value.release now call.scope.callId)]
          outboxEvents := events
          auditEvents := audits }
  | changePrepared (value : PreparedBeneficiaryChange) (audits : List (RowWrite AuditEvent))
      (hready : value.status = .readyForGuardian) (hcall : value.guardianCallId = none) :
      Move platform seen call (.change value none)
        { beneficiaryChanges := [.insert value], auditEvents := audits }
  | changeExecuted (value : PreparedBeneficiaryChange) (write : RowWrite Beneficiary)
      (events : List (RowWrite BankOutboxEvent)) (audits : List (RowWrite AuditEvent))
      (h : Changes seen call value write) :
      Move platform seen call
        (.change (value.execute call.scope.callId) (some call.scope.guardianDecisionId))
        { beneficiaries := [write]
          beneficiaryChanges := [.update (value.execute call.scope.callId)]
          outboxEvents := events
          auditEvents := audits }
  | reversalPrepared (transferExecutionId amountText reason key : String) (amount : Int)
      (execution : TransferExecution) (audits : List (RowWrite AuditEvent))
      (h : PreparesReversal seen call transferExecutionId amountText reason key amount execution) :
      Move platform seen call
        (.reversal (newReversal platform call execution transferExecutionId amount reason key) none)
        { reversals :=
            [.insert (newReversal platform call execution transferExecutionId amount reason key)]
          auditEvents := audits }
  | reversalSettled (approval : String) (value : PreparedReversal) (execution : TransferExecution)
      (prepared : PreparedTransfer) (account : Account)
      (h : Reverses seen call approval value execution prepared account) :
      Move platform seen call
        (.reversal (value.settle approval call.scope.callId (reversalReference call))
          (some call.scope.guardianDecisionId))
        (reversalWrites call account value approval)

/-! ## Inversion, one operation after the other -/

/-- A search that found nothing leaves the key unused. -/
theorem unused_of_find {Row : Type} {rows : List Row} {tenant key : Row → String}
    {tenantId value : String}
    (h : rows.find? (fun row ↦ tenant row == tenantId && key row == value) = none) :
    Unused rows tenant key tenantId value := by
  intro row hrow htenant hkey
  have hnone := List.find?_eq_none.mp h row hrow
  simp [htenant, hkey] at hnone

section Inversion

variable {platform : BankPlatform} {seen : BankDb} {call : BankCall} {answer : BankAnswer}
  {writes : Writes}

theorem Move.audit (answer : BankAnswer) (audits : List (RowWrite AuditEvent)) :
    Move platform seen call answer { auditEvents := audits } :=
  .quiet _ _ ⟨rfl, rfl, rfl, rfl, rfl, rfl, rfl, rfl, rfl, rfl⟩

theorem move_createConsent {tokens kinds : List String} {validDays : Int} {key : String}
    (h : createConsent platform seen call tokens kinds validDays key = .ok (answer, some writes)) :
    Move platform seen call answer writes := by
  simp only [createConsent, ensure_bind_ok] at h
  obtain ⟨-, -, h⟩ := h
  split at h
  · exact absurd h replayed
  · obtain ⟨-, -, h⟩ := bind_ok.mp h
    obtain ⟨rfl, rfl⟩ := returned h
    exact .consentCreated _ _ _ rfl

theorem move_getConsent {consentId : String}
    (h : getConsent seen call consentId = .ok (answer, some writes)) :
    Move platform seen call answer writes := by
  obtain ⟨value, -, h⟩ := bind_ok.mp h
  obtain ⟨rfl, rfl⟩ := returned h
  exact .audit _ _

theorem move_revokeConsent {consentId : String}
    (h : revokeConsent seen call consentId = .ok (answer, some writes)) :
    Move platform seen call answer writes := by
  obtain ⟨value, hvalue, h⟩ := bind_ok.mp h
  split at h
  · obtain ⟨rfl, rfl⟩ := returned h
    exact .consentRevoked value _ _ _ (lookupConsent_ok hvalue).1
  · obtain ⟨rfl, rfl⟩ := returned h
    exact .audit _ _

theorem move_fetchInformation {consentId kind token key : String} {fromDate toDate : Option Day}
    (h : fetchInformation platform seen call consentId kind token key fromDate toDate =
      .ok (answer, some writes)) : Move platform seen call answer writes := by
  unfold fetchInformation at h
  split at h
  · cases h
  · obtain ⟨consent, -, h⟩ := bind_ok.mp h
    simp only [ensure_bind_ok] at h
    obtain ⟨-, -, -, h⟩ := h
    obtain ⟨account, -, h⟩ := bind_ok.mp h
    obtain ⟨payload, -, h⟩ := bind_ok.mp h
    obtain ⟨rfl, rfl⟩ := returned h
    exact .quiet _ _ ⟨rfl, rfl, rfl, rfl, rfl, rfl, rfl, rfl, rfl, rfl⟩

theorem move_listAccounts (h : listAccounts platform seen call = .ok (answer, some writes)) :
    Move platform seen call answer writes := by
  obtain ⟨consent, -, h⟩ := bind_ok.mp h
  obtain ⟨rfl, rfl⟩ := returned h
  exact .audit _ _

theorem move_getAccount {token : String}
    (h : getAccount platform seen call token = .ok (answer, some writes)) :
    Move platform seen call answer writes := by
  obtain ⟨consent, -, h⟩ := bind_ok.mp h
  obtain ⟨value, -, h⟩ := bind_ok.mp h
  obtain ⟨rfl, rfl⟩ := returned h
  exact .audit _ _

theorem move_getBalance {token : String}
    (h : getBalance platform seen call token = .ok (answer, some writes)) :
    Move platform seen call answer writes := by
  obtain ⟨consent, -, h⟩ := bind_ok.mp h
  obtain ⟨value, -, h⟩ := bind_ok.mp h
  obtain ⟨rfl, rfl⟩ := returned h
  exact .audit _ _

theorem move_listTransactions {token : String} {fromDate toDate : Day} {limit : Int}
    (h : listTransactions platform seen call token fromDate toDate limit = .ok (answer, some writes)) :
    Move platform seen call answer writes := by
  obtain ⟨-, h⟩ := ensure_bind_ok.mp h
  obtain ⟨consent, -, h⟩ := bind_ok.mp h
  obtain ⟨value, -, h⟩ := bind_ok.mp h
  obtain ⟨rfl, rfl⟩ := returned h
  exact .audit _ _

theorem move_verifyBeneficiary {token : String}
    (h : verifyBeneficiary platform seen call token = .ok (answer, some writes)) :
    Move platform seen call answer writes := by
  obtain ⟨value, -, h⟩ := bind_ok.mp h
  obtain ⟨rfl, rfl⟩ := returned h
  exact .audit _ _

theorem move_getLimits {token : String}
    (h : getLimits seen call token = .ok (answer, some writes)) :
    Move platform seen call answer writes := by
  obtain ⟨value, -, h⟩ := bind_ok.mp h
  obtain ⟨rfl, rfl⟩ := returned h
  exact .audit _ _

theorem move_prepareTransfer {source beneficiary amountText currency rail key : String}
    (hop : call.op = .prepareTransfer source beneficiary amountText currency rail key)
    (h : prepareTransfer platform seen call source beneficiary amountText currency rail key =
      .ok (answer, some writes)) : Move platform seen call answer writes := by
  obtain ⟨amount, hamount, h⟩ := bind_ok.mp h
  obtain ⟨⟨⟩, hpayment, h⟩ := bind_ok.mp h
  split at h
  · exact absurd h replayed
  next hnone =>
    obtain ⟨account, haccount, h⟩ := bind_ok.mp h
    obtain ⟨payee, hpayee, h⟩ := bind_ok.mp h
    obtain ⟨⟨⟩, hcapacity, h⟩ := bind_ok.mp h
    obtain ⟨rfl, rfl⟩ := returned h
    exact .transferPrepared source beneficiary amountText currency rail key amount account payee _
      ⟨hop, hamount, hpayment, unused_of_find hnone, lookupAccount_ok haccount,
        lookupBeneficiary_ok hpayee, hcapacity⟩

/-- A call that settles a transfer has passed every check. -/
theorem settles_of_executeTransfer {action actionHash executionId : String}
    (hop : call.op = .executeTransfer action actionHash executionId)
    (h : executeTransfer platform seen call action actionHash executionId = .ok (answer, some writes)) :
    ∃ prepared account payee, Settles seen call executionId prepared account payee ∧
      answer = .settled (newExecution call prepared executionId) (journalId call)
        call.scope.authorizationConsumed ∧
      writes = settlementWrites platform call account prepared executionId := by
  unfold executeTransfer at h
  split at h
  · exact absurd h replayed
  next hexecution =>
    split at h
    · exact absurd h replayed
    next haction =>
      obtain ⟨hcall, h⟩ := ensure_bind_ok.mp h
      split at h
      · cases h
      next prepared hfind =>
        simp only [ensure_bind_ok] at h
        obtain ⟨hhash, hready, h⟩ := h
        obtain ⟨account, haccount, h⟩ := bind_ok.mp h
        obtain ⟨payee, hpayee, h⟩ := bind_ok.mp h
        obtain ⟨⟨⟩, hcapacity, h⟩ := bind_ok.mp h
        obtain ⟨rfl, rfl⟩ := returned h
        have hrow := List.find?_some hfind
        simp only [Bool.and_eq_true, beq_iff_eq] at hrow hhash
        simp only [Bool.and_eq_true, beq_iff_eq, decide_eq_true_eq] at hready
        obtain ⟨⟨rfl, htenant⟩, huser⟩ := hrow
        subst hhash
        refine ⟨prepared, account, payee, ⟨hop, unused_of_find hexecution, unused_of_find haction, ?_,
          List.mem_of_find?_eq_some hfind, htenant, huser, hready.1, hready.2,
          lookupAccount_ok haccount, lookupBeneficiary_ok hpayee, hcapacity⟩, rfl, rfl⟩
        intro row hrow htenant hsame
        rw [Bool.not_eq_true', List.any_eq_false] at hcall
        simpa [htenant, hsame] using hcall row hrow

theorem move_executeTransfer {action actionHash executionId : String}
    (hop : call.op = .executeTransfer action actionHash executionId)
    (h : executeTransfer platform seen call action actionHash executionId = .ok (answer, some writes)) :
    Move platform seen call answer writes := by
  obtain ⟨prepared, account, payee, hs, rfl, rfl⟩ := settles_of_executeTransfer hop h
  exact .transferSettled executionId prepared account payee hs

theorem move_transferStatus {action : String}
    (h : transferStatus seen call action = .ok (answer, some writes)) :
    Move platform seen call answer writes := by
  unfold transferStatus at h
  split at h
  · cases h
  · split at h
    · cases h
    next value hfind =>
      split at h
      next hexpired =>
        obtain ⟨rfl, rfl⟩ := returned h
        exact .transferExpired value (List.mem_of_find?_eq_some hfind) hexpired.1
      · cases h

theorem move_placeHold {token amountText currency key : String}
    (hop : call.op = .placeHold token amountText currency key)
    (h : placeHold platform seen call token amountText currency key = .ok (answer, some writes)) :
    Move platform seen call answer writes := by
  obtain ⟨amount, hamount, h⟩ := bind_ok.mp h
  split at h
  · exact absurd h replayed
  next hnone =>
    obtain ⟨account, haccount, h⟩ := bind_ok.mp h
    obtain ⟨hcovered, h⟩ := ensure_bind_ok.mp h
    obtain ⟨rfl, rfl⟩ := returned h
    simp only [Bool.and_eq_true, beq_iff_eq, decide_eq_true_eq] at hcovered
    exact .holdPlaced token amountText currency key amount account _ _
      ⟨hop, hamount, unused_of_find hnone, lookupAccount_ok haccount, hcovered.1, hcovered.2⟩

theorem move_releaseHold {holdId : String} (hop : call.op = .releaseHold holdId)
    (h : releaseHold platform seen call holdId = .ok (answer, some writes)) :
    Move platform seen call answer writes := by
  unfold releaseHold at h
  split at h
  · cases h
  next value hfind =>
    split at h
    · cases h
    next hstatus =>
      obtain ⟨hunreleased, h⟩ := ensure_bind_ok.mp h
      obtain ⟨account, haccount, h⟩ := bind_ok.mp h
      obtain ⟨rfl, rfl⟩ := returned h
      have hrow := List.find?_some hfind
      simp only [Bool.and_eq_true, beq_iff_eq] at hrow
      obtain ⟨⟨rfl, htenant⟩, huser⟩ := hrow
      have hactive : value.status = .active := by
        cases hvalue : value.status with
        | active => rfl
        | released => exact absurd hvalue hstatus
      exact .holdReleased value account _ _ _
        ⟨hop, List.mem_of_find?_eq_some hfind, htenant, huser, hactive, by simpa using hunreleased,
          lookupAccount_ok haccount⟩

theorem move_prepareBeneficiaryChange
    {token ownerName maskedAccount bankName currency key : String}
    (h : prepareBeneficiaryChange platform seen call token ownerName maskedAccount bankName currency
      key = .ok (answer, some writes)) : Move platform seen call answer writes := by
  unfold prepareBeneficiaryChange at h
  simp only at h
  split at h
  · exact absurd h replayed
  · obtain ⟨rfl, rfl⟩ := returned h
    exact .changePrepared _ _ rfl rfl

theorem move_executeBeneficiaryChange {changeId actionHash : String}
    (hop : call.op = .executeBeneficiaryChange changeId actionHash)
    (h : executeBeneficiaryChange platform seen call changeId actionHash =
      .ok (answer, some writes)) : Move platform seen call answer writes := by
  unfold executeBeneficiaryChange at h
  split at h
  · cases h
  next value hfind =>
    obtain ⟨hhash, h⟩ := ensure_bind_ok.mp h
    split at h
    · cases h
    · obtain ⟨hready, h⟩ := ensure_bind_ok.mp h
      obtain ⟨write, hwrite, h⟩ := bind_ok.mp h
      obtain ⟨rfl, rfl⟩ := returned h
      have hrow := List.find?_some hfind
      simp only [Bool.and_eq_true, beq_iff_eq] at hrow hhash
      simp only [Bool.and_eq_true, beq_iff_eq, decide_eq_true_eq] at hready
      obtain ⟨rfl, htenant⟩ := hrow
      subst hhash
      refine .changeExecuted value write _ _
        ⟨hop, List.mem_of_find?_eq_some hfind, htenant, hready.1, hready.2, ?_⟩
      unfold beneficiaryWrite at hwrite
      cases hbeneficiary : seen.beneficiaries.find? fun row ↦
          row.beneficiaryToken == value.beneficiaryToken with
      | none =>
        simp only [hbeneficiary] at hwrite
        refine Or.inl ⟨(Except.ok.inj hwrite).symm, fun row hrow ↦ ?_⟩
        simpa using List.find?_eq_none.mp hbeneficiary row hrow
      | some stored =>
        simp only [hbeneficiary] at hwrite
        split at hwrite
        · cases hwrite
        next hsame =>
          refine Or.inr ⟨(Except.ok.inj hwrite).symm, stored, List.mem_of_find?_eq_some hbeneficiary,
            by simpa using List.find?_some hbeneficiary, by simpa using hsame⟩

theorem move_prepareReversal {transferExecutionId amountText reason key : String}
    (hop : call.op = .prepareReversal transferExecutionId amountText reason key)
    (h : prepareReversal platform seen call transferExecutionId amountText reason key =
      .ok (answer, some writes)) : Move platform seen call answer writes := by
  obtain ⟨amount, hamount, h⟩ := bind_ok.mp h
  split at h
  · cases h
  next execution hexecution =>
    obtain ⟨hbounded, h⟩ := ensure_bind_ok.mp h
    split at h
    · exact absurd h replayed
    next hnone =>
      obtain ⟨rfl, rfl⟩ := returned h
      exact .reversalPrepared transferExecutionId amountText reason key amount execution _
        ⟨hop, hamount, hexecution, by simpa using hbounded, unused_of_find hnone⟩

theorem move_executeReversal {reversalId actionHash approval : String}
    (hop : call.op = .executeReversal reversalId actionHash approval)
    (h : executeReversal seen call reversalId actionHash approval = .ok (answer, some writes)) :
    Move platform seen call answer writes := by
  obtain ⟨happroved, h⟩ := ensure_bind_ok.mp h
  split at h
  · cases h
  next value hfind =>
    obtain ⟨hhash, h⟩ := ensure_bind_ok.mp h
    split at h
    · cases h
    · obtain ⟨hready, h⟩ := ensure_bind_ok.mp h
      split at h
      · cases h
      next execution hexecution =>
        split at h
        · cases h
        next prepared hprepared =>
          obtain ⟨account, haccount, h⟩ := bind_ok.mp h
          obtain ⟨rfl, rfl⟩ := returned h
          have hrow := List.find?_some hfind
          simp only [Bool.and_eq_true, beq_iff_eq] at hrow hhash
          simp only [Bool.and_eq_true, beq_iff_eq, decide_eq_true_eq] at hready
          obtain ⟨rfl, htenant⟩ := hrow
          subst hhash
          exact .reversalSettled approval value execution prepared account
            ⟨hop, by simpa using happroved, List.mem_of_find?_eq_some hfind, htenant, hready.1, hready.2,
              hexecution, List.mem_of_find?_eq_some hprepared, by simpa using List.find?_some hprepared,
              lookupAccount_ok haccount⟩

/-- Every session that ends with rows to commit has made one of the moves. -/
theorem move_of_serve (h : serve platform seen call = .ok (answer, some writes)) :
    Move platform seen call answer writes := by
  unfold serve at h
  cases hop : call.op with
  | createConsent => exact move_createConsent (by simpa only [hop] using h)
  | getConsent => exact move_getConsent (by simpa only [hop] using h)
  | revokeConsent => exact move_revokeConsent (by simpa only [hop] using h)
  | fetchInformation => exact move_fetchInformation (by simpa only [hop] using h)
  | listAccounts => exact move_listAccounts (by simpa only [hop] using h)
  | getAccount => exact move_getAccount (by simpa only [hop] using h)
  | getBalance => exact move_getBalance (by simpa only [hop] using h)
  | listTransactions => exact move_listTransactions (by simpa only [hop] using h)
  | verifyBeneficiary => exact move_verifyBeneficiary (by simpa only [hop] using h)
  | getLimits => exact move_getLimits (by simpa only [hop] using h)
  | prepareTransfer => exact move_prepareTransfer hop (by simpa only [hop] using h)
  | executeTransfer => exact move_executeTransfer hop (by simpa only [hop] using h)
  | transferStatus => exact move_transferStatus (by simpa only [hop] using h)
  | placeHold => exact move_placeHold hop (by simpa only [hop] using h)
  | releaseHold => exact move_releaseHold hop (by simpa only [hop] using h)
  | prepareBeneficiaryChange => exact move_prepareBeneficiaryChange (by simpa only [hop] using h)
  | executeBeneficiaryChange => exact move_executeBeneficiaryChange hop (by simpa only [hop] using h)
  | prepareReversal => exact move_prepareReversal hop (by simpa only [hop] using h)
  | executeReversal => exact move_executeReversal hop (by simpa only [hop] using h)

/-- A session that raises commits nothing. -/
theorem close_error {db : BankDb} {refused : Bool} {outcome : Except BankError Outcome}
    {failure : BankError} (h : (close db refused outcome).1 = .error failure) :
    (close db refused outcome).2 = db := by
  cases outcome with
  | error failure => rfl
  | ok outcome =>
    obtain ⟨answer, _ | writes⟩ := outcome
    · rfl
    · simp only [close] at h ⊢
      split at h
      · cases h
      next hrefused => rw [if_neg hrefused]

/-- A session without rows commits nothing. -/
theorem close_of_no_writes {db : BankDb} {refused : Bool} {outcome : Except BankError Outcome}
    (h : ∀ answer writes, outcome ≠ .ok (answer, some writes)) :
    (close db refused outcome).2 = db := by
  cases outcome with
  | error failure => rfl
  | ok outcome =>
    obtain ⟨answer, _ | writes⟩ := outcome
    · rfl
    · exact absurd rfl (h answer writes)

/-- A session leaves the tables as they are, or commits its rows. -/
theorem close_cases (db : BankDb) (refused : Bool) (outcome : Except BankError Outcome) :
    (close db refused outcome).2 = db ∨
      ∃ answer writes, outcome = .ok (answer, some writes) ∧ refused = false ∧ writes.Accepted db ∧
        close db refused outcome = (.ok answer, writes.apply db) := by
  cases outcome with
  | error failure => exact Or.inl rfl
  | ok outcome =>
    obtain ⟨answer, _ | writes⟩ := outcome
    · exact Or.inl rfl
    · simp only [close]
      split
      next haccepted =>
        simp only [Bool.and_eq_true, Bool.not_eq_true'] at haccepted
        exact Or.inr ⟨answer, writes, rfl, haccepted.1, Writes.accepted_iff.mp haccepted.2, rfl⟩
      · exact Or.inl rfl

/-- A step leaves the tables as they are, or commits a move. -/
theorem step_cases (platform : BankPlatform) (db : BankDb) (call : BankCall) :
    ((bank platform).step db call).2 = db ∨
      ∃ answer writes, Move platform db call answer writes ∧ writes.Accepted db ∧
        (bank platform).step db call = (.ok answer, writes.apply db) := by
  have hstep : (bank platform).step db call = close db call.refused (serve platform db call) := rfl
  rw [hstep]
  rcases close_cases db call.refused (serve platform db call) with
    hkeep | ⟨answer, writes, hserve, -, haccepted, hclose⟩
  · exact Or.inl hkeep
  · exact Or.inr ⟨answer, writes, move_of_serve hserve, haccepted, hclose⟩

/-- An answered call has come to its answer and has committed its rows. -/
theorem served_of_ok {db : BankDb} (h : ((bank platform).step db call).1 = .ok answer) :
    ∃ writes, serve platform db call = .ok (answer, writes) ∧
      ((bank platform).step db call).2 = writes.elim db (Writes.apply · db) := by
  have hstep : (bank platform).step db call = close db call.refused (serve platform db call) := rfl
  rw [hstep] at h ⊢
  cases hserve : serve platform db call with
  | error failure =>
    rw [hserve] at h
    cases h
  | ok outcome =>
    obtain ⟨value, _ | writes⟩ := outcome
    · rw [hserve] at h
      exact ⟨none, by rw [Except.ok.inj h], rfl⟩
    · simp only [hserve, close] at h ⊢
      split at h
      next haccepted => exact ⟨some writes, by rw [Except.ok.inj h], by rw [if_pos haccepted]; rfl⟩
      · cases h

end Inversion

end Xyena.Bank
