import Xyena.Bank.Service

/-!
# The operations of the bank, one by one

Each definition follows the method of its name in `BankDemoService`, check by
check and with the same texts. The machine at the end serves one call after the
other, each in its own transaction.
-/

namespace Xyena.Bank

open Xyena.Foundation Xyena.Contracts

/-- Raise when a check fails. -/
def ensure (condition : Bool) (failure : BankError) : Except BankError Unit :=
  if condition then .ok () else .error failure

variable (platform : BankPlatform) (db : BankDb) (call : BankCall)

/-! ## Consents -/

/-- The parsed kinds of information in their order, without repetition. -/
def informationTypes (texts : List String) : Option (List InformationType) :=
  (texts.mapM informationType).map fun kinds ↦
    [InformationType.account, .balance, .transactions].filter kinds.contains

def consentAction (scope : RuntimeScope) (accountTokens : List String) (kinds : List InformationType)
    (validDays : Int) (key : String) : Dict :=
  [("tenant_id", .str scope.tenantId), ("user_id", .str scope.userId), ("purpose", .str scope.purpose),
    ("account_tokens", .strings (sortedSet accountTokens)),
    ("information_types", .strings (kinds.map InformationType.value)), ("valid_days", .int validDays),
    ("idempotency_key", .str key)]

def newConsent (accountTokens : List String) (kinds : List InformationType) (validDays : Int)
    (key actionHash : String) : AAConsent where
  consentId := "aac_" ++ call.draws.token
  tenantId := call.scope.tenantId
  userId := call.scope.userId
  purpose := call.scope.purpose
  accountTokens := sortedSet accountTokens
  informationTypes := kinds
  idempotencyKey := key
  requestHash := actionHash
  status := .active
  validFrom := call.clock.now 0
  validUntil := call.clock.now 0 + days validDays

def createConsent (accountTokens kindTexts : List String) (validDays : Int) (key : String) :
    Except BankError Outcome := do
  let kinds := (informationTypes kindTexts).getD []
  ensure (!kinds.isEmpty) (.domain "Use ACCOUNT, BALANCE or TRANSACTIONS information types.")
  ensure (decide (1 ≤ validDays ∧ validDays ≤ 90)) (.domain "valid_days must be between 1 and 90.")
  let actionHash := hash platform (consentAction call.scope accountTokens kinds validDays key)
  match db.consents.find? fun row ↦ row.tenantId == call.scope.tenantId && row.idempotencyKey == key with
  | some existing =>
    ensure (existing.requestHash == actionHash)
      (.domain "Consent idempotency parameter drift detected.")
    return (.consent existing, none)
  | none =>
    (sortedSet accountTokens).forM fun token ↦ do
      let _ ← lookupAccount db call.scope token
    let value := newConsent call accountTokens kinds validDays key actionHash
    return (.consent value, some
      { consents := [.insert value]
        outboxEvents := [eventRow (call.draws.rowId 0) call.scope.tenantId "AA_CONSENT" value.consentId
          "bank.aa.consent.created" (consentProjection platform value none)]
        auditEvents := [auditRow (call.draws.rowId 1) call.scope "CREATED"
          [("consent_id", .str value.consentId)]] })

def getConsent (consentId : String) : Except BankError Outcome := do
  let value ← lookupConsent db call.scope consentId (call.clock.now 0) false
  return (.consent value, some
    { auditEvents := [auditRow (call.draws.rowId 0) call.scope "SUCCESS"
        [("consent_id", .str consentId)]] })

def AAConsent.revoke (value : AAConsent) (now : Time) : AAConsent :=
  { value with status := .revoked, revokedAt := some now, version := value.version + 1 }

def revokeConsent (consentId : String) : Except BankError Outcome := do
  let value ← lookupConsent db call.scope consentId (call.clock.now 0) false
  let audit (k : Nat) := auditRow (call.draws.rowId k) call.scope "REVOKED"
    [("consent_id", .str consentId)]
  if value.status = .active then
    let revoked := value.revoke (call.clock.now 0)
    return (.consent revoked, some
      { consents := [.update revoked]
        outboxEvents := [eventRow (call.draws.rowId 0) call.scope.tenantId "AA_CONSENT" consentId
          "bank.aa.consent.revoked" [("consent_id", .str consentId)]]
        auditEvents := [audit 1] })
  else return (.consent value, some { auditEvents := [audit 0] })

/-! ## Information -/

/-- The transactions of an account between two days, newest first, at most `limit`. -/
def transactionsBetween (accountToken : String) (fromDate toDate : Day) (limit : Nat) :
    List Transaction :=
  ((db.transactions.filter fun row ↦ row.accountToken == accountToken &&
    decide (fromDate ≤ row.bookedOn ∧ row.bookedOn ≤ toDate)).insertionSort
      fun first second ↦ second.bookedOn ≤ first.bookedOn).take limit

def informationAction (consentId : String) (kind : InformationType) (accountToken key : String)
    (fromDate toDate : Option Day) : Dict :=
  [("consent_id", .str consentId), ("information_type", .str kind.value),
    ("account_token", .str accountToken), ("from_date", .ofOption (fromDate.map platform.isodate)),
    ("to_date", .ofOption (toDate.map platform.isodate)), ("idempotency_key", .str key)]

/-- The payload of a fetched piece of information. -/
def informationPayload (kind : InformationType) (row : Account) (fromDate toDate : Option Day) :
    Except BankError Information :=
  match kind with
  | .account => .ok (.account row)
  | .balance => .ok (.balance row (call.clock.now 1))
  | .transactions => do
    let first := fromDate.getD (call.clock.today 0 - 30)
    let last := toDate.getD (call.clock.today 1)
    ensure (decide (first ≤ last ∧ last - first ≤ 90))
      (.domain "Transactions require a valid 90-day window.")
    return .transactions (transactionsBetween db row.accountToken first last 100)

def fetchInformation (consentId kindText accountToken key : String) (fromDate toDate : Option Day) :
    Except BankError Outcome :=
  match informationType kindText with
  | none => .error (.domain "Unsupported financial information type.")
  | some kind => do
    let actionHash :=
      hash platform (informationAction platform consentId kind accountToken key fromDate toDate)
    let consent ← lookupConsent db call.scope consentId (call.clock.now 0)
    ensure (consent.accountTokens.contains accountToken && consent.informationTypes.contains kind)
      (.security "Requested information is outside the AA consent scope.")
    ensure (consent.purpose == "" || call.scope.purpose == consent.purpose)
      (.security "Purpose does not match the AA consent.")
    let existing := db.informationRequests.find? fun row ↦
      row.tenantId == call.scope.tenantId && row.idempotencyKey == key
    ensure (existing.all (·.requestHash == actionHash))
      (.domain "The FI idempotency key has different parameters.")
    let account ← lookupAccount db call.scope accountToken
    let payload ← informationPayload db call kind account fromDate toDate
    let evidence := receipt platform call.scope "aa.fetch_information"
      [consentId, accountToken, actionHash]
    let requestId := (existing.map FinancialInformationRequest.requestId).getD
      ("fir_" ++ call.draws.token)
    return (.information requestId consentId kind payload evidence, some
      { informationRequests := if existing.isSome then [] else
          [.insert
            { requestId := requestId
              tenantId := call.scope.tenantId
              userId := call.scope.userId
              consentId := consentId
              informationType := kind
              accountToken := accountToken
              fromDate := fromDate
              toDate := toDate
              idempotencyKey := key
              requestHash := actionHash
              evidenceReceiptId := evidence
              completedAt := call.clock.now 2 }]
        auditEvents := [auditRow (call.draws.rowId 0) call.scope "SUCCESS"
          [("request_id", .str requestId)]] })

def listAccounts : Except BankError Outcome := do
  let _ ← requireAnyConsent db call.scope .account call.clock.now
  let rows := db.accounts.filter fun row ↦ row.tenantId == call.scope.tenantId &&
    row.userId == call.scope.userId && row.status == "ACTIVE"
  return (.accounts rows (receipt platform call.scope "accounts.list" (rows.map Account.accountToken)),
    some { auditEvents := [auditRow (call.draws.rowId 0) call.scope "SUCCESS"
      [("account_count", .int rows.length)]] })

/-- The row of an audited read of one account. -/
def accountAudit (accountToken : String) : Writes :=
  { auditEvents := [auditRow (call.draws.rowId 0) call.scope "SUCCESS"
      [("account_token", .str accountToken)]] }

def getAccount (accountToken : String) : Except BankError Outcome := do
  let _ ← requireAnyConsent db call.scope .account call.clock.now (some accountToken)
  let value ← lookupAccount db call.scope accountToken
  return (.account value (call.clock.now db.consents.length)
    (receipt platform call.scope "accounts.get" [accountToken]), some (accountAudit call accountToken))

def getBalance (accountToken : String) : Except BankError Outcome := do
  let _ ← requireAnyConsent db call.scope .balance call.clock.now (some accountToken)
  let value ← lookupAccount db call.scope accountToken
  return (.balance value (call.clock.now db.consents.length)
    (receipt platform call.scope "accounts.get_balance"
      [accountToken, centsText value.availableBalance]), some (accountAudit call accountToken))

def listTransactions (accountToken : String) (fromDate toDate : Day) (limit : Int) :
    Except BankError Outcome := do
  ensure (decide (fromDate ≤ toDate ∧ toDate - fromDate ≤ 90))
    (.domain "A valid transaction window of at most 90 days is required.")
  let _ ← requireAnyConsent db call.scope .transactions call.clock.now (some accountToken)
  let _ ← lookupAccount db call.scope accountToken
  let rows := transactionsBetween db accountToken fromDate toDate (max 1 (min limit 100)).toNat
  return (.transactions accountToken fromDate toDate rows
    (receipt platform call.scope "transactions.list" (rows.map Transaction.id)),
    some { auditEvents := [auditRow (call.draws.rowId 0) call.scope "SUCCESS"
      [("transaction_count", .int rows.length)]] })

def verifyBeneficiary (beneficiaryToken : String) : Except BankError Outcome := do
  let value ← lookupBeneficiary db call.scope beneficiaryToken false
  return (.beneficiary value
    (receipt platform call.scope "beneficiaries.verify" [beneficiaryToken, value.status]),
    some { auditEvents := [auditRow (call.draws.rowId 0) call.scope "SUCCESS"
      [("beneficiary_token", .str beneficiaryToken)]] })

def getLimits (accountToken : String) : Except BankError Outcome := do
  let account ← lookupAccount db call.scope accountToken
  return (.limits account, some (accountAudit call accountToken))

/-! ## Transfers -/

def transferAction (scope : RuntimeScope) (sourceAccountToken beneficiaryToken : String) (amount : Int)
    (currency rail key : String) : Dict :=
  [("tenant_id", .str scope.tenantId), ("user_id", .str scope.userId),
    ("source_account_token", .str sourceAccountToken), ("beneficiary_token", .str beneficiaryToken),
    ("amount", .str (centsText amount)), ("currency", .str currency), ("rail", .str rail),
    ("purpose", .str scope.purpose), ("client_idempotency_key", .str key)]

def newTransfer (sourceAccountToken beneficiaryToken : String) (amount : Int)
    (currency rail key : String) : PreparedTransfer where
  proposedActionId := "act_" ++ call.draws.token
  tenantId := call.scope.tenantId
  userId := call.scope.userId
  sourceAccountToken := sourceAccountToken
  beneficiaryToken := beneficiaryToken
  amount := amount
  currency := currency
  rail := rail
  purpose := call.scope.purpose
  idempotencyKey := key
  canonicalActionHash := hash platform
    (transferAction call.scope sourceAccountToken beneficiaryToken amount currency rail key)
  status := .readyForGuardian
  expiresAt := call.clock.now 1 + minutes 15

def prepareTransfer (sourceAccountToken beneficiaryToken amountText currency rail key : String) :
    Except BankError Outcome := do
  let amount ← parseAmount amountText
  validatePayment currency rail key
  let value := newTransfer platform call sourceAccountToken beneficiaryToken amount currency rail key
  match db.preparedTransfers.find? fun row ↦
      row.tenantId == call.scope.tenantId && row.idempotencyKey == key with
  | some existing =>
    ensure (existing.canonicalActionHash == value.canonicalActionHash)
      (.domain "The idempotency key is bound to a different transfer.")
    return (.prepared existing, none)
  | none =>
    let account ← lookupAccount db call.scope sourceAccountToken
    let _ ← lookupBeneficiary db call.scope beneficiaryToken
    checkPaymentCapacity db account amount (call.clock.now 0)
    return (.prepared value, some
      { preparedTransfers := [.insert value]
        auditEvents := [auditRow (call.draws.rowId 0) call.scope "PREPARED"
          [("proposed_action_id", .str value.proposedActionId),
            ("action_hash", .str value.canonicalActionHash)]] })

/-- The settlement of a prepared transfer. -/
def newExecution (prepared : PreparedTransfer) (executionId : String) : TransferExecution where
  id := call.draws.rowId 0
  executionId := executionId
  tenantId := call.scope.tenantId
  userId := call.scope.userId
  proposedActionId := prepared.proposedActionId
  canonicalActionHash := prepared.canonicalActionHash
  guardianDecisionId := call.scope.guardianDecisionId
  guardianCallId := call.scope.callId
  requestHash := call.scope.requestHash
  amount := prepared.amount
  currency := prepared.currency
  bankReference := String.ofList (("XY" ++ call.draws.reference).toList.take 10)
  settledAt := call.clock.now 2

def journalId : String := "jrn_" ++ call.draws.journal

/-- One line of the journal of a settlement. -/
def newEntry (prepared : PreparedTransfer) (executionId : String) (line : Nat)
    (account : LedgerAccount) (entryType : Direction) : LedgerEntry where
  id := call.draws.rowId line
  tenantId := call.scope.tenantId
  executionId := executionId
  journalId := journalId call
  lineNumber := line
  ledgerAccount := account
  entryType := entryType
  amount := prepared.amount
  currency := prepared.currency

/-- The booking of a settlement. -/
def newDebit (account : Account) (prepared : PreparedTransfer) (executionId : String) : Transaction where
  id := call.draws.rowId 3
  accountToken := account.accountToken
  bookedOn := call.clock.today 0
  direction := .debit
  amount := prepared.amount
  currency := prepared.currency
  category := "GUARDIAN_PAYMENT"
  description := "Guardian-authorized synthetic transfer"
  reference := (newExecution call prepared executionId).bankReference

/-- The rows of a settlement. -/
def settlementWrites (account : Account) (prepared : PreparedTransfer) (executionId : String) :
    Writes :=
  let value := newExecution call prepared executionId
  let payload :=
    settledProjection platform value (journalId call) call.scope.authorizationConsumed
  { balances := some
      { accountToken := account.accountToken
        current := some (account.currentBalance - prepared.amount)
        available := some (account.availableBalance - prepared.amount) }
    preparedTransfers := [.update { prepared with status := .settled }]
    executions := [.insert value]
    transactions := [.insert (newDebit call account prepared executionId)]
    ledgerEntries :=
      [.insert (newEntry call prepared executionId 1 .disbursementClearing .debit),
        .insert (newEntry call prepared executionId 2 .bankCashControl .credit)]
    outboxEvents := [eventRow (call.draws.rowId 4) call.scope.tenantId "TRANSFER" executionId
      "bank.transfer.settled" payload]
    auditEvents := [auditRow (call.draws.rowId 5) call.scope "SETTLED" payload] }

def executeTransfer (proposedActionId canonicalActionHash executionId : String) :
    Except BankError Outcome :=
  match db.executions.find? fun row ↦
      row.tenantId == call.scope.tenantId && row.executionId == executionId with
  | some prior => do
    ensure (prior.canonicalActionHash == canonicalActionHash)
      (.domain "execution_id is bound to another action hash.")
    return (.execution prior, none)
  | none =>
    match db.executions.find? fun row ↦
        row.tenantId == call.scope.tenantId && row.proposedActionId == proposedActionId with
    | some prior => do
      ensure (prior.canonicalActionHash == canonicalActionHash)
        (.domain "Prepared action is already bound to another hash.")
      return (.execution prior, none)
    | none => do
      ensure (!db.executions.any fun row ↦
          row.tenantId == call.scope.tenantId && row.guardianCallId == call.scope.callId)
        (.security "Guardian call id has already changed bank state.")
      match db.preparedTransfers.find? fun row ↦ row.proposedActionId == proposedActionId &&
          row.tenantId == call.scope.tenantId && row.userId == call.scope.userId with
      | none => .error (.security "Prepared action and canonical hash do not match.")
      | some prepared =>
        ensure (prepared.canonicalActionHash == canonicalActionHash)
          (.security "Prepared action and canonical hash do not match.")
        ensure (prepared.status == .readyForGuardian && decide (call.clock.now 0 < prepared.expiresAt))
          (.domain "Prepared transfer is not executable.")
        let account ← lookupAccount db call.scope prepared.sourceAccountToken
        let _ ← lookupBeneficiary db call.scope prepared.beneficiaryToken
        checkPaymentCapacity db account prepared.amount (call.clock.now 1)
          (some prepared.proposedActionId)
        return (.settled (newExecution call prepared executionId) (journalId call)
          call.scope.authorizationConsumed,
          some (settlementWrites platform call account prepared executionId))

def transferStatus (proposedActionId : String) : Except BankError Outcome :=
  match db.executions.find? fun row ↦
      row.proposedActionId == proposedActionId && row.tenantId == call.scope.tenantId with
  | some execution => .ok (.execution execution, none)
  | none =>
    match db.preparedTransfers.find? fun row ↦ row.proposedActionId == proposedActionId &&
        row.tenantId == call.scope.tenantId && row.userId == call.scope.userId with
    | none => .error (.domain "Transfer was not found in the signed scope.")
    | some value =>
      if value.status = .readyForGuardian ∧ value.expiresAt ≤ call.clock.now 0 then
        let expired := { value with status := .expired }
        .ok (.prepared expired, some { preparedTransfers := [.update expired] })
      else .ok (.prepared value, none)

/-! ## Holds -/

def newHold (accountToken : String) (amount : Int) (currency key : String) : AccountHold where
  holdId := "hold_" ++ call.draws.token
  tenantId := call.scope.tenantId
  userId := call.scope.userId
  accountToken := accountToken
  amount := amount
  currency := currency
  purpose := call.scope.purpose
  idempotencyKey := key
  guardianCallId := call.scope.callId
  requestHash := call.scope.requestHash
  status := .active

def placeHold (accountToken amountText currency key : String) : Except BankError Outcome := do
  let amount ← parseAmount amountText
  match db.holds.find? fun row ↦ row.tenantId == call.scope.tenantId && row.idempotencyKey == key with
  | some existing =>
    ensure (existing.accountToken == accountToken && existing.amount == amount)
      (.domain "Hold idempotency parameter drift detected.")
    return (.hold existing, none)
  | none =>
    let account ← lookupAccount db call.scope accountToken
    ensure (currency == account.currency && decide (amount ≤ account.availableBalance))
      (.domain "Hold exceeds available balance or currency differs.")
    let value := newHold call accountToken amount currency key
    return (.hold value, some
      { balances := some
          { accountToken := account.accountToken
            available := some (account.availableBalance - amount) }
        holds := [.insert value]
        outboxEvents := [eventRow (call.draws.rowId 0) call.scope.tenantId "HOLD" value.holdId
          "bank.hold.placed" (holdProjection platform value)]
        auditEvents := [auditRow (call.draws.rowId 1) call.scope "PLACED"
          [("hold_id", .str value.holdId)]] })

def AccountHold.release (value : AccountHold) (now : Time) (callId : String) : AccountHold :=
  { value with status := .released, releasedAt := some now, releaseGuardianCallId := some callId }

def releaseHold (holdId : String) : Except BankError Outcome :=
  match db.holds.find? fun row ↦ row.holdId == holdId && row.tenantId == call.scope.tenantId &&
      row.userId == call.scope.userId with
  | none => .error (.domain "Hold was not found.")
  | some value =>
    if value.status = .released then .ok (.hold value, none)
    else do
      ensure (!truthy value.releaseGuardianCallId)
        (.security "Hold release was already consumed.")
      let account ← lookupAccount db call.scope value.accountToken
      let released := value.release (call.clock.now 0) call.scope.callId
      return (.hold released, some
        { balances := some
            { accountToken := account.accountToken
              available := some (account.availableBalance + value.amount) }
          holds := [.update released]
          outboxEvents := [eventRow (call.draws.rowId 0) call.scope.tenantId "HOLD" holdId
            "bank.hold.released" (holdProjection platform released)]
          auditEvents := [auditRow (call.draws.rowId 1) call.scope "RELEASED"
            [("hold_id", .str holdId)]] })

/-! ## Beneficiary changes -/

def changeAction (beneficiaryToken ownerName maskedAccount bankName currency key : String) : Dict :=
  [("beneficiary_token", .str beneficiaryToken), ("owner_name", .str ownerName),
    ("masked_account", .str maskedAccount), ("bank_name", .str bankName), ("currency", .str currency),
    ("idempotency_key", .str key)]

def newChange (beneficiaryToken ownerName maskedAccount bankName currency key : String) :
    PreparedBeneficiaryChange where
  changeId := "bchg_" ++ call.draws.token
  tenantId := call.scope.tenantId
  userId := call.scope.userId
  beneficiaryToken := beneficiaryToken
  requestedOwnerName := ownerName
  requestedMaskedAccount := maskedAccount
  requestedBankName := bankName
  currency := currency
  idempotencyKey := key
  canonicalActionHash :=
    hash platform (changeAction beneficiaryToken ownerName maskedAccount bankName currency key)
  status := .readyForGuardian
  expiresAt := call.clock.now 0 + minutes 15

def prepareBeneficiaryChange (beneficiaryToken ownerName maskedAccount bankName currency key : String) :
    Except BankError Outcome := do
  let value := newChange platform call beneficiaryToken ownerName maskedAccount bankName currency key
  match db.beneficiaryChanges.find? fun row ↦
      row.tenantId == call.scope.tenantId && row.idempotencyKey == key with
  | some existing =>
    ensure (existing.canonicalActionHash == value.canonicalActionHash)
      (.domain "Beneficiary change parameter drift detected.")
    return (.change existing none, none)
  | none =>
    return (.change value none, some
      { beneficiaryChanges := [.insert value]
        auditEvents := [auditRow (call.draws.rowId 0) call.scope "PREPARED"
          [("change_id", .str value.changeId)]] })

/-- The beneficiary that an executed change leaves. -/
def PreparedBeneficiaryChange.target (value : PreparedBeneficiaryChange) (tenantId : String) :
    Beneficiary where
  beneficiaryToken := value.beneficiaryToken
  tenantId := tenantId
  ownerName := value.requestedOwnerName
  maskedAccount := value.requestedMaskedAccount
  bankName := value.requestedBankName
  currency := value.currency
  verified := true
  status := "ACTIVE"

def PreparedBeneficiaryChange.execute (value : PreparedBeneficiaryChange) (callId : String) :
    PreparedBeneficiaryChange :=
  { value with status := .executed, guardianCallId := some callId }

/-- The row that an executed change adds or overwrites. -/
def beneficiaryWrite (value : PreparedBeneficiaryChange) : Except BankError (RowWrite Beneficiary) :=
  match db.beneficiaries.find? fun row ↦ row.beneficiaryToken == value.beneficiaryToken with
  | none => .ok (.insert (value.target call.scope.tenantId))
  | some stored =>
    if stored.tenantId ≠ call.scope.tenantId then
      .error (.security "Beneficiary belongs to another tenant.")
    else .ok (.update (value.target call.scope.tenantId))

def executeBeneficiaryChange (changeId canonicalActionHash : String) : Except BankError Outcome :=
  match db.beneficiaryChanges.find? fun row ↦
      row.changeId == changeId && row.tenantId == call.scope.tenantId with
  | none => .error (.security "Beneficiary change hash mismatch.")
  | some value => do
    ensure (value.canonicalActionHash == canonicalActionHash)
      (.security "Beneficiary change hash mismatch.")
    if value.status = .executed then return (.change value none, none)
    else
      ensure (value.status == .readyForGuardian && decide (call.clock.now 0 < value.expiresAt))
        (.domain "Beneficiary change is not executable.")
      let write ← beneficiaryWrite db call value
      let executed := value.execute call.scope.callId
      let decision := some call.scope.guardianDecisionId
      return (.change executed decision, some
        { beneficiaries := [write]
          beneficiaryChanges := [.update executed]
          outboxEvents := [eventRow (call.draws.rowId 0) call.scope.tenantId "BENEFICIARY"
            value.beneficiaryToken "bank.beneficiary.changed"
            (beneficiaryChangeProjection platform executed decision)]
          auditEvents := [auditRow (call.draws.rowId 1) call.scope "EXECUTED"
            [("change_id", .str changeId)]] })

/-! ## Reversals -/

def reversalAction (transferExecutionId : String) (amount : Int) (reason key : String) : Dict :=
  [("transfer_execution_id", .str transferExecutionId), ("amount", .str (centsText amount)),
    ("reason", .str reason), ("idempotency_key", .str key)]

def newReversal (execution : TransferExecution) (transferExecutionId : String) (amount : Int)
    (reason key : String) : PreparedReversal where
  reversalId := "rev_" ++ call.draws.token
  tenantId := call.scope.tenantId
  userId := call.scope.userId
  transferExecutionId := transferExecutionId
  amount := amount
  currency := execution.currency
  reason := reason
  idempotencyKey := key
  canonicalActionHash := hash platform (reversalAction transferExecutionId amount reason key)
  status := .reviewRequired
  expiresAt := call.clock.now 0 + minutes 60

def findExecution (tenantId executionId : String) : Option TransferExecution :=
  db.executions.find? fun row ↦ row.executionId == executionId && row.tenantId == tenantId

def prepareReversal (transferExecutionId amountText reason key : String) : Except BankError Outcome := do
  let amount ← parseAmount amountText
  match findExecution db call.scope.tenantId transferExecutionId with
  | none => .error unsupported
  | some execution =>
    ensure (decide (amount ≤ execution.amount)) unsupported
    let value := newReversal platform call execution transferExecutionId amount reason key
    match db.reversals.find? fun row ↦
        row.tenantId == call.scope.tenantId && row.idempotencyKey == key with
    | some existing =>
      ensure (existing.canonicalActionHash == value.canonicalActionHash)
        (.domain "Reversal parameter drift detected.")
      return (.reversal existing none, none)
    | none =>
      return (.reversal value none, some
        { reversals := [.insert value]
          auditEvents := [auditRow (call.draws.rowId 0) call.scope "PREPARED"
            [("reversal_id", .str value.reversalId)]] })
where
  unsupported : BankError := .domain "Settled transfer does not support this reversal amount."

def PreparedReversal.settle (value : PreparedReversal) (reviewerApprovalId callId reference : String) :
    PreparedReversal :=
  { value with
    status := .settled
    reviewerApprovalId := some reviewerApprovalId
    guardianCallId := some callId
    bankReference := some reference }

def reversalReference : String := String.ofList (("RV" ++ call.draws.reference).toList.take 10)

/-- The booking of a settled reversal. -/
def newCredit (account : Account) (value : PreparedReversal) : Transaction where
  id := call.draws.rowId 0
  accountToken := account.accountToken
  bookedOn := call.clock.today 0
  direction := .credit
  amount := value.amount
  currency := value.currency
  category := "PAYMENT_REVERSAL"
  description := "Approved compensating bank reversal"
  reference := reversalReference call

/-- The rows of a settled reversal. -/
def reversalWrites (account : Account) (value : PreparedReversal) (reviewerApprovalId : String) :
    Writes :=
  let settled := value.settle reviewerApprovalId call.scope.callId (reversalReference call)
  { balances := some
      { accountToken := account.accountToken
        current := some (account.currentBalance + value.amount)
        available := some (account.availableBalance + value.amount) }
    reversals := [.update settled]
    transactions := [.insert (newCredit call account value)]
    outboxEvents := [eventRow (call.draws.rowId 1) call.scope.tenantId "REVERSAL" value.reversalId
      "bank.reversal.settled" (reversalProjection settled (some call.scope.guardianDecisionId))]
    auditEvents := [auditRow (call.draws.rowId 2) call.scope "SETTLED"
      [("reversal_id", .str value.reversalId)]] }

def executeReversal (reversalId canonicalActionHash reviewerApprovalId : String) :
    Except BankError Outcome := do
  ensure (!blank reviewerApprovalId)
    (.security "A reviewer approval id is required for reversal.")
  match db.reversals.find? fun row ↦
      row.reversalId == reversalId && row.tenantId == call.scope.tenantId with
  | none => .error (.security "Reversal hash mismatch.")
  | some value =>
    ensure (value.canonicalActionHash == canonicalActionHash) (.security "Reversal hash mismatch.")
    if value.status = .settled then return (.reversal value none, none)
    else
      ensure (value.status == .reviewRequired && decide (call.clock.now 0 < value.expiresAt))
        (.domain "Reversal is not executable.")
      match findExecution db call.scope.tenantId value.transferExecutionId with
      | none => .error (.domain "Original transfer execution was not found.")
      | some execution =>
        match db.preparedTransfers.find? fun row ↦
            row.proposedActionId == execution.proposedActionId with
        | none => .error (.attributeError
            "'NoneType' object has no attribute 'source_account_token'")
        | some prepared =>
          let account ← lookupAccount db call.scope prepared.sourceAccountToken
          return (.reversal (value.settle reviewerApprovalId call.scope.callId (reversalReference call))
            (some call.scope.guardianDecisionId),
            some (reversalWrites call account value reviewerApprovalId))

/-! ## The machine -/

def serve : Except BankError Outcome :=
  match call.op with
  | .createConsent tokens kinds validDays key =>
    createConsent platform db call tokens kinds validDays key
  | .getConsent consentId => getConsent db call consentId
  | .revokeConsent consentId => revokeConsent db call consentId
  | .fetchInformation consentId kind token key fromDate toDate =>
    fetchInformation platform db call consentId kind token key fromDate toDate
  | .listAccounts => listAccounts platform db call
  | .getAccount token => getAccount platform db call token
  | .getBalance token => getBalance platform db call token
  | .listTransactions token fromDate toDate limit =>
    listTransactions platform db call token fromDate toDate limit
  | .verifyBeneficiary token => verifyBeneficiary platform db call token
  | .getLimits token => getLimits db call token
  | .prepareTransfer source beneficiary amount currency rail key =>
    prepareTransfer platform db call source beneficiary amount currency rail key
  | .executeTransfer action actionHash execution =>
    executeTransfer platform db call action actionHash execution
  | .transferStatus action => transferStatus db call action
  | .placeHold token amount currency key => placeHold platform db call token amount currency key
  | .releaseHold holdId => releaseHold platform db call holdId
  | .prepareBeneficiaryChange token ownerName maskedAccount bankName currency key =>
    prepareBeneficiaryChange platform db call token ownerName maskedAccount bankName currency key
  | .executeBeneficiaryChange changeId actionHash =>
    executeBeneficiaryChange platform db call changeId actionHash
  | .prepareReversal execution amount reason key =>
    prepareReversal platform db call execution amount reason key
  | .executeReversal reversalId actionHash approval =>
    executeReversal db call reversalId actionHash approval

/-- The end of a session: its rows are committed, or the database refuses them and the call raises. -/
def close (db : BankDb) (refused : Bool) : Except BankError Outcome → Except BankError BankAnswer × BankDb
  | .error failure => (.error failure, db)
  | .ok (answer, none) => (.ok answer, db)
  | .ok (answer, some writes) =>
    if !refused && writes.accepted db then (.ok answer, writes.apply db) else (.error .integrity, db)

/-- The bank, one call after the other. -/
def bank : Machine BankDb BankCall (Except BankError BankAnswer) where
  step db call := close db call.refused (serve platform db call)

end Xyena.Bank
