import Xyena.Bank.Writes
import Xyena.Foundation.Decimal
import Xyena.Foundation.Runs

/-!
# The operations of the bank

`BankDemoService` of `demos/bank-mcp/bank_demo/service.py`. An operation reads
the tables, raises, or returns an answer together with the rows it has added or
changed; its session commits these rows in one transaction. Every reading of the
clock and every identifier that is drawn is an input of the call, so nothing is
assumed about them.
-/

namespace Xyena.Bank

open Xyena.Foundation Xyena.Contracts Xyena.Gateway

/-! ## Calls -/

/-- What the bank takes from its process. -/
structure BankPlatform extends ServerPlatform where
  isoformat : Time → String
  isodate : Day → String

/-- The readings of the two clocks in one call, in the order in which they are made. -/
structure Clock where
  now : Nat → Time
  today : Nat → Day

/-- What one call draws: the 18 digits of a new identifier, those of a journal, the eight digits of a
reference, and row identifiers in the order in which they are drawn. -/
structure Draws where
  token : String
  journal : String
  reference : String
  rowId : Nat → String

inductive BankOp where
  | createConsent (accountTokens informationTypes : List String) (validDays : Int)
      (clientIdempotencyKey : String)
  | getConsent (consentId : String)
  | revokeConsent (consentId : String)
  | fetchInformation (consentId informationType accountToken clientIdempotencyKey : String)
      (fromDate toDate : Option Day)
  | listAccounts
  | getAccount (accountToken : String)
  | getBalance (accountToken : String)
  | listTransactions (accountToken : String) (fromDate toDate : Day) (limit : Int)
  | verifyBeneficiary (beneficiaryToken : String)
  | getLimits (accountToken : String)
  | prepareTransfer (sourceAccountToken beneficiaryToken amount currency rail
      clientIdempotencyKey : String)
  | executeTransfer (proposedActionId canonicalActionHash executionId : String)
  | transferStatus (proposedActionId : String)
  | placeHold (accountToken amount currency clientIdempotencyKey : String)
  | releaseHold (holdId : String)
  | prepareBeneficiaryChange (beneficiaryToken ownerName maskedAccount bankName currency
      clientIdempotencyKey : String)
  | executeBeneficiaryChange (changeId canonicalActionHash : String)
  | prepareReversal (transferExecutionId amount reason clientIdempotencyKey : String)
  | executeReversal (reversalId canonicalActionHash reviewerApprovalId : String)

/-- One call of the service. `refused` says whether the database refuses the rows of the call for a
reason outside its keys, such as the width of a column or a lost connection. -/
structure BankCall where
  scope : RuntimeScope
  op : BankOp
  clock : Clock
  draws : Draws
  refused : Bool := false

/-! ## Answers -/

/-- The `data` of a fetched piece of information. -/
inductive Information where
  | account (row : Account)
  | balance (row : Account) (asOf : Time)
  | transactions (rows : List Transaction)

inductive BankAnswer where
  | consent (row : AAConsent)
  | information (requestId consentId : String) (kind : InformationType) (data : Information)
      (receipt : String)
  | accounts (rows : List Account) (receipt : String)
  | account (row : Account) (asOf : Time) (receipt : String)
  | balance (row : Account) (asOf : Time) (receipt : String)
  | transactions (accountToken : String) (fromDate toDate : Day) (rows : List Transaction)
      (receipt : String)
  | beneficiary (row : Beneficiary) (receipt : String)
  | limits (row : Account)
  | prepared (row : PreparedTransfer)
  | execution (row : TransferExecution)
  | settled (row : TransferExecution) (journalId : String) (authorizationConsumed : Bool)
  | hold (row : AccountHold)
  | change (row : PreparedBeneficiaryChange) (guardianDecisionId : Option String)
  | reversal (row : PreparedReversal) (guardianDecisionId : Option String)

def flags (values : List String) : Json := .strings values

section Projections

variable (platform : BankPlatform)

def accountProjection (value : Account) : Dict :=
  [("account_token", .str value.accountToken), ("display_name", .str value.displayName),
    ("masked_number", .str value.maskedNumber), ("account_type", .str value.accountType),
    ("currency", .str value.currency), ("status", .str value.status)]

def balanceProjection (value : Account) (asOf : Time) : Dict :=
  [("account_token", .str value.accountToken), ("currency", .str value.currency),
    ("current_balance", .str (centsText value.currentBalance)),
    ("available_balance", .str (centsText value.availableBalance)),
    ("as_of", .str (platform.isoformat asOf))]

def transactionProjection (value : Transaction) : Dict :=
  [("transaction_id", .str value.id), ("booked_on", .str (platform.isodate value.bookedOn)),
    ("direction", .str value.direction.value), ("amount", .str (centsText value.amount)),
    ("currency", .str value.currency), ("category", .str value.category),
    ("description", .str value.description), ("reference", .str value.reference)]

/-- The version of a consent is filled in when it is flushed. -/
def consentProjection (value : AAConsent) (version : Option Int) : Dict :=
  [("status", .str value.status.value), ("consent_id", .str value.consentId),
    ("purpose", .str value.purpose), ("account_tokens", .strings value.accountTokens),
    ("information_types", .strings (value.informationTypes.map InformationType.value)),
    ("valid_from", .str (platform.isoformat value.validFrom)),
    ("valid_until", .str (platform.isoformat value.validUntil)),
    ("version", (version.map Json.int).getD .null),
    ("security_flags", flags ["SYNTHETIC_DATA", "REVOCABLE_CONSENT"])]

def preparedProjection (value : PreparedTransfer) : Dict :=
  [("status", .str value.status.value), ("proposed_action_id", .str value.proposedActionId),
    ("canonical_action_hash", .str value.canonicalActionHash),
    ("source_account_token", .str value.sourceAccountToken),
    ("beneficiary_token", .str value.beneficiaryToken), ("amount", .str (centsText value.amount)),
    ("currency", .str value.currency), ("rail", .str value.rail), ("purpose", .str value.purpose),
    ("expires_at", .str (platform.isoformat value.expiresAt)), ("execution_available", .bool true),
    ("execution_tool", .str "bank.transfers.execute"),
    ("security_flags", flags ["SYNTHETIC_DATA", "GUARDIAN_REQUIRED"])]

def executionProjection (value : TransferExecution) : Dict :=
  [("status", .str "SETTLED"), ("execution_id", .str value.executionId),
    ("proposed_action_id", .str value.proposedActionId),
    ("canonical_action_hash", .str value.canonicalActionHash),
    ("amount", .str (centsText value.amount)), ("currency", .str value.currency),
    ("bank_reference", .str value.bankReference),
    ("settled_at", .str (platform.isoformat value.settledAt)),
    ("guardian_decision_id", .str value.guardianDecisionId), ("authorization_consumed", .bool true),
    ("security_flags", flags ["SYNTHETIC_DATA", "GUARDIAN_AUTHORIZED"])]

/-- The projection of an execution that has just settled, with the values that are set over it. -/
def settledProjection (value : TransferExecution) (journalId : String) (authorizationConsumed : Bool) :
    Dict :=
  (executionProjection platform value).map (fun field ↦
      if field.1 = "authorization_consumed" then (field.1, .bool authorizationConsumed) else field) ++
    [("journal_id", .str journalId), ("ledger_balanced", .bool true)]

def holdProjection (value : AccountHold) : Dict :=
  [("status", .str value.status.value), ("hold_id", .str value.holdId),
    ("account_token", .str value.accountToken), ("amount", .str (centsText value.amount)),
    ("currency", .str value.currency), ("purpose", .str value.purpose),
    ("released_at", .ofOption (value.releasedAt.map platform.isoformat)),
    ("security_flags", flags ["SYNTHETIC_DATA", "GUARDIAN_AUTHORIZED"])]

/-- The decision that an executed request is answered with. -/
def decisionField : Option String → Dict
  | none => []
  | some decision => [("guardian_decision_id", .str decision)]

def beneficiaryChangeProjection (value : PreparedBeneficiaryChange) (decision : Option String) : Dict :=
  [("status", .str value.status.value), ("change_id", .str value.changeId),
    ("beneficiary_token", .str value.beneficiaryToken),
    ("canonical_action_hash", .str value.canonicalActionHash),
    ("expires_at", .str (platform.isoformat value.expiresAt)),
    ("security_flags", flags ["SYNTHETIC_DATA", "GUARDIAN_REQUIRED"])] ++ decisionField decision

def reversalProjection (value : PreparedReversal) (decision : Option String) : Dict :=
  [("status", .str value.status.value), ("reversal_id", .str value.reversalId),
    ("transfer_execution_id", .str value.transferExecutionId),
    ("amount", .str (centsText value.amount)), ("currency", .str value.currency),
    ("reason", .str value.reason), ("canonical_action_hash", .str value.canonicalActionHash),
    ("reviewer_approval_id", .ofOption value.reviewerApprovalId),
    ("bank_reference", .ofOption value.bankReference),
    ("security_flags", flags ["SYNTHETIC_DATA", "REVIEWER_AND_GUARDIAN_REQUIRED"])] ++
    decisionField decision

def Information.dump : Information → Json
  | .account row => .obj (accountProjection row)
  | .balance row asOf => .obj (balanceProjection platform row asOf)
  | .transactions rows => .arr (rows.map fun row ↦ .obj (transactionProjection platform row))

/-- The fields of `first` with those of `second` set over them. -/
def mergeFields (first second : Dict) : Dict :=
  first.filter (fun field ↦ (second.lookup field.1).isNone) ++ second

/-- The dictionary that a call returns. -/
def BankAnswer.dump : BankAnswer → Dict
  | .consent row => consentProjection platform row (some row.version)
  | .information requestId consentId kind data receipt =>
    [("status", .str "COMPLETED"), ("request_id", .str requestId), ("consent_id", .str consentId),
      ("information_type", .str kind.value), ("data", data.dump platform),
      ("evidence_receipt_id", .str receipt),
      ("security_flags", flags ["SYNTHETIC_DATA", "CONSENT_SCOPED"])]
  | .accounts rows receipt =>
    [("status", .str "SUCCESS"), ("accounts", .arr (rows.map fun row ↦ .obj (accountProjection row))),
      ("evidence_receipt_id", .str receipt),
      ("security_flags", flags ["SYNTHETIC_DATA", "CONSENT_SCOPED"])]
  | .account row asOf receipt =>
    mergeFields (accountProjection row) (balanceProjection platform row asOf) ++
      [("evidence_receipt_id", .str receipt),
        ("security_flags", flags ["SYNTHETIC_DATA", "CONSENT_SCOPED"])]
  | .balance row asOf receipt =>
    [("status", .str "SUCCESS")] ++ balanceProjection platform row asOf ++
      [("evidence_receipt_id", .str receipt),
        ("security_flags", flags ["SYNTHETIC_DATA", "CONSENT_SCOPED"])]
  | .transactions accountToken fromDate toDate rows receipt =>
    [("status", .str "SUCCESS"), ("account_token", .str accountToken),
      ("from_date", .str (platform.isodate fromDate)), ("to_date", .str (platform.isodate toDate)),
      ("transactions", .arr (rows.map fun row ↦ .obj (transactionProjection platform row))),
      ("evidence_receipt_id", .str receipt),
      ("security_flags", flags ["SYNTHETIC_DATA", "CONSENT_SCOPED"])]
  | .beneficiary row receipt =>
    [("status", .str "SUCCESS"), ("beneficiary_token", .str row.beneficiaryToken),
      ("owner_name", .str row.ownerName), ("masked_account", .str row.maskedAccount),
      ("bank_name", .str row.bankName), ("currency", .str row.currency),
      ("verified", .bool row.verified), ("beneficiary_status", .str row.status),
      ("evidence_receipt_id", .str receipt),
      ("security_flags",
        flags (["SYNTHETIC_DATA"] ++ if row.verified then [] else ["BENEFICIARY_UNVERIFIED"]))]
  | .limits row =>
    [("status", .str "SUCCESS"), ("account_token", .str row.accountToken),
      ("currency", .str row.currency), ("per_transfer", .str (centsText row.perTransferLimit)),
      ("per_day", .str (centsText row.dailyLimit)), ("allowed_rails", .strings ["DEMO_BANK_RAIL"]),
      ("execution_available", .bool true),
      ("execution_boundary", .str "GUARDIAN_AUTHORIZED_MCP_ONLY"),
      ("security_flags", flags ["SYNTHETIC_DATA"])]
  | .prepared row => preparedProjection platform row
  | .execution row => executionProjection platform row
  | .settled row journalId consumed => settledProjection platform row journalId consumed
  | .hold row => holdProjection platform row
  | .change row decision => beneficiaryChangeProjection platform row decision
  | .reversal row decision => reversalProjection row decision

end Projections

/-! ## Lookups and checks -/

def lookupAccount (db : BankDb) (scope : RuntimeScope) (token : String) : Except BankError Account :=
  match db.accounts.find? fun row ↦ row.accountToken == token && row.tenantId == scope.tenantId &&
      row.userId == scope.userId && row.status == "ACTIVE" with
  | some row => .ok row
  | none => .error (.domain "Account was not found in the signed tenant/user scope.")

def lookupBeneficiary (db : BankDb) (scope : RuntimeScope) (token : String) (active : Bool := true) :
    Except BankError Beneficiary :=
  match db.beneficiaries.find? fun row ↦ row.beneficiaryToken == token &&
      row.tenantId == scope.tenantId with
  | none => .error unverified
  | some row => if active && (!row.verified || row.status != "ACTIVE") then .error unverified else .ok row
where
  unverified : BankError :=
    .domain "Beneficiary is not verified and active in the signed tenant."

def lookupConsent (db : BankDb) (scope : RuntimeScope) (consentId : String) (now : Time)
    (requireActive : Bool := true) : Except BankError AAConsent :=
  match db.consents.find? fun row ↦ row.consentId == consentId && row.tenantId == scope.tenantId &&
      row.userId == scope.userId with
  | none => .error (.security "AA consent was not found in the signed scope.")
  | some row =>
    if requireActive && (row.status != .active || decide (row.validUntil ≤ now)) then
      .error (.security "AA consent is not active.")
    else .ok row

/-- The first active consent of a user that covers a kind of information and, when one is given, an
account. The clock is read again for every row. -/
def requireAnyConsent (db : BankDb) (scope : RuntimeScope) (kind : InformationType) (now : Nat → Time)
    (accountToken : Option String := none) : Except BankError AAConsent :=
  let rows := db.consents.filter fun row ↦ row.tenantId == scope.tenantId &&
    row.userId == scope.userId && row.status == .active
  match rows.zipIdx.find? fun item ↦ decide (now item.2 < item.1.validUntil) &&
      item.1.informationTypes.contains kind && accountToken.all item.1.accountTokens.contains with
  | some item => .ok item.1
  | none => .error (.security "An active AA consent covering this information is required.")

/-- The amounts of the executable preparations of an account. -/
def pendingAmount (db : BankDb) (account : Account) (now : Time) (excludeAction : Option String) :
    Int :=
  Table.sum PreparedTransfer.amount (db.preparedTransfers.filter fun row ↦
    row.tenantId == account.tenantId && row.sourceAccountToken == account.accountToken &&
      row.status == .readyForGuardian && decide (now < row.expiresAt) &&
      excludeAction.all (row.proposedActionId != ·))

/-- An empty action identifier excludes nothing. -/
def checkPaymentCapacity (db : BankDb) (account : Account) (amount : Int) (now : Time)
    (excludeAction : Option String := none) : Except BankError Unit :=
  if amount > account.perTransferLimit || amount > account.availableBalance then
    .error (.domain "Transfer exceeds bank limits or available balance.")
  else if pendingAmount db account now (excludeAction.filter (· ≠ "")) + amount > account.dailyLimit then
    .error (.domain "Transfer plus active preparations exceeds the daily limit.")
  else .ok ()

def parseAmount (value : String) : Except BankError Int :=
  positiveAmount (.domain "Amount must be a decimal value.") (.domain "Amount must be greater than zero.") value

def validatePayment (currency rail key : String) : Except BankError Unit :=
  if currency ≠ "INR" || rail ≠ "DEMO_BANK_RAIL" then
    .error (.domain "The synthetic bank supports INR over DEMO_BANK_RAIL.")
  else if key.toList.length < 8 || 200 < key.toList.length then
    .error (.domain "client_idempotency_key must contain 8 to 200 characters.")
  else .ok ()

/-- `text.upper()`, as far as it can give one of the kinds of information. -/
def upperChar (char : Char) : Char :=
  if char = 'ı' then 'I' else if char = 'ſ' then 'S' else char.toUpper

def informationType (text : String) : Option InformationType :=
  let upper := String.ofList (text.toList.map upperChar)
  [InformationType.account, .balance, .transactions].find? fun kind ↦ kind.value == upper

/-- `sorted(set(values))`. -/
def sortedSet (values : List String) : List String := values.dedup.insertionSort (· ≤ ·)

section Digests

variable (platform : BankPlatform)

/-- The canonical text of an action. -/
def actionText (value : Dict) : String := Json.dumps true (.obj value)

def hash (value : Dict) : String := platform.sha256 (actionText value)

def receipt (scope : RuntimeScope) (kind : String) (refs : List String) : String :=
  let body := Json.dumps true (.obj [("call_id", .str scope.callId), ("kind", .str kind),
    ("refs", .strings refs)])
  "evr_" ++ String.ofList ((platform.hmac platform.mcpToken body).toList.take 24)

end Digests

/-! ## Audit and outbox rows -/

def auditRow (id : String) (scope : RuntimeScope) (outcome : String) (detail : Dict) :
    RowWrite AuditEvent :=
  .insert
    { id := id
      tenantId := scope.tenantId
      userId := scope.userId
      callId := scope.callId
      toolName := scope.canonicalName
      purpose := scope.purpose
      outcome := outcome
      detail := detail }

def eventRow (id tenantId aggregateType aggregateId eventType : String) (payload : Dict) :
    RowWrite BankOutboxEvent :=
  .insert
    { id := id
      tenantId := tenantId
      aggregateType := aggregateType
      aggregateId := aggregateId
      eventType := eventType
      payload := payload }

/-- An answer with the rows that the session commits; a session without rows commits nothing. -/
abbrev Outcome := BankAnswer × Option Writes

def days (count : Int) : Time := seconds (86400 * count)

end Xyena.Bank
