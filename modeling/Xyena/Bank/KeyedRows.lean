import Mathlib.Data.List.Infix
import Xyena.Bank.Invariant
import Xyena.Foundation.Session

/-!
# Rows under a client's key

Six operations of the bank take an idempotency key from their client. Each of
them looks for a row of its tenant under the key before it adds one. What such
a row keeps of the call that has created it is written here as one record for
all six tables. These records are never changed or lost, and within a tenant
there is at most one for a key.
-/

namespace Xyena.Bank

open Xyena.Foundation Xyena.Contracts

/-- The operations that a client may repeat under a key. -/
inductive KeyedKind where
  | consent
  | information
  | transfer
  | hold
  | change
  | reversal
deriving DecidableEq, Repr

/-- What a later call under the same key is compared with. A hold keeps its columns, every other row a
digest. -/
inductive Terms where
  | digest (text : String)
  | hold (accountToken : String) (amount : Int) (currency : String)
deriving DecidableEq, Repr

/-- Whether a call with the terms `new` is taken for a replay of the row with the terms `old`. -/
def Terms.Matches (new old : Terms) : Prop :=
  match new, old with
  | .digest first, .digest second => second = first
  | .hold token amount _, .hold token' amount' _ => token' = token ∧ amount' = amount
  | _, _ => False

/-- What a row keeps of the call that has created it. -/
structure Registered where
  rowId : String
  tenantId : String
  userId : String
  key : String
  terms : Terms
deriving DecidableEq, Repr

def AAConsent.registered (row : AAConsent) : Registered :=
  ⟨row.consentId, row.tenantId, row.userId, row.idempotencyKey, .digest row.requestHash⟩

def FinancialInformationRequest.registered (row : FinancialInformationRequest) : Registered :=
  ⟨row.requestId, row.tenantId, row.userId, row.idempotencyKey, .digest row.requestHash⟩

def PreparedTransfer.registered (row : PreparedTransfer) : Registered :=
  ⟨row.proposedActionId, row.tenantId, row.userId, row.idempotencyKey,
    .digest row.canonicalActionHash⟩

def AccountHold.registered (row : AccountHold) : Registered :=
  ⟨row.holdId, row.tenantId, row.userId, row.idempotencyKey,
    .hold row.accountToken row.amount row.currency⟩

def PreparedBeneficiaryChange.registered (row : PreparedBeneficiaryChange) : Registered :=
  ⟨row.changeId, row.tenantId, row.userId, row.idempotencyKey, .digest row.canonicalActionHash⟩

def PreparedReversal.registered (row : PreparedReversal) : Registered :=
  ⟨row.reversalId, row.tenantId, row.userId, row.idempotencyKey, .digest row.canonicalActionHash⟩

/-- The rows of one of the six tables. -/
def BankDb.registered (db : BankDb) : KeyedKind → List Registered
  | .consent => db.consents.map AAConsent.registered
  | .information => db.informationRequests.map FinancialInformationRequest.registered
  | .transfer => db.preparedTransfers.map PreparedTransfer.registered
  | .hold => db.holds.map AccountHold.registered
  | .change => db.beneficiaryChanges.map PreparedBeneficiaryChange.registered
  | .reversal => db.reversals.map PreparedReversal.registered

/-! ## One row for a key -/

/-- Rows of a table that meets its constraints are told by their primary key and by their client's key. -/
theorem registered_unique_of_meets {Row : Type} {constraints : Constraints Row String} {rows : List Row}
    {column : Row → Registered} (h : constraints.Meets rows)
    (hrowId : ∀ row, constraints.key row = (column row).rowId)
    (hclash : ∀ first second, constraints.clash first second = false →
      (column first).tenantId = (column second).tenantId → (column first).key ≠ (column second).key)
    {first second : Registered} (hfirst : first ∈ rows.map column) (hsecond : second ∈ rows.map column)
    (hsame : first.rowId = second.rowId ∨ first.tenantId = second.tenantId ∧ first.key = second.key) :
    first = second := by
  obtain ⟨row, hrow, rfl⟩ := List.mem_map.mp hfirst
  obtain ⟨other, hother, rfl⟩ := List.mem_map.mp hsecond
  by_cases hkey : constraints.key row = constraints.key other
  · exact congrArg column (Table.eq_of_key h.keys hrow hother hkey)
  · rcases hsame with hid | ⟨htenant, hsameKey⟩
    · rw [← hrowId, ← hrowId] at hid
      exact absurd hid hkey
    · exact absurd hsameKey (hclash row other (h.unique row hrow other hother hkey) htenant)

theorem BankDb.WellKeyed.registered_unique {db : BankDb} (h : db.WellKeyed) {kind : KeyedKind}
    {first second : Registered} (hfirst : first ∈ db.registered kind)
    (hsecond : second ∈ db.registered kind)
    (hsame : first.rowId = second.rowId ∨ first.tenantId = second.tenantId ∧ first.key = second.key) :
    first = second := by
  cases kind with
  | consent =>
    refine registered_unique_of_meets h.consents (fun _ ↦ rfl) (fun _ _ hclash ↦ ?_) hfirst hsecond hsame
    exact tenantClash_eq_false.mp hclash
  | information =>
    refine registered_unique_of_meets h.informationRequests (fun _ ↦ rfl) (fun _ _ hclash ↦ ?_) hfirst
      hsecond hsame
    exact tenantClash_eq_false.mp hclash
  | transfer =>
    refine registered_unique_of_meets h.preparedTransfers (fun _ ↦ rfl) (fun _ _ hclash ↦ ?_) hfirst
      hsecond hsame
    exact tenantClash_eq_false.mp hclash
  | hold =>
    refine registered_unique_of_meets h.holds (fun _ ↦ rfl) (fun _ _ hclash ↦ ?_) hfirst hsecond hsame
    simp only [holdConstraints, Bool.or_eq_false_iff, tenantClash_eq_false] at hclash
    exact hclash.1.1
  | change =>
    refine registered_unique_of_meets h.beneficiaryChanges (fun _ ↦ rfl) (fun _ _ hclash ↦ ?_) hfirst
      hsecond hsame
    simp only [changeConstraints, Bool.or_eq_false_iff, tenantClash_eq_false] at hclash
    exact hclash.1
  | reversal =>
    refine registered_unique_of_meets h.reversals (fun _ ↦ rfl) (fun _ _ hclash ↦ ?_) hfirst hsecond hsame
    simp only [reversalConstraints, Bool.or_eq_false_iff, tenantClash_eq_false] at hclash
    exact hclash.1.1

/-! ## What a session writes when it ends -/

/-- Whatever rows an operation ends with have a property. -/
abbrev EndsWith (P : Writes → Prop) : Except BankError Outcome → Prop :=
  Session.Returns fun result ↦ ∀ writes, result.2 = some writes → P writes

namespace EndsWith

variable {P : Writes → Prop} {α : Type}

theorem error (failure : BankError) : EndsWith P (.error failure) := Session.Returns.error failure

theorem replay (answer : BankAnswer) : EndsWith P (.ok (answer, none)) := Session.Returns.ok fun _ ↦ nofun

theorem rows (answer : BankAnswer) {writes : Writes} (h : P writes) :
    EndsWith P (.ok (answer, some writes)) :=
  Session.Returns.ok fun _ heq ↦ Option.some.inj heq ▸ h

theorem bind {first : Except BankError α} {next : α → Except BankError Outcome}
    (h : ∀ value, EndsWith P (next value)) : EndsWith P (first >>= next) :=
  Session.Returns.bind fun value _ ↦ h value

end EndsWith

/-- Requests for information are only ever added. -/
def Writes.AddsRequests (writes : Writes) : Prop :=
  ∃ new : List FinancialInformationRequest, writes.informationRequests = new.map .insert

section Requests

variable (platform : BankPlatform) (db : BankDb) (call : BankCall)

theorem fetchInformation_addsRequests (consentId kindText token key : String)
    (fromDate toDate : Option Day) : EndsWith Writes.AddsRequests
      (fetchInformation platform db call consentId kindText token key fromDate toDate) := by
  unfold fetchInformation
  split
  · exact .error _
  · refine .bind fun _ ↦ .bind fun _ ↦ .bind fun _ ↦ .bind fun _ ↦ .bind fun _ ↦ .bind fun _ ↦ .rows _ ?_
    rw [Writes.AddsRequests]
    split
    · exact ⟨[], rfl⟩
    · exact ⟨[_], rfl⟩

theorem executeTransfer_addsRequests (action actionHash executionId : String) :
    EndsWith Writes.AddsRequests (executeTransfer platform db call action actionHash executionId) := by
  unfold executeTransfer
  split
  · exact .bind fun _ ↦ .replay _
  · split
    · exact .bind fun _ ↦ .replay _
    · refine .bind fun _ ↦ ?_
      split
      · exact .error _
      · exact .bind fun _ ↦ .bind fun _ ↦ .bind fun _ ↦ .bind fun _ ↦ .bind fun _ ↦ .rows _ ⟨[], rfl⟩

theorem executeBeneficiaryChange_addsRequests (changeId actionHash : String) :
    EndsWith Writes.AddsRequests (executeBeneficiaryChange platform db call changeId actionHash) := by
  unfold executeBeneficiaryChange
  split
  · exact .error _
  · refine .bind fun _ ↦ ?_
    split
    · exact .replay _
    · exact .bind fun _ ↦ .bind fun _ ↦ .rows _ ⟨[], rfl⟩

theorem executeReversal_addsRequests (reversalId actionHash approval : String) :
    EndsWith Writes.AddsRequests (executeReversal db call reversalId actionHash approval) := by
  refine .bind fun _ ↦ ?_
  split
  · exact .error _
  · refine .bind fun _ ↦ ?_
    split
    · exact .replay _
    · refine .bind fun _ ↦ ?_
      split
      · exact .error _
      · split
        · exact .error _
        · exact .bind fun _ ↦ .rows _ ⟨[], rfl⟩

theorem prepareReversal_addsRequests (executionId amountText reason key : String) :
    EndsWith Writes.AddsRequests (prepareReversal platform db call executionId amountText reason key) := by
  refine .bind fun _ ↦ ?_
  split
  · exact .error _
  · refine .bind fun _ ↦ ?_
    split
    · exact .bind fun _ ↦ .replay _
    · exact .rows _ ⟨[], rfl⟩

theorem releaseHold_addsRequests (holdId : String) :
    EndsWith Writes.AddsRequests (releaseHold platform db call holdId) := by
  unfold releaseHold
  split
  · exact .error _
  · split
    · exact .replay _
    · exact .bind fun _ ↦ .bind fun _ ↦ .rows _ ⟨[], rfl⟩

theorem transferStatus_addsRequests (action : String) :
    EndsWith Writes.AddsRequests (transferStatus db call action) := by
  unfold transferStatus
  split
  · exact .replay _
  · split
    · exact .error _
    · split
      · exact .rows _ ⟨[], rfl⟩
      · exact .replay _

theorem serve_addsRequests : EndsWith Writes.AddsRequests (serve platform db call) := by
  unfold serve
  split
  · refine .bind fun _ ↦ .bind fun _ ↦ ?_
    split
    · exact .bind fun _ ↦ .replay _
    · exact .bind fun _ ↦ .rows _ ⟨[], rfl⟩
  · exact .bind fun _ ↦ .rows _ ⟨[], rfl⟩
  · refine .bind fun _ ↦ ?_
    split
    · exact .rows _ ⟨[], rfl⟩
    · exact .rows _ ⟨[], rfl⟩
  · apply fetchInformation_addsRequests
  · exact .bind fun _ ↦ .rows _ ⟨[], rfl⟩
  · exact .bind fun _ ↦ .bind fun _ ↦ .rows _ ⟨[], rfl⟩
  · exact .bind fun _ ↦ .bind fun _ ↦ .rows _ ⟨[], rfl⟩
  · exact .bind fun _ ↦ .bind fun _ ↦ .bind fun _ ↦ .rows _ ⟨[], rfl⟩
  · exact .bind fun _ ↦ .rows _ ⟨[], rfl⟩
  · exact .bind fun _ ↦ .rows _ ⟨[], rfl⟩
  · refine .bind fun _ ↦ .bind fun _ ↦ ?_
    split
    · exact .bind fun _ ↦ .replay _
    · exact .bind fun _ ↦ .bind fun _ ↦ .bind fun _ ↦ .rows _ ⟨[], rfl⟩
  · apply executeTransfer_addsRequests
  · apply transferStatus_addsRequests
  · refine .bind fun _ ↦ ?_
    split
    · exact .bind fun _ ↦ .replay _
    · exact .bind fun _ ↦ .bind fun _ ↦ .rows _ ⟨[], rfl⟩
  · apply releaseHold_addsRequests
  · unfold prepareBeneficiaryChange
    split
    · exact .bind fun _ ↦ .replay _
    · exact .rows _ ⟨[], rfl⟩
  · apply executeBeneficiaryChange_addsRequests
  · apply prepareReversal_addsRequests
  · apply executeReversal_addsRequests

end Requests

/-! ## Rows stay -/

section Rows

variable {Row : Type} {constraints : Constraints Row String} {rows : List Row}
  {column : Row → Registered}

theorem registered_insert (constraints : Constraints Row String) (row : Row) :
    rows.map column <+: (RowWrite.applyAll constraints rows [.insert row]).map column := by
  simp only [RowWrite.applyAll_cons, RowWrite.applyAll_nil, RowWrite.apply, List.map_append]
  exact List.prefix_append _ _

theorem registered_update {old changed : Row} (h : constraints.Meets rows) (hold : old ∈ rows)
    (hkey : constraints.key changed = constraints.key old) (hcolumn : column changed = column old) :
    rows.map column <+: (RowWrite.applyAll constraints rows [.update changed]).map column := by
  rw [RowWrite.map_update h hold hkey hcolumn]

end Rows

/-- A commit keeps every row under a client's key. -/
theorem registered_apply {platform : BankPlatform} {db : BankDb} {call : BankCall} {answer : BankAnswer}
    {writes : Writes} (h : db.WellKeyed) (hmove : Move platform db call answer writes)
    (hrequests : writes.AddsRequests) (kind : KeyedKind) :
    db.registered kind <+: (writes.apply db).registered kind := by
  cases kind with
  | consent =>
    cases hmove with
    | quiet answer writes hquiet =>
      obtain ⟨_, _, _, heq⟩ := hquiet.apply db
      rw [heq]
      exact List.prefix_rfl
    | consentCreated value => exact registered_insert consentConstraints value
    | consentRevoked value now events audits hstored =>
      exact registered_update h.consents hstored rfl rfl
    | _ => exact List.prefix_rfl
  | information =>
    obtain ⟨new, hnew⟩ := hrequests
    simp only [BankDb.registered, Writes.apply, hnew, RowWrite.applyAll_insert, List.map_append]
    exact List.prefix_append _ _
  | transfer =>
    cases hmove with
    | quiet answer writes hquiet =>
      obtain ⟨_, _, _, heq⟩ := hquiet.apply db
      rw [heq]
      exact List.prefix_rfl
    | transferPrepared => exact registered_insert preparedTransferConstraints _
    | transferSettled executionId prepared account payee hs =>
      exact registered_update h.preparedTransfers hs.stored rfl rfl
    | transferExpired value hstored hready =>
      exact registered_update h.preparedTransfers hstored rfl rfl
    | _ => exact List.prefix_rfl
  | hold =>
    cases hmove with
    | quiet answer writes hquiet =>
      obtain ⟨_, _, _, heq⟩ := hquiet.apply db
      rw [heq]
      exact List.prefix_rfl
    | holdPlaced => exact registered_insert holdConstraints _
    | holdReleased value account now events audits hr =>
      exact registered_update h.holds hr.stored rfl rfl
    | _ => exact List.prefix_rfl
  | change =>
    cases hmove with
    | quiet answer writes hquiet =>
      obtain ⟨_, _, _, heq⟩ := hquiet.apply db
      rw [heq]
      exact List.prefix_rfl
    | changePrepared value => exact registered_insert changeConstraints value
    | changeExecuted value write events audits hc =>
      exact registered_update h.beneficiaryChanges hc.stored rfl rfl
    | _ => exact List.prefix_rfl
  | reversal =>
    cases hmove with
    | quiet answer writes hquiet =>
      obtain ⟨_, _, _, heq⟩ := hquiet.apply db
      rw [heq]
      exact List.prefix_rfl
    | reversalPrepared => exact registered_insert reversalConstraints _
    | reversalSettled approval value execution prepared account hr =>
      exact registered_update h.reversals hr.stored rfl rfl
    | _ => exact List.prefix_rfl

theorem registered_step (platform : BankPlatform) {db : BankDb} (h : Regular db) (call : BankCall)
    (kind : KeyedKind) : db.registered kind <+: ((bank platform).step db call).2.registered kind := by
  have hstep : (bank platform).step db call = close db call.refused (serve platform db call) := rfl
  rw [hstep]
  rcases close_cases db call.refused (serve platform db call) with
    hkeep | ⟨answer, writes, hserve, -, -, hclose⟩
  · rw [hkeep]
  · rw [hclose]
    exact registered_apply h.keyed (move_of_serve hserve)
      (serve_addsRequests platform db call _ hserve writes rfl) kind

/-- No row under a client's key is changed or lost in a run. -/
theorem registered_run (platform : BankPlatform) (opening : Opening) (earlier later : List BankCall)
    (kind : KeyedKind) :
    ((bank platform).run opening.db earlier).registered kind <+:
      ((bank platform).run opening.db (earlier ++ later)).registered kind := by
  induction later using List.reverseRecOn with
  | nil =>
    rw [List.append_nil]
  | append_singleton later call ih =>
    rw [← List.append_assoc, Machine.run_snoc]
    exact ih.trans (registered_step platform (regular_run platform opening _) call kind)

end Xyena.Bank
