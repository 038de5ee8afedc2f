import Xyena.Bank.Moves

/-!
# Openings and what every commit keeps

A bank opens with accounts, their booked transactions, beneficiaries and
consents, and without any operation of its own. The lemmas here say how one
commit changes each table. They separate the state `seen` that a session has
read from the state `db` that it commits to, so that they serve one call at a
time as well as overlapping sessions.
-/

namespace Xyena.Bank

open Xyena.Foundation Xyena.Contracts

/-- The tables with which a bank opens. -/
structure Opening where
  accounts : List Account
  transactions : List Transaction
  beneficiaries : List Beneficiary
  consents : List AAConsent
  accountTokens : (accounts.map Account.accountToken).Nodup
  transactionKeys : transactionConstraints.Meets transactions
  beneficiaryKeys : beneficiaryConstraints.Meets beneficiaries
  consentKeys : consentConstraints.Meets consents
  covered : ∀ account ∈ accounts, 0 ≤ account.availableBalance

def Opening.db (opening : Opening) : BankDb where
  accounts := opening.accounts
  transactions := opening.transactions
  beneficiaries := opening.beneficiaries
  consents := opening.consents

theorem Constraints.meets_nil {Row Key : Type} (constraints : Constraints Row Key) :
    constraints.Meets [] :=
  ⟨List.nodup_nil, by simp⟩

/-- Keys and unique columns hold, and every operation is about a positive amount. -/
structure Regular (db : BankDb) : Prop where
  keyed : db.WellKeyed
  transfers : ∀ row ∈ db.preparedTransfers, 0 < row.amount
  holds : ∀ row ∈ db.holds, 0 < row.amount
  reversals : ∀ row ∈ db.reversals, 0 < row.amount

theorem Opening.regular (opening : Opening) : Regular opening.db where
  keyed :=
    { accounts := opening.accountTokens
      transactions := opening.transactionKeys
      beneficiaries := opening.beneficiaryKeys
      preparedTransfers := Constraints.meets_nil _
      consents := opening.consentKeys
      informationRequests := Constraints.meets_nil _
      executions := Constraints.meets_nil _
      ledgerEntries := Constraints.meets_nil _
      holds := Constraints.meets_nil _
      beneficiaryChanges := Constraints.meets_nil _
      reversals := Constraints.meets_nil _ }
  transfers := by simp [Opening.db]
  holds := by simp [Opening.db]
  reversals := by simp [Opening.db]

/-! ## Tables after a commit -/

/-- A commit that only records leaves all other tables as they are. -/
theorem Writes.Quiet.apply {writes : Writes} (h : writes.Quiet) (db : BankDb) :
    ∃ audits requests events, writes.apply db =
      { db with auditEvents := audits, informationRequests := requests, outboxEvents := events } := by
  refine ⟨(writes.apply db).auditEvents, (writes.apply db).informationRequests,
    (writes.apply db).outboxEvents, ?_⟩
  simp only [Writes.apply, h.balances, h.transactions, h.beneficiaries, h.preparedTransfers,
    h.consents, h.executions, h.ledgerEntries, h.holds, h.beneficiaryChanges, h.reversals,
    writeBalances, RowWrite.applyAll_nil]

section Commit

variable {platform : BankPlatform} {seen db : BankDb} {call : BankCall} {answer : BankAnswer}
  {writes : Writes}

theorem Regular.apply (hseen : Regular seen) (h : Regular db)
    (hmove : Move platform seen call answer writes) (haccepted : writes.Accepted db) :
    Regular (writes.apply db) := by
  refine ⟨h.keyed.apply haccepted, ?_, ?_, ?_⟩
  · cases hmove with
    | quiet answer writes hquiet =>
      obtain ⟨_, _, _, heq⟩ := hquiet.apply db
      rw [heq]
      exact h.transfers
    | transferPrepared source beneficiary amountText currency rail key amount account payee audits hp =>
      exact RowWrite.forall_written h.transfers haccepted.preparedTransfers (positiveAmount_pos hp.parsed)
    | transferSettled executionId prepared account payee hs =>
      exact RowWrite.forall_written h.transfers haccepted.preparedTransfers (hseen.transfers prepared hs.stored)
    | transferExpired value hstored hready =>
      exact RowWrite.forall_written h.transfers haccepted.preparedTransfers (hseen.transfers value hstored)
    | _ => exact h.transfers
  · cases hmove with
    | quiet answer writes hquiet =>
      obtain ⟨_, _, _, heq⟩ := hquiet.apply db
      rw [heq]
      exact h.holds
    | holdPlaced token amountText currency key amount account events audits hp =>
      exact RowWrite.forall_written h.holds haccepted.holds (positiveAmount_pos hp.parsed)
    | holdReleased value account now events audits hr =>
      exact RowWrite.forall_written h.holds haccepted.holds (hseen.holds value hr.stored)
    | _ => exact h.holds
  · cases hmove with
    | quiet answer writes hquiet =>
      obtain ⟨_, _, _, heq⟩ := hquiet.apply db
      rw [heq]
      exact h.reversals
    | reversalPrepared executionId amountText reason key amount execution audits hp =>
      exact RowWrite.forall_written h.reversals haccepted.reversals (positiveAmount_pos hp.parsed)
    | reversalSettled approval value execution prepared account hr =>
      exact RowWrite.forall_written h.reversals haccepted.reversals (hseen.reversals value hr.stored)
    | _ => exact h.reversals

end Commit

/-- One served call of a run. -/
abbrev BankEntry := Entry BankDb BankCall (Except BankError BankAnswer)

/-- Induction over the commits of a run for a property of the calls so far and the tables they lead to.
Only calls that meet `Admitted` have to keep it. -/
theorem commit_history {platform : BankPlatform} {start : BankDb} (Inv : List BankEntry → BankDb → Prop)
    (Admitted : BankDb → BankCall → Prop) (hregular : Regular start) (hstart : Inv [] start)
    (hkept : ∀ history db e, Inv history db → Inv (history ++ [e]) db)
    (hcommit : ∀ history db call answer writes, Regular db → Inv history db → Admitted db call →
      Move platform db call answer writes → writes.Accepted db →
      (bank platform).step db call = (.ok answer, writes.apply db) →
      Inv (history ++ [(bank platform).entry db call]) (writes.apply db))
    (calls : List BankCall)
    (hadmitted : ∀ e ∈ (bank platform).log start calls, Admitted e.before e.input) :
    Regular ((bank platform).run start calls) ∧
      Inv ((bank platform).log start calls) ((bank platform).run start calls) := by
  refine (bank platform).history_invariant (fun history db ↦ Regular db ∧ Inv history db)
    (fun e ↦ Admitted e.before e.input) ⟨hregular, hstart⟩ ?_ calls hadmitted
  rintro history db call ⟨hdb, hinv⟩ hadmitted
  rcases step_cases platform db call with hkeep | ⟨answer, writes, hmove, haccepted, hstep⟩
  · rw [hkeep]
    exact ⟨hdb, hkept history db _ hinv⟩
  · have hafter := hcommit history db call answer writes hdb hinv hadmitted hmove haccepted hstep
    rw [hstep]
    exact ⟨hdb.apply hdb hmove haccepted, hafter⟩

/-- The same rule for a property of the tables alone. -/
theorem commit_invariant {platform : BankPlatform} {start : BankDb} (Inv : BankDb → Prop)
    (Admitted : BankDb → BankCall → Prop) (hregular : Regular start) (hstart : Inv start)
    (hcommit : ∀ db call answer writes, Regular db → Inv db → Admitted db call →
      Move platform db call answer writes → writes.Accepted db → Inv (writes.apply db))
    (calls : List BankCall)
    (hadmitted : ∀ e ∈ (bank platform).log start calls, Admitted e.before e.input) :
    Regular ((bank platform).run start calls) ∧ Inv ((bank platform).run start calls) :=
  commit_history (fun _ db ↦ Inv db) Admitted hregular hstart (fun _ _ _ h ↦ h)
    (fun _ db call answer writes hdb hinv hadmitted hmove haccepted _ ↦
      hcommit db call answer writes hdb hinv hadmitted hmove haccepted) calls hadmitted

/-- In every state that a bank reaches, the tables are regular. -/
theorem regular_run (platform : BankPlatform) (opening : Opening) (calls : List BankCall) :
    Regular ((bank platform).run opening.db calls) :=
  (commit_invariant (fun _ ↦ True) (fun _ _ ↦ True) opening.regular trivial
    (fun _ _ _ _ _ _ _ _ _ ↦ trivial) calls fun _ _ ↦ trivial).1

/-! ## Accounts after a commit -/

/-- The terms of an account, which no operation changes. -/
def Account.terms (account : Account) : Account :=
  { account with currentBalance := 0, availableBalance := 0 }

theorem map_terms_writeBalances (rows : List Account) (balances : Option Balances) :
    (writeBalances rows balances).map Account.terms = rows.map Account.terms := by
  cases balances with
  | none => rfl
  | some balances =>
    have hkept (row : Account) : (balances.apply row).terms = row.terms := rfl
    exact Table.map_update Account.terms hkept rows

theorem map_terms_apply (writes : Writes) (db : BankDb) :
    (writes.apply db).accounts.map Account.terms = db.accounts.map Account.terms :=
  map_terms_writeBalances db.accounts writes.balances

/-- Assigned balances are stored in the one row of their account. -/
theorem writeBalances_eq_replace {rows : List Account} {balances : Balances} {account : Account}
    (hkeys : (rows.map Account.accountToken).Nodup) (hstored : account ∈ rows)
    (htoken : balances.accountToken = account.accountToken) :
    writeBalances rows (some balances) =
      Table.replace Account.accountToken (balances.apply account) rows := by
  rw [Table.replace_eq_update hkeys hstored balances.apply rfl, writeBalances, htoken]

/-- The row of an account after its balances were assigned, and the rows of the others. -/
theorem mem_writeBalances {rows : List Account} {balances : Balances} {account row : Account}
    (hkeys : (rows.map Account.accountToken).Nodup) (hstored : account ∈ rows)
    (htoken : balances.accountToken = account.accountToken)
    (h : row ∈ writeBalances rows (some balances)) :
    row = balances.apply account ∨ row ∈ rows ∧ row.accountToken ≠ account.accountToken := by
  rw [writeBalances_eq_replace hkeys hstored htoken] at h
  exact Table.mem_replace h

/-! ## A small bank -/

/-- The digests of the actions that are prepared in the small bank. -/
def sampleDigests : List (String × String) :=
  [("\x7b\"amount\":\"60.00\",\"idempotency_key\":\"reversal-1\",\"reason\":\"duplicate\"," ++
      "\"transfer_execution_id\":\"exec-1\"\x7d",
      "98ff618e8c3a3ac6b7de0480fb59f15c50afc292d7ebda8a3ddc496d22edf824"),
    ("\x7b\"amount\":\"60.00\",\"idempotency_key\":\"reversal-2\",\"reason\":\"duplicate\"," ++
      "\"transfer_execution_id\":\"exec-1\"\x7d",
      "bcc2e37039dd040321afd4443547d2f0f9121d05103d60e5589e058b868d3cb3"),
    ("\x7b\"bank_name\":\"Other Bank\",\"beneficiary_token\":\"ben-1\",\"currency\":\"INR\"," ++
      "\"idempotency_key\":\"change-1\",\"masked_account\":\"XX99\",\"owner_name\":\"Other Owner\"\x7d",
      "60754fd37d55a938782a32eb9e331a697fb76c7902ad436d471fb2d9ba8c49e4"),
    ("\x7b\"amount\":\"100.00\",\"beneficiary_token\":\"ben-1\"," ++
      "\"client_idempotency_key\":\"transfer-1\",\"currency\":\"INR\",\"purpose\":\"invoice\"," ++
      "\"rail\":\"DEMO_BANK_RAIL\",\"source_account_token\":\"acct-1\",\"tenant_id\":\"tenant-1\"," ++
      "\"user_id\":\"user-1\"\x7d",
      "1d22fd84ea6bbeca064e19fb6ed5b8548692343b6ca477d34ceb3ac5ae9b6542"),
    ("\x7b\"amount\":\"80.00\",\"beneficiary_token\":\"ben-1\"," ++
      "\"client_idempotency_key\":\"transfer-2\",\"currency\":\"INR\",\"purpose\":\"invoice\"," ++
      "\"rail\":\"DEMO_BANK_RAIL\",\"source_account_token\":\"acct-1\",\"tenant_id\":\"tenant-1\"," ++
      "\"user_id\":\"user-1\"\x7d",
      "b0a440813fe3364b64bb15e7afeac3212a87c3b4e4c99972f05aa162a94099bd")]

/-- The digest of a text, which is marked when it is not one of the actions. -/
def sampleSha256 (text : String) : String := (sampleDigests.lookup text).getD ("digest of " ++ text)

theorem sampleSha256_injective : Function.Injective sampleSha256 := by
  have hmarked (text : String) : ("digest of " ++ text).toList.head? = some 'd' := by simp
  have hdigests : ∀ item ∈ sampleDigests, item.2.toList.head? ≠ some 'd' := by decide +kernel
  have hnodup : (sampleDigests.map Prod.snd).Nodup := by decide +kernel
  have hmem {text digest : String} (hlookup : sampleDigests.lookup text = some digest) :
      (text, digest) ∈ sampleDigests := by
    obtain ⟨first, rest, heq, -⟩ := List.lookup_eq_some_iff.mp hlookup
    rw [heq]
    simp
  intro first second h
  simp only [sampleSha256] at h
  cases hfirst : sampleDigests.lookup first with
  | none =>
    cases hsecond : sampleDigests.lookup second with
    | none => simpa [hfirst, hsecond] using h
    | some digest =>
      rw [hfirst, hsecond, Option.getD_none, Option.getD_some] at h
      exact absurd (h ▸ hmarked first) (hdigests _ (hmem hsecond))
  | some digest =>
    cases hsecond : sampleDigests.lookup second with
    | none =>
      rw [hfirst, hsecond, Option.getD_none, Option.getD_some] at h
      exact absurd (h ▸ hmarked second) (hdigests _ (hmem hfirst))
    | some digest' =>
      rw [hfirst, hsecond, Option.getD_some, Option.getD_some] at h
      exact congrArg Prod.fst (Table.eq_of_key hnodup (hmem hfirst) (hmem hsecond) h)

def sampleBank : BankPlatform where
  mcpToken := "bank-secret"
  hmac secret text := text ++ " under " ++ secret
  sha256 := sampleSha256
  containerText _ := "[]"
  isoformat instant := toString instant
  isodate day := toString day

/-- Two accounts of one user, of which only the first is covered by a consent. -/
def sampleOpening (dailyLimit : Int) : Opening where
  accounts :=
    [{ accountToken := "acct-1", tenantId := "tenant-1", userId := "user-1", displayName := "Operating"
       maskedNumber := "XX01", accountType := "CURRENT", currency := "INR", currentBalance := 100000
       availableBalance := 100000, perTransferLimit := 20000, dailyLimit := dailyLimit },
      { accountToken := "acct-2", tenantId := "tenant-1", userId := "user-1", displayName := "Reserve"
        maskedNumber := "XX02", accountType := "SAVINGS", currency := "INR", currentBalance := 50000
        availableBalance := 50000, perTransferLimit := 20000, dailyLimit := dailyLimit }]
  transactions := []
  beneficiaries :=
    [{ beneficiaryToken := "ben-1", tenantId := "tenant-1", ownerName := "Supplier"
       maskedAccount := "XX77", bankName := "Supplier Bank", currency := "INR" }]
  consents :=
    [{ consentId := "aac-1", tenantId := "tenant-1", userId := "user-1", purpose := "invoice"
       accountTokens := ["acct-1"], informationTypes := [.account], idempotencyKey := "consent-1"
       requestHash := "consent-1", status := .active, validFrom := 0, validUntil := days 30 }]
  accountTokens := by simp
  transactionKeys := Constraints.meets_nil _
  beneficiaryKeys := ⟨by simp, by simp⟩
  consentKeys := ⟨by simp, by simp⟩
  covered := by simp

/-- A call of the small bank. What it draws is told apart by its label. -/
def sampleCall (label tool : String) (op : BankOp) : BankCall where
  scope :=
    { tenantId := "tenant-1", organizationId := "org-1", userId := "user-1", sessionId := "session-1"
      runId := "run-1", callId := "call-" ++ label, correlationId := "correlation-1"
      agentName := "payments-agent", canonicalName := tool, purpose := "invoice"
      requestHash := "request-" ++ label, guardianDecisionId := "decision-" ++ label
      authorizationId := "authorization-" ++ label, authorizationConsumed := true }
  op := op
  clock := { now := fun _ ↦ 0, today := fun _ ↦ 20000 }
  draws := { token := label, journal := label, reference := label
             rowId := fun k ↦ label ++ "-" ++ toString k }

/-- The preparation and the settlement of a transfer of 100.00. -/
def firstTransfer : List BankCall :=
  [sampleCall "1" "bank.transfers.prepare"
      (.prepareTransfer "acct-1" "ben-1" "100.00" "INR" "DEMO_BANK_RAIL" "transfer-1"),
    sampleCall "2" "bank.transfers.execute" (.executeTransfer "act_1"
      "1d22fd84ea6bbeca064e19fb6ed5b8548692343b6ca477d34ceb3ac5ae9b6542" "exec-1")]

/-- A reversal of 60.00 of the first transfer, prepared and settled. -/
def firstReversal : List BankCall :=
  [sampleCall "3" "bank.reversals.prepare" (.prepareReversal "exec-1" "60.00" "duplicate" "reversal-1"),
    sampleCall "4" "bank.reversals.execute" (.executeReversal "rev_3"
      "98ff618e8c3a3ac6b7de0480fb59f15c50afc292d7ebda8a3ddc496d22edf824" "approval-1")]

end Xyena.Bank
