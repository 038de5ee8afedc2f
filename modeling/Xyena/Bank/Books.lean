import Xyena.Bank.Invariant

/-!
# The control ledger and the customer balances

A settled transfer posts two balanced ledger entries, one of them to the cash
control account. A settled reversal moves a balance and posts none, so that the
books of a tenant drift from its balances by the reversals that it has settled.
-/

namespace Xyena.Bank

open Xyena.Foundation Xyena.Contracts

/-- One side of a journal. -/
def journalTotal (entryType : Direction) (journal : String) (rows : List LedgerEntry) : Int :=
  Table.sum (fun row ↦ if row.journalId = journal ∧ row.entryType = entryType then row.amount else 0) rows

/-- One side of the cash control account of a tenant. -/
def controlTotal (entryType : Direction) (tenantId : String) (rows : List LedgerEntry) : Int :=
  Table.sum (fun row ↦ if row.tenantId = tenantId ∧ row.ledgerAccount = .bankCashControl ∧
    row.entryType = entryType then row.amount else 0) rows

/-- The current balances of a tenant. -/
def holdings (tenantId : String) (rows : List Account) : Int :=
  Table.sum (fun row ↦ if row.tenantId = tenantId then row.currentBalance else 0) rows

/-- All journals are balanced, and for every tenant the cash control account shows what its balances have
lost since the opening. -/
structure BooksAgree (opening : Opening) (db : BankDb) : Prop where
  journals : ∀ journal,
    journalTotal .debit journal db.ledgerEntries = journalTotal .credit journal db.ledgerEntries
  control : ∀ tenantId, controlTotal .credit tenantId db.ledgerEntries -
      controlTotal .debit tenantId db.ledgerEntries =
    holdings tenantId opening.accounts - holdings tenantId db.accounts

/-- The call passes every check of a reversal, and the database takes its rows. -/
def SettlesReversal (db : BankDb) (call : BankCall) : Prop :=
  ∃ approval value execution prepared account,
    Reverses db call approval value execution prepared account ∧ call.refused = false ∧
      (reversalWrites call account value approval).Accepted db

/-! ## The drift -/

/-- The settled reversals of a tenant. -/
def reversedTotal (tenantId : String) (rows : List PreparedReversal) : Int :=
  Table.sum (fun row ↦ if row.tenantId = tenantId ∧ row.status = .settled then row.amount else 0) rows

/-- The journals are balanced, and the books of a tenant differ by its settled reversals. -/
structure Drifts (opening : Opening) (db : BankDb) : Prop where
  journals : ∀ journal,
    journalTotal .debit journal db.ledgerEntries = journalTotal .credit journal db.ledgerEntries
  control : ∀ tenantId, controlTotal .credit tenantId db.ledgerEntries -
      controlTotal .debit tenantId db.ledgerEntries =
    holdings tenantId opening.accounts - holdings tenantId db.accounts +
      reversedTotal tenantId db.reversals

section Commit

variable {platform : BankPlatform} {opening : Opening} {db : BankDb} {call : BankCall}
  {answer : BankAnswer} {writes : Writes}

/-- The balances of a tenant follow the current balance that is assigned. -/
theorem holdings_writeBalances {rows : List Account} {account : Account}
    (hkeys : (rows.map Account.accountToken).Nodup) (hstored : account ∈ rows) (tenantId : String)
    (current available : Option Int) :
    holdings tenantId (writeBalances rows
        (some { accountToken := account.accountToken, current := current, available := available })) =
      holdings tenantId rows + if account.tenantId = tenantId then
        current.getD account.currentBalance - account.currentBalance else 0 := by
  let balances : Balances := ⟨account.accountToken, current, available⟩
  have hkey : (balances.apply account).accountToken = account.accountToken := rfl
  rw [writeBalances_eq_replace hkeys hstored rfl, holdings, Table.sum_replace _ hkeys hstored hkey]
  by_cases htenant : account.tenantId = tenantId
  · simp only [balances, Balances.apply, holdings, htenant, if_true]
    omega
  · simp only [balances, Balances.apply, holdings, htenant, if_false]
    omega

/-- The entries of a settlement, one for each side of its journal. -/
def settlementEntries (call : BankCall) (prepared : PreparedTransfer) (executionId : String) :
    List LedgerEntry :=
  [newEntry call prepared executionId 1 .disbursementClearing .debit,
    newEntry call prepared executionId 2 .bankCashControl .credit]

theorem journalTotal_append (entryType : Direction) (journal : String) (first second : List LedgerEntry) :
    journalTotal entryType journal (first ++ second) =
      journalTotal entryType journal first + journalTotal entryType journal second :=
  Table.sum_append _ _ _

theorem controlTotal_append (entryType : Direction) (tenantId : String)
    (first second : List LedgerEntry) :
    controlTotal entryType tenantId (first ++ second) =
      controlTotal entryType tenantId first + controlTotal entryType tenantId second :=
  Table.sum_append _ _ _

theorem journalTotal_settlement (entryType : Direction) (journal : String) (prepared : PreparedTransfer)
    (executionId : String) :
    journalTotal entryType journal (settlementEntries call prepared executionId) =
      if journalId call = journal then prepared.amount else 0 := by
  cases entryType <;> simp [journalTotal, settlementEntries, newEntry]

theorem controlTotal_settlement (entryType : Direction) (tenantId : String) (prepared : PreparedTransfer)
    (executionId : String) :
    controlTotal entryType tenantId (settlementEntries call prepared executionId) =
      if call.scope.tenantId = tenantId ∧ entryType = .credit then prepared.amount else 0 := by
  cases entryType <;> simp [controlTotal, settlementEntries, newEntry]

theorem reversedTotal_insert (tenantId : String) (rows : List PreparedReversal) {value : PreparedReversal}
    (hpending : value.status = .reviewRequired) :
    reversedTotal tenantId (rows ++ [value]) = reversedTotal tenantId rows := by
  simp [reversedTotal, hpending]

theorem reversedTotal_settle {rows : List PreparedReversal} {value : PreparedReversal}
    (hkeys : reversalConstraints.Meets rows) (hstored : value ∈ rows)
    (hpending : value.status = .reviewRequired) (tenantId approval callId reference : String) :
    reversedTotal tenantId (RowWrite.applyAll reversalConstraints rows
        [.update (value.settle approval callId reference)]) =
      reversedTotal tenantId rows + if value.tenantId = tenantId then value.amount else 0 := by
  simp only [reversedTotal, RowWrite.applyAll_cons, RowWrite.applyAll_nil, RowWrite.apply]
  have hkey : reversalConstraints.key (value.settle approval callId reference) =
    reversalConstraints.key value := rfl
  rw [Table.sum_replace _ hkeys.keys hstored hkey]
  simp [PreparedReversal.settle, hpending]

/-- A settlement posts what it takes from the balance. -/
theorem Drifts.settlement (h : Drifts opening db) (hregular : Regular db) {executionId : String}
    {prepared : PreparedTransfer} {account : Account} {payee : Beneficiary}
    (hs : Settles db call executionId prepared account payee) :
    Drifts opening ((settlementWrites platform call account prepared executionId).apply db) := by
  have hentries : ((settlementWrites platform call account prepared executionId).apply db).ledgerEntries =
      db.ledgerEntries ++ settlementEntries call prepared executionId := List.append_assoc _ _ _
  constructor
  · intro journal
    rw [hentries]
    simp only [journalTotal_append, journalTotal_settlement, h.journals journal]
  · intro tenantId
    have hholdings : holdings tenantId
        ((settlementWrites platform call account prepared executionId).apply db).accounts = _ :=
      holdings_writeBalances hregular.keyed.accounts hs.owned.stored tenantId _ _
    have hcontrol := h.control tenantId
    rw [hentries, hholdings, hs.owned.tenant]
    simp only [controlTotal_append, controlTotal_settlement, and_true, reduceCtorEq, and_false, if_false,
      Option.getD_some]
    change _ = _ + reversedTotal tenantId db.reversals
    split <;> omega

/-- A reversal moves a balance without an entry. -/
theorem Drifts.reversal (h : Drifts opening db) (hregular : Regular db) {approval : String}
    {value : PreparedReversal} {execution : TransferExecution} {prepared : PreparedTransfer}
    {account : Account} (hr : Reverses db call approval value execution prepared account) :
    Drifts opening ((reversalWrites call account value approval).apply db) := by
  refine ⟨h.journals, fun tenantId ↦ ?_⟩
  have hholdings : holdings tenantId ((reversalWrites call account value approval).apply db).accounts = _ :=
    holdings_writeBalances hregular.keyed.accounts hr.owned.stored tenantId _ _
  have hreversed : reversedTotal tenantId
      ((reversalWrites call account value approval).apply db).reversals = _ :=
    reversedTotal_settle hregular.keyed.reversals hr.stored hr.pending tenantId _ _ _
  have hcontrol := h.control tenantId
  rw [hholdings, hreversed, hr.owned.tenant, hr.tenant, Option.getD_some]
  change controlTotal .credit tenantId db.ledgerEntries - controlTotal .debit tenantId db.ledgerEntries = _
  split <;> omega

/-- A commit that moves no current balance, posts no entry and settles no reversal. -/
theorem Drifts.keep (h : Drifts opening db) {after : BankDb}
    (hentries : after.ledgerEntries = db.ledgerEntries)
    (hholdings : ∀ tenantId, holdings tenantId after.accounts = holdings tenantId db.accounts)
    (hreversed : ∀ tenantId, reversedTotal tenantId after.reversals =
      reversedTotal tenantId db.reversals) : Drifts opening after := by
  constructor
  · rw [hentries]
    exact h.journals
  · intro tenantId
    calc controlTotal .credit tenantId after.ledgerEntries - controlTotal .debit tenantId after.ledgerEntries
        = controlTotal .credit tenantId db.ledgerEntries -
            controlTotal .debit tenantId db.ledgerEntries := by rw [hentries]
      _ = holdings tenantId opening.accounts - holdings tenantId db.accounts +
            reversedTotal tenantId db.reversals := h.control tenantId
      _ = holdings tenantId opening.accounts - holdings tenantId after.accounts +
            reversedTotal tenantId after.reversals := by rw [hholdings, hreversed]

theorem Drifts.apply (h : Drifts opening db) (hregular : Regular db)
    (hmove : Move platform db call answer writes) : Drifts opening (writes.apply db) := by
  cases hmove with
  | quiet answer writes hquiet =>
    obtain ⟨_, _, _, heq⟩ := hquiet.apply db
    rw [heq]
    exact h.keep rfl (fun _ ↦ rfl) (fun _ ↦ rfl)
  | transferSettled executionId prepared account payee hs => exact h.settlement hregular hs
  | holdPlaced token amountText currency key amount account events audits hp =>
    refine h.keep rfl (fun tenantId ↦ ?_) (fun _ ↦ rfl)
    exact (holdings_writeBalances hregular.keyed.accounts hp.owned.stored tenantId none _).trans (by simp)
  | holdReleased value account now events audits hr =>
    refine h.keep rfl (fun tenantId ↦ ?_) (fun _ ↦ rfl)
    exact (holdings_writeBalances hregular.keyed.accounts hr.owned.stored tenantId none _).trans (by simp)
  | reversalPrepared executionId amountText reason key amount execution audits hp =>
    exact h.keep rfl (fun _ ↦ rfl) fun tenantId ↦ reversedTotal_insert tenantId db.reversals rfl
  | reversalSettled approval value execution prepared account hr => exact h.reversal hregular hr
  | _ => exact h.keep rfl (fun _ ↦ rfl) (fun _ ↦ rfl)

end Commit

theorem drifts_run (platform : BankPlatform) (opening : Opening) (calls : List BankCall) :
    Drifts opening ((bank platform).run opening.db calls) := by
  refine (commit_invariant (Drifts opening) (fun _ _ ↦ True) opening.regular ?_
    (fun db call answer writes hregular h _ hmove _ ↦ h.apply hregular hmove) calls fun _ _ ↦ trivial).2
  exact ⟨fun _ ↦ rfl, fun _ ↦ by simp [controlTotal, reversedTotal, Opening.db]⟩

/-! ## Reversals that settle -/

section Reversal

variable {platform : BankPlatform} {db : BankDb} {call : BankCall}

/-- A reversal that passes every check is served. -/
theorem serve_of_reverses (hkeyed : db.WellKeyed) {approval : String} {value : PreparedReversal}
    {execution : TransferExecution} {prepared : PreparedTransfer} {account : Account}
    (h : Reverses db call approval value execution prepared account) :
    ∃ answer, serve platform db call =
      .ok (answer, some (reversalWrites call account value approval)) := by
  have hvalue : (db.reversals.find? fun row ↦ row.reversalId == value.reversalId &&
      row.tenantId == call.scope.tenantId) = some value := by
    refine Table.find?_eq_some_of_unique h.stored (by simp [h.tenant]) fun other hother hsame ↦ ?_
    simp only [Bool.and_eq_true, beq_iff_eq] at hsame
    exact Table.eq_of_key hkeyed.reversals.keys hother h.stored hsame.1
  have hprepared : (db.preparedTransfers.find? fun row ↦
      row.proposedActionId == execution.proposedActionId) = some prepared := by
    refine Table.find?_eq_some_of_unique h.origin (by simp [h.action]) fun other hother hsame ↦ ?_
    exact Table.eq_of_key hkeyed.preparedTransfers.keys hother h.origin
      ((beq_iff_eq.mp hsame).trans h.action.symm)
  have haccount : lookupAccount db call.scope prepared.sourceAccountToken = .ok account :=
    h.owned.lookup hkeyed.accounts
  have hlive : decide (call.clock.now 0 < value.expiresAt) = true := decide_eq_true h.live
  simp only [serve, h.op, executeReversal, h.approved, hvalue, hprepared, haccount, h.found, h.pending,
    hlive, ensure, bind, Except.bind, Bool.not_false, beq_self_eq_true, Bool.and_self, if_true,
    reduceCtorEq, if_false]
  exact ⟨_, rfl⟩

/-- What the database makes of a reversal that passes every check. -/
theorem step_of_reverses (hkeyed : db.WellKeyed) {approval : String} {value : PreparedReversal}
    {execution : TransferExecution} {prepared : PreparedTransfer} {account : Account}
    (h : Reverses db call approval value execution prepared account) :
    ∃ answer, (bank platform).step db call =
      if !call.refused && (reversalWrites call account value approval).accepted db then
        (.ok answer, (reversalWrites call account value approval).apply db)
      else (.error .integrity, db) := by
  obtain ⟨answer, hserve⟩ := serve_of_reverses hkeyed h
  exact ⟨answer, congrArg (close db call.refused) hserve⟩

/-- A reversal that settles adds to the reversals of its tenant. -/
theorem reversedTotal_of_settlesReversal (platform : BankPlatform) (hregular : Regular db)
    (h : SettlesReversal db call) : ∃ tenantId amount, 0 < amount ∧
      reversedTotal tenantId ((bank platform).step db call).2.reversals =
        reversedTotal tenantId db.reversals + amount := by
  obtain ⟨approval, value, execution, prepared, account, hr, hrefused, haccepted⟩ := h
  obtain ⟨answer, hstep⟩ := step_of_reverses hregular.keyed hr
  refine ⟨value.tenantId, value.amount, hregular.reversals value hr.stored, ?_⟩
  rw [hstep, hrefused, Writes.accepted_iff.mpr haccepted]
  refine (reversedTotal_settle hregular.keyed.reversals hr.stored hr.pending value.tenantId _ _ _).trans ?_
  rw [if_pos rfl]

end Reversal

/-- The books agree where no reversal has settled. -/
theorem Drifts.agree_iff {opening : Opening} {db : BankDb} (h : Drifts opening db) :
    BooksAgree opening db ↔ ∀ tenantId, reversedTotal tenantId db.reversals = 0 := by
  constructor
  · intro hagree tenantId
    have hdrift := h.control tenantId
    have hcontrol := hagree.control tenantId
    omega
  · intro hnone
    refine ⟨h.journals, fun tenantId ↦ ?_⟩
    rw [h.control tenantId, hnone tenantId, Int.add_zero]

/-- A run without a settled reversal reverses nothing. -/
theorem reversedTotal_run (platform : BankPlatform) (opening : Opening) (calls : List BankCall)
    (h : ∀ e ∈ (bank platform).log opening.db calls, ¬ SettlesReversal e.before e.input)
    (tenantId : String) :
    reversedTotal tenantId ((bank platform).run opening.db calls).reversals = 0 := by
  refine (commit_history (fun _ db ↦ reversedTotal tenantId db.reversals = 0)
    (fun db call ↦ ¬ SettlesReversal db call) opening.regular rfl (fun _ _ _ h ↦ h) ?_ calls h).2
  intro history db call answer writes hregular hnone hsettles hmove haccepted hstep
  cases hmove with
  | quiet answer writes hquiet =>
    obtain ⟨_, _, _, heq⟩ := hquiet.apply db
    rw [heq]
    exact hnone
  | reversalPrepared executionId amountText reason key amount execution audits hp =>
    exact (reversedTotal_insert tenantId db.reversals rfl).trans hnone
  | reversalSettled approval value execution prepared account hr =>
    refine absurd ⟨approval, value, execution, prepared, account, hr, ?_, haccepted⟩ hsettles
    obtain ⟨answer', hserved⟩ := step_of_reverses hregular.keyed hr
    cases hrefused : call.refused with
    | false => rfl
    | true =>
      rw [hserved, hrefused] at hstep
      cases congrArg Prod.fst hstep
  | _ => exact hnone

/-- The journals are balanced and the cash control account agrees with the balances of every tenant, in all
states of a run, exactly when no call of the run settles a reversal. -/
theorem books_agree_iff (platform : BankPlatform) (opening : Opening) (calls : List BankCall) :
    (∀ earlier, earlier <+: calls → BooksAgree opening ((bank platform).run opening.db earlier)) ↔
      ∀ e ∈ (bank platform).log opening.db calls, ¬ SettlesReversal e.before e.input := by
  constructor
  · intro hagree e he hsettles
    obtain ⟨earlier, call, later, rfl, rfl⟩ := ((bank platform).mem_log_iff opening.db calls e).mp he
    obtain ⟨tenantId, amount, hamount, hreversed⟩ :=
      reversedTotal_of_settlesReversal platform (regular_run platform opening earlier) hsettles
    have hbefore := (drifts_run platform opening earlier).agree_iff.mp
      (hagree earlier (List.prefix_append _ _)) tenantId
    have hafter := (drifts_run platform opening (earlier ++ [call])).agree_iff.mp
      (hagree (earlier ++ [call]) (by simp)) tenantId
    rw [Machine.run_snoc] at hafter
    change reversedTotal tenantId ((bank platform).step ((bank platform).run opening.db earlier)
      call).2.reversals = _ at hreversed
    omega
  · rintro hnone earlier ⟨later, rfl⟩
    refine (drifts_run platform opening earlier).agree_iff.mpr fun tenantId ↦ ?_
    refine reversedTotal_run platform opening earlier (fun e he ↦ hnone e ?_) tenantId
    rw [Machine.log_append]
    exact List.mem_append_left _ he

/-- A transfer of 100.00 of which 60.00 were reversed: the control account shows 100.00, the balances have
lost 40.00. -/
theorem reversal_unbalances_books :
    ¬ BooksAgree (sampleOpening 15000)
      ((bank sampleBank).run (sampleOpening 15000).db (firstTransfer ++ firstReversal)) := by
  intro h
  have hcontrol := h.control "tenant-1"
  revert hcontrol
  decide +kernel

end Xyena.Bank
