import Xyena.Ledger.Invariant

/-!
# Journals, lines and balances agree

Every account is what its opening row becomes when exactly the lines of the
posted journals are posted to it, and posted journals stay as they are. Lines
are balanced journal by journal, so the trial balance of the chart of accounts
never moves.
-/

namespace Xyena.Ledger

open Xyena.Foundation Xyena.Foundation.DoubleEntry Xyena.Foundation.Session Xyena.Contracts

/-! ## Posting lines -/

/-- An account after some lines were posted to it. -/
def LedgerAccount.posted (account : LedgerAccount) (lines : List JournalLine) : LedgerAccount :=
  { account with
    balance := account.balance +
      Table.sum (fun line ↦ signed account.normalSide line.side line.amount) lines
    version := account.version + lines.length }

@[simp] theorem LedgerAccount.posted_nil (account : LedgerAccount) : account.posted [] = account := by
  simp [LedgerAccount.posted]

theorem LedgerAccount.posted_cons (account : LedgerAccount) (line : JournalLine)
    (lines : List JournalLine) : account.posted (line :: lines) = (account.post line).posted lines := by
  simp only [LedgerAccount.posted, LedgerAccount.post, Table.sum_cons, List.length_cons]
  congr 1 <;> push_cast <;> omega

theorem LedgerAccount.posted_append (account : LedgerAccount) (first second : List JournalLine) :
    account.posted (first ++ second) = (account.posted first).posted second := by
  induction first generalizing account with
  | nil => simp
  | cons line rest ih => rw [List.cons_append, posted_cons, posted_cons, ih]

/-- The order in which lines are posted does not matter. -/
theorem LedgerAccount.posted_perm (account : LedgerAccount) {first second : List JournalLine}
    (h : first.Perm second) : account.posted first = account.posted second := by
  simp only [LedgerAccount.posted, Table.sum_perm _ h, h.length_eq]

/-- The lines that name an account. -/
def linesOn (accountId : String) (lines : List JournalLine) : List JournalLine :=
  lines.filter fun line ↦ line.accountId == accountId

theorem postLine_eq {tenantId : String} {accounts posted : List LedgerAccount} {line : JournalLine}
    (hkeys : (accounts.map LedgerAccount.accountId).Nodup)
    (h : postLine tenantId accounts line = .ok posted) :
    posted = accounts.map fun account ↦ account.posted (linesOn account.accountId [line]) := by
  obtain ⟨account, haccount, h⟩ := bind_ok.mp h
  obtain rfl := Except.ok.inj h
  have hfound := lookupAccount_ok haccount
  rw [Table.replace_eq_update hkeys hfound.stored (·.post line) rfl, hfound.id, Table.update]
  refine List.map_congr_left fun row _ ↦ ?_
  simp only [linesOn, List.filter_cons, List.filter_nil, Bool.beq_comm (a := line.accountId)]
  split
  · rw [LedgerAccount.posted_cons, LedgerAccount.posted_nil]
  · rw [LedgerAccount.posted_nil]

/-- Posting lines posts to every account the lines that name it. -/
theorem postLines_eq {tenantId : String} {accounts posted : List LedgerAccount}
    {lines : List JournalLine} (hkeys : (accounts.map LedgerAccount.accountId).Nodup)
    (h : postLines tenantId accounts lines = .ok posted) :
    posted = accounts.map fun account ↦ account.posted (linesOn account.accountId lines) := by
  induction lines generalizing accounts with
  | nil => simpa [linesOn] using (Except.ok.inj h).symm
  | cons line rest ih =>
    obtain ⟨first, hfirst, hrest⟩ := bind_ok.mp h
    rw [ih (map_accountId_postLine hfirst ▸ hkeys) hrest, postLine_eq hkeys hfirst, List.map_map]
    refine List.map_congr_left fun account _ ↦ ?_
    have hsplit : linesOn account.accountId (line :: rest) =
        linesOn account.accountId [line] ++ linesOn account.accountId rest := by
      rw [linesOn, linesOn, linesOn, ← List.filter_append, List.singleton_append]
    rw [hsplit, LedgerAccount.posted_append]
    rfl

/-! ## The trial balance -/

/-- The sum of the balances of the accounts with one normal side. -/
def balanceSum (side : Side) (accounts : List LedgerAccount) : Int :=
  Table.sum LedgerAccount.balance (accounts.filter fun account ↦ account.normalSide == side)

/-- The balances of the debit side less those of the credit side. -/
def trialBalance (accounts : List LedgerAccount) : Int :=
  balanceSum .debit accounts - balanceSum .credit accounts

theorem trialBalance_eq (accounts : List LedgerAccount) :
    trialBalance accounts = Table.sum (fun account ↦ net account.normalSide account.balance) accounts := by
  induction accounts with
  | nil => rfl
  | cons account rest ih =>
    simp only [trialBalance, balanceSum, List.filter_cons, Table.sum_cons] at ih ⊢
    rw [← ih]
    cases account.normalSide <;> simp [net, signed] <;> omega

theorem trialBalance_postLine {tenantId : String} {accounts posted : List LedgerAccount}
    {line : JournalLine} (hkeys : (accounts.map LedgerAccount.accountId).Nodup)
    (h : postLine tenantId accounts line = .ok posted) :
    trialBalance posted = trialBalance accounts + signed .debit line.side line.amount := by
  obtain ⟨account, haccount, h⟩ := bind_ok.mp h
  obtain rfl := Except.ok.inj h
  have hid : (account.post line).accountId = account.accountId := rfl
  rw [trialBalance_eq, trialBalance_eq,
    Table.sum_replace _ hkeys (lookupAccount_ok haccount).stored hid]
  have hpost : net (account.post line).normalSide (account.post line).balance =
      net account.normalSide account.balance + signed .debit line.side line.amount :=
    net_add_signed account.normalSide line.side account.balance line.amount
  omega

/-- Posted lines move the trial balance by their effect. -/
theorem trialBalance_postLines {tenantId : String} {accounts posted : List LedgerAccount}
    {lines : List JournalLine} (hkeys : (accounts.map LedgerAccount.accountId).Nodup)
    (h : postLines tenantId accounts lines = .ok posted) :
    trialBalance posted = trialBalance accounts + Posting.effect (lines.map JournalLine.posting) := by
  induction lines generalizing accounts with
  | nil =>
    obtain rfl := Except.ok.inj h
    exact (Int.add_zero _).symm
  | cons line rest ih =>
    obtain ⟨first, hfirst, hrest⟩ := bind_ok.mp h
    calc
      trialBalance posted =
          trialBalance first + Posting.effect (rest.map JournalLine.posting) :=
        ih (map_accountId_postLine hfirst ▸ hkeys) hrest
      _ = trialBalance accounts + signed .debit line.side line.amount +
          Posting.effect (rest.map JournalLine.posting) := by
        rw [trialBalance_postLine hkeys hfirst]
      _ = trialBalance accounts + Posting.effect ((line :: rest).map JournalLine.posting) :=
        Int.add_assoc _ _ _

/-- Balanced lines do not move it. -/
theorem trialBalance_postLines_balanced {tenantId : String} {accounts posted : List LedgerAccount}
    {lines : List JournalLine} (hkeys : (accounts.map LedgerAccount.accountId).Nodup)
    (hbalanced : sideSum .debit lines = sideSum .credit lines)
    (h : postLines tenantId accounts lines = .ok posted) :
    trialBalance posted = trialBalance accounts := by
  rw [trialBalance_postLines hkeys h, Posting.effect_eq_zero, Int.add_zero]
  rw [← sideSum_eq, ← sideSum_eq, hbalanced]

/-! ## Posted lines -/

def isPosted (db : LedgerDb) (journalId : String) : Bool :=
  db.journals.any fun journal ↦ journal.journalId == journalId && journal.status == .posted

/-- The lines of the posted journals on one account. -/
def postedLines (db : LedgerDb) (accountId : String) : List JournalLine :=
  linesOn accountId (db.lines.filter fun line ↦ isPosted db line.journalId)

theorem isPosted_iff {db : LedgerDb} {journalId : String} : isPosted db journalId = true ↔
    ∃ journal ∈ db.journals, journal.journalId = journalId ∧ journal.status = .posted := by
  simp [isPosted]

section Commit

variable {platform : LedgerPlatform} {db : LedgerDb} {call : LedgerCall} {answer : LedgerAnswer}
  {writes : Writes}

/-- How a commit writes the accounts: not at all, or by posting the lines of a journal that becomes
posted. -/
theorem accounts_apply (hmove : Move platform db call answer writes) :
    (writes.accounts = none ∧ ∀ after, writes.journals ≠ [.update after]) ∨
      ∃ tenantId journal after accounts, writes.accounts = some accounts ∧
        writes.journals = [.update after] ∧ writes.lines = [] ∧ Posts db call journal after ∧
        postLines tenantId db.accounts (linesOf db journal.journalId) = .ok accounts ∧
        sideSum .debit (linesOf db journal.journalId) =
          sideSum .credit (linesOf db journal.journalId) := by
  cases hmove with
  | disbursementPosted scope bank journal payment accounts hp =>
    exact Or.inr ⟨scope.tenantId, journal, _, accounts, rfl, rfl, rfl, hp.posts, hp.posted,
      (assertLinesBalanced_ok hp.balanced).1⟩
  | reversalPosted scope approval journal accounts hp =>
    exact Or.inr ⟨scope.tenantId, journal, _, accounts, rfl, rfl, rfl, hp.posts, hp.posted,
      (assertLinesBalanced_ok hp.balanced).1⟩
  | _ => exact Or.inl ⟨rfl, by simp [settlementWrites]⟩

theorem trialBalance_apply (hregular : Regular db) (hmove : Move platform db call answer writes) :
    trialBalance (writes.apply db).accounts = trialBalance db.accounts := by
  simp only [Writes.apply]
  rcases accounts_apply hmove with ⟨hnone, -⟩ |
    ⟨tenantId, journal, after, accounts, hsome, -, -, -, hposted, hbalanced⟩
  · rw [hnone, Option.getD_none]
  · rw [hsome, Option.getD_some]
    exact trialBalance_postLines_balanced hregular.accountIds hbalanced hposted

/-- A commit that posts no journal leaves the posted lines as they are. -/
theorem postedLines_apply_of_not_posting (hregular : Regular db)
    (hmove : Move platform db call answer writes) (haccepted : writes.Accepted db)
    (hnone : ∀ after, writes.journals ≠ [.update after]) (accountId : String) :
    postedLines (writes.apply db) accountId = postedLines db accountId := by
  have hposted (journalId : String) : isPosted (writes.apply db) journalId = isPosted db journalId := by
    rw [Bool.eq_iff_iff, isPosted_iff, isPosted_iff]
    constructor
    · rintro ⟨row, hrow, hid, hstatus⟩
      rcases mem_journals_apply hmove haccepted hrow with hold | ⟨-, hnew⟩ | ⟨journal, hupdate, -⟩
      · exact ⟨row, hold, hid, hstatus⟩
      · exact absurd hstatus hnew
      · exact absurd hupdate (hnone row)
    · rintro ⟨row, hrow, hid, hstatus⟩
      rcases exists_journal_apply hmove hregular.keyed.journals.keys hrow with hsame | ⟨_, _, hposts⟩
      · exact ⟨row, hsame, hid, hstatus⟩
      · exact absurd hstatus hposts.unposted
  simp only [postedLines, hposted]
  rcases lines_apply hmove with ⟨hsame, -⟩ | ⟨journal, new, hnew, hlines, howned, -⟩
  · rw [hsame]
  · -- the lines of a new journal are not posted
    have hinsert := haccepted.journals
    rw [hnew] at hinsert
    have hunposted : isPosted db journal.journalId = false := by
      rw [Bool.eq_false_iff, ne_eq, isPosted_iff]
      rintro ⟨old, hold, hid, -⟩
      exact (RowWrite.accepted_insert.mp (RowWrite.accepted_of_singleton hinsert) old hold).1 hid.symm
    have hfilter : new.filter (fun line ↦ isPosted db line.journalId) = [] :=
      List.filter_eq_nil_iff.mpr fun line hline ↦ by simp [howned line hline, hunposted]
    rw [hlines, List.filter_append, hfilter, List.append_nil]

/-- A commit that posts a journal adds its lines to the posted ones. -/
theorem postedLines_apply_of_posting (hregular : Regular db) {journal after : JournalEntry}
    (hposts : Posts db call journal after) (hjournals : writes.journals = [.update after])
    (hlines : writes.lines = []) (accountId : String) :
    (postedLines (writes.apply db) accountId).Perm
      (postedLines db accountId ++ linesOn accountId (linesOf db journal.journalId)) := by
  have hafter : (writes.apply db).journals =
      Table.replace JournalEntry.journalId after db.journals := by
    simp only [Writes.apply, hjournals]
    rfl
  have hposted (journalId : String) : isPosted (writes.apply db) journalId =
      (isPosted db journalId || journalId == journal.journalId) := by
    rw [Bool.eq_iff_iff, Bool.or_eq_true, isPosted_iff, isPosted_iff, beq_iff_eq, hafter]
    constructor
    · rintro ⟨row, hrow, hid, hstatus⟩
      rcases Table.mem_replace hrow with rfl | ⟨hold, -⟩
      · exact Or.inr (hid.symm.trans hposts.terms.id)
      · exact Or.inl ⟨row, hold, hid, hstatus⟩
    · rintro (⟨row, hrow, hid, hstatus⟩ | rfl)
      · refine ⟨row, Table.mem_replace_of_ne hrow fun hsame ↦ ?_, hid, hstatus⟩
        obtain rfl := hregular.journal_eq hposts.stored hrow (hsame.trans hposts.terms.id)
        exact hposts.unposted hstatus
      · exact ⟨after, Table.changed_mem_replace hposts.stored hposts.terms.id.symm, hposts.terms.id,
          hposts.posted⟩
  have hunposted : isPosted db journal.journalId = false := by
    rw [Bool.eq_false_iff, ne_eq, isPosted_iff]
    rintro ⟨old, hold, hid, hstatus⟩
    obtain rfl := hregular.journal_eq hposts.stored hold hid
    exact hposts.unposted hstatus
  have hsame : (writes.apply db).lines = db.lines := by
    simp only [Writes.apply, hlines, RowWrite.applyAll_nil]
  have hperm : (db.lines.filter fun line ↦ isPosted (writes.apply db) line.journalId).Perm
      ((db.lines.filter fun line ↦ isPosted db line.journalId) ++ linesOf db journal.journalId) := by
    simp only [hposted]
    refine Table.filter_or_perm fun line _ hline ↦ ?_
    rw [beq_eq_false_iff_ne]
    rintro hid
    rw [hid, hunposted] at hline
    cases hline
  rw [postedLines, hsame]
  exact (hperm.filter _).trans (by simp [postedLines, linesOn])

/-- What the accounts of a ledger are, compared with its opening. -/
def AccountsPosted (opening : Opening) (db : LedgerDb) : Prop :=
  db.accounts = opening.accounts.map fun account ↦ account.posted (postedLines db account.accountId)

theorem accountsPosted_apply {opening : Opening} (hregular : Regular db)
    (h : AccountsPosted opening db) (hmove : Move platform db call answer writes)
    (haccepted : writes.Accepted db) : AccountsPosted opening (writes.apply db) := by
  unfold AccountsPosted at h ⊢
  rcases accounts_apply hmove with ⟨hnone, hjournals⟩ |
    ⟨tenantId, journal, after, accounts, hsome, hjournals, hlines, hposts, hposted, -⟩
  · simp only [postedLines_apply_of_not_posting hregular hmove haccepted hjournals]
    rw [← h]
    simp only [Writes.apply, hnone, Option.getD_none]
  · have haccounts : (writes.apply db).accounts = accounts := by
      simp only [Writes.apply, hsome, Option.getD_some]
    rw [haccounts, postLines_eq hregular.accountIds hposted, h, List.map_map]
    refine List.map_congr_left fun account _ ↦ ?_
    have hperm := postedLines_apply_of_posting hregular hposts hjournals hlines account.accountId
    calc
      (account.posted (postedLines db account.accountId)).posted
            (linesOn account.accountId (linesOf db journal.journalId)) =
          account.posted (postedLines db account.accountId ++
            linesOn account.accountId (linesOf db journal.journalId)) :=
        (account.posted_append _ _).symm
      _ = account.posted (postedLines (writes.apply db) account.accountId) :=
        (account.posted_perm hperm).symm

/-- A posted journal and its lines stay as they are. -/
theorem posted_apply (hregular : Regular db) (hmove : Move platform db call answer writes)
    (haccepted : writes.Accepted db) {journal : JournalEntry} (hjournal : journal ∈ db.journals)
    (hposted : journal.status = .posted) :
    journal ∈ (writes.apply db).journals ∧
      linesOf (writes.apply db) journal.journalId = linesOf db journal.journalId := by
  refine ⟨?_, linesOf_apply hregular hmove haccepted hjournal⟩
  rcases exists_journal_apply hmove hregular.keyed.journals.keys hjournal with hsame | ⟨_, _, hposts⟩
  · exact hsame
  · exact absurd hposted hposts.unposted

end Commit

/-! ## Runs -/

theorem accountsPosted_run (platform : LedgerPlatform) (opening : Opening) (calls : List LedgerCall) :
    AccountsPosted opening ((ledger platform).run opening.db calls) := by
  refine (commit_invariant (AccountsPosted opening) (fun _ _ ↦ True) opening.regular ?_
    (fun _ _ _ _ hdb hinv _ hmove haccepted ↦ accountsPosted_apply hdb hinv hmove haccepted) calls
    fun _ _ ↦ trivial).2
  exact ((List.map_congr_left fun account _ ↦ account.posted_nil).trans (List.map_id _)).symm

theorem trialBalance_run (platform : LedgerPlatform) (opening : Opening) (calls : List LedgerCall) :
    trialBalance ((ledger platform).run opening.db calls).accounts = trialBalance opening.accounts :=
  (commit_invariant (fun db ↦ trialBalance db.accounts = trialBalance opening.accounts)
    (fun _ _ ↦ True) opening.regular rfl
    (fun _ _ _ _ hdb hinv _ hmove _ ↦ (trialBalance_apply hdb hmove).trans hinv) calls
    fun _ _ ↦ trivial).2

/-- A posted journal is found again, with its lines, after every later run. -/
theorem posted_run (platform : LedgerPlatform) {db : LedgerDb} (hregular : Regular db)
    {journal : JournalEntry} (hjournal : journal ∈ db.journals) (hposted : journal.status = .posted)
    (later : List LedgerCall) :
    journal ∈ ((ledger platform).run db later).journals ∧
      linesOf ((ledger platform).run db later) journal.journalId = linesOf db journal.journalId := by
  refine (commit_invariant (fun after ↦ journal ∈ after.journals ∧
    linesOf after journal.journalId = linesOf db journal.journalId) (fun _ _ ↦ True) hregular
    ⟨hjournal, rfl⟩ ?_ later fun _ _ ↦ trivial).2
  rintro after call answer writes hafter ⟨hstored, hlines⟩ - hmove haccepted
  have hkept := posted_apply hafter hmove haccepted hstored hposted
  exact ⟨hkept.1, hkept.2.trans hlines⟩

/-- In every state of every run the lines of each journal have equal positive sums, which are its
totals, each account is its opening row with the lines of the posted journals posted to it, the trial
balance is that of the opening, and a posted journal is the same with the same lines ever after. -/
theorem double_entry (platform : LedgerPlatform) (opening : Opening) (calls later : List LedgerCall) :
    (∀ journal ∈ ((ledger platform).run opening.db calls).journals,
      Balanced journal (linesOf ((ledger platform).run opening.db calls) journal.journalId)) ∧
    ((ledger platform).run opening.db calls).accounts = opening.accounts.map (fun account ↦
      account.posted
        (postedLines ((ledger platform).run opening.db calls) account.accountId)) ∧
    balanceSum .debit ((ledger platform).run opening.db calls).accounts -
        balanceSum .credit ((ledger platform).run opening.db calls).accounts =
      balanceSum .debit opening.accounts - balanceSum .credit opening.accounts ∧
    ∀ journal ∈ ((ledger platform).run opening.db calls).journals, journal.status = .posted →
      (∀ row, row ∈ ((ledger platform).run opening.db (calls ++ later)).journals ∧
        row.journalId = journal.journalId ↔ row = journal) ∧
      linesOf ((ledger platform).run opening.db (calls ++ later)) journal.journalId =
        linesOf ((ledger platform).run opening.db calls) journal.journalId := by
  have hregular := regular_run platform opening.regular calls
  refine ⟨hregular.balanced, accountsPosted_run platform opening calls,
    trialBalance_run platform opening calls, fun journal hjournal hposted ↦ ?_⟩
  rw [(ledger platform).run_append]
  have hkept := posted_run platform hregular hjournal hposted later
  have hafter := regular_run platform hregular later
  refine ⟨fun row ↦ ⟨fun ⟨hrow, hid⟩ ↦ hafter.journal_eq hkept.1 hrow hid, ?_⟩, hkept.2⟩
  rintro rfl
  exact ⟨hkept.1, rfl⟩

end Xyena.Ledger
