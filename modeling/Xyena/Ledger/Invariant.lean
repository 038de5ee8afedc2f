import Xyena.Ledger.Moves

/-!
# Openings and what every commit of the ledger keeps

A ledger opens with a chart of accounts and nothing else. `Regular` is what all
later results start from: keys and unique columns hold, lines belong to journals,
every journal is balanced, and every payment belongs to one disbursement journal
of its tenant that it pays the total of.
-/

namespace Xyena.Ledger

open Xyena.Foundation Xyena.Foundation.DoubleEntry Xyena.Foundation.Session Xyena.Contracts
open Xyena.Bank (tenantClash optionalClash)

/-- The chart of accounts with which a ledger opens. -/
structure Opening where
  accounts : List LedgerAccount
  accountIds : (accounts.map LedgerAccount.accountId).Nodup

def Opening.db (opening : Opening) : LedgerDb where
  accounts := opening.accounts

/-! ## Lines -/

/-- The posting that a line makes. -/
def JournalLine.posting (line : JournalLine) : Posting String where
  account := line.accountId
  side := line.side
  amount := line.amount

theorem sideSum_eq (side : Side) (lines : List JournalLine) :
    sideSum side lines = Posting.sideSum side (lines.map JournalLine.posting) := by
  simp only [sideSum, Posting.sideSum, List.filter_map, Table.sum, List.map_map]
  rfl

/-- The sums of a journal and of its lines. -/
structure Balanced (journal : JournalEntry) (lines : List JournalLine) : Prop where
  positive : 0 < journal.totalDebits
  totals : journal.totalDebits = journal.totalCredits
  debits : sideSum .debit lines = journal.totalDebits
  credits : sideSum .credit lines = journal.totalCredits

theorem balanced_disbursementLines (call : LedgerCall) (scope : RuntimeScope)
    {caseId currency key actionHash : String} {amount : Int} (hamount : 0 < amount) :
    Balanced (newDisbursement call scope caseId amount currency key actionHash)
      (disbursementLines call caseId amount currency) where
  positive := hamount
  totals := rfl
  debits := by simp [disbursementLines, newLine, sideSum, newDisbursement]
  credits := by simp [disbursementLines, newLine, sideSum, newDisbursement]

theorem map_posting_mirrorLines (call : LedgerCall) (originalJournalId : String)
    (lines : List JournalLine) :
    (mirrorLines call originalJournalId lines).map JournalLine.posting =
      (lines.map JournalLine.posting).map Posting.mirror := by
  simp only [mirrorLines, List.map_map]
  have hitem : (JournalLine.posting ∘ fun item : JournalLine × Nat ↦
      item.1.mirror call originalJournalId item.2) =
        (Posting.mirror ∘ JournalLine.posting) ∘ Prod.fst := by
    funext item
    rfl
  rw [hitem, ← List.map_map, List.zipIdx_map_fst]

theorem sideSum_mirrorLines (call : LedgerCall) (originalJournalId : String) (side : Side)
    (lines : List JournalLine) :
    sideSum side (mirrorLines call originalJournalId lines) = sideSum side.other lines := by
  rw [sideSum_eq, sideSum_eq, map_posting_mirrorLines, Posting.sideSum_mirror]

/-- Every new line belongs to the new journal. -/
theorem journalId_of_mem_mirrorLines {call : LedgerCall} {originalJournalId : String}
    {lines : List JournalLine} {line : JournalLine} (h : line ∈ mirrorLines call originalJournalId lines) :
    line.journalId = newReversalId call := by
  obtain ⟨item, -, rfl⟩ := List.mem_map.mp h
  rfl

theorem journalId_of_mem_disbursementLines {call : LedgerCall} {caseId currency : String} {amount : Int}
    {line : JournalLine} (h : line ∈ disbursementLines call caseId amount currency) :
    line.journalId = newJournalId call := by
  simp only [disbursementLines, List.mem_cons, List.not_mem_nil, or_false] at h
  rcases h with rfl | rfl <;> rfl

/-- The lines of the journals after the lines of a new journal were added. -/
theorem linesOf_append {db after : LedgerDb} {new : List JournalLine} {newId : String}
    (hlines : after.lines = db.lines ++ new) (hnew : ∀ line ∈ new, line.journalId = newId)
    (hunused : ∀ line ∈ db.lines, line.journalId ≠ newId) (journalId : String) :
    linesOf after journalId = if journalId = newId then new else linesOf db journalId := by
  simp only [linesOf, hlines, List.filter_append]
  split
  next hsame =>
    subst hsame
    rw [List.filter_eq_nil_iff.mpr (by simpa using hunused),
      List.filter_eq_self.mpr (by simpa using hnew), List.nil_append]
  next hother =>
    have hnone : new.filter (fun line ↦ line.journalId == journalId) = [] :=
      List.filter_eq_nil_iff.mpr fun line hline ↦ by simpa [hnew line hline] using Ne.symm hother
    rw [hnone, List.append_nil]

/-! ## Regular ledgers -/

/-- The disbursement journal of a payment. -/
structure Pays (payment : PaymentInstruction) (journal : JournalEntry) : Prop where
  id : journal.journalId = payment.journalId
  kind : journal.entryType = .disbursement
  tenant : journal.tenantId = payment.tenantId
  amount : journal.totalDebits = payment.amount
  unposted : journal.status ≠ .posted →
    payment.status = .prepared ∧ payment.bankExecutionId = none ∧ payment.bankReference = none

structure Regular (db : LedgerDb) : Prop where
  keyed : db.WellKeyed
  accountIds : (db.accounts.map LedgerAccount.accountId).Nodup
  owned : ∀ line ∈ db.lines, line.journalId ∈ db.journals.map JournalEntry.journalId
  balanced : ∀ journal ∈ db.journals, Balanced journal (linesOf db journal.journalId)
  paid : ∀ payment ∈ db.payments, ∃ journal ∈ db.journals, Pays payment journal
  single : (db.payments.map PaymentInstruction.journalId).Nodup

theorem Opening.regular (opening : Opening) : Regular opening.db where
  keyed :=
    { journals := meets_nil _
      lines := meets_nil _
      payments := meets_nil _
      receipts := meets_nil _
      reconciliations := meets_nil _
      inboxEvents := meets_nil _ }
  accountIds := opening.accountIds
  owned := by simp [Opening.db]
  balanced := by simp [Opening.db]
  paid := by simp [Opening.db]
  single := by simp [Opening.db]

section Tables

variable {db : LedgerDb} {journal other : JournalEntry}

theorem Regular.journal_eq (h : Regular db) (hjournal : journal ∈ db.journals)
    (hother : other ∈ db.journals) (hid : other.journalId = journal.journalId) : other = journal :=
  Table.eq_of_key h.keyed.journals.keys hother hjournal hid

/-- Journals of one tenant that were posted under one call identifier are one journal. -/
theorem Regular.journal_eq_of_callId (h : Regular db) (hjournal : journal ∈ db.journals)
    (hother : other ∈ db.journals) (htenant : journal.tenantId = other.tenantId) {callId : String}
    (hcall : journal.guardianCallId = some callId) (hcall' : other.guardianCallId = some callId) :
    journal = other := by
  by_contra hne
  have hclash := h.keyed.journals.unique journal hjournal other hother
    fun hid ↦ hne (h.journal_eq hother hjournal hid)
  simp [journalConstraints, tenantOptionalClash, optionalClash, htenant, hcall, hcall'] at hclash

/-- Journals of one tenant under one idempotency key are one journal. -/
theorem Regular.journal_eq_of_key (h : Regular db) (hjournal : journal ∈ db.journals)
    (hother : other ∈ db.journals) (htenant : journal.tenantId = other.tenantId)
    (hkey : journal.idempotencyKey = other.idempotencyKey) : journal = other := by
  by_contra hne
  have hclash := h.keyed.journals.unique journal hjournal other hother
    fun hid ↦ hne (h.journal_eq hother hjournal hid)
  simp [journalConstraints, tenantClash, htenant, hkey] at hclash

/-- A new journal has no lines yet. -/
theorem Regular.lines_unused (h : Regular db)
    (haccepted : RowWrite.acceptedAll journalConstraints db.journals [.insert journal] = true) :
    ∀ line ∈ db.lines, line.journalId ≠ journal.journalId := by
  intro line hline hid
  obtain ⟨old, hold, hsame⟩ := List.mem_map.mp (h.owned line hline)
  have hne := (RowWrite.accepted_insert.mp (RowWrite.accepted_of_singleton haccepted) old hold).1
  exact hne (hid.symm.trans hsame.symm)

/-- A new journal has no payment yet. -/
theorem Regular.payments_unused (h : Regular db)
    (haccepted : RowWrite.acceptedAll journalConstraints db.journals [.insert journal] = true) :
    ∀ payment ∈ db.payments, payment.journalId ≠ journal.journalId := by
  intro payment hpayment hid
  obtain ⟨old, hold, hpays⟩ := h.paid payment hpayment
  have hne := (RowWrite.accepted_insert.mp (RowWrite.accepted_of_singleton haccepted) old hold).1
  exact hne (hid.symm.trans hpays.id.symm)

/-- The payment of a journal belongs to the tenant of the journal. -/
theorem Regular.tenant_of_paymentOf (h : Regular db) {payment : PaymentInstruction}
    (hjournal : journal ∈ db.journals) (hpaid : paymentOf db journal.journalId = some payment) :
    payment.tenantId = journal.tenantId := by
  obtain ⟨hpayment, hid⟩ := paymentOf_some hpaid
  obtain ⟨own, hown, hpays⟩ := h.paid payment hpayment
  obtain rfl := h.journal_eq hjournal hown (hpays.id.trans hid)
  exact hpays.tenant.symm

end Tables

/-! ## Commits -/

theorem map_accountId_postLine {tenantId : String} {accounts posted : List LedgerAccount}
    {line : JournalLine} (h : postLine tenantId accounts line = .ok posted) :
    posted.map LedgerAccount.accountId = accounts.map LedgerAccount.accountId := by
  obtain ⟨account, -, h⟩ := bind_ok.mp h
  obtain rfl := Except.ok.inj h
  exact Table.map_key_replace _ _ _

/-- Posting changes no identifier of an account. -/
theorem map_accountId_postLines {tenantId : String} {accounts posted : List LedgerAccount}
    {lines : List JournalLine} (h : postLines tenantId accounts lines = .ok posted) :
    posted.map LedgerAccount.accountId = accounts.map LedgerAccount.accountId := by
  induction lines generalizing accounts with
  | nil => rw [← Except.ok.inj h]
  | cons line rest ih =>
    obtain ⟨first, hfirst, hrest⟩ := bind_ok.mp h
    rw [ih hrest, map_accountId_postLine hfirst]

section Commit

variable {platform : LedgerPlatform} {db : LedgerDb} {call : LedgerCall} {answer : LedgerAnswer}
  {writes : Writes}

theorem accountIds_apply (h : (db.accounts.map LedgerAccount.accountId).Nodup)
    (hmove : Move platform db call answer writes) :
    ((writes.apply db).accounts.map LedgerAccount.accountId).Nodup := by
  cases hmove with
  | disbursementPosted scope bank journal payment accounts hp =>
    change (accounts.map LedgerAccount.accountId).Nodup
    rwa [map_accountId_postLines hp.posted]
  | reversalPosted scope approval journal accounts hp =>
    change (accounts.map LedgerAccount.accountId).Nodup
    rwa [map_accountId_postLines hp.posted]
  | _ => exact h

/-- The lines after a commit: those of a new journal are added, all others stay. -/
theorem lines_apply (hmove : Move platform db call answer writes) :
    ((writes.apply db).lines = db.lines ∧ ∀ journal, writes.journals ≠ [.insert journal]) ∨
      ∃ journal new, writes.journals = [.insert journal] ∧ (writes.apply db).lines = db.lines ++ new ∧
        (∀ line ∈ new, line.journalId = journal.journalId) ∧
        (Regular db → Balanced journal new) := by
  cases hmove with
  | disbursementPrepared scope caseId source beneficiary amountText currency rail key actionHash amount
      audits hhash hp =>
    refine Or.inr ⟨_, _, rfl, RowWrite.applyAll_insert _ _, ?_, fun _ ↦ ?_⟩
    · exact fun line hline ↦ journalId_of_mem_disbursementLines hline
    · exact balanced_disbursementLines call scope (positiveAmount_pos hp.parsed)
  | reversalPrepared scope original reason key audits hp =>
    refine Or.inr ⟨_, _, rfl, RowWrite.applyAll_insert _ _, ?_, fun hregular ↦ ?_⟩
    · exact fun line hline ↦ journalId_of_mem_mirrorLines hline
    · have horiginal := hregular.balanced original hp.found.stored
      exact
        { positive := horiginal.totals.symm.trans_gt horiginal.positive
          totals := horiginal.totals.symm
          debits := (sideSum_mirrorLines call _ _ _).trans horiginal.credits
          credits := (sideSum_mirrorLines call _ _ _).trans horiginal.debits }
  | _ => exact Or.inl ⟨rfl, by simp [disbursementWrites, reversalWrites, settlementWrites]⟩

/-- The terms of a journal, which posting keeps. -/
structure SameTerms (journal after : JournalEntry) : Prop where
  id : after.journalId = journal.journalId
  tenant : after.tenantId = journal.tenantId
  kind : after.entryType = journal.entryType
  debits : after.totalDebits = journal.totalDebits
  credits : after.totalCredits = journal.totalCredits
  key : after.idempotencyKey = journal.idempotencyKey
  actionHash : after.canonicalActionHash = journal.canonicalActionHash
  origin : after.reversalOfJournalId = journal.reversalOfJournalId

theorem SameTerms.refl (journal : JournalEntry) : SameTerms journal journal :=
  ⟨rfl, rfl, rfl, rfl, rfl, rfl, rfl, rfl⟩

/-- What the posting of a stored journal by a call leaves. -/
structure Posts (db : LedgerDb) (call : LedgerCall) (journal after : JournalEntry) : Prop where
  stored : journal ∈ db.journals
  unposted : journal.status ≠ .posted
  posted : after.status = .posted
  terms : SameTerms journal after
  signed : ∃ scope op, call.request = .scoped scope op ∧ scope.tenantId = journal.tenantId ∧
    after.guardianCallId = some scope.callId

theorem PostsDisbursement.posts {scope : RuntimeScope} {bank : BankTransferRequest}
    {journal : JournalEntry} {payment : PaymentInstruction} {accounts : List LedgerAccount}
    (h : PostsDisbursement db call scope bank journal payment accounts) :
    Posts db call journal (journal.post call scope) where
  stored := h.found.stored
  unposted := by simp [h.validated]
  posted := rfl
  terms := ⟨rfl, rfl, rfl, rfl, rfl, rfl, rfl, rfl⟩
  signed := ⟨scope, _, h.request, h.found.tenant.symm, rfl⟩

theorem PostsReversal.posts {scope : RuntimeScope} {approval : String} {journal : JournalEntry}
    {accounts : List LedgerAccount} (h : PostsReversal db call scope approval journal accounts) :
    Posts db call journal (journal.approve call scope approval) where
  stored := h.found.stored
  unposted := by simp [h.pending]
  posted := rfl
  terms := ⟨rfl, rfl, rfl, rfl, rfl, rfl, rfl, rfl⟩
  signed := ⟨scope, _, h.request, h.found.tenant.symm, rfl⟩

/-- How a commit writes the journals: not at all, by a new one, or by posting a stored one. -/
theorem journals_apply (hmove : Move platform db call answer writes) :
    writes.journals = [] ∨
      (∃ journal, writes.journals = [.insert journal] ∧ journal.status ≠ .posted ∧
        journal.guardianCallId = none) ∨
      ∃ journal after, writes.journals = [.update after] ∧ Posts db call journal after := by
  cases hmove with
  | disbursementPrepared => exact Or.inr (Or.inl ⟨_, rfl, by simp [newDisbursement], rfl⟩)
  | reversalPrepared => exact Or.inr (Or.inl ⟨_, rfl, by simp [newReversal], rfl⟩)
  | disbursementPosted scope bank journal payment accounts hp =>
    exact Or.inr (Or.inr ⟨journal, _, rfl, hp.posts⟩)
  | reversalPosted scope approval journal accounts hp =>
    exact Or.inr (Or.inr ⟨journal, _, rfl, hp.posts⟩)
  | _ => exact Or.inl rfl

/-- Every journal after a commit is an old one, a new one or one that was posted. -/
theorem mem_journals_apply (hmove : Move platform db call answer writes)
    (haccepted : writes.Accepted db) {row : JournalEntry} (h : row ∈ (writes.apply db).journals) :
    row ∈ db.journals ∨ (writes.journals = [.insert row] ∧ row.status ≠ .posted) ∨
      ∃ journal, writes.journals = [.update row] ∧ Posts db call journal row := by
  have haccepted := haccepted.journals
  simp only [Writes.apply] at h
  rcases journals_apply hmove with hnone | ⟨new, hnew, hstatus, -⟩ | ⟨journal, after, hafter, hposts⟩
  · rw [hnone] at h
    exact Or.inl h
  · rw [hnew] at h haccepted
    rcases RowWrite.mem_written haccepted h with rfl | ⟨hold, -⟩
    · exact Or.inr (Or.inl ⟨hnew, hstatus⟩)
    · exact Or.inl hold
  · rw [hafter] at h haccepted
    rcases RowWrite.mem_written haccepted h with rfl | ⟨hold, -⟩
    · exact Or.inr (Or.inr ⟨journal, hafter, hposts⟩)
    · exact Or.inl hold

/-- A journal is found again after every commit: as it was, or posted by the call. -/
theorem exists_journal_apply (hmove : Move platform db call answer writes)
    (hkeys : (db.journals.map JournalEntry.journalId).Nodup) {journal : JournalEntry}
    (hjournal : journal ∈ db.journals) :
    journal ∈ (writes.apply db).journals ∨
      ∃ after ∈ (writes.apply db).journals, Posts db call journal after := by
  simp only [Writes.apply]
  rcases journals_apply hmove with hnone | ⟨new, hnew, -⟩ | ⟨posted, after, hafter, hposts⟩
  · rw [hnone]
    exact Or.inl hjournal
  · rw [hnew]
    exact Or.inl (List.mem_append_left _ hjournal)
  · rw [hafter]
    by_cases hid : journal.journalId = posted.journalId
    · obtain rfl := Table.eq_of_key hkeys hjournal hposts.stored hid
      exact Or.inr ⟨after, Table.changed_mem_replace hjournal hposts.terms.id.symm, hposts⟩
    · exact Or.inl (Table.mem_replace_of_ne hjournal fun heq ↦ hid (heq.trans hposts.terms.id))

/-- No stored journal gains or loses a line. -/
theorem linesOf_apply (hregular : Regular db) (hmove : Move platform db call answer writes)
    (haccepted : writes.Accepted db) {journal : JournalEntry} (hjournal : journal ∈ db.journals) :
    linesOf (writes.apply db) journal.journalId = linesOf db journal.journalId := by
  rcases lines_apply hmove with ⟨hsame, -⟩ | ⟨new, lines, hnew, hlines, howned, -⟩
  · simp only [linesOf, hsame]
  · have hinsert := haccepted.journals
    rw [hnew] at hinsert
    have hne := (RowWrite.accepted_insert.mp (RowWrite.accepted_of_singleton hinsert) journal hjournal).1
    rw [linesOf_append hlines howned (hregular.lines_unused hinsert)]
    exact if_neg (Ne.symm hne)

theorem owned_apply (hregular : Regular db) (hmove : Move platform db call answer writes) :
    ∀ line ∈ (writes.apply db).lines,
      line.journalId ∈ (writes.apply db).journals.map JournalEntry.journalId := by
  have hkept {journalId : String} (h : journalId ∈ db.journals.map JournalEntry.journalId) :
      journalId ∈ (writes.apply db).journals.map JournalEntry.journalId := by
    obtain ⟨journal, hjournal, rfl⟩ := List.mem_map.mp h
    rcases exists_journal_apply hmove hregular.keyed.journals.keys hjournal with
      hsame | ⟨after, hafter, hposts⟩
    · exact List.mem_map_of_mem hsame
    · exact hposts.terms.id ▸ List.mem_map_of_mem hafter
  intro line hline
  rcases lines_apply hmove with ⟨hsame, -⟩ | ⟨journal, new, hnew, hlines, howned, -⟩
  · rw [hsame] at hline
    exact hkept (hregular.owned line hline)
  · rw [hlines] at hline
    rcases List.mem_append.mp hline with hold | hadded
    · exact hkept (hregular.owned line hold)
    · simp only [Writes.apply, hnew, howned line hadded]
      exact List.mem_map_of_mem (List.mem_append_right _ (List.mem_singleton.mpr rfl))

theorem balanced_apply (hregular : Regular db) (hmove : Move platform db call answer writes)
    (haccepted : writes.Accepted db) : ∀ journal ∈ (writes.apply db).journals,
      Balanced journal (linesOf (writes.apply db) journal.journalId) := by
  intro row hrow
  rcases mem_journals_apply hmove haccepted hrow with hold | ⟨hnew, -⟩ | ⟨journal, -, hposts⟩
  · rw [linesOf_apply hregular hmove haccepted hold]
    exact hregular.balanced row hold
  · rcases lines_apply hmove with ⟨-, hnone⟩ | ⟨journal, new, hinserted, hlines, howned, hbalanced⟩
    · exact absurd hnew (hnone row)
    · obtain rfl : row = journal := by simpa [hinserted] using hnew.symm
      have hinsert := haccepted.journals
      rw [hnew] at hinsert
      rw [linesOf_append hlines howned (hregular.lines_unused hinsert), if_pos rfl]
      exact hbalanced hregular
  · have hjournal := hregular.balanced journal hposts.stored
    rw [hposts.terms.id, linesOf_apply hregular hmove haccepted hposts.stored]
    exact
      { positive := hposts.terms.debits ▸ hjournal.positive
        totals := by rw [hposts.terms.debits, hposts.terms.credits, hjournal.totals]
        debits := hjournal.debits.trans hposts.terms.debits.symm
        credits := hjournal.credits.trans hposts.terms.credits.symm }

/-- The payment of a journal still pays it when the journal is posted. -/
theorem Pays.posted {payment : PaymentInstruction} {journal after : JournalEntry}
    (h : Pays payment journal) (hposts : Posts db call journal after) : Pays payment after where
  id := hposts.terms.id.trans h.id
  kind := hposts.terms.kind.trans h.kind
  tenant := hposts.terms.tenant.trans h.tenant
  amount := hposts.terms.debits.trans h.amount
  unposted hstatus := absurd hposts.posted hstatus

/-- How a commit writes the payments. -/
theorem payments_apply (hmove : Move platform db call answer writes) :
    writes.payments = [] ∨
      (∃ payment journal, writes.payments = [.insert payment] ∧ writes.journals = [.insert journal] ∧
        Pays payment journal) ∨
      (∃ bank payment journal after, writes.payments = [.update (payment.submit bank)] ∧
        writes.journals = [.update after] ∧ payment ∈ db.payments ∧
        payment.journalId = journal.journalId ∧ Posts db call journal after) ∨
      ∃ event amount payment, writes.payments = [.update (payment.settle event.bankReference)] ∧
        writes.journals = [] ∧ Settles db call event amount payment := by
  cases hmove with
  | disbursementPrepared =>
    exact Or.inr (Or.inl ⟨_, _, rfl, rfl, rfl, rfl, rfl, rfl, fun _ ↦ ⟨rfl, rfl, rfl⟩⟩)
  | disbursementPosted scope bank journal payment accounts hp =>
    have hpaid := paymentOf_some hp.paid
    exact Or.inr (Or.inr (Or.inl ⟨bank, payment, journal, _, rfl, rfl, hpaid.1, hpaid.2, hp.posts⟩))
  | settled event amount payment hs =>
    exact Or.inr (Or.inr (Or.inr ⟨event, amount, payment, rfl, rfl, hs⟩))
  | _ => exact Or.inl rfl

/-- A stored payment is still paid after a commit. -/
theorem exists_pays_apply (hmove : Move platform db call answer writes)
    (hkeys : (db.journals.map JournalEntry.journalId).Nodup) {payment : PaymentInstruction}
    (h : ∃ journal ∈ db.journals, Pays payment journal) :
    ∃ journal ∈ (writes.apply db).journals, Pays payment journal := by
  obtain ⟨journal, hjournal, hpays⟩ := h
  rcases exists_journal_apply hmove hkeys hjournal with hsame | ⟨after, hafter, hposts⟩
  · exact ⟨journal, hsame, hpays⟩
  · exact ⟨after, hafter, hpays.posted hposts⟩

theorem paid_apply (hregular : Regular db) (hmove : Move platform db call answer writes)
    (haccepted : writes.Accepted db) : ∀ payment ∈ (writes.apply db).payments,
      ∃ journal ∈ (writes.apply db).journals, Pays payment journal := by
  have hkeys := hregular.keyed.journals.keys
  have hkept (payment : PaymentInstruction) (hpayment : payment ∈ db.payments) :=
    exists_pays_apply hmove hkeys (hregular.paid payment hpayment)
  have hpayments := haccepted.payments
  intro row hrow
  simp only [Writes.apply] at hrow
  rcases payments_apply hmove with hnone | ⟨new, journal, hnew, hinserted, hpays⟩ |
    ⟨bank, payment, journal, after, hupdate, hposted, hstored, hid, hposts⟩ |
    ⟨event, amount, payment, hupdate, hjournals, hs⟩
  · rw [hnone] at hrow
    exact hkept row hrow
  · rw [hnew] at hrow hpayments
    rcases RowWrite.mem_written hpayments hrow with rfl | ⟨hold, -⟩
    · refine ⟨journal, ?_, hpays⟩
      simp only [Writes.apply, hinserted]
      exact List.mem_append_right _ (List.mem_singleton.mpr rfl)
    · exact hkept row hold
  · rw [hupdate] at hrow hpayments
    rcases RowWrite.mem_written hpayments hrow with rfl | ⟨hold, -⟩
    · obtain ⟨own, hown, hpays⟩ := hregular.paid payment hstored
      obtain rfl := hregular.journal_eq hposts.stored hown (hpays.id.trans hid)
      refine ⟨after, ?_, ?_⟩
      · simp only [Writes.apply, hposted]
        exact Table.changed_mem_replace hown hposts.terms.id.symm
      · have hafter := hpays.posted hposts
        exact ⟨hafter.id, hafter.kind, hafter.tenant, hafter.amount, absurd hposts.posted⟩
    · exact hkept row hold
  · rw [hupdate] at hrow hpayments
    rcases RowWrite.mem_written hpayments hrow with rfl | ⟨hold, -⟩
    · obtain ⟨journal, hjournal, hpays⟩ := hkept payment hs.stored
      refine ⟨journal, hjournal, hpays.id, hpays.kind, hpays.tenant, hpays.amount, fun hstatus ↦ ?_⟩
      have hexecuted := hs.executed
      rw [(hpays.unposted hstatus).2.1] at hexecuted
      cases hexecuted
    · exact hkept row hold

theorem single_apply (hregular : Regular db) (hmove : Move platform db call answer writes)
    (haccepted : writes.Accepted db) :
    ((writes.apply db).payments.map PaymentInstruction.journalId).Nodup := by
  have hkept (changed : PaymentInstruction) {payment : PaymentInstruction}
      (hstored : payment ∈ db.payments) (hid : changed.paymentId = payment.paymentId)
      (hjournal : changed.journalId = payment.journalId) :
      (RowWrite.applyAll paymentConstraints db.payments [.update changed]).map
        PaymentInstruction.journalId = db.payments.map PaymentInstruction.journalId :=
    RowWrite.map_update hregular.keyed.payments hstored hid hjournal
  simp only [Writes.apply]
  rcases payments_apply hmove with hnone | ⟨new, journal, hnew, hinserted, hpays⟩ |
    ⟨bank, payment, journal, after, hupdate, -, hstored, -⟩ | ⟨event, amount, payment, hupdate, -, hs⟩
  · rw [hnone]
    exact hregular.single
  · have hinsert := haccepted.journals
    rw [hinserted] at hinsert
    rw [hnew]
    refine Table.nodup_keys_append hregular.single fun old hold ↦ ?_
    rw [← hpays.id]
    exact (hregular.payments_unused hinsert old hold).symm
  · rw [hupdate]
    exact (hkept (payment.submit bank) hstored rfl rfl).symm ▸ hregular.single
  · rw [hupdate]
    exact (hkept (payment.settle event.bankReference) hs.stored rfl rfl).symm ▸ hregular.single

theorem Regular.apply (h : Regular db) (hmove : Move platform db call answer writes)
    (haccepted : writes.Accepted db) : Regular (writes.apply db) where
  keyed := h.keyed.apply haccepted
  accountIds := accountIds_apply h.accountIds hmove
  owned := owned_apply h hmove
  balanced := balanced_apply h hmove haccepted
  paid := paid_apply h hmove haccepted
  single := single_apply h hmove haccepted

end Commit

/-! ## Runs -/

/-- One served call of a run. -/
abbrev LedgerEntry := Entry LedgerDb LedgerCall (Except LedgerError LedgerAnswer)

section Runs

variable {platform : LedgerPlatform} {start : LedgerDb}

/-- Induction over the commits of a run for a property of the calls so far and the tables they lead to.
Only calls that meet `Admitted` have to keep it. -/
theorem commit_history (Inv : List LedgerEntry → LedgerDb → Prop)
    (Admitted : LedgerDb → LedgerCall → Prop) (hregular : Regular start) (hstart : Inv [] start)
    (hkept : ∀ history db e, Inv history db → Inv (history ++ [e]) db)
    (hcommit : ∀ history db call answer writes, Regular db → Inv history db → Admitted db call →
      Move platform db call answer writes → call.refused = false → writes.Accepted db →
      (ledger platform).step db call = (.ok answer, writes.apply db) →
      Inv (history ++ [(ledger platform).entry db call]) (writes.apply db))
    (calls : List LedgerCall)
    (hadmitted : ∀ e ∈ (ledger platform).log start calls, Admitted e.before e.input) :
    Regular ((ledger platform).run start calls) ∧
      Inv ((ledger platform).log start calls) ((ledger platform).run start calls) := by
  refine (sessions platform).commit_history (fun history db ↦ Regular db ∧ Inv history db) Admitted
    ⟨hregular, hstart⟩ ?_ ?_ calls hadmitted
  · rintro history db e ⟨hdb, hinv⟩
    exact ⟨hdb, hkept history db e hinv⟩
  · rintro history db call answer writes ⟨hdb, hinv⟩ hadmitted hserve hrefused haccepted hstep
    have hmove : Move platform db call answer writes := ends_of_serve hserve
    have haccepted := Writes.accepted_iff.mp haccepted
    exact ⟨hdb.apply hmove haccepted,
      hcommit history db call answer writes hdb hinv hadmitted hmove hrefused haccepted hstep⟩

/-- The same rule for a property of the tables alone. -/
theorem commit_invariant (Inv : LedgerDb → Prop) (Admitted : LedgerDb → LedgerCall → Prop)
    (hregular : Regular start) (hstart : Inv start)
    (hcommit : ∀ db call answer writes, Regular db → Inv db → Admitted db call →
      Move platform db call answer writes → writes.Accepted db → Inv (writes.apply db))
    (calls : List LedgerCall)
    (hadmitted : ∀ e ∈ (ledger platform).log start calls, Admitted e.before e.input) :
    Regular ((ledger platform).run start calls) ∧ Inv ((ledger platform).run start calls) :=
  commit_history (fun _ db ↦ Inv db) Admitted hregular hstart (fun _ _ _ h ↦ h)
    (fun _ db call answer writes hdb hinv hadmitted hmove _ haccepted _ ↦
      hcommit db call answer writes hdb hinv hadmitted hmove haccepted) calls hadmitted

variable (platform) in
theorem regular_run (hregular : Regular start) (calls : List LedgerCall) :
    Regular ((ledger platform).run start calls) :=
  (commit_invariant (fun _ ↦ True) (fun _ _ ↦ True) hregular trivial (fun _ _ _ _ _ _ _ _ _ ↦ trivial)
    calls fun _ _ ↦ trivial).1

/-- How one call ends: it raises, replies without rows, or commits a move. -/
theorem step_cases (platform : LedgerPlatform) (db : LedgerDb) (call : LedgerCall) :
    (∃ failure, (ledger platform).step db call = (.error failure, db)) ∨
      (∃ answer, Reply platform db call answer ∧ (ledger platform).step db call = (.ok answer, db)) ∨
      ∃ answer writes, Move platform db call answer writes ∧ call.refused = false ∧
        writes.Accepted db ∧ (ledger platform).step db call = (.ok answer, writes.apply db) := by
  rcases (sessions platform).step_cases db call with
    hraised | ⟨answer, hserve, hstep⟩ | ⟨answer, writes, hserve, hrefused, haccepted, hstep⟩
  · exact Or.inl hraised
  · exact Or.inr (Or.inl ⟨answer, ends_of_serve hserve, hstep⟩)
  · exact Or.inr (Or.inr ⟨answer, writes, ends_of_serve hserve, hrefused,
      Writes.accepted_iff.mp haccepted, hstep⟩)

end Runs

/-! ## A small ledger -/

/-- A digest that is given by a table, and marked when the text is not in it. -/
def tableDigest (digests : List (String × String)) (text : String) : String :=
  (digests.lookup text).getD ("#" ++ text)

theorem tableDigest_injective {digests : List (String × String)}
    (hunmarked : ∀ item ∈ digests, item.2.toList.head? ≠ some '#')
    (hnodup : (digests.map Prod.snd).Nodup) : Function.Injective (tableDigest digests) := by
  have hmarked (text : String) : ("#" ++ text).toList.head? = some '#' := by simp
  have hmem {text digest : String} (hlookup : digests.lookup text = some digest) :
      (text, digest) ∈ digests := by
    obtain ⟨first, rest, heq, -⟩ := List.lookup_eq_some_iff.mp hlookup
    rw [heq]
    simp
  intro first second h
  simp only [tableDigest] at h
  cases hfirst : digests.lookup first with
  | none =>
    cases hsecond : digests.lookup second with
    | none => simpa [hfirst, hsecond] using h
    | some digest =>
      rw [hfirst, hsecond, Option.getD_none, Option.getD_some] at h
      exact absurd (h ▸ hmarked first) (hunmarked _ (hmem hsecond))
  | some digest =>
    cases hsecond : digests.lookup second with
    | none =>
      rw [hfirst, hsecond, Option.getD_none, Option.getD_some] at h
      exact absurd (h ▸ hmarked second) (hunmarked _ (hmem hfirst))
    | some digest' =>
      rw [hfirst, hsecond, Option.getD_some, Option.getD_some] at h
      exact congrArg Prod.fst (Table.eq_of_key hnodup (hmem hfirst) (hmem hsecond) h)

/-- The digests of what is prepared and settled in the small ledger. -/
def sampleDigests : List (String × String) :=
  [("\x7b\"idempotency_key\":\"reversal-1\",\"original_journal_id\":\"jrnl_10\"," ++
      "\"reason\":\"duplicate\"\x7d",
      "b6b07cb66a1405bb79fdb1e164f9c91f8439da8edbc95aa9efcc59e2772c6fdb"),
    ("\x7b\"idempotency_key\":\"reversal-2\",\"original_journal_id\":\"jrnl_10\"," ++
      "\"reason\":\"duplicate\"\x7d",
      "da0474eeeea7c3a9179d71f7cf5125ec03302026baebf2b39e944850c4bef745"),
    ("\x7b\"amount\":\"100.00\",\"beneficiary_token\":\"ben-1\"," ++
      "\"client_idempotency_key\":\"payment-1\",\"currency\":\"INR\"," ++
      "\"financing_case_id\":\"case-1\",\"purpose\":\"invoice\",\"rail\":\"DEMO_BANK_RAIL\"," ++
      "\"source_account_token\":\"acct-1\",\"tenant_id\":\"tenant-1\"\x7d",
      "d720ebcefe76a444ac3bfa4e05de47437fdbb3120d05e945a5e07b4a674f719a"),
    ("\x7b\"amount\":\"100.00\",\"bank_execution_id\":\"exec-1\"," ++
      "\"bank_reference\":\"XY00000002\",\"currency\":\"INR\",\"payment_id\":\"pay_11\"," ++
      "\"settled_at\":\"0\"\x7d",
      "07415007af2e6b61c3b76e375c7b96303b62dc95786b1c723f0d0f83467ee22d")]

def sampleLedger : LedgerPlatform where
  mcpToken := "ledger-secret"
  hmac secret text := text ++ " under " ++ secret
  sha256 := tableDigest sampleDigests
  containerText _ := "[]"
  isoformat instant := toString instant

theorem sampleLedger_injective : Function.Injective sampleLedger.sha256 :=
  tableDigest_injective (by decide +kernel) (by decide +kernel)

/-- The two accounts that disbursements are booked on. -/
def sampleOpening : Opening where
  accounts :=
    [{ accountId := cashClearing, tenantId := "tenant-1", code := "1010", name := "Cash clearing"
       accountType := "ASSET", normalSide := .debit, currency := "INR", balance := 250000 },
      { accountId := loanReceivable, tenantId := "tenant-1", code := "1210", name := "Loan receivable"
        accountType := "ASSET", normalSide := .debit, currency := "INR" }]
  accountIds := by decide

def sampleScope (label : String) : RuntimeScope where
  tenantId := "tenant-1"
  organizationId := "org-1"
  userId := "user-1"
  sessionId := "session-1"
  runId := "run-1"
  callId := "call-" ++ label
  correlationId := "correlation-1"
  agentName := "finance-agent"
  canonicalName := "ledger"
  purpose := "invoice"
  requestHash := "request-" ++ label
  guardianDecisionId := "decision-" ++ label
  authorizationId := "authorization-" ++ label

/-- A call of the small ledger. What it draws is told apart by its label. -/
def sampleCall (label : String) (request : Request) : LedgerCall where
  request := request
  now := 0
  draws := { token := fun k ↦ label ++ toString k, rowId := fun k ↦ label ++ "-" ++ toString k }

/-- The preparation and the posting of a disbursement of 100.00. -/
def firstDisbursement : List LedgerCall :=
  [sampleCall "1" (.scoped (sampleScope "1") (.prepareDisbursement "case-1" "acct-1" "ben-1" "100.00"
      "INR" "DEMO_BANK_RAIL" "payment-1")),
    sampleCall "2" (.scoped (sampleScope "2") (.executeDisbursement "jrnl_10"
      "d720ebcefe76a444ac3bfa4e05de47437fdbb3120d05e945a5e07b4a674f719a" "act-1" "bank-hash-1"
      "exec-1"))]

/-- A reversal of the first disbursement, prepared and posted. -/
def firstReversal : List LedgerCall :=
  [sampleCall "3" (.scoped (sampleScope "3") (.prepareReversal "jrnl_10" "duplicate" "reversal-1")),
    sampleCall "4" (.scoped (sampleScope "4") (.executeReversal "jrnl_rev_30"
      "b6b07cb66a1405bb79fdb1e164f9c91f8439da8edbc95aa9efcc59e2772c6fdb" "approval-1"))]

/-- The settlement event of the first disbursement. -/
def sampleSettlement (tenantId : String) : Settlement where
  eventId := "event-1"
  tenantId := tenantId
  paymentId := "pay_11"
  bankExecutionId := "exec-1"
  bankReference := "XY00000002"
  amount := "100.00"
  currency := "INR"
  settledAt := 0

end Xyena.Ledger
