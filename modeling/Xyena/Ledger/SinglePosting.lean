import Xyena.Ledger.Postings

/-!
# Journals are posted once

What one call adds to everything that was called before: it posts a journal that
was not posted, under a call identifier that has posted nothing, and creates a
journal under an idempotency key that has created none. A posted disbursement
answers only to the bank parameters it was posted with.
-/

namespace Xyena.Ledger

open Xyena.Foundation Xyena.Foundation.Session Xyena.Contracts

/-! ## Entries that post or create a journal -/

/-- The entry posts the journal and leaves it as given. -/
structure PostedBy (e : LedgerEntry) (journal : JournalEntry) : Prop where
  stored : journal ∈ e.after.journals
  posted : journal.status = .posted
  fresh : ∀ old ∈ e.before.journals, old.journalId = journal.journalId → old.status ≠ .posted

/-- The entry creates the journal. -/
structure CreatedBy (e : LedgerEntry) (journal : JournalEntry) : Prop where
  stored : journal ∈ e.after.journals
  fresh : ∀ old ∈ e.before.journals, old.journalId ≠ journal.journalId

section Step

variable {platform : LedgerPlatform} {db : LedgerDb} {call : LedgerCall} {journal : JournalEntry}

/-- An entry that changes the tables is a move that was committed. -/
theorem move_of_ne (h : ((ledger platform).entry db call).after ≠ db) :
    ∃ answer writes, Move platform db call answer writes ∧ writes.Accepted db ∧
      ((ledger platform).entry db call).after = writes.apply db := by
  simp only [Machine.entry] at h ⊢
  rcases step_cases platform db call with
    ⟨_, hstep⟩ | ⟨_, -, hstep⟩ | ⟨answer, writes, hmove, -, haccepted, hstep⟩
  · exact absurd (by rw [hstep]) h
  · exact absurd (by rw [hstep]) h
  · exact ⟨answer, writes, hmove, haccepted, by rw [hstep]⟩

theorem PostedBy.move (h : PostedBy ((ledger platform).entry db call) journal) :
    ∃ answer writes old, Move platform db call answer writes ∧ writes.Accepted db ∧
      ((ledger platform).entry db call).after = writes.apply db ∧
      writes.journals = [.update journal] ∧ Posts db call old journal := by
  have hne : ((ledger platform).entry db call).after ≠ db := by
    intro hsame
    exact h.fresh journal (hsame ▸ h.stored) rfl h.posted
  obtain ⟨answer, writes, hmove, haccepted, hafter⟩ := move_of_ne hne
  rcases mem_journals_apply hmove haccepted (hafter ▸ h.stored) with
    hold | ⟨-, hnew⟩ | ⟨old, hupdate, hposts⟩
  · exact absurd h.posted (h.fresh journal hold rfl)
  · exact absurd h.posted hnew
  · exact ⟨answer, writes, old, hmove, haccepted, hafter, hupdate, hposts⟩

/-- A journal that is created stands behind the others. -/
theorem CreatedBy.journals (h : CreatedBy ((ledger platform).entry db call) journal) :
    ((ledger platform).entry db call).after.journals = db.journals ++ [journal] := by
  have hne : ((ledger platform).entry db call).after ≠ db := by
    intro hsame
    exact h.fresh journal (hsame ▸ h.stored) rfl
  obtain ⟨answer, writes, hmove, haccepted, hafter⟩ := move_of_ne hne
  rcases mem_journals_apply hmove haccepted (hafter ▸ h.stored) with
    hold | ⟨hinsert, -⟩ | ⟨old, -, hposts⟩
  · exact absurd rfl (h.fresh journal hold)
  · rw [hafter]
    simp only [Writes.apply, hinsert]
    rfl
  · exact absurd hposts.terms.id.symm (h.fresh old hposts.stored)

/-- The call that posts a journal has signed it. -/
theorem PostedBy.signed (h : PostedBy ((ledger platform).entry db call) journal)
    {scope : RuntimeScope} {op : LedgerOp} (hrequest : call.request = .scoped scope op) :
    journal.tenantId = scope.tenantId ∧ journal.guardianCallId = some scope.callId := by
  obtain ⟨_, _, old, -, -, -, -, hposts⟩ := h.move
  obtain ⟨signer, _, hsigned, htenant, hcall⟩ := hposts.signed
  obtain ⟨rfl, -⟩ := Request.scoped.inj (hrequest.symm.trans hsigned)
  exact ⟨hposts.terms.tenant.trans htenant.symm, hcall⟩

/-- The lines of a journal that is posted are posted to the accounts, once. -/
theorem PostedBy.accounts (hregular : Regular db)
    (h : PostedBy ((ledger platform).entry db call) journal) :
    ((ledger platform).entry db call).after.accounts = db.accounts.map fun account ↦
      account.posted (linesOn account.accountId (linesOf db journal.journalId)) := by
  obtain ⟨answer, writes, old, hmove, -, hafter, hupdate, hposts⟩ := h.move
  rcases accounts_apply hmove with ⟨-, hnone⟩ |
    ⟨tenantId, posting, after, accounts, haccounts, hjournals, -, hposting, hposted, -⟩
  · exact absurd hupdate (hnone journal)
  · obtain rfl : journal = after := by simpa [hupdate] using hjournals
    rw [hafter]
    simp only [Writes.apply, haccounts, Option.getD_some]
    rw [postLines_eq hregular.accountIds hposted, hposting.terms.id]

/-- Without a posting the accounts stay as they are. -/
theorem accounts_of_not_posted (h : ∀ journal, ¬PostedBy ((ledger platform).entry db call) journal)
    (hregular : Regular db) : ((ledger platform).entry db call).after.accounts = db.accounts := by
  by_cases hsame : ((ledger platform).entry db call).after = db
  · rw [hsame]
  · obtain ⟨answer, writes, hmove, haccepted, hafter⟩ := move_of_ne hsame
    rcases accounts_apply hmove with
      ⟨hnone, -⟩ | ⟨tenantId, posting, after, accounts, -, hjournals, -, hposting, -⟩
    · rw [hafter]
      simp only [Writes.apply, hnone, Option.getD_none]
    · refine absurd ?_ (h after)
      refine ⟨?_, hposting.posted, fun old hold hid ↦ ?_⟩
      · rw [hafter]
        simp only [Writes.apply, hjournals]
        exact Table.changed_mem_replace hposting.stored hposting.terms.id.symm
      · obtain rfl := hregular.journal_eq hposting.stored hold (hid.trans hposting.terms.id)
        exact hposting.unposted

end Step

/-! ## What stays of earlier entries -/

section Runs

variable {platform : LedgerPlatform} {opening : Opening} {calls : List LedgerCall} {e : LedgerEntry}
  {journal : JournalEntry}

theorem SameTerms.trans {journal between after : JournalEntry} (h : SameTerms journal between)
    (hafter : SameTerms between after) : SameTerms journal after where
  id := hafter.id.trans h.id
  tenant := hafter.tenant.trans h.tenant
  kind := hafter.kind.trans h.kind
  debits := hafter.debits.trans h.debits
  credits := hafter.credits.trans h.credits
  key := hafter.key.trans h.key
  actionHash := hafter.actionHash.trans h.actionHash
  origin := hafter.origin.trans h.origin

/-- A journal is found again with its terms after every later run. -/
theorem terms_run {db : LedgerDb} (hregular : Regular db) (hjournal : journal ∈ db.journals)
    (later : List LedgerCall) :
    ∃ row ∈ ((ledger platform).run db later).journals, SameTerms journal row := by
  refine (commit_invariant (fun after ↦ ∃ row ∈ after.journals, SameTerms journal row)
    (fun _ _ ↦ True) hregular ⟨journal, hjournal, .refl journal⟩ ?_ later fun _ _ ↦ trivial).2
  rintro after call answer writes hafter ⟨row, hrow, hterms⟩ - hmove -
  rcases exists_journal_apply hmove hafter.keyed.journals.keys hrow with hsame | ⟨next, hnext, hposts⟩
  · exact ⟨row, hsame, hterms⟩
  · exact ⟨next, hnext, hterms.trans hposts.terms⟩

/-- A journal that was posted in a run is stored in its end as it was posted. -/
theorem PostedBy.stays (h : PostedBy e journal) (he : e ∈ (ledger platform).log opening.db calls) :
    journal ∈ ((ledger platform).run opening.db calls).journals := by
  obtain ⟨earlier, call, later, rfl, rfl⟩ := ((ledger platform).mem_log_iff _ _ _).mp he
  have hregular := regular_run platform opening.regular (earlier ++ [call])
  rw [(ledger platform).run_snoc] at hregular
  rw [(ledger platform).run_append]
  exact (posted_run platform hregular h.stored h.posted later).1

theorem CreatedBy.stays (h : CreatedBy e journal) (he : e ∈ (ledger platform).log opening.db calls) :
    ∃ row ∈ ((ledger platform).run opening.db calls).journals, SameTerms journal row := by
  obtain ⟨earlier, call, later, rfl, rfl⟩ := ((ledger platform).mem_log_iff _ _ _).mp he
  have hregular := regular_run platform opening.regular (earlier ++ [call])
  rw [(ledger platform).run_snoc] at hregular
  rw [(ledger platform).run_append]
  exact terms_run hregular h.stored later

theorem PostedBy.signed_of_mem_log (h : PostedBy e journal)
    (he : e ∈ (ledger platform).log opening.db calls) {scope : RuntimeScope} {op : LedgerOp}
    (hrequest : e.input.request = .scoped scope op) :
    journal.tenantId = scope.tenantId ∧ journal.guardianCallId = some scope.callId := by
  obtain ⟨earlier, call, later, rfl, rfl⟩ := ((ledger platform).mem_log_iff _ _ _).mp he
  exact h.signed hrequest

end Runs

/-! ## Bank parameters -/

/-- The entry posts the disbursement journal with the bank parameters. -/
structure DisbursedBy (e : LedgerEntry) (journalId : String) (bank : BankTransferRequest) : Prop where
  posted : ∃ journal, PostedBy e journal ∧ journal.journalId = journalId
  request : ∃ scope actionHash, e.input.request = .scoped scope (.executeDisbursement journalId actionHash
    bank.proposedActionId bank.canonicalActionHash bank.executionId)

/-- Every payment that is bound to bank parameters was submitted with them. -/
def BoundBy (history : List LedgerEntry) (db : LedgerDb) : Prop :=
  ∀ payment ∈ db.payments, ∀ bank, payment.boundTo bank = true →
    ∃ e ∈ history, DisbursedBy e payment.journalId bank

theorem boundTo_submit {payment : PaymentInstruction} {bank other : BankTransferRequest}
    (h : (payment.submit bank).boundTo other = true) : other = bank := by
  obtain ⟨haction, hhash, hexecution⟩ := PaymentInstruction.boundTo_iff.mp h
  cases other
  cases bank
  simp_all [PaymentInstruction.submit]

theorem BoundBy.snoc {history : List LedgerEntry} {db : LedgerDb} (h : BoundBy history db)
    (e : LedgerEntry) : BoundBy (history ++ [e]) db := by
  intro payment hpayment bank hbound
  obtain ⟨earlier, hearlier, hdisbursed⟩ := h payment hpayment bank hbound
  exact ⟨earlier, List.mem_append_left _ hearlier, hdisbursed⟩

theorem PostsDisbursement.postedBy {platform : LedgerPlatform} {db : LedgerDb} {call : LedgerCall}
    {scope : RuntimeScope} {bank : BankTransferRequest} {journal : JournalEntry}
    {payment : PaymentInstruction} {accounts : List LedgerAccount} (hregular : Regular db)
    (h : PostsDisbursement db call scope bank journal payment accounts)
    (hafter : ((ledger platform).entry db call).after =
      (disbursementWrites call scope accounts journal (payment.submit bank)).apply db) :
    PostedBy ((ledger platform).entry db call) (journal.post call scope) where
  stored := hafter ▸ Table.changed_mem_replace h.found.stored rfl
  posted := rfl
  fresh old hold hid := by
    obtain rfl := hregular.journal_eq h.found.stored hold hid
    simp [h.validated]

theorem boundBy_run (platform : LedgerPlatform) (opening : Opening) (calls : List LedgerCall) :
    BoundBy ((ledger platform).log opening.db calls) ((ledger platform).run opening.db calls) := by
  refine (commit_history BoundBy (fun _ _ ↦ True) opening.regular (by simp [BoundBy, Opening.db])
    (fun _ _ e h ↦ h.snoc e) ?_ calls fun _ _ ↦ trivial).2
  intro history db call answer writes hregular hinv _ hmove _ haccepted hstep
  have hafter : ((ledger platform).entry db call).after = writes.apply db := by
    simp only [Machine.entry, hstep]
  have hkept := hinv.snoc ((ledger platform).entry db call)
  have hpayments := haccepted.payments
  intro payment hpayment bank hbound
  simp only [Writes.apply] at hpayment
  cases hmove with
  | disbursementPrepared =>
    rcases RowWrite.mem_written hpayments hpayment with rfl | ⟨hold, -⟩
    · simp [PaymentInstruction.boundTo, newPayment, RowWrite.row] at hbound
    · exact hkept payment hold bank hbound
  | disbursementPosted scope request journal stored accounts hp =>
    rcases RowWrite.mem_written hpayments hpayment with rfl | ⟨hold, -⟩
    · obtain rfl := boundTo_submit hbound
      have hid := (paymentOf_some hp.paid).2
      refine ⟨_, List.mem_append_right _ (List.mem_singleton.mpr rfl),
        ⟨_, hp.postedBy hregular hafter, hid.symm⟩, ⟨scope, journal.canonicalActionHash, ?_⟩⟩
      exact hp.request.trans (by rw [← hid]; rfl)
    · exact hkept payment hold bank hbound
  | settled event amount stored hs =>
    rcases RowWrite.mem_written hpayments hpayment with rfl | ⟨hold, -⟩
    · exact hkept stored hs.stored bank hbound
    · exact hkept payment hold bank hbound
  | _ => exact hkept payment hpayment bank hbound

/-! ## The next call of a run -/

/-- What one more call may do after the calls of a history. -/
structure SinglePosting (history : List LedgerEntry) (e : LedgerEntry) : Prop where
  /-- Accounts change by the lines of a journal that is posted, each line once. -/
  applied : ∀ journal, PostedBy e journal → e.after.accounts = e.before.accounts.map fun account ↦
    account.posted (linesOn account.accountId (linesOf e.before journal.journalId))
  unapplied : (∀ journal, ¬PostedBy e journal) → e.after.accounts = e.before.accounts
  postsOne : ∀ first second, PostedBy e first → PostedBy e second → first = second
  createsOne : ∀ first second, CreatedBy e first → CreatedBy e second → first = second
  journals : ∀ earlier ∈ history, ∀ first second, PostedBy earlier first → PostedBy e second →
    first.journalId ≠ second.journalId
  callIds : ∀ earlier ∈ history, ∀ first second, PostedBy earlier first → PostedBy e second →
    ∀ scope op scope' op', earlier.input.request = .scoped scope op →
      e.input.request = .scoped scope' op' → scope.tenantId = scope'.tenantId →
        scope.callId ≠ scope'.callId
  keys : ∀ earlier ∈ history, ∀ first second, CreatedBy earlier first → CreatedBy e second →
    first.tenantId = second.tenantId → first.idempotencyKey ≠ second.idempotencyKey
  /-- A posted journal is disbursed again only by a replay of the call that posted it. -/
  replays : ∀ scope journalId actionHash bankAction bankHash bankExecution answer,
    e.input.request = .scoped scope
      (.executeDisbursement journalId actionHash bankAction bankHash bankExecution) →
    e.output = .ok answer →
    (∃ journal ∈ e.before.journals, journal.journalId = journalId ∧ journal.status = .posted) →
      e.after = e.before ∧
        ∃ earlier ∈ history, DisbursedBy earlier journalId ⟨bankAction, bankHash, bankExecution⟩
  raised : ∀ failure, e.output = .error failure → e.after = e.before

section Next

variable {platform : LedgerPlatform} {opening : Opening} {calls : List LedgerCall} {call : LedgerCall}

/-- A call that disburses a posted journal replies with the bank parameters that it is bound to. -/
theorem replay_of_posted {db : LedgerDb} (hregular : Regular db) {scope : RuntimeScope}
    {journalId actionHash bankAction bankHash bankExecution : String} {answer : LedgerAnswer}
    (hrequest : call.request = .scoped scope
      (.executeDisbursement journalId actionHash bankAction bankHash bankExecution))
    (hok : ((ledger platform).entry db call).output = .ok answer)
    (hposted : ∃ journal ∈ db.journals, journal.journalId = journalId ∧ journal.status = .posted) :
    ((ledger platform).entry db call).after = db ∧
      ∃ payment ∈ db.payments, payment.journalId = journalId ∧
        payment.boundTo ⟨bankAction, bankHash, bankExecution⟩ = true := by
  obtain ⟨posted, hstored, rfl, hstatus⟩ := hposted
  simp only [Machine.entry] at hok ⊢
  rcases step_cases platform db call with
    ⟨failure, hstep⟩ | ⟨reply, hreply, hstep⟩ | ⟨reply, writes, hmove, -, -, hstep⟩
  · rw [hstep] at hok
    cases hok
  · obtain ⟨journal, payment, -, -, hpaid, hbound, -⟩ := hreply.of_executeDisbursement
      ⟨bankAction, bankHash, bankExecution⟩ hrequest
    have hpayment := paymentOf_some hpaid
    exact ⟨by rw [hstep], payment, hpayment.1, hpayment.2, hbound⟩
  · -- only a journal that is not posted can be posted
    obtain ⟨journal, payment, accounts, hp, hid, -, -⟩ := hmove.of_executeDisbursement
      ⟨bankAction, bankHash, bankExecution⟩ hrequest
    obtain rfl := hregular.journal_eq hp.found.stored hstored hid.symm
    rw [hp.validated] at hstatus
    cases hstatus

/-- In every run the next call posts only what was not posted before, under a call identifier that has
posted nothing, creates only under a fresh idempotency key, replays a posted disbursement only with its
bank parameters and without any change, and changes nothing when it raises. -/
theorem single_posting (platform : LedgerPlatform) (opening : Opening) (calls : List LedgerCall)
    (call : LedgerCall) :
    SinglePosting ((ledger platform).log opening.db calls)
      ((ledger platform).entry ((ledger platform).run opening.db calls) call) := by
  have hregular := regular_run platform opening.regular calls
  have hafter := regular_run platform opening.regular (calls ++ [call])
  rw [(ledger platform).run_snoc] at hafter
  refine
    { applied := fun journal h ↦ h.accounts hregular
      unapplied := fun h ↦ accounts_of_not_posted h hregular
      postsOne := ?_, createsOne := ?_, journals := ?_, callIds := ?_, keys := ?_, replays := ?_
      raised := fun failure hraised ↦ (sessions platform).step_error hraised }
  · intro first second hfirst hsecond
    obtain ⟨_, _, _, -, -, -, -, hposts⟩ := hfirst.move
    obtain ⟨scope, op, hrequest, -, -⟩ := hposts.signed
    obtain ⟨htenant, hcall⟩ := hfirst.signed hrequest
    obtain ⟨htenant', hcall'⟩ := hsecond.signed hrequest
    exact hafter.journal_eq_of_callId hfirst.stored hsecond.stored (htenant.trans htenant'.symm) hcall
      hcall'
  · intro first second hfirst hsecond
    have hstored := hsecond.stored
    rw [hfirst.journals] at hstored
    rcases List.mem_append.mp hstored with hold | hnew
    · exact absurd rfl (hsecond.fresh second hold)
    · exact (List.mem_singleton.mp hnew).symm
  · intro earlier hearlier first second hfirst hsecond hid
    exact hsecond.fresh first (hfirst.stays hearlier) hid hfirst.posted
  · intro earlier hearlier first second hfirst hsecond scope op scope' op' hrequest hrequest' hsame
      hsameCall
    have hstays := hfirst.stays hearlier
    obtain ⟨htenant, hcall⟩ := hfirst.signed_of_mem_log hearlier hrequest
    obtain ⟨htenant', hcall'⟩ := hsecond.signed hrequest'
    have hkept := (posted_run platform hregular hstays hfirst.posted [call]).1
    obtain rfl := hafter.journal_eq_of_callId hkept hsecond.stored
      (htenant.trans (hsame.trans htenant'.symm)) hcall (hcall'.trans (congrArg some hsameCall.symm))
    exact hsecond.fresh first hstays rfl hfirst.posted
  · intro earlier hearlier first second hfirst hsecond htenant hkey
    obtain ⟨row, hrow, hterms⟩ := hfirst.stays hearlier
    have hkept := hsecond.journals ▸ List.mem_append_left [second] hrow
    obtain rfl := hafter.journal_eq_of_key hkept hsecond.stored (hterms.tenant.trans htenant)
      (hterms.key.trans hkey)
    exact hsecond.fresh row hrow rfl
  · intro scope journalId actionHash bankAction bankHash bankExecution answer hrequest hok hposted
    obtain ⟨hsame, payment, hpayment, rfl, hbound⟩ := replay_of_posted hregular hrequest hok hposted
    exact ⟨hsame, boundBy_run platform opening calls payment hpayment _ hbound⟩

end Next

end Xyena.Ledger
