import Xyena.Ledger.Invariant

/-!
# What answers about disbursements say of the tables

A payment keeps the terms of its instruction, and the digest of its journal is
taken over these terms. So the answer to a preparation, whether fresh or
repeated, shows an instruction with the terms that were asked for.
-/

namespace Xyena.Ledger

open Xyena.Foundation Xyena.Foundation.Session Xyena.Contracts

/-- A payment without what happens to it at the bank. -/
def PaymentInstruction.terms (payment : PaymentInstruction) : PaymentInstruction :=
  { payment with
    bankProposedActionId := none
    bankActionHash := none
    bankExecutionId := none
    bankReference := none
    status := .prepared }

theorem journalId_of_terms {first second : PaymentInstruction} (h : first.terms = second.terms) :
    first.journalId = second.journalId := by
  have hid : first.terms.journalId = second.terms.journalId := congrArg _ h
  exact hid

/-- What the digest of a disbursement was taken over. -/
def PaymentInstruction.action (payment : PaymentInstruction) (scope : RuntimeScope) : Dict :=
  disbursementAction scope payment.financingCaseId payment.sourceAccountToken payment.beneficiaryToken
    payment.amount payment.currency payment.rail payment.clientIdempotencyKey

/-- The digest of the journal of a payment. -/
def Digested (platform : LedgerPlatform) (db : LedgerDb) : Prop :=
  ∀ payment ∈ db.payments, ∀ journal ∈ db.journals, journal.journalId = payment.journalId →
    ∃ scope, journal.canonicalActionHash = hash platform (payment.action scope)

/-- Disbursements with one digest have one set of terms. -/
theorem terms_of_digest {platform : LedgerPlatform} (hsha : Function.Injective platform.sha256)
    (first second : PaymentInstruction) {scope scope' : RuntimeScope}
    (h : hash platform (first.action scope) = hash platform (second.action scope')) :
    first.sourceAccountToken = second.sourceAccountToken ∧
      first.beneficiaryToken = second.beneficiaryToken ∧ first.amount = second.amount ∧
      first.currency = second.currency := by
  have hnodup (row : PaymentInstruction) (scope : RuntimeScope) :
      ((row.action scope).map Prod.fst).Nodup := by
    simp [PaymentInstruction.action, disbursementAction]
  have hscalars : ∀ field ∈ second.action scope', field.2.isScalar = true := by
    simp [PaymentInstruction.action, disbursementAction, Json.isScalar]
  have hsame : Json.Same (.obj (first.action scope)) (.obj (second.action scope')) :=
    Json.same_of_dumps true rfl rfl (hsha h)
  have hfield (key : String) {left right : String}
      (hleft : (first.action scope).lookup key = some (.str left))
      (hright : (second.action scope').lookup key = some (.str right)) : left = right := by
    rw [hsame.lookup_eq (hnodup first scope) (hnodup second scope') hscalars key, hright] at hleft
    exact (Json.str.inj (Option.some.inj hleft)).symm
  exact ⟨hfield "source_account_token" rfl rfl, hfield "beneficiary_token" rfl rfl,
    centsText_injective (hfield "amount" rfl rfl), hfield "currency" rfl rfl⟩

section Commit

variable {platform : LedgerPlatform} {db : LedgerDb} {call : LedgerCall} {answer : LedgerAnswer}
  {writes : Writes}

/-- The terms of a payment stay. -/
theorem terms_apply (hregular : Regular db) (hmove : Move platform db call answer writes)
    {terms : PaymentInstruction} (h : ∃ row ∈ db.payments, row.terms = terms) :
    ∃ row ∈ (writes.apply db).payments, row.terms = terms := by
  have hkeys := hregular.keyed.payments.keys
  cases hmove with
  | disbursementPrepared =>
    obtain ⟨row, hrow, hterms⟩ := h
    exact ⟨row, List.mem_append_left _ hrow, hterms⟩
  | disbursementPosted scope bank journal payment accounts hp =>
    exact Table.exists_replace (payment.submit bank) hkeys (paymentOf_some hp.paid).1 rfl id h
  | settled event amount payment hs =>
    exact Table.exists_replace (payment.settle event.bankReference) hkeys hs.stored rfl id h
  | _ => exact h

theorem terms_step (hregular : Regular db) {terms : PaymentInstruction}
    (h : ∃ row ∈ db.payments, row.terms = terms) :
    ∃ row ∈ ((ledger platform).step db call).2.payments, row.terms = terms := by
  rcases step_cases platform db call with
    ⟨_, hstep⟩ | ⟨_, -, hstep⟩ | ⟨_, _, hmove, -, -, hstep⟩
  · rwa [hstep]
  · rwa [hstep]
  · rw [hstep]
    exact terms_apply hregular hmove h

/-- A payment after a commit has the terms of an old one, or belongs to the journal that was added. -/
theorem payment_origin (hmove : Move platform db call answer writes) (haccepted : writes.Accepted db)
    {row : PaymentInstruction} (hrow : row ∈ (writes.apply db).payments) :
    (∃ old ∈ db.payments, old.terms = row.terms) ∨
      ∃ journal scope, writes.journals = [.insert journal] ∧ journal.journalId = row.journalId ∧
        journal.canonicalActionHash = hash platform (row.action scope) := by
  have hpayments := haccepted.payments
  simp only [Writes.apply] at hrow
  cases hmove with
  | disbursementPrepared scope _ _ _ _ _ _ _ _ _ _ hhash _ =>
    rcases RowWrite.mem_written hpayments hrow with rfl | ⟨hold, -⟩
    · exact Or.inr ⟨_, scope, rfl, rfl, hhash⟩
    · exact Or.inl ⟨row, hold, rfl⟩
  | disbursementPosted scope bank journal payment accounts hp =>
    rcases RowWrite.mem_written hpayments hrow with rfl | ⟨hold, -⟩
    · exact Or.inl ⟨payment, (paymentOf_some hp.paid).1, rfl⟩
    · exact Or.inl ⟨row, hold, rfl⟩
  | settled event amount payment hs =>
    rcases RowWrite.mem_written hpayments hrow with rfl | ⟨hold, -⟩
    · exact Or.inl ⟨payment, hs.stored, rfl⟩
    · exact Or.inl ⟨row, hold, rfl⟩
  | _ => exact Or.inl ⟨row, hrow, rfl⟩

theorem Digested.apply (h : Digested platform db) (hregular : Regular db)
    (hmove : Move platform db call answer writes) (haccepted : writes.Accepted db) :
    Digested platform (writes.apply db) := by
  have hold {payment old : PaymentInstruction} {journal stored : JournalEntry}
      (hpayment : old ∈ db.payments) (hterms : old.terms = payment.terms)
      (hjournal : stored ∈ db.journals) (hsame : SameTerms stored journal)
      (hid : journal.journalId = payment.journalId) :
      ∃ scope, journal.canonicalActionHash = hash platform (payment.action scope) := by
    obtain ⟨scope, hdigest⟩ := h old hpayment stored hjournal
      (hsame.id.symm.trans (hid.trans (journalId_of_terms hterms).symm))
    refine ⟨scope, hsame.actionHash.trans (hdigest.trans ?_)⟩
    change hash platform (old.terms.action scope) = hash platform (payment.terms.action scope)
    rw [hterms]
  intro payment hpayment journal hjournal hid
  rcases payment_origin hmove haccepted hpayment with
    ⟨old, hstored, hterms⟩ | ⟨new, scope, hinsert, hnewId, hdigest⟩
  · rcases mem_journals_apply hmove haccepted hjournal with
      hkept | ⟨hinsert, -⟩ | ⟨stored, -, hposts⟩
    · exact hold hstored hterms hkept (SameTerms.refl journal) hid
    · have hjournals := haccepted.journals
      rw [hinsert] at hjournals
      exact absurd ((journalId_of_terms hterms).trans hid.symm) (hregular.payments_unused hjournals old hstored)
    · exact hold hstored hterms hposts.stored hposts.terms hid
  · have hjournals := haccepted.journals
    rw [hinsert] at hjournals
    simp only [Writes.apply, hinsert] at hjournal
    rcases RowWrite.mem_written hjournals hjournal with rfl | ⟨-, hne⟩
    · exact ⟨scope, hdigest⟩
    · exact absurd (hid.trans hnewId.symm) hne

end Commit

theorem digested_run (platform : LedgerPlatform) (opening : Opening) (calls : List LedgerCall) :
    Digested platform ((ledger platform).run opening.db calls) :=
  (commit_invariant (Digested platform) (fun _ _ ↦ True) opening.regular
    (by simp [Digested, Opening.db])
    (fun _ _ _ _ hdb hinv _ hmove haccepted ↦ hinv.apply hdb hmove haccepted) calls
    fun _ _ ↦ trivial).2

/-! ## Preparations -/

/-- The answer to a preparation shows a stored payment with the terms that were asked for. -/
def ShowsPayment (db : LedgerDb) (scope : RuntimeScope) (answer : LedgerAnswer)
    (source beneficiary currency : String) (amount : Int) : Prop :=
  ∃ journal lines payment, answer = .disbursement journal lines payment none ∧
    payment.tenantId = scope.tenantId ∧ payment.sourceAccountToken = source ∧
    payment.beneficiaryToken = beneficiary ∧ payment.amount = amount ∧ payment.currency = currency ∧
    ∃ stored ∈ db.payments, stored.terms = payment.terms

section Answers

variable {platform : LedgerPlatform} {db : LedgerDb} {call : LedgerCall} {answer : LedgerAnswer}
  {scope : RuntimeScope} {caseId source beneficiary amountText currency rail key : String}
  {amount : Int}

/-- A preparation that returns shows a payment with its terms, also when it is repeated. -/
theorem showsPayment_of_ok (hsha : Function.Injective platform.sha256) (hregular : Regular db)
    (hdigested : Digested platform db) (hrequest : call.request = .scoped scope
      (.prepareDisbursement caseId source beneficiary amountText currency rail key))
    (hparsed : parseAmount amountText = .ok amount)
    (hok : ((ledger platform).step db call).1 = .ok answer) :
    ShowsPayment ((ledger platform).step db call).2 scope answer source beneficiary currency amount := by
  rcases step_cases platform db call with
    ⟨failure, hstep⟩ | ⟨reply, hreply, hstep⟩ | ⟨reply, writes, hmove, -, -, hstep⟩
  · rw [hstep] at hok
    cases hok
  · rw [hstep] at hok ⊢
    obtain rfl := Except.ok.inj hok
    obtain ⟨amount', journal, payment, hamount, hfound, hsame, hpaid, rfl⟩ :=
      hreply.of_prepareDisbursement hrequest
    obtain rfl := Except.ok.inj (hparsed.symm.trans hamount)
    obtain ⟨hpayment, hid⟩ := paymentOf_some hpaid
    obtain ⟨origin, hdigest⟩ := hdigested payment hpayment journal hfound.stored hid.symm
    obtain ⟨hsource, hbeneficiary, hamount, hcurrency⟩ := terms_of_digest hsha payment
      (newPayment call scope caseId source beneficiary amount currency rail key)
      (hdigest.symm.trans hsame)
    exact ⟨journal, _, payment, rfl,
      (hregular.tenant_of_paymentOf hfound.stored hpaid).trans hfound.tenant, hsource, hbeneficiary,
      hamount, hcurrency, payment, hpayment, rfl⟩
  · rw [hstep] at hok ⊢
    obtain rfl := Except.ok.inj hok
    obtain ⟨actionHash, amount', hamount, rfl, hinsert⟩ := hmove.of_prepareDisbursement hrequest
    obtain rfl := Except.ok.inj (hparsed.symm.trans hamount)
    refine ⟨_, _, _, rfl, rfl, rfl, rfl, rfl, rfl, _, ?_, rfl⟩
    simp only [Writes.apply, hinsert]
    exact List.mem_append_right _ (List.mem_singleton.mpr rfl)

end Answers

end Xyena.Ledger
