import Xyena.Ledger.Invariant

/-!
# Settlements and reconciliation

A settlement event that is accepted leaves a receipt, a reconciliation record, an
inbox row and a settled payment, all in one commit. The evidence of a settled
payment is kept by every later commit, and an event that comes again is compared
with the digest in the inbox.
-/

namespace Xyena.Ledger

open Xyena.Foundation Xyena.Foundation.Session Xyena.Contracts
open Xyena.Bank (tenantClash optionalClash)

/-! ## Evidence of a settled payment -/

/-- A receipt and a record that settle a payment. -/
structure Evidence (payment : PaymentInstruction) (receipt : SettlementReceipt)
    (record : ReconciliationRecord) : Prop where
  receiptPayment : receipt.paymentId = payment.paymentId
  receiptTenant : receipt.tenantId = payment.tenantId
  amount : receipt.amount = payment.amount
  currency : receipt.currency = payment.currency
  execution : payment.bankExecutionId = some receipt.bankExecutionId
  reference : payment.bankReference = some receipt.bankReference
  recordPayment : record.paymentId = payment.paymentId
  recordTenant : record.tenantId = payment.tenantId
  recordJournal : record.journalId = payment.journalId
  recordReceipt : record.settlementReceiptId = some receipt.receiptId

/-- Payments, receipts and records agree on what is settled. -/
structure Evidenced (db : LedgerDb) : Prop where
  settled : ∀ payment ∈ db.payments, payment.status = .settled →
    ∃ receipt ∈ db.receipts, ∃ record ∈ db.reconciliations, Evidence payment receipt record
  receipts : ∀ receipt ∈ db.receipts, ∃ payment ∈ db.payments,
    payment.paymentId = receipt.paymentId ∧ payment.status = .settled
  records : ∀ record ∈ db.reconciliations, ∃ payment ∈ db.payments,
    payment.paymentId = record.paymentId ∧ payment.status = .settled

section Tables

variable {db : LedgerDb}

theorem Regular.payment_eq_of_id (h : Regular db) {payment row : PaymentInstruction}
    (hpayment : payment ∈ db.payments) (hrow : row ∈ db.payments)
    (hid : row.paymentId = payment.paymentId) : row = payment :=
  Table.eq_of_key h.keyed.payments.keys hrow hpayment hid

/-- The unique columns of the receipts. -/
theorem Regular.receipt_eq (h : Regular db) {first second : SettlementReceipt}
    (hfirst : first ∈ db.receipts) (hsecond : second ∈ db.receipts)
    (hsame : first.paymentId = second.paymentId) : first = second := by
  by_contra hne
  have hclash := h.keyed.receipts.unique first hfirst second hsecond
    fun hid ↦ hne (Table.eq_of_key h.keyed.receipts.keys hfirst hsecond hid)
  simp [receiptConstraints, hsame] at hclash

theorem Regular.record_eq (h : Regular db) {first second : ReconciliationRecord}
    (hfirst : first ∈ db.reconciliations) (hsecond : second ∈ db.reconciliations)
    (hsame : first.paymentId = second.paymentId) : first = second := by
  by_contra hne
  have hclash := h.keyed.reconciliations.unique first hfirst second hsecond
    fun hid ↦ hne (Table.eq_of_key h.keyed.reconciliations.keys hfirst hsecond hid)
  simp [reconciliationConstraints, hsame] at hclash

/-- Payments with one bank execution, or with one bank reference, are one payment. -/
theorem Regular.payment_eq_of_bank (h : Regular db) {first second : PaymentInstruction}
    (hfirst : first ∈ db.payments) (hsecond : second ∈ db.payments)
    (hsame : (first.bankExecutionId ≠ none ∧ first.bankExecutionId = second.bankExecutionId) ∨
      (first.bankReference ≠ none ∧ first.bankReference = second.bankReference)) : first = second := by
  by_contra hne
  have hclash := h.keyed.payments.unique first hfirst second hsecond
    fun hid ↦ hne (h.payment_eq_of_id hsecond hfirst hid)
  simp only [paymentConstraints, Bool.or_eq_false_iff, optionalClash] at hclash
  rcases hsame with ⟨hsome, hsame⟩ | ⟨hsome, hsame⟩
  · have hfalse := hclash.1.2
    simp_all
  · have hfalse := hclash.2
    simp_all

/-- The journal of a payment that has left preparation is posted, with the amount as its total. -/
theorem Regular.journal_of_payment (h : Regular db) {payment : PaymentInstruction}
    (hpayment : payment ∈ db.payments) (hstatus : payment.status ≠ .prepared) :
    ∃ journal ∈ db.journals, Pays payment journal ∧ journal.status = .posted := by
  obtain ⟨journal, hjournal, hpays⟩ := h.paid payment hpayment
  refine ⟨journal, hjournal, hpays, ?_⟩
  by_contra hposted
  exact hstatus (hpays.unposted hposted).1

end Tables

/-! ## Commits -/

section Commit

variable {platform : LedgerPlatform} {db : LedgerDb} {call : LedgerCall} {answer : LedgerAnswer}
  {writes : Writes}

/-- A payment that becomes posted was not settled before. -/
theorem not_settled_of_posts (hregular : Regular db) {payment : PaymentInstruction}
    {journal after : JournalEntry} (hpayment : payment ∈ db.payments)
    (hid : payment.journalId = journal.journalId) (hposts : Posts db call journal after) :
    payment.status ≠ .settled := by
  obtain ⟨own, hown, hpays⟩ := hregular.paid payment hpayment
  obtain rfl := hregular.journal_eq hposts.stored hown (hpays.id.trans hid)
  simp [(hpays.unposted hposts.unposted).1]

/-- The unique columns of the receipts refuse a second settlement of a payment. -/
theorem Settles.not_settled {event : Settlement} {amount : Int} {payment : PaymentInstruction}
    (h : Settles db call event amount payment) (hevidenced : Evidenced db)
    (haccepted : (settlementWrites platform call event amount payment).Accepted db) :
    payment.status ≠ .settled := by
  intro hdone
  obtain ⟨receipt, hreceipt, _, -, hevidence⟩ := hevidenced.settled payment h.stored hdone
  have hclash := (RowWrite.accepted_insert.mp (RowWrite.accepted_of_singleton haccepted.receipts)
    receipt hreceipt).2
  simp [receiptConstraints, newReceipt, hevidence.receiptPayment, h.id] at hclash

/-- A settled payment stays as it is: it is not posted again, and not settled again. -/
theorem settled_apply (hregular : Regular db) (hevidenced : Evidenced db)
    (hmove : Move platform db call answer writes) (haccepted : writes.Accepted db)
    {payment : PaymentInstruction} (hpayment : payment ∈ db.payments)
    (hsettled : payment.status = .settled) : payment ∈ (writes.apply db).payments := by
  have hkept (changed : PaymentInstruction) {row : PaymentInstruction} (hrow : row ∈ db.payments)
      (hid : changed.paymentId = row.paymentId) (hother : row.status ≠ .settled) :
      payment ∈ RowWrite.applyAll paymentConstraints db.payments [.update changed] := by
    refine Table.mem_replace_of_ne hpayment fun hsame ↦ ?_
    obtain rfl := hregular.payment_eq_of_id hrow hpayment (hsame.trans hid)
    exact hother hsettled
  simp only [Writes.apply]
  cases hmove with
  | disbursementPrepared => exact List.mem_append_left _ hpayment
  | disbursementPosted scope bank journal row accounts hp =>
    have hpaid := paymentOf_some hp.paid
    exact hkept (row.submit bank) hpaid.1 rfl
      (not_settled_of_posts hregular hpaid.1 hpaid.2 hp.posts)
  | settled event amount row hs =>
    exact hkept (row.settle event.bankReference) hs.stored rfl
      (hs.not_settled hevidenced haccepted)
  | _ => exact hpayment

/-- Receipts and records are only added. -/
theorem receipts_apply (hmove : Move platform db call answer writes) {receipt : SettlementReceipt}
    (h : receipt ∈ db.receipts) : receipt ∈ (writes.apply db).receipts := by
  cases hmove with
  | settled => exact List.mem_append_left _ h
  | _ => exact h

theorem reconciliations_apply (hmove : Move platform db call answer writes)
    {record : ReconciliationRecord} (h : record ∈ db.reconciliations) :
    record ∈ (writes.apply db).reconciliations := by
  cases hmove with
  | settled => exact List.mem_append_left _ h
  | _ => exact h

/-- What a settlement writes is evidence of the payment that it settles. -/
theorem Settles.evidence {event : Settlement} {amount : Int} {payment : PaymentInstruction}
    (h : Settles db call event amount payment) :
    Evidence (payment.settle event.bankReference) (newReceipt platform call event amount)
      (newReconciliation call event payment) where
  receiptPayment := h.id.symm
  receiptTenant := h.tenant.symm
  amount := h.sameAmount.symm
  currency := h.sameCurrency.symm
  execution := h.executed
  reference := rfl
  recordPayment := h.id.symm
  recordTenant := h.tenant.symm
  recordJournal := rfl
  recordReceipt := rfl

/-- Only an accepted settlement leaves a payment settled that was not. -/
theorem settled_of_apply (hmove : Move platform db call answer writes)
    (haccepted : writes.Accepted db) {row : PaymentInstruction}
    (hrow : row ∈ (writes.apply db).payments) (hsettled : row.status = .settled) :
    row ∈ db.payments ∨ ∃ event amount payment, Settles db call event amount payment ∧
      writes = settlementWrites platform call event amount payment ∧
      row = payment.settle event.bankReference := by
  have hpayments := haccepted.payments
  simp only [Writes.apply] at hrow
  cases hmove with
  | disbursementPrepared =>
    rcases RowWrite.mem_written hpayments hrow with rfl | ⟨hold, -⟩
    · cases hsettled
    · exact Or.inl hold
  | disbursementPosted =>
    rcases RowWrite.mem_written hpayments hrow with rfl | ⟨hold, -⟩
    · cases hsettled
    · exact Or.inl hold
  | settled event amount payment hs =>
    rcases RowWrite.mem_written hpayments hrow with rfl | ⟨hold, -⟩
    · exact Or.inr ⟨event, amount, payment, hs, rfl, rfl⟩
    · exact Or.inl hold
  | _ => exact Or.inl hrow

theorem Evidenced.apply (h : Evidenced db) (hregular : Regular db)
    (hmove : Move platform db call answer writes) (haccepted : writes.Accepted db) :
    Evidenced (writes.apply db) := by
  have hstays {paymentId : String}
      (hpaid : ∃ payment ∈ db.payments, payment.paymentId = paymentId ∧ payment.status = .settled) :
      ∃ payment ∈ (writes.apply db).payments,
        payment.paymentId = paymentId ∧ payment.status = .settled := by
    obtain ⟨payment, hpayment, hid, hsettled⟩ := hpaid
    exact ⟨payment, settled_apply hregular h hmove haccepted hpayment hsettled, hid, hsettled⟩
  have hkept (payment : PaymentInstruction) (hpayment : payment ∈ db.payments)
      (hsettled : payment.status = .settled) : ∃ receipt ∈ (writes.apply db).receipts,
        ∃ record ∈ (writes.apply db).reconciliations, Evidence payment receipt record := by
    obtain ⟨receipt, hreceipt, record, hrecord, hevidence⟩ := h.settled payment hpayment hsettled
    exact ⟨receipt, receipts_apply hmove hreceipt, record, reconciliations_apply hmove hrecord,
      hevidence⟩
  refine ⟨?_, ?_, ?_⟩
  · intro row hrow hsettled
    rcases settled_of_apply hmove haccepted hrow hsettled with
      hold | ⟨event, amount, payment, hs, rfl, rfl⟩
    · exact hkept row hold hsettled
    · exact ⟨_, List.mem_append_right _ (List.mem_singleton.mpr rfl), _,
        List.mem_append_right _ (List.mem_singleton.mpr rfl), hs.evidence⟩
  · intro receipt hreceipt
    cases hmove with
    | settled event amount payment hs =>
      rcases List.mem_append.mp hreceipt with hold | hnew
      · exact hstays (h.receipts receipt hold)
      · obtain rfl := List.mem_singleton.mp hnew
        exact ⟨payment.settle event.bankReference, Table.changed_mem_replace hs.stored rfl, hs.id, rfl⟩
    | _ => exact hstays (h.receipts receipt hreceipt)
  · intro record hrecord
    cases hmove with
    | settled event amount payment hs =>
      rcases List.mem_append.mp hrecord with hold | hnew
      · exact hstays (h.records record hold)
      · obtain rfl := List.mem_singleton.mp hnew
        exact ⟨payment.settle event.bankReference, Table.changed_mem_replace hs.stored rfl, hs.id, rfl⟩
    | _ => exact hstays (h.records record hrecord)

end Commit

theorem evidenced_run (platform : LedgerPlatform) (opening : Opening) (calls : List LedgerCall) :
    Evidenced ((ledger platform).run opening.db calls) :=
  (commit_invariant Evidenced (fun _ _ ↦ True) opening.regular
    ⟨by simp [Opening.db], by simp [Opening.db], by simp [Opening.db]⟩
    (fun _ _ _ _ hdb hinv _ hmove haccepted ↦ hinv.apply hdb hmove haccepted) calls
    fun _ _ ↦ trivial).2

/-! ## Events that come again -/

/-- The payload of a settlement event, when its amount can be read. -/
def Settlement.payload (platform : LedgerPlatform) (event : Settlement) : Except LedgerError Dict :=
  (parseAmount event.amount).map (settlementPayload platform event)

/-- Payloads with one digest are one payload. -/
theorem settlementPayload_eq {platform : LedgerPlatform} (hsha : Function.Injective platform.sha256)
    {first second : Settlement} {amount amount' : Int}
    (h : hash platform (settlementPayload platform first amount) =
      hash platform (settlementPayload platform second amount')) :
    settlementPayload platform first amount = settlementPayload platform second amount' := by
  have hnodup (event : Settlement) (amount : Int) :
      ((settlementPayload platform event amount).map Prod.fst).Nodup := by
    simp [settlementPayload]
  have hscalars : ∀ field ∈ settlementPayload platform second amount', field.2.isScalar = true := by
    simp [settlementPayload, Json.isScalar]
  have hsame : Json.Same (.obj (settlementPayload platform first amount))
      (.obj (settlementPayload platform second amount')) :=
    Json.same_of_dumps true rfl rfl (hsha h)
  have hfield (key : String) {left right : String}
      (hleft : (settlementPayload platform first amount).lookup key = some (.str left))
      (hright : (settlementPayload platform second amount').lookup key = some (.str right)) :
      left = right := by
    rw [hsame.lookup_eq (hnodup first amount) (hnodup second amount') hscalars key, hright] at hleft
    exact (Json.str.inj (Option.some.inj hleft)).symm
  simp only [settlementPayload, hfield "payment_id" rfl rfl, hfield "bank_execution_id" rfl rfl,
    hfield "bank_reference" rfl rfl, hfield "amount" rfl rfl, hfield "currency" rfl rfl,
    hfield "settled_at" rfl rfl]

/-- The payment that a settlement event has settled. -/
structure PaidBy (db : LedgerDb) (event : Settlement) (amount : Int) (payment : PaymentInstruction) :
    Prop where
  stored : payment ∈ db.payments
  settled : payment.status = .settled
  id : payment.paymentId = event.paymentId
  execution : payment.bankExecutionId = some event.bankExecutionId
  reference : payment.bankReference = some event.bankReference
  sameAmount : payment.amount = amount
  sameCurrency : payment.currency = event.currency

/-- Every event of the inbox has settled a payment of its tenant. -/
def Inboxed (platform : LedgerPlatform) (db : LedgerDb) : Prop :=
  ∀ inbox ∈ db.inboxEvents, ∃ event amount payment, PaidBy db event amount payment ∧
    inbox.payloadHash = hash platform (settlementPayload platform event amount) ∧
    payment.tenantId = inbox.tenantId

/-- What an accepted settlement event leaves. -/
structure Received (platform : LedgerPlatform) (db : LedgerDb) (event : Settlement) (amount : Int) :
    Prop where
  parsed : parseAmount event.amount = .ok amount
  reference : event.bankReference.toList.length = 10
  inbox : ∃ inbox ∈ db.inboxEvents, inbox.eventId = event.eventId ∧
    inbox.payloadHash = hash platform (settlementPayload platform event amount)
  record : ∃ record ∈ db.reconciliations, record.paymentId = event.paymentId

section Events

variable {platform : LedgerPlatform} {db : LedgerDb} {call : LedgerCall} {event other : Settlement}
  {amount : Int} {answer : LedgerAnswer} {writes : Writes}

/-- Events with one payload settle one payment. -/
theorem PaidBy.of_payload {payment : PaymentInstruction} {amount' : Int}
    (h : PaidBy db event amount payment)
    (hpayload : settlementPayload platform other amount' = settlementPayload platform event amount) :
    PaidBy db other amount' payment := by
  simp only [settlementPayload, List.cons.injEq, Prod.mk.injEq, Json.str.injEq, true_and,
    and_true] at hpayload
  obtain ⟨hid, hexecution, hreference, hamount, hcurrency, -⟩ := hpayload
  exact
    { stored := h.stored
      settled := h.settled
      id := h.id.trans hid.symm
      execution := h.execution.trans (congrArg some hexecution.symm)
      reference := h.reference.trans (congrArg some hreference.symm)
      sameAmount := h.sameAmount.trans (centsText_injective hamount.symm)
      sameCurrency := h.sameCurrency.trans hcurrency.symm }

theorem Settles.paidBy {payment : PaymentInstruction} (h : Settles db call event amount payment) :
    PaidBy ((settlementWrites platform call event amount payment).apply db) event amount
      (payment.settle event.bankReference) where
  stored := Table.changed_mem_replace h.stored rfl
  settled := rfl
  id := h.id
  execution := h.executed
  reference := rfl
  sameAmount := h.sameAmount
  sameCurrency := h.sameCurrency

theorem Inboxed.apply (h : Inboxed platform db) (hregular : Regular db) (hevidenced : Evidenced db)
    (hmove : Move platform db call answer writes) (haccepted : writes.Accepted db) :
    Inboxed platform (writes.apply db) := by
  have hkept (inbox : InboxEvent) (hinbox : inbox ∈ db.inboxEvents) : ∃ event amount payment,
      PaidBy (writes.apply db) event amount payment ∧
        inbox.payloadHash = hash platform (settlementPayload platform event amount) ∧
        payment.tenantId = inbox.tenantId := by
    obtain ⟨event, amount, payment, hpaid, hsame⟩ := h inbox hinbox
    have hstays := settled_apply hregular hevidenced hmove haccepted hpaid.stored hpaid.settled
    exact ⟨event, amount, payment, { hpaid with stored := hstays }, hsame⟩
  intro inbox hinbox
  cases hmove with
  | settled event amount payment hs =>
    rcases List.mem_append.mp hinbox with hold | hnew
    · exact hkept inbox hold
    · obtain rfl := List.mem_singleton.mp hnew
      exact ⟨event, amount, _, hs.paidBy, rfl, hs.tenant⟩
  | _ => exact hkept inbox hinbox

theorem Received.apply (h : Received platform db event amount)
    (hmove : Move platform db call answer writes) :
    Received platform (writes.apply db) event amount where
  parsed := h.parsed
  reference := h.reference
  inbox := by
    obtain ⟨inbox, hinbox, hsame⟩ := h.inbox
    cases hmove with
    | settled => exact ⟨inbox, List.mem_append_left _ hinbox, hsame⟩
    | _ => exact ⟨inbox, hinbox, hsame⟩
  record := by
    obtain ⟨record, hrecord, hsame⟩ := h.record
    exact ⟨record, reconciliations_apply hmove hrecord, hsame⟩

theorem Received.run (hregular : Regular db) (h : Received platform db event amount)
    (later : List LedgerCall) : Received platform ((ledger platform).run db later) event amount :=
  (commit_invariant (fun after ↦ Received platform after event amount) (fun _ _ ↦ True) hregular h
    (fun _ _ _ _ _ hinv _ hmove _ ↦ hinv.apply hmove) later fun _ _ ↦ trivial).2

/-- An accepted event has settled its payment, now or before. -/
theorem paidBy_of_ok (hsha : Function.Injective platform.sha256) (hinboxed : Inboxed platform db)
    (hrequest : call.request = .settlement event)
    (hok : ((ledger platform).step db call).1 = .ok answer) :
    ∃ amount payment, PaidBy ((ledger platform).step db call).2 event amount payment := by
  rcases step_cases platform db call with
    ⟨failure, hstep⟩ | ⟨reply, hreply, hstep⟩ | ⟨reply, writes, hmove, -, -, hstep⟩
  · rw [hstep] at hok
    cases hok
  · obtain ⟨amount, inbox, record, -, -, hinbox, -, hsame, -, -⟩ := hreply.of_settlement hrequest
    obtain ⟨origin, amount', payment, hpaid, hdigest, -⟩ := hinboxed inbox hinbox
    rw [hstep]
    exact ⟨amount, payment, hpaid.of_payload (settlementPayload_eq hsha (hsame.symm.trans hdigest))⟩
  · obtain ⟨amount, payment, hs, -, rfl⟩ := hmove.of_settlement hrequest
    rw [hstep]
    exact ⟨amount, _, hs.paidBy⟩

/-- An accepted event leaves its digest and a record of its payment. -/
theorem received_of_ok (hrequest : call.request = .settlement event)
    (hok : ((ledger platform).entry db call).output = .ok answer) :
    ∃ amount, Received platform ((ledger platform).entry db call).after event amount := by
  simp only [Machine.entry] at hok ⊢
  rcases step_cases platform db call with
    ⟨failure, hstep⟩ | ⟨reply, hreply, hstep⟩ | ⟨reply, writes, hmove, -, -, hstep⟩
  · rw [hstep] at hok
    cases hok
  · obtain ⟨amount, inbox, record, hparsed, hreference, hinbox, hid, hsame, hrecord, -⟩ :=
      hreply.of_settlement hrequest
    rw [hstep]
    exact ⟨amount, hparsed, hreference, ⟨inbox, hinbox, hid, hsame⟩,
      ⟨record, List.mem_of_find?_eq_some hrecord, by simpa using List.find?_some hrecord⟩⟩
  · obtain ⟨amount, payment, hs, -, rfl⟩ := hmove.of_settlement hrequest
    rw [hstep]
    exact ⟨amount, hs.parsed, hs.reference,
      ⟨_, List.mem_append_right _ (List.mem_singleton.mpr rfl), rfl, rfl⟩,
      ⟨_, List.mem_append_right _ (List.mem_singleton.mpr rfl), rfl⟩⟩

/-- Fields of a payload that is read again. -/
theorem payload_eq (h : other.payload platform = .ok (settlementPayload platform event amount)) :
    (∃ amount', parseAmount other.amount = .ok amount' ∧
      settlementPayload platform other amount' = settlementPayload platform event amount) ∧
    other.paymentId = event.paymentId ∧ other.bankReference = event.bankReference := by
  unfold Settlement.payload at h
  cases hparsed : parseAmount other.amount with
  | error failure =>
    rw [hparsed] at h
    cases h
  | ok amount' =>
    rw [hparsed] at h
    have hsame := Except.ok.inj h
    refine ⟨⟨amount', rfl, hsame⟩, ?_⟩
    simp only [settlementPayload, List.cons.injEq, Prod.mk.injEq, Json.str.injEq, true_and] at hsame
    exact ⟨hsame.1, hsame.2.2.1⟩

theorem Received.payload (h : Received platform db event amount) :
    event.payload platform = .ok (settlementPayload platform event amount) := by
  rw [Settlement.payload, h.parsed]
  rfl

/-- An event that comes again with its payload is answered with a record and changes nothing. -/
theorem Received.replay (h : Received platform db event amount) (hregular : Regular db)
    (hrequest : call.request = .settlement other) (hid : other.eventId = event.eventId)
    (hpayload : other.payload platform = event.payload platform) :
    ∃ record ∈ db.reconciliations, record.paymentId = event.paymentId ∧
      (ledger platform).step db call = (.ok (.reconciliation record), db) := by
  rw [h.payload] at hpayload
  obtain ⟨⟨amount', hparsed, hsame⟩, hpayment, hreference⟩ := payload_eq hpayload
  obtain ⟨inbox, hinbox, hinboxId, hdigest⟩ := h.inbox
  have hfound : (db.inboxEvents.find? fun row ↦ row.eventId == other.eventId) = some inbox :=
    Table.find?_eq_some_of_unique hinbox (by simp [hinboxId, hid]) fun row hrow hrowId ↦
      Table.eq_of_key hregular.keyed.inboxEvents.keys hrow hinbox
        ((beq_iff_eq.mp hrowId).trans (hid.trans hinboxId.symm))
  obtain ⟨record, hrecord, hrecordPayment⟩ := h.record
  have hstored : (db.reconciliations.find? fun row ↦ row.paymentId == other.paymentId) = some record :=
    Table.find?_eq_some_of_unique hrecord (by simp [hrecordPayment, hpayment]) fun row hrow hrowId ↦
      hregular.record_eq hrow hrecord
        ((beq_iff_eq.mp hrowId).trans (hpayment.trans hrecordPayment.symm))
  have hserve : serve platform db call = .ok (.reconciliation record, none) := by
    simp only [serve, hrequest, acceptBankSettlement, hparsed, hfound, hstored, newInbox,
      hdigest, hreference, h.reference, ensure, bind, Except.bind, hsame, beq_self_eq_true, if_true,
      pure, Except.pure]
  refine ⟨record, hrecord, hrecordPayment, ?_⟩
  simp only [ledger, Service.machine, sessions, hserve, Service.close]

/-- An event that comes again with another payload is refused and changes nothing. -/
theorem Received.drift (hsha : Function.Injective platform.sha256)
    (h : Received platform db event amount) (hregular : Regular db)
    (hrequest : call.request = .settlement other) (hid : other.eventId = event.eventId)
    (hpayload : other.payload platform ≠ event.payload platform) :
    ∃ failure, (ledger platform).step db call = (.error failure, db) := by
  obtain ⟨inbox, hinbox, hinboxId, hdigest⟩ := h.inbox
  rcases step_cases platform db call with
    hraised | ⟨answer, hreply, -⟩ | ⟨answer, writes, hmove, -⟩
  · exact hraised
  · obtain ⟨amount', found, record, hparsed, -, hfound, hfoundId, hsame, -, -⟩ :=
      hreply.of_settlement hrequest
    obtain rfl := Table.eq_of_key hregular.keyed.inboxEvents.keys hfound hinbox
      (hfoundId.trans (hid.trans hinboxId.symm))
    refine absurd ?_ hpayload
    rw [h.payload, Settlement.payload, hparsed,
      ← settlementPayload_eq hsha (hsame.symm.trans hdigest)]
    rfl
  · obtain ⟨amount', payment, hs, -, -⟩ := hmove.of_settlement hrequest
    exact absurd (hinboxId.trans hid.symm) (hs.unused inbox hinbox)

end Events

/-! ## Reconciled ledgers -/

def receiptsOf (db : LedgerDb) (paymentId : String) : List SettlementReceipt :=
  db.receipts.filter fun row ↦ row.paymentId == paymentId

def recordsOf (db : LedgerDb) (paymentId : String) : List ReconciliationRecord :=
  db.reconciliations.filter fun row ↦ row.paymentId == paymentId

/-- The one receipt of a payment and its posted journal bear its amount. -/
structure MatchedBy (db : LedgerDb) (payment : PaymentInstruction) (receipt : SettlementReceipt) :
    Prop where
  only : receiptsOf db payment.paymentId = [receipt]
  amount : receipt.amount = payment.amount
  currency : receipt.currency = payment.currency
  execution : payment.bankExecutionId = some receipt.bankExecutionId
  journal : ∃ journal ∈ db.journals, journal.journalId = payment.journalId ∧ journal.status = .posted ∧
    journal.totalDebits = receipt.amount ∧ journal.totalCredits = receipt.amount

/-- What reconciliation says about the tables. -/
structure Reconciled (db : LedgerDb) : Prop where
  receipts : ∀ paymentId, (receiptsOf db paymentId).length ≤ 1
  records : ∀ paymentId, (recordsOf db paymentId).length ≤ 1
  matched : ∀ payment ∈ db.payments,
    (∃ record ∈ db.reconciliations, record.paymentId = payment.paymentId ∧ record.status = .matched) ↔
      payment.status = .settled ∧ ∃ receipt, MatchedBy db payment receipt
  references : ∀ first ∈ db.payments, ∀ second ∈ db.payments, first.bankReference ≠ none →
    first.bankReference = second.bankReference → first = second
  executions : ∀ first ∈ db.payments, ∀ second ∈ db.payments, first.bankExecutionId ≠ none →
    first.bankExecutionId = second.bankExecutionId → first = second
  /-- Receipts use the reference and the execution of their payment. -/
  evidence : ∀ receipt ∈ db.receipts, ∃ payment ∈ db.payments,
    payment.paymentId = receipt.paymentId ∧ payment.bankReference = some receipt.bankReference ∧
      payment.bankExecutionId = some receipt.bankExecutionId

/-- What one more call does with settlement events that were accepted before. -/
structure Redelivers (platform : LedgerPlatform) (history : List LedgerEntry) (e : LedgerEntry) :
    Prop where
  payments : ∀ earlier ∈ history, ∀ event event' answer answer',
    earlier.input.request = .settlement event → earlier.output = .ok answer →
    e.input.request = .settlement event' → e.output = .ok answer' →
      event'.eventId = event.eventId → event'.paymentId = event.paymentId
  same : ∀ earlier ∈ history, ∀ event event' answer,
    earlier.input.request = .settlement event → earlier.output = .ok answer →
    e.input.request = .settlement event' → event'.eventId = event.eventId →
      event'.payload platform = event.payload platform →
        e.after = e.before ∧
          ∃ record, e.output = .ok (.reconciliation record) ∧ record.paymentId = event.paymentId
  other : ∀ earlier ∈ history, ∀ event event' answer,
    earlier.input.request = .settlement event → earlier.output = .ok answer →
    e.input.request = .settlement event' → event'.eventId = event.eventId →
      event'.payload platform ≠ event.payload platform →
        e.after = e.before ∧ ∃ failure, e.output = .error failure

section Reconciliation

variable {platform : LedgerPlatform} {db : LedgerDb} {opening : Opening} {calls : List LedgerCall}

theorem receiptsOf_length (h : Regular db) (paymentId : String) :
    (receiptsOf db paymentId).length ≤ 1 := by
  have hkeys : ((receiptsOf db paymentId).map SettlementReceipt.receiptId).Nodup :=
    (List.filter_sublist.map _).nodup h.keyed.receipts.keys
  refine Table.length_le_one hkeys fun first hfirst second hsecond ↦ ?_
  have hfirst := List.mem_filter.mp hfirst
  have hsecond := List.mem_filter.mp hsecond
  exact h.receipt_eq hfirst.1 hsecond.1
    ((beq_iff_eq.mp hfirst.2).trans (beq_iff_eq.mp hsecond.2).symm)

theorem recordsOf_length (h : Regular db) (paymentId : String) :
    (recordsOf db paymentId).length ≤ 1 := by
  have hkeys : ((recordsOf db paymentId).map ReconciliationRecord.reconciliationId).Nodup :=
    (List.filter_sublist.map _).nodup h.keyed.reconciliations.keys
  refine Table.length_le_one hkeys fun first hfirst second hsecond ↦ ?_
  have hfirst := List.mem_filter.mp hfirst
  have hsecond := List.mem_filter.mp hsecond
  exact h.record_eq hfirst.1 hsecond.1
    ((beq_iff_eq.mp hfirst.2).trans (beq_iff_eq.mp hsecond.2).symm)

/-- A settled payment is matched by its receipt. -/
theorem matchedBy_of_evidence (h : Regular db) {payment : PaymentInstruction}
    {receipt : SettlementReceipt} {record : ReconciliationRecord} (hpayment : payment ∈ db.payments)
    (hsettled : payment.status = .settled) (hreceipt : receipt ∈ db.receipts)
    (hevidence : Evidence payment receipt record) : MatchedBy db payment receipt where
  only := by
    have hmem : receipt ∈ receiptsOf db payment.paymentId :=
      List.mem_filter.mpr ⟨hreceipt, beq_iff_eq.mpr hevidence.receiptPayment⟩
    obtain ⟨row, hrow⟩ := List.length_eq_one_iff.mp
      (Nat.le_antisymm (receiptsOf_length h payment.paymentId) (List.length_pos_of_mem hmem))
    rw [hrow] at hmem ⊢
    rw [List.mem_singleton.mp hmem]
  amount := hevidence.amount
  currency := hevidence.currency
  execution := hevidence.execution
  journal := by
    obtain ⟨journal, hjournal, hpays, hposted⟩ :=
      h.journal_of_payment hpayment (by simp [hsettled])
    have hdebits := hpays.amount.trans hevidence.amount.symm
    exact ⟨journal, hjournal, hpays.id, hposted, hdebits,
      (h.balanced journal hjournal).totals.symm.trans hdebits⟩

theorem reconciled (h : Regular db) (hevidenced : Evidenced db) : Reconciled db where
  receipts := receiptsOf_length h
  records := recordsOf_length h
  matched payment hpayment := by
    constructor
    · rintro ⟨record, hrecord, hid, -⟩
      obtain ⟨own, hown, hownId, hsettled⟩ := hevidenced.records record hrecord
      obtain rfl := h.payment_eq_of_id hpayment hown (hownId.trans hid)
      obtain ⟨receipt, hreceipt, _, -, hevidence⟩ := hevidenced.settled own hown hsettled
      exact ⟨hsettled, receipt, matchedBy_of_evidence h hown hsettled hreceipt hevidence⟩
    · rintro ⟨hsettled, -⟩
      obtain ⟨_, -, record, hrecord, hevidence⟩ := hevidenced.settled payment hpayment hsettled
      exact ⟨record, hrecord, hevidence.recordPayment, by cases record.status; rfl⟩
  references first hfirst second hsecond hsome hsame :=
    h.payment_eq_of_bank hfirst hsecond (Or.inr ⟨hsome, hsame⟩)
  executions first hfirst second hsecond hsome hsame :=
    h.payment_eq_of_bank hfirst hsecond (Or.inl ⟨hsome, hsame⟩)
  evidence receipt hreceipt := by
    obtain ⟨payment, hpayment, hid, hsettled⟩ := hevidenced.receipts receipt hreceipt
    obtain ⟨own, hown, _, -, hevidence⟩ := hevidenced.settled payment hpayment hsettled
    obtain rfl := h.receipt_eq hown hreceipt (hevidence.receiptPayment.trans hid)
    exact ⟨payment, hpayment, hid, hevidence.reference, hevidence.execution⟩

theorem inboxed_run (platform : LedgerPlatform) (opening : Opening) (calls : List LedgerCall) :
    Inboxed platform ((ledger platform).run opening.db calls) :=
  (commit_invariant (fun db ↦ Evidenced db ∧ Inboxed platform db) (fun _ _ ↦ True) opening.regular
    ⟨evidenced_run platform opening [], by simp [Inboxed, Opening.db]⟩
    (fun _ _ _ _ hdb hinv _ hmove haccepted ↦
      ⟨hinv.1.apply hdb hmove haccepted, hinv.2.apply hdb hinv.1 hmove haccepted⟩) calls
    fun _ _ ↦ trivial).2.2

/-- An event that was accepted in a run has left its digest and record in the end. -/
theorem received_of_mem_log {e : LedgerEntry} (he : e ∈ (ledger platform).log opening.db calls)
    {event : Settlement} {answer : LedgerAnswer} (hrequest : e.input.request = .settlement event)
    (hok : e.output = .ok answer) :
    ∃ amount, Received platform ((ledger platform).run opening.db calls) event amount := by
  obtain ⟨earlier, call, later, rfl, rfl⟩ := ((ledger platform).mem_log_iff _ _ _).mp he
  have hregular := regular_run platform opening.regular (earlier ++ [call])
  rw [(ledger platform).run_snoc] at hregular
  obtain ⟨amount, hreceived⟩ := received_of_ok hrequest hok
  rw [(ledger platform).run_append]
  exact ⟨amount, hreceived.run hregular later⟩

end Reconciliation

/-- In every state of every run a payment has a matched record exactly when it is settled and its one
receipt and its posted journal bear its amount; bank references, bank executions and event ids belong to
one payment; and an event that comes again changes nothing and is refused with another payload. -/
theorem reconciliation_sound (platform : LedgerPlatform) (hsha : Function.Injective platform.sha256)
    (opening : Opening) (calls : List LedgerCall) (call : LedgerCall) :
    Reconciled ((ledger platform).run opening.db calls) ∧
      Redelivers platform ((ledger platform).log opening.db calls)
        ((ledger platform).entry ((ledger platform).run opening.db calls) call) := by
  have hregular := regular_run platform opening.regular calls
  refine ⟨reconciled hregular (evidenced_run platform opening calls), ?_, ?_, ?_⟩
  · intro earlier hearlier event event' answer answer' hrequest hok hrequest' hok' hid
    obtain ⟨amount, hreceived⟩ := received_of_mem_log hearlier hrequest hok
    by_cases hpayload : event'.payload platform = event.payload platform
    · exact (payload_eq (hpayload.trans hreceived.payload)).2.1
    · obtain ⟨failure, hstep⟩ := hreceived.drift hsha hregular hrequest' hid hpayload
      cases (congrArg Prod.fst hstep).symm.trans hok'
  · intro earlier hearlier event event' answer hrequest hok hrequest' hid hpayload
    obtain ⟨amount, hreceived⟩ := received_of_mem_log hearlier hrequest hok
    obtain ⟨record, -, hrecord, hstep⟩ := hreceived.replay hregular hrequest' hid hpayload
    exact ⟨congrArg Prod.snd hstep, record, congrArg Prod.fst hstep, hrecord⟩
  · intro earlier hearlier event event' answer hrequest hok hrequest' hid hpayload
    obtain ⟨amount, hreceived⟩ := received_of_mem_log hearlier hrequest hok
    obtain ⟨failure, hstep⟩ := hreceived.drift hsha hregular hrequest' hid hpayload
    exact ⟨congrArg Prod.snd hstep, failure, congrArg Prod.fst hstep⟩

/-- The settlement of the first disbursement and its redelivery. -/
theorem reconciliation_sound_first :
    Reconciled ((ledger sampleLedger).run sampleOpening.db
        (firstDisbursement ++ [sampleCall "5" (.settlement (sampleSettlement "tenant-1"))])) ∧
      Redelivers sampleLedger
        ((ledger sampleLedger).log sampleOpening.db
          (firstDisbursement ++ [sampleCall "5" (.settlement (sampleSettlement "tenant-1"))]))
        ((ledger sampleLedger).entry
          ((ledger sampleLedger).run sampleOpening.db
            (firstDisbursement ++ [sampleCall "5" (.settlement (sampleSettlement "tenant-1"))]))
          (sampleCall "6" (.settlement (sampleSettlement "tenant-1")))) :=
  reconciliation_sound sampleLedger sampleLedger_injective sampleOpening _ _

end Xyena.Ledger
