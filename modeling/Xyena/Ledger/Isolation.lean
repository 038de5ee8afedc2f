import Xyena.Ledger.Settlements

/-!
# Answers of one tenant

Every lookup of the ledger is made for a tenant, save two: the payment of a
journal, which belongs to the tenant of the journal, and the record of an event
that was seen before. That event is known by its identifier alone, whichever
tenant sends it.
-/

namespace Xyena.Ledger

open Xyena.Foundation Xyena.Foundation.Session Xyena.Contracts

/-- All rows of the answer belong to the tenant, lines through their journal. -/
def LedgerAnswer.OwnedBy (tenantId : String) : LedgerAnswer → Prop
  | .account row => row.tenantId = tenantId
  | .journal row lines => row.tenantId = tenantId ∧ ∀ line ∈ lines, line.journalId = row.journalId
  | .payment row => row.tenantId = tenantId
  | .reconciliation row => row.tenantId = tenantId
  | .disbursement entry lines instruction _ =>
    entry.tenantId = tenantId ∧ (∀ line ∈ lines, line.journalId = entry.journalId) ∧
      instruction.tenantId = tenantId

instance (tenantId : String) : (answer : LedgerAnswer) → Decidable (answer.OwnedBy tenantId)
  | .account row => inferInstanceAs (Decidable (row.tenantId = tenantId))
  | .journal row lines => inferInstanceAs
    (Decidable (row.tenantId = tenantId ∧ ∀ line ∈ lines, line.journalId = row.journalId))
  | .payment row => inferInstanceAs (Decidable (row.tenantId = tenantId))
  | .reconciliation row => inferInstanceAs (Decidable (row.tenantId = tenantId))
  | .disbursement entry lines instruction _ => inferInstanceAs
    (Decidable (entry.tenantId = tenantId ∧ (∀ line ∈ lines, line.journalId = entry.journalId) ∧
      instruction.tenantId = tenantId))

/-- A call that succeeds answers from rows of its tenant. -/
def Isolated (e : LedgerEntry) : Prop :=
  match e.output with
  | .ok answer => answer.OwnedBy e.input.request.tenantId
  | .error _ => True

instance (e : LedgerEntry) : Decidable (Isolated e) :=
  match h : e.output with
  | .ok answer => decidable_of_iff (answer.OwnedBy e.input.request.tenantId) (by simp [Isolated, h])
  | .error _ => .isTrue (by simp [Isolated, h])

/-- A settlement event that repeats an event of the inbox, with its payload, comes from the tenant that
the event was received for. -/
def OwnReplay (platform : LedgerPlatform) (db : LedgerDb) (call : LedgerCall) : Prop :=
  ∀ event amount, call.request = .settlement event → parseAmount event.amount = .ok amount →
    event.bankReference.toList.length = 10 →
    ∀ inbox ∈ db.inboxEvents, inbox.eventId = event.eventId →
      inbox.payloadHash = hash platform (settlementPayload platform event amount) →
        inbox.tenantId = event.tenantId

section Step

variable {platform : LedgerPlatform} {db : LedgerDb} {call : LedgerCall} {answer : LedgerAnswer}
  {writes : Writes}

theorem journalId_of_mem_linesOf {journalId : String} {line : JournalLine}
    (h : line ∈ linesOf db journalId) : line.journalId = journalId := by
  simpa using (List.mem_filter.mp h).2

/-- The answer of every move belongs to the tenant of its call. -/
theorem Move.ownedBy (h : Move platform db call answer writes) (hregular : Regular db) :
    answer.OwnedBy call.request.tenantId := by
  cases h with
  | accountRead scope accountId account audits hrequest hfound =>
    rw [hrequest]
    exact hfound.tenant
  | journalRead scope journal audits hrequest hfound =>
    rw [hrequest]
    exact ⟨hfound.tenant, fun line ↦ journalId_of_mem_linesOf⟩
  | disbursementPrepared _ _ _ _ _ _ _ _ _ _ _ _ hp =>
    rw [hp.request]
    exact ⟨rfl, fun line ↦ journalId_of_mem_disbursementLines, rfl⟩
  | disbursementPosted scope bank journal payment accounts hp =>
    rw [hp.request]
    exact ⟨hp.found.tenant, fun line ↦ journalId_of_mem_linesOf,
      (hregular.tenant_of_paymentOf hp.found.stored hp.paid).trans hp.found.tenant⟩
  | reversalPrepared _ _ _ _ _ hp =>
    rw [hp.request]
    exact ⟨rfl, fun line ↦ journalId_of_mem_mirrorLines⟩
  | reversalPosted scope approval journal accounts hp =>
    rw [hp.request]
    exact ⟨hp.found.tenant, fun line ↦ journalId_of_mem_linesOf⟩
  | settled event amount payment hs =>
    rw [hs.request]
    rfl

/-- The record of an event that repeats an event of the inbox belongs to the tenant of that event. -/
theorem record_of_replay (hsha : Function.Injective platform.sha256) (hevidenced : Evidenced db)
    (hinboxed : Inboxed platform db) {event : Settlement} {amount : Int} {inbox : InboxEvent}
    (hinbox : inbox ∈ db.inboxEvents)
    (hsame : inbox.payloadHash = hash platform (settlementPayload platform event amount)) :
    ∃ record ∈ db.reconciliations,
      record.paymentId = event.paymentId ∧ record.tenantId = inbox.tenantId := by
  obtain ⟨origin, amount', payment, hpaid, hdigest, htenant⟩ := hinboxed inbox hinbox
  have hown := hpaid.of_payload (settlementPayload_eq hsha (hsame.symm.trans hdigest))
  obtain ⟨_, -, record, hrecord, hevidence⟩ := hevidenced.settled payment hpaid.stored hpaid.settled
  exact ⟨record, hrecord, hevidence.recordPayment.trans hown.id,
    hevidence.recordTenant.trans htenant⟩

/-- The answer of every reply does as well, when events are repeated by their own tenant. -/
theorem Reply.ownedBy (h : Reply platform db call answer) (hsha : Function.Injective platform.sha256)
    (hregular : Regular db) (hevidenced : Evidenced db) (hinboxed : Inboxed platform db)
    (hown : OwnReplay platform db call) :
    answer.OwnedBy call.request.tenantId := by
  cases h with
  | paymentRead scope payment hrequest hstored htenant =>
    rw [hrequest]
    exact htenant
  | reconciliationRead scope record hrequest hstored htenant =>
    rw [hrequest]
    exact htenant
  | preparationReplayed _ _ _ _ _ _ _ _ journal payment hrequest _ hfound _ hpaid =>
    rw [hrequest]
    exact ⟨hfound.tenant, fun line ↦ journalId_of_mem_linesOf,
      (hregular.tenant_of_paymentOf hfound.stored hpaid).trans hfound.tenant⟩
  | postingReplayed scope bank journal payment hrequest hfound hposted hpaid =>
    rw [hrequest]
    exact ⟨hfound.tenant, fun line ↦ journalId_of_mem_linesOf,
      (hregular.tenant_of_paymentOf hfound.stored hpaid).trans hfound.tenant⟩
  | reversalReplayed _ _ _ _ hrequest hfound =>
    rw [hrequest]
    exact ⟨hfound.tenant, fun line ↦ journalId_of_mem_linesOf⟩
  | approvalReplayed _ _ _ hrequest hfound =>
    rw [hrequest]
    exact ⟨hfound.tenant, fun line ↦ journalId_of_mem_linesOf⟩
  | settlementReplayed event amount inbox record hrequest hparsed hreference hinbox hid hsame hrecord =>
    have hpayment : record.paymentId = event.paymentId := by simpa using List.find?_some hrecord
    obtain ⟨own, hstored, hownPayment, htenant⟩ := record_of_replay hsha hevidenced hinboxed hinbox hsame
    obtain rfl := hregular.record_eq hstored (List.mem_of_find?_eq_some hrecord)
      (hownPayment.trans hpayment.symm)
    rw [hrequest]
    exact htenant.trans (hown event amount hrequest hparsed hreference inbox hinbox hid hsame)

theorem isolated_of_ownReplay (hsha : Function.Injective platform.sha256) (hregular : Regular db)
    (hevidenced : Evidenced db) (hinboxed : Inboxed platform db) (hown : OwnReplay platform db call) :
    Isolated ((ledger platform).entry db call) := by
  simp only [Isolated, Machine.entry]
  rcases step_cases platform db call with
    ⟨_, hstep⟩ | ⟨_, hreply, hstep⟩ | ⟨_, _, hmove, -, -, hstep⟩
  · rw [hstep]
    trivial
  · rw [hstep]
    exact hreply.ownedBy hsha hregular hevidenced hinboxed hown
  · rw [hstep]
    exact hmove.ownedBy hregular

/-- A repeated event is answered with the record of the tenant that it was received for. -/
theorem ownReplay_of_isolated (hsha : Function.Injective platform.sha256) (hregular : Regular db)
    (hevidenced : Evidenced db) (hinboxed : Inboxed platform db)
    (h : Isolated ((ledger platform).entry db call)) :
    OwnReplay platform db call := by
  intro event amount hrequest hparsed hreference inbox hinbox hid hsame
  obtain ⟨record, hrecord, hpayment, htenant⟩ := record_of_replay hsha hevidenced hinboxed hinbox hsame
  have hreceived : Received platform db event amount :=
    ⟨hparsed, hreference, ⟨inbox, hinbox, hid, hsame⟩, ⟨record, hrecord, hpayment⟩⟩
  obtain ⟨found, hfound, hfoundPayment, hstep⟩ := hreceived.replay hregular hrequest rfl rfl
  obtain rfl := hregular.record_eq hfound hrecord (hfoundPayment.trans hpayment.symm)
  simp only [Isolated, Machine.entry, hstep, hrequest] at h
  exact htenant.symm.trans h

end Step

/-- In a run every call that succeeds answers from rows of its tenant, exactly when every settlement
event that repeats an event of the inbox, with its payload, comes from the tenant that the event was
received for. -/
theorem isolation_iff (platform : LedgerPlatform) (hsha : Function.Injective platform.sha256)
    (opening : Opening) (calls : List LedgerCall) :
    (∀ e ∈ (ledger platform).log opening.db calls, Isolated e) ↔
      ∀ e ∈ (ledger platform).log opening.db calls, OwnReplay platform e.before e.input := by
  refine forall₂_congr fun e he ↦ ?_
  obtain ⟨earlier, call, later, -, rfl⟩ := ((ledger platform).mem_log_iff _ _ _).mp he
  have hregular := regular_run platform opening.regular earlier
  have hevidenced := evidenced_run platform opening earlier
  have hinboxed := inboxed_run platform opening earlier
  exact ⟨ownReplay_of_isolated hsha hregular hevidenced hinboxed,
    isolated_of_ownReplay hsha hregular hevidenced hinboxed⟩

/-- The settlement of the first disbursement, and the same event sent by another tenant. -/
def foreignReplay : List LedgerCall :=
  firstDisbursement ++ [sampleCall "5" (.settlement (sampleSettlement "tenant-1")),
    sampleCall "6" (.settlement (sampleSettlement "tenant-2"))]

theorem isolation_iff_sample :
    (∀ e ∈ (ledger sampleLedger).log sampleOpening.db foreignReplay, Isolated e) ↔
      ∀ e ∈ (ledger sampleLedger).log sampleOpening.db foreignReplay,
        OwnReplay sampleLedger e.before e.input :=
  isolation_iff sampleLedger sampleLedger_injective sampleOpening foreignReplay

/-- The other tenant is answered with the record of the first one. -/
theorem foreign_record_answered :
    ¬∀ e ∈ (ledger sampleLedger).log sampleOpening.db foreignReplay, Isolated e := by
  decide +kernel

end Xyena.Ledger
