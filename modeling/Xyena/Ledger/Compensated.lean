import Xyena.Ledger.Reversals
import Xyena.Ledger.Settlements

/-!
# Settlements of compensated journals

A reversal takes the postings of a disbursement back and leaves no trace in its
payment. A settlement looks at the payment only, so a payment whose journal was
compensated is settled and matched like any other one. It is not exactly when
every settlement that passes all checks finds no posted reversal.
-/

namespace Xyena.Ledger

open Xyena.Foundation Xyena.Foundation.Session Xyena.Contracts

/-- A posted reversal compensates the journal. -/
def Compensated (db : LedgerDb) (journalId : String) : Prop :=
  ∃ reversal ∈ db.journals, reversal.status = .posted ∧ reversal.reversalOfJournalId = some journalId

instance (db : LedgerDb) (journalId : String) : Decidable (Compensated db journalId) :=
  inferInstanceAs (Decidable (∃ reversal ∈ db.journals,
    reversal.status = .posted ∧ reversal.reversalOfJournalId = some journalId))

/-- No payment becomes settled with a matched record whose journal is compensated at that time. -/
def RespectsReversal (e : LedgerEntry) : Prop :=
  ∀ payment ∈ e.after.payments, payment.status = .settled →
    (∃ record ∈ e.after.reconciliations,
      record.paymentId = payment.paymentId ∧ record.status = .matched) →
    (∀ old ∈ e.before.payments, old.paymentId = payment.paymentId → old.status ≠ .settled) →
      ¬Compensated e.before payment.journalId

instance (e : LedgerEntry) : Decidable (RespectsReversal e) :=
  inferInstanceAs (Decidable (∀ payment ∈ e.after.payments, payment.status = .settled →
    (∃ record ∈ e.after.reconciliations,
      record.paymentId = payment.paymentId ∧ record.status = .matched) →
    (∀ old ∈ e.before.payments, old.paymentId = payment.paymentId → old.status ≠ .settled) →
      ¬Compensated e.before payment.journalId))

/-- A settlement that passes all checks of the ledger, with rows that the database takes, finds no
posted reversal of the journal of its payment. -/
def SettlesUnreversed (platform : LedgerPlatform) (db : LedgerDb) (call : LedgerCall) : Prop :=
  ∀ event amount payment, Settles db call event amount payment → call.refused = false →
    (settlementWrites platform call event amount payment).Accepted db →
      ¬Compensated db payment.journalId

section Step

variable {platform : LedgerPlatform} {db : LedgerDb} {call : LedgerCall} {event : Settlement}
  {amount : Int} {payment : PaymentInstruction}

/-- A settlement finds its payment by the key of the payments. -/
theorem Settles.lookup (h : Settles db call event amount payment) (hregular : Regular db) :
    (db.payments.find? fun row ↦ row.paymentId == event.paymentId && row.tenantId == event.tenantId) =
      some payment := by
  refine Table.find?_eq_some_of_unique h.stored (by simp [h.id, h.tenant]) fun other hother hsame ↦ ?_
  simp only [Bool.and_eq_true, beq_iff_eq] at hsame
  exact hregular.payment_eq_of_id h.stored hother (hsame.1.trans h.id.symm)

/-- A settlement that passes all checks is answered with its rows. -/
theorem Settles.serve (h : Settles db call event amount payment) (hregular : Regular db) :
    serve platform db call = .ok (.reconciliation (newReconciliation call event payment),
      some (settlementWrites platform call event amount payment)) := by
  have hinbox : (db.inboxEvents.find? fun row ↦ row.eventId == event.eventId) = none :=
    List.find?_eq_none.mpr fun row hrow ↦ by simpa using h.unused row hrow
  simp only [Ledger.serve, h.request, acceptBankSettlement, h.parsed, h.reference, hinbox,
    h.lookup hregular, h.executed, h.sameAmount, h.sameCurrency, ensure, bind, Except.bind, pure,
    Except.pure, beq_self_eq_true, Bool.and_self, if_true]

/-- A settlement that finds a posted reversal leaves a settled payment of a compensated journal. -/
theorem settlesUnreversed_of_respects (hregular : Regular db) (hevidenced : Evidenced db)
    (h : RespectsReversal ((ledger platform).entry db call)) : SettlesUnreversed platform db call := by
  intro event amount payment hs hrefused haccepted
  have hstep : (ledger platform).step db call =
      (.ok (.reconciliation (newReconciliation call event payment)),
        (settlementWrites platform call event amount payment).apply db) := by
    simp only [ledger, Service.machine, sessions, hs.serve hregular, hrefused, Service.close,
      Writes.accepted_iff.mpr haccepted, Bool.not_false, Bool.and_self, if_true]
  have hafter : ((ledger platform).entry db call).after =
      (settlementWrites platform call event amount payment).apply db := congrArg Prod.snd hstep
  refine h (payment.settle event.bankReference) ?_ rfl ?_ ?_
  · exact hafter ▸ Table.changed_mem_replace hs.stored rfl
  · refine ⟨newReconciliation call event payment, ?_, hs.id.symm, rfl⟩
    rw [hafter]
    exact List.mem_append_right _ (List.mem_singleton.mpr rfl)
  · intro old hold hid
    obtain rfl := hregular.payment_eq_of_id hs.stored hold hid
    exact hs.not_settled hevidenced haccepted

theorem respects_of_settlesUnreversed (h : SettlesUnreversed platform db call) :
    RespectsReversal ((ledger platform).entry db call) := by
  intro row hrow hsettled _ hfresh
  have hnew : row ∉ db.payments := fun hold ↦ hfresh row hold rfl hsettled
  simp only [Machine.entry] at hrow ⊢
  rcases step_cases platform db call with
    ⟨_, hstep⟩ | ⟨_, -, hstep⟩ | ⟨answer, writes, hmove, hrefused, haccepted, hstep⟩
  · rw [hstep] at hrow
    exact absurd hrow hnew
  · rw [hstep] at hrow
    exact absurd hrow hnew
  · rw [hstep] at hrow
    rcases settled_of_apply hmove haccepted hrow hsettled with
      hold | ⟨event, amount, payment, hs, rfl, rfl⟩
    · exact absurd hold hnew
    · exact h event amount payment hs hrefused haccepted

end Step

/-- In a run no payment becomes settled and matched whose journal is compensated at that time, exactly
when every settlement of the run that passes all checks, with rows that the database takes, finds no
posted reversal of the journal of its payment. -/
theorem settlement_respects_iff (platform : LedgerPlatform) (opening : Opening)
    (calls : List LedgerCall) :
    (∀ e ∈ (ledger platform).log opening.db calls, RespectsReversal e) ↔
      ∀ e ∈ (ledger platform).log opening.db calls,
        SettlesUnreversed platform e.before e.input := by
  refine forall₂_congr fun e he ↦ ?_
  obtain ⟨earlier, call, later, -, rfl⟩ := ((ledger platform).mem_log_iff _ _ _).mp he
  exact ⟨settlesUnreversed_of_respects (regular_run platform opening.regular earlier)
    (evidenced_run platform opening earlier), respects_of_settlesUnreversed⟩

/-- The first disbursement is reversed, and then settled and matched. -/
theorem settled_after_reversal :
    ¬∀ e ∈ (ledger sampleLedger).log sampleOpening.db (firstDisbursement ++ firstReversal ++
        [sampleCall "5" (.settlement (sampleSettlement "tenant-1"))]), RespectsReversal e := by
  decide +kernel

end Xyena.Ledger
