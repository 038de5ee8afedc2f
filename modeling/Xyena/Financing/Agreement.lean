import Xyena.Financing.Answers

/-!
# Bank and ledger after reconciliation

When a coordinator reconciles, its event names its own execution id, whichever
execution the bank has answered with. The bank holds that execution, and only
that one, when nobody else has settled the prepared transfer or used the id.
-/

namespace Xyena.Financing

open Xyena.Foundation Xyena.Contracts Xyena.Bank Xyena.Ledger

/-! ## Runs of the world -/

/-- What holds of every world that a run leads to. -/
structure Sound (platforms : Platforms) (openings : Openings) (w : World) : Prop where
  reached : Reached platforms openings w
  shown : Shown w
  backs : ∀ c ∈ w.coordinators, Backs w c
  orderly : ∀ c ∈ w.coordinators, c.Orderly

section Steps

variable {platforms : Platforms} {openings : Openings} {w : World}

theorem Sound.callBank (h : Sound platforms openings w)
    (hsha : Function.Injective platforms.bank.sha256) (call : BankCall) :
    Sound platforms openings (w.callBank platforms call) where
  reached := h.reached.callBank call
  shown := h.shown.callBank hsha h.reached call
  backs c hc := (h.backs c hc).extends (h.reached.extends_callBank call)
  orderly := h.orderly

theorem Sound.callLedger (h : Sound platforms openings w)
    (hsha : Function.Injective platforms.ledger.sha256) (call : LedgerCall) :
    Sound platforms openings (w.callLedger platforms call) where
  reached := h.reached.callLedger call
  shown := h.shown.callLedger hsha h.reached call
  backs c hc := (h.backs c hc).extends (h.reached.extends_callLedger call)
  orderly := h.orderly

theorem Sound.withCoordinators (h : Sound platforms openings w) {coordinators : List Coordinator}
    (hnew : ∀ c ∈ coordinators, c ∈ w.coordinators ∨ Backs w c ∧ c.Orderly) :
    Sound platforms openings { w with coordinators := coordinators } where
  reached := ⟨h.reached.bank, h.reached.ledger⟩
  shown := ⟨h.shown.bankPrepared, h.shown.bankExecuted, h.shown.ledgerPrepared⟩
  backs c hc := by
    have hbacks : Backs w c := (hnew c hc).elim (h.backs c) And.left
    exact ⟨hbacks.transfer, hbacks.payment, hbacks.execution⟩
  orderly c hc := (hnew c hc).elim (h.orderly c) And.right

theorem Sound.add (h : Sound platforms openings w) {c : Coordinator} (hbacks : Backs w c)
    (horderly : c.Orderly) :
    Sound platforms openings { w with coordinators := w.coordinators ++ [c] } := by
  refine h.withCoordinators fun other hother ↦ ?_
  rcases List.mem_append.mp hother with hold | hnew
  · exact Or.inl hold
  · obtain rfl := List.mem_singleton.mp hnew
    exact Or.inr ⟨hbacks, horderly⟩

theorem Sound.set (h : Sound platforms openings w) (index : Nat) {c : Coordinator} (hbacks : Backs w c)
    (horderly : c.Orderly) :
    Sound platforms openings { w with coordinators := w.coordinators.set index c } := by
  refine h.withCoordinators fun other hother ↦ ?_
  rcases List.mem_or_eq_of_mem_set hother with hold | rfl
  · exact Or.inl hold
  · exact Or.inr ⟨hbacks, horderly⟩

theorem Coordinator.Orderly.resume {c : Coordinator} (h : c.Orderly) (hpending : c.pending.isSome) :
    { c with point := .resumption : Coordinator }.Orderly where
  preparing hpoint := by cases hpoint
  pending _ := Or.inr (Or.inl rfl)
  reconciled hstage := by
    rw [(h.reconciled hstage).1] at hpending
    cases hpending

theorem Coordinator.Orderly.reconcile {c : Coordinator} (h : c.Orderly) (hpoint : c.point = .settlement)
    (record : Dict) : (c.reconcile record).Orderly where
  preparing h := by cases h
  pending hpending := by
    have hwhere := h.pending hpending
    simp [hpoint] at hwhere
  reconciled _ := by
    refine ⟨Option.not_isSome_iff_eq_none.mp fun hpending ↦ ?_, rfl⟩
    have hwhere := h.pending hpending
    simp [hpoint] at hwhere

theorem Sound.next (h : Sound platforms openings w) (hbank : Function.Injective platforms.bank.sha256)
    (hledger : Function.Injective platforms.ledger.sha256) (event : Event) :
    Sound platforms openings (w.next platforms event) := by
  cases event with
  | bank call => exact h.callBank hbank call
  | ledger call => exact h.callLedger hledger call
  | start tenantId bankExecutionId =>
    exact h.add (backs_start _ _) (Coordinator.orderly_start _ _)
  | resume index =>
    simp only [World.next, World.resume]
    split
    · exact h
    next c hc =>
      have hmem := List.mem_of_getElem? hc
      split
      next hexited =>
        have hbacks := h.backs c hmem
        exact h.add ⟨hbacks.transfer, hbacks.payment, hbacks.execution⟩
          ((h.orderly c hmem).resume hexited.2)
      · exact h
  | deliver index reply =>
    simp only [World.next, World.deliver]
    split
    · exact h
    next c hc =>
      have hmem := List.mem_of_getElem? hc
      split
      · exact h
      next response hresponse =>
        exact h.set index ((h.backs c hmem).receive (h.orderly c hmem) h.shown hresponse)
          ((h.orderly c hmem).receive response)
  | settle index settledAt now draws refused =>
    simp only [World.next, World.settle]
    split
    · exact h
    next c hc =>
      have hmem := List.mem_of_getElem? hc
      have horderly := h.orderly c hmem
      split
      next hpoint =>
        have hstage : c.stage ≠ .reconciled := by
          intro hreconciled
          cases hpoint.symm.trans (horderly.reconciled hreconciled).2
        split
        · have hbacks := h.backs c hmem
          exact h.set index ⟨hbacks.transfer, hbacks.payment, hbacks.execution⟩
            (Coordinator.Orderly.raise hstage)
        next event hevent =>
          have hafter := h.callLedger hledger (World.settlementCall event now draws refused)
          have hbacks := hafter.backs c hmem
          split
          · exact hafter.set index ⟨hbacks.transfer, hbacks.payment, hbacks.execution⟩
              (horderly.reconcile hpoint _)
          · exact hafter.set index ⟨hbacks.transfer, hbacks.payment, hbacks.execution⟩
              (Coordinator.Orderly.raise hstage)
      · exact h

end Steps

theorem Openings.sound (platforms : Platforms) (openings : Openings) :
    Sound platforms openings openings.world where
  reached := ⟨⟨[], rfl⟩, ⟨[], rfl⟩⟩
  shown := ⟨by simp [Openings.world], by simp [Openings.world], by simp [Openings.world]⟩
  backs := by simp [Openings.world]
  orderly := by simp [Openings.world]

theorem sound_run (platforms : Platforms) (hbank : Function.Injective platforms.bank.sha256)
    (hledger : Function.Injective platforms.ledger.sha256) (openings : Openings)
    (events : List Event) : Sound platforms openings ((world platforms).run openings.world events) :=
  (world platforms).run_invariant (Sound platforms openings) (openings.sound platforms)
    (fun _ event hsound ↦ hsound.next hbank hledger event) events

abbrev WorldEntry := Entry World Event Unit

/-! ## Coordinators that reconcile -/

/-- The coordinator with a number reaches `RECONCILED` in a step. -/
structure Reconciles (e : WorldEntry) (index : Nat) (c : Coordinator) : Prop where
  after : e.after.coordinators[index]? = some c
  reconciled : c.stage = .reconciled
  before : ∀ old, e.before.coordinators[index]? = some old → old.stage ≠ .reconciled

section Steps

variable {platforms : Platforms} {w : World} {c : Coordinator}

namespace Coordinator

theorem await_stage {point : Point} (h : (c.await point).stage = .reconciled) :
    c.stage = .reconciled := by
  unfold Coordinator.await at h
  split at h <;> exact h

theorem handleLedgerResult_stage {response : Response}
    (h : (c.handleLedgerResult response).stage = .reconciled) : c.stage = .reconciled := by
  cases response with
  | blocked callId => cases h
  | failed => exact h
  | succeeded projection => exact await_stage (c := { c with ledgerExecution := some projection }) h

theorem handleBankResult_stage {response : Response}
    (h : (c.handleBankResult response).stage = .reconciled) : c.stage = .reconciled := by
  cases response with
  | blocked callId => cases h
  | _ => exact h

/-- No answer leads to `RECONCILED`. -/
theorem receive_stage {response : Response} (h : (c.receive response).stage = .reconciled) :
    c.stage = .reconciled := by
  unfold Coordinator.receive at h
  split at h
  · split at h
    next projection => exact await_stage (c := { c with bankPreparation := some projection }) h
    · exact h
  · split at h
    next projection => exact await_stage (c := { c with ledgerPreparation := some projection }) h
    · exact h
  · exact handleLedgerResult_stage h
  · exact handleBankResult_stage h
  · unfold Coordinator.handleResumption at h
    split at h
    · exact h
    · split at h
      · exact handleLedgerResult_stage (c := { c with pending := none }) h
      · exact handleBankResult_stage (c := { c with pending := none }) h
      · exact h
  · exact h

end Coordinator

theorem getElem?_append_singleton {coordinators : List Coordinator} {new : Coordinator} {index : Nat}
    (h : (coordinators ++ [new])[index]? = some c) : coordinators[index]? = some c ∨ c = new := by
  rw [List.getElem?_append] at h
  split at h
  · exact Or.inl h
  · exact Or.inr (List.mem_singleton.mp (List.mem_of_getElem? h))

theorem getElem?_set_some {coordinators : List Coordinator} {new : Coordinator} {index other : Nat}
    (h : (coordinators.set index new)[other]? = some c) :
    coordinators[other]? = some c ∨ index = other ∧ c = new := by
  rw [List.getElem?_set] at h
  split at h
  next hindex =>
    split at h
    · exact Or.inr ⟨hindex, (Option.some.inj h).symm⟩
    · cases h
  · exact Or.inl h

/-- Only an accepted settlement event leads to `RECONCILED`. -/
theorem settle_of_reconciles (horderly : ∀ c ∈ w.coordinators, c.Orderly) {event : Event} {index : Nat}
    (h : Reconciles ((world platforms).entry w event) index c) :
    ∃ settledAt now draws refused old settlement answer,
      event = .settle index settledAt now draws refused ∧
      w.coordinators[index]? = some old ∧ old.point = .settlement ∧
      old.settlementEvent settledAt = some settlement ∧
      ((Ledger.ledger platforms.ledger).step w.ledger
        (World.settlementCall settlement now draws refused)).1 = .ok answer ∧
      (w.next platforms event).ledger = ((Ledger.ledger platforms.ledger).step w.ledger
        (World.settlementCall settlement now draws refused)).2 ∧
      (w.next platforms event).bank = w.bank ∧
      c = old.reconcile (answer.dump platforms.ledger) := by
  have hchanged : w.coordinators[index]? ≠ some c := fun hold ↦ h.before c hold h.reconciled
  have hafter : (w.next platforms event).coordinators[index]? = some c := h.after
  have hreconciled := h.reconciled
  cases event with
  | bank call => exact absurd hafter hchanged
  | ledger call => exact absurd hafter hchanged
  | start tenantId bankExecutionId =>
    rcases getElem?_append_singleton hafter with hold | rfl
    · exact absurd hold hchanged
    · cases hreconciled
  | resume other =>
    simp only [World.next, World.resume] at hafter
    split at hafter
    · exact absurd hafter hchanged
    next old hold =>
      split at hafter
      next hexited =>
        rcases getElem?_append_singleton hafter with hkept | rfl
        · exact absurd hkept hchanged
        · have hpending := ((horderly old (List.mem_of_getElem? hold)).reconciled hreconciled).1
          simp [hpending] at hexited
      · exact absurd hafter hchanged
  | deliver other reply =>
    simp only [World.next, World.deliver] at hafter
    split at hafter
    · exact absurd hafter hchanged
    next old hold =>
      split at hafter
      · exact absurd hafter hchanged
      next response hresponse =>
        rcases getElem?_set_some hafter with hkept | ⟨rfl, rfl⟩
        · exact absurd hkept hchanged
        · exact absurd (Coordinator.receive_stage hreconciled) (h.before old hold)
  | settle other settledAt now draws refused =>
    simp only [World.next, World.settle] at hafter ⊢
    split at hafter
    · exact absurd hafter hchanged
    next old hold =>
      split at hafter
      next hpoint =>
        split at hafter
        · rcases getElem?_set_some hafter with hkept | ⟨rfl, rfl⟩
          · exact absurd hkept hchanged
          · exact absurd hreconciled (h.before old hold)
        next settlement hsettlement =>
          split at hafter
          next answer hok =>
            rcases getElem?_set_some hafter with hkept | ⟨rfl, rfl⟩
            · exact absurd hkept hchanged
            · refine ⟨settledAt, now, draws, refused, old, settlement, answer, rfl, hold, hpoint,
                hsettlement, hok, ?_, ?_, rfl⟩
              · simp only [hpoint, hok, if_true, World.callLedger]
              · simp only [hpoint, hok, if_true, World.callLedger]
          · rcases getElem?_set_some hafter with hkept | ⟨rfl, rfl⟩
            · exact absurd hkept hchanged
            · exact absurd hreconciled (h.before old hold)
      · exact absurd hafter hchanged

end Steps

/-! ## Agreement -/

/-- The bank holds one execution with the execution id of the payment; it is settled with the terms of
the payment, and its debit is that of no other payment. -/
structure AgreesOn (w : World) (payment : PaymentInstruction) (execution : TransferExecution)
    (prepared : PreparedTransfer) (debit : Transaction) : Prop where
  only : (w.bank.executions.filter fun row ↦ some row.executionId == payment.bankExecutionId) =
    [execution]
  transfer : prepared ∈ w.bank.preparedTransfers
  settled : prepared.status = .settled
  action : prepared.proposedActionId = execution.proposedActionId
  tenant : execution.tenantId = payment.tenantId
  amount : execution.amount = payment.amount
  currency : execution.currency = payment.currency
  source : prepared.sourceAccountToken = payment.sourceAccountToken
  beneficiary : prepared.beneficiaryToken = payment.beneficiaryToken
  posted : debit ∈ w.bank.transactions
  debited : debit.direction = .debit ∧ debit.accountToken = payment.sourceAccountToken ∧
    debit.amount = payment.amount
  debitReference : debit.reference = execution.bankReference
  reference : payment.bankReference = some execution.bankReference
  others : ∀ other ∈ w.ledger.payments,
    other.bankExecutionId = payment.bankExecutionId ∨ other.bankReference = payment.bankReference →
      other = payment

/-- The payment of a coordinator is settled, and the bank agrees on it. -/
def Agreed (w : World) (c : Coordinator) : Prop :=
  ∃ payment ∈ w.ledger.payments, c.ledgerPreparation.bind paymentIdOf = some payment.paymentId ∧
    payment.status = .settled ∧ ∃ execution prepared debit, AgreesOn w payment execution prepared debit

/-- The bank has executed the transfer of a coordinator under its execution id only, and under that id
nothing of another tenant. -/
structure OwnExecution (w : World) (c : Coordinator) : Prop where
  action : ∀ execution ∈ w.bank.executions,
    (c.bankPreparation.bind fun answer ↦ text answer "proposed_action_id") =
      some execution.proposedActionId → execution.executionId = c.bankExecutionId
  tenant : ∀ execution ∈ w.bank.executions, execution.executionId = c.bankExecutionId →
    execution.tenantId = c.tenantId

/-- A step that posts the settlement event of a coordinator finds its own execution at the bank. -/
def SettlesOwn (e : WorldEntry) : Prop :=
  ∀ index settledAt now draws refused c, e.input = .settle index settledAt now draws refused →
    e.before.coordinators[index]? = some c → c.point = .settlement → OwnExecution e.before c

section Agreement

variable {platforms : Platforms} {openings : Openings} {w : World} {c : Coordinator}

/-- What the event of a coordinator says. -/
theorem settlementEvent_eq_some {settledAt : Time} {settlement : Settlement}
    (h : c.settlementEvent settledAt = some settlement) :
    ∃ bank ledger, c.bankExecution = some bank ∧ c.ledgerPreparation = some ledger ∧
      paymentIdOf ledger = some settlement.paymentId ∧
      text bank "bank_reference" = some settlement.bankReference ∧
      settlement.bankExecutionId = c.bankExecutionId := by
  simp only [Coordinator.settlementEvent, Option.bind_eq_bind, Option.bind_eq_some_iff] at h
  obtain ⟨bank, hbank, ledger, hledger, payment, hpayment, paymentId, hpaymentId, reference, hreference,
    amount, -, currency, -, hsettlement⟩ := h
  obtain rfl := Option.some.inj hsettlement
  refine ⟨bank, ledger, hbank, hledger, ?_, hreference, rfl⟩
  simp only [paymentIdOf, hpayment, Option.bind_eq_bind, Option.bind_some, hpaymentId]

/-- The execution that the bank has answered with is that of the transfer it has prepared. -/
theorem prepared_of_executedAs (hreached : Reached platforms openings w)
    (hsha : Function.Injective platforms.bank.sha256) {preparation answer : Dict}
    {execution : TransferExecution} {prepared : PreparedTransfer}
    (hexecution : execution ∈ w.bank.executions) (hprepared : prepared ∈ w.bank.preparedTransfers)
    (hexecuted : ExecutedAs c.tenantId preparation answer execution)
    (has : PreparedAs c.tenantId preparation prepared) :
    prepared.status = .settled ∧ prepared.proposedActionId = execution.proposedActionId ∧
      ∃ debit ∈ w.bank.transactions, Pays prepared execution debit := by
  obtain ⟨posted, hsettled⟩ := hreached.bankSettled
  obtain ⟨debit, hdebit, row, hrow, hstatus, haction, hdigest, hpays⟩ :=
    exists_settledAs hsettled.debits hexecution
  have hsame : row.canonicalActionHash = prepared.canonicalActionHash :=
    hdigest.trans (Option.some.inj (hexecuted.digest.symm.trans has.digest))
  rw [hsettled.digests row hrow, hsettled.digests prepared hprepared] at hsame
  obtain ⟨htenant, -, -, -, -, -, hkey⟩ := terms_of_actionText _ _ (hsha hsame)
  obtain rfl : row = prepared := by
    by_contra hne
    have hkeyed := hreached.bankRegular.keyed.preparedTransfers
    have hclash := hkeyed.unique row hrow prepared hprepared
      fun hid ↦ hne (Table.eq_of_key hkeyed.keys hrow hprepared hid)
    exact tenantClash_eq_false.mp hclash htenant hkey
  refine ⟨hstatus, haction, debit, ?_, hpays⟩
  rw [hsettled.transactions]
  exact List.mem_append_right _ (List.mem_of_mem_filter hdebit)

/-- The execution of a tenant is the only one under its id, when no other tenant uses the id. -/
theorem filter_executionId (hregular : Bank.Regular w.bank) {execution : TransferExecution}
    (hexecution : execution ∈ w.bank.executions)
    (htenant : ∀ row ∈ w.bank.executions, row.executionId = execution.executionId →
      row.tenantId = execution.tenantId) :
    (w.bank.executions.filter fun row ↦ some row.executionId == some execution.executionId) =
      [execution] := by
  have hkeyed := hregular.keyed.executions
  have hmem : execution ∈ w.bank.executions.filter fun row ↦
      some row.executionId == some execution.executionId := List.mem_filter.mpr ⟨hexecution, by simp⟩
  have hlength : (w.bank.executions.filter fun row ↦
      some row.executionId == some execution.executionId).length ≤ 1 := by
    refine Table.length_le_one (hkeyed.keys.sublist (List.filter_sublist.map _)) ?_
    intro first hfirst second hsecond
    simp only [List.mem_filter, beq_iff_eq, Option.some.injEq] at hfirst hsecond
    exact execution_unique hkeyed hfirst.1 hsecond.1
      ((htenant first hfirst.1 hfirst.2).trans (htenant second hsecond.1 hsecond.2).symm)
      (Or.inl (hfirst.2.trans hsecond.2.symm))
  obtain ⟨row, hrow⟩ := List.length_eq_one_iff.mp
    (Nat.le_antisymm hlength (List.length_pos_of_mem hmem))
  rw [hrow] at hmem ⊢
  rw [List.mem_singleton.mp hmem]

/-- A settlement event that is accepted leaves bank and ledger in agreement, when the coordinator finds
its own execution at the bank. -/
theorem agreed_of_settle (h : Sound platforms openings w)
    (hbank : Function.Injective platforms.bank.sha256)
    (hledger : Function.Injective platforms.ledger.sha256) {old : Coordinator}
    (hold : old ∈ w.coordinators) (hown : OwnExecution w old) {settledAt : Time}
    {settlement : Settlement} (hevent : old.settlementEvent settledAt = some settlement)
    {call : LedgerCall} (hrequest : call.request = .settlement settlement) {answer : LedgerAnswer}
    (hok : ((Ledger.ledger platforms.ledger).step w.ledger call).1 = .ok answer) {after : World}
    (hafterLedger : after.ledger = ((Ledger.ledger platforms.ledger).step w.ledger call).2)
    (hafterBank : after.bank = w.bank) (record : Dict) : Agreed after (old.reconcile record) := by
  obtain ⟨bank, ledger, hbankAnswer, hledgerAnswer, hpaymentId, hreference, hexecutionId⟩ :=
    settlementEvent_eq_some hevent
  have hbacks := h.backs old hold
  have hlater := h.reached.callLedger call
  obtain ⟨amount, payment, hpaid⟩ := paidBy_of_ok hledger h.reached.ledgerInboxed hrequest hok
  -- the payment of the event is the one that the checkpoint describes
  obtain ⟨row, hrow, has⟩ :=
    (hbacks.extends (h.reached.extends_callLedger call)).payment ledger hledgerAnswer
  obtain rfl : row = payment := hlater.ledgerRegular.payment_eq_of_id hpaid.stored hrow
    ((Option.some.inj (has.id.symm.trans hpaymentId)).trans hpaid.id.symm)
  -- the execution of the answer is the one that the event names
  obtain ⟨preparation, hpreparation, execution, hexecution, hexecuted⟩ :=
    hbacks.execution bank hbankAnswer
  obtain ⟨prepared, hprepared, hpreparedAs⟩ := hbacks.transfer preparation hpreparation
  obtain ⟨hsettled, haction, debit, hdebit, hpays⟩ :=
    prepared_of_executedAs h.reached hbank hexecution hprepared hexecuted hpreparedAs
  have hsame : execution.executionId = old.bankExecutionId :=
    hown.action execution hexecution (by rw [hpreparation, ← haction]; exact hpreparedAs.action)
  have hpaidExecution : row.bankExecutionId = some execution.executionId := by
    rw [hpaid.execution, hexecutionId, hsame]
  have hpaidReference : row.bankReference = some execution.bankReference := by
    rw [hpaid.reference, ← hreference, hexecuted.reference]
  refine ⟨row, hafterLedger ▸ hpaid.stored, ?_, hpaid.settled, execution, prepared, debit, ?_⟩
  · simp only [Coordinator.reconcile, hledgerAnswer, Option.bind_some, has.id]
  · exact
      { only := by
          rw [hafterBank, hpaidExecution]
          refine filter_executionId h.reached.bankRegular hexecution fun other hother hid ↦ ?_
          exact (hown.tenant other hother (hid.trans hsame)).trans hexecuted.tenant.symm
        transfer := hafterBank ▸ hprepared
        settled := hsettled
        action := haction
        tenant := hexecuted.tenant.trans has.tenant.symm
        amount := hpays.amount.trans (hpreparedAs.amount.trans has.amount.symm)
        currency := hpays.currency.trans (hpreparedAs.currency.trans has.currency.symm)
        source := hpreparedAs.source.trans has.source.symm
        beneficiary := hpreparedAs.beneficiary.trans has.beneficiary.symm
        posted := hafterBank ▸ hdebit
        debited := ⟨hpays.debit, hpays.source.trans (hpreparedAs.source.trans has.source.symm),
          hpays.debited.trans (hpreparedAs.amount.trans has.amount.symm)⟩
        debitReference := hpays.reference
        reference := hpaidReference
        others := by
          rw [hafterLedger]
          rintro other hother (hid | hid)
          · exact hlater.ledgerRegular.payment_eq_of_bank hother hpaid.stored
              (Or.inl ⟨by simp [hid, hpaidExecution], hid⟩)
          · exact hlater.ledgerRegular.payment_eq_of_bank hother hpaid.stored
              (Or.inr ⟨by simp [hid, hpaidReference], hid⟩) }

end Agreement

/-- In a run in which every coordinator that posts its settlement event finds its own execution at the
bank, bank and ledger agree whenever a coordinator reconciles. -/
theorem agreed_of_settlesOwn (platforms : Platforms)
    (hbank : Function.Injective platforms.bank.sha256)
    (hledger : Function.Injective platforms.ledger.sha256) (openings : Openings) (events : List Event)
    (h : ∀ e ∈ (world platforms).log openings.world events, SettlesOwn e) :
    ∀ e ∈ (world platforms).log openings.world events, ∀ index c, Reconciles e index c →
      Agreed e.after c := by
  intro e he index c hreconciles
  have hown := h e he
  obtain ⟨earlier, event, later, -, rfl⟩ := ((world platforms).mem_log_iff _ _ _).mp he
  have hsound := sound_run platforms hbank hledger openings earlier
  obtain ⟨settledAt, now, draws, refused, old, settlement, answer, rfl, hold, hpoint, hevent, hok,
    hafterLedger, hafterBank, rfl⟩ := settle_of_reconciles hsound.orderly hreconciles
  exact agreed_of_settle hsound hbank hledger (List.mem_of_getElem? hold)
    (hown index settledAt now draws refused old rfl hold hpoint) hevent rfl hok hafterLedger hafterBank _

/-! ## A case that is financed -/

/-- The digests of what is prepared and settled in the financing case. -/
def caseDigests : List (String × String) :=
  [("\x7b\"amount\":\"125000.00\",\"beneficiary_token\":\"ben_demo_verified\"," ++
      "\"client_idempotency_key\":\"e2e-bank-case-demo-001\",\"currency\":\"INR\"," ++
      "\"purpose\":\"synthetic financing disbursement\",\"rail\":\"DEMO_BANK_RAIL\"," ++
      "\"source_account_token\":\"acct_demo_operating\",\"tenant_id\":\"tenant-1\"," ++
      "\"user_id\":\"user-1\"\x7d",
      "e4a17530d6545bc6910caac01db71d2ad744903739d81bb5e114f8803b9ce712"),
    ("\x7b\"amount\":\"125000.00\",\"beneficiary_token\":\"ben_demo_verified\"," ++
      "\"client_idempotency_key\":\"e2e-ledger-case-demo-001\",\"currency\":\"INR\"," ++
      "\"financing_case_id\":\"case_demo_e2e_001\"," ++
      "\"purpose\":\"synthetic financing disbursement\",\"rail\":\"DEMO_BANK_RAIL\"," ++
      "\"source_account_token\":\"acct_demo_operating\",\"tenant_id\":\"tenant-1\"\x7d",
      "42ecac084b651766644087e9067f8973dff6f434fee459934f575490a93b47af"),
    ("\x7b\"amount\":\"125000.00\",\"bank_execution_id\":\"exec-1\"," ++
      "\"bank_reference\":\"XY00000002\",\"currency\":\"INR\",\"payment_id\":\"pay_11\"," ++
      "\"settled_at\":\"0\"\x7d",
      "03898a4981badf67a45061c46b3fa5a771130e9d9ca49712e53763b70f4e13ac")]

theorem caseDigests_injective : Function.Injective (tableDigest caseDigests) :=
  tableDigest_injective (by decide +kernel) (by decide +kernel)

def casePlatforms : Platforms where
  bank := { sampleBank with sha256 := tableDigest caseDigests }
  ledger := { sampleLedger with sha256 := tableDigest caseDigests }

def caseOpenings : Openings where
  bank :=
    { accounts :=
        [{ accountToken := sourceAccountToken, tenantId := "tenant-1", userId := "user-1"
           displayName := "Operating", maskedNumber := "XX01", accountType := "CURRENT"
           currency := "INR", currentBalance := 50000000, availableBalance := 50000000
           perTransferLimit := 20000000, dailyLimit := 30000000 }]
      transactions := []
      beneficiaries :=
        [{ beneficiaryToken := beneficiaryToken, tenantId := "tenant-1", ownerName := "Supplier"
           maskedAccount := "XX77", bankName := "Supplier Bank", currency := "INR" }]
      consents := []
      accountTokens := by simp
      transactionKeys := Constraints.meets_nil _
      beneficiaryKeys := ⟨by simp, by simp⟩
      consentKeys := Constraints.meets_nil _
      covered := by simp }
  ledger := Ledger.sampleOpening

/-- A call of the bank for the case. -/
def caseBankCall (label tool : String) (op : BankOp) : BankCall :=
  { Bank.sampleCall label tool op with
    scope :=
      { (Bank.sampleCall label tool op).scope with purpose := "synthetic financing disbursement" } }

/-- A call of the ledger for the case. -/
def caseLedgerCall (label : String) (op : LedgerOp) : LedgerCall :=
  Ledger.sampleCall label
    (.scoped { Ledger.sampleScope label with purpose := "synthetic financing disbursement" } op)

/-- The transfer of the case is executed. -/
def caseExecution (label executionId : String) : Event :=
  .bank (caseBankCall label "bank.transfers.execute" (.executeTransfer "act_1"
    "e4a17530d6545bc6910caac01db71d2ad744903739d81bb5e114f8803b9ce712" executionId))

/-- A coordinator has the transfer and the disbursement prepared. -/
def casePreparation : List Event :=
  [.start "tenant-1" "exec-1",
    .bank (caseBankCall "1" "bank.transfers.prepare" bankPreparationCall),
    .deliver 0 (.answered 0),
    .ledger (caseLedgerCall "1" ledgerPreparationCall),
    .deliver 0 (.answered 0),
    .ledger (caseLedgerCall "2" (.executeDisbursement "jrnl_10"
      "42ecac084b651766644087e9067f8973dff6f434fee459934f575490a93b47af" "act_1"
      "e4a17530d6545bc6910caac01db71d2ad744903739d81bb5e114f8803b9ce712" "exec-1")),
    .deliver 0 (.answered 1)]

/-- The coordinator posts its settlement event. -/
def caseSettlement : Event :=
  .settle 0 0 0 { token := fun k ↦ "3" ++ toString k, rowId := fun k ↦ "3-" ++ toString k } false

/-- The coordinator has the transfer executed under its own execution id. -/
def ownRun : List Event := casePreparation ++ [caseExecution "00000002" "exec-1", .deliver 0 (.answered 1)]

/-- Another agent executes the prepared transfer first, and the bank answers the coordinator with that
execution. -/
def foreignRun : List Event :=
  casePreparation ++
    [caseExecution "00000002" "exec-2", caseExecution "00000003" "exec-1", .deliver 0 (.answered 2)]

/-- The step in which a coordinator settles at the end of a run. -/
def lastEntry (events : List Event) : WorldEntry :=
  (world casePlatforms).entry ((world casePlatforms).run caseOpenings.world events) caseSettlement

theorem lastEntry_mem (events : List Event) :
    lastEntry events ∈ (world casePlatforms).log caseOpenings.world (events ++ [caseSettlement]) := by
  rw [Machine.log_snoc]
  exact List.mem_append_right _ List.mem_cons_self

/-- A coordinator reconciles in the last step when it stood before its settlement. -/
theorem reconciles_lastEntry {events : List Event}
    (hbefore : (lastEntry events).before.coordinators[0]?.map Coordinator.stage = some .preparing)
    (hafter : (lastEntry events).after.coordinators[0]?.map Coordinator.stage = some .reconciled) :
    ∃ c, Reconciles (lastEntry events) 0 c := by
  obtain ⟨c, hc, hstage⟩ := Option.map_eq_some_iff.mp hafter
  refine ⟨c, hc, hstage, fun old hold ↦ ?_⟩
  rw [hold] at hbefore
  have hpreparing : old.stage = .preparing := Option.some.inj hbefore
  simp [hpreparing]

theorem ownRun_settles :
    (lastEntry ownRun).before.coordinators[0]?.map Coordinator.stage = some .preparing ∧
      (lastEntry ownRun).after.coordinators[0]?.map Coordinator.stage = some .reconciled ∧
      (lastEntry ownRun).before.coordinators[0]?.map (fun c ↦ (c.tenantId, c.bankExecutionId)) =
        some ("tenant-1", "exec-1") ∧
      ∀ execution ∈ (lastEntry ownRun).before.bank.executions,
        execution.tenantId = "tenant-1" ∧ execution.executionId = "exec-1" := by
  decide +kernel

theorem foreignRun_settles :
    (lastEntry foreignRun).before.coordinators[0]?.map Coordinator.stage = some .preparing ∧
      (lastEntry foreignRun).after.coordinators[0]?.map Coordinator.stage = some .reconciled ∧
      (∀ payment ∈ (lastEntry foreignRun).after.ledger.payments,
        payment.bankExecutionId = some "exec-1") ∧
      ∀ execution ∈ (lastEntry foreignRun).after.bank.executions, execution.executionId = "exec-2" := by
  decide +kernel

/-- The coordinator reconciles in its own run, and bank and ledger agree. -/
theorem ownRun_agreed :
    ∃ c, Reconciles (lastEntry ownRun) 0 c ∧ Agreed (lastEntry ownRun).after c := by
  obtain ⟨hbefore, hafter, hkept, hexecutions⟩ := ownRun_settles
  obtain ⟨c, hreconciles⟩ := reconciles_lastEntry hbefore hafter
  refine ⟨c, hreconciles, agreed_of_settlesOwn casePlatforms caseDigests_injective caseDigests_injective
    caseOpenings (ownRun ++ [caseSettlement]) ?_ _ (lastEntry_mem ownRun) 0 c hreconciles⟩
  intro e he index settledAt now draws refused old hinput hold hpoint
  rw [Machine.log_snoc] at he
  rcases List.mem_append.mp he with hearlier | hlast
  · have hmem := Machine.input_mem _ hearlier
    rw [hinput] at hmem
    simp [ownRun, casePreparation, caseExecution] at hmem
  · obtain rfl : e = lastEntry ownRun := List.mem_singleton.mp hlast
    obtain ⟨rfl, -⟩ := Event.settle.inj hinput
    rw [hold] at hkept
    obtain ⟨htenant, hid⟩ := Prod.mk.inj (Option.some.inj hkept)
    exact ⟨fun execution hexecution _ ↦ (hexecutions execution hexecution).2.trans hid.symm,
      fun execution hexecution _ ↦ (hexecutions execution hexecution).1.trans htenant.symm⟩

/-- The coordinator reconciles although the bank holds no execution with its execution id. -/
theorem reconciled_without_execution :
    ¬∀ e ∈ (world casePlatforms).log caseOpenings.world (foreignRun ++ [caseSettlement]),
      ∀ index c, Reconciles e index c → Agreed e.after c := by
  intro hagreed
  obtain ⟨hbefore, hafter, hpayments, hexecutions⟩ := foreignRun_settles
  obtain ⟨c, hreconciles⟩ := reconciles_lastEntry hbefore hafter
  obtain ⟨payment, hpayment, -, -, execution, prepared, debit, hagrees⟩ :=
    hagreed _ (lastEntry_mem foreignRun) 0 c hreconciles
  have honly : execution ∈ (lastEntry foreignRun).after.bank.executions.filter
      fun row ↦ some row.executionId == payment.bankExecutionId := by
    rw [hagrees.only]
    exact List.mem_cons_self
  obtain ⟨hmem, hid⟩ := List.mem_filter.mp honly
  rw [hpayments payment hpayment, hexecutions execution hmem] at hid
  simp at hid

end Xyena.Financing
