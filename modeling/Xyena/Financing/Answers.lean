import Xyena.Financing.World

/-!
# What the answers of a coordinator describe

The answers in a checkpoint describe a prepared transfer and an execution of
the bank and a payment of the ledger. The rows stay, so the answers stay backed
whatever others do, and whenever the coordinator is resumed.
-/

namespace Xyena.Financing

open Xyena.Foundation Xyena.Contracts Xyena.Bank Xyena.Ledger

/-! ## What the answers of a coordinator describe -/

/-- The prepared transfer that an answer of the bank describes. -/
structure PreparedAs (tenantId : String) (answer : Dict) (prepared : PreparedTransfer) : Prop where
  tenant : prepared.tenantId = tenantId
  source : prepared.sourceAccountToken = sourceAccountToken
  beneficiary : prepared.beneficiaryToken = beneficiaryToken
  amount : prepared.amount = financedAmount
  currency : prepared.currency = "INR"
  action : text answer "proposed_action_id" = some prepared.proposedActionId
  digest : text answer "canonical_action_hash" = some prepared.canonicalActionHash

theorem PreparedAs.of_terms {tenantId : String} {answer : Dict} {prepared row : PreparedTransfer}
    (h : PreparedAs tenantId answer prepared) (hterms : row.terms = prepared.terms) :
    PreparedAs tenantId answer row := by
  have hterm {Column : Type} (column : PreparedTransfer → Column)
      (hkept : ∀ transfer, column transfer.terms = column transfer) : column row = column prepared := by
    rw [← hkept row, hterms, hkept prepared]
  exact
    { tenant := (hterm (·.tenantId) fun _ ↦ rfl).trans h.tenant
      source := (hterm (·.sourceAccountToken) fun _ ↦ rfl).trans h.source
      beneficiary := (hterm (·.beneficiaryToken) fun _ ↦ rfl).trans h.beneficiary
      amount := (hterm (·.amount) fun _ ↦ rfl).trans h.amount
      currency := (hterm (·.currency) fun _ ↦ rfl).trans h.currency
      action := h.action.trans (congrArg some (hterm (·.proposedActionId) fun _ ↦ rfl).symm)
      digest := h.digest.trans (congrArg some (hterm (·.canonicalActionHash) fun _ ↦ rfl).symm) }

/-- The identifier of the payment in an answer of the ledger. -/
def paymentIdOf (answer : Dict) : Option String := do
  let payment ← nested answer "payment"
  text payment "payment_id"

/-- The payment that an answer of the ledger describes. -/
structure InstructedAs (tenantId : String) (answer : Dict) (payment : PaymentInstruction) : Prop where
  tenant : payment.tenantId = tenantId
  source : payment.sourceAccountToken = sourceAccountToken
  beneficiary : payment.beneficiaryToken = beneficiaryToken
  amount : payment.amount = financedAmount
  currency : payment.currency = "INR"
  id : paymentIdOf answer = some payment.paymentId

theorem InstructedAs.of_terms {tenantId : String} {answer : Dict} {payment row : PaymentInstruction}
    (h : InstructedAs tenantId answer payment) (hterms : row.terms = payment.terms) :
    InstructedAs tenantId answer row := by
  have hterm {Column : Type} (column : PaymentInstruction → Column)
      (hkept : ∀ payment, column payment.terms = column payment) : column row = column payment := by
    rw [← hkept row, hterms, hkept payment]
  exact
    { tenant := (hterm (·.tenantId) fun _ ↦ rfl).trans h.tenant
      source := (hterm (·.sourceAccountToken) fun _ ↦ rfl).trans h.source
      beneficiary := (hterm (·.beneficiaryToken) fun _ ↦ rfl).trans h.beneficiary
      amount := (hterm (·.amount) fun _ ↦ rfl).trans h.amount
      currency := (hterm (·.currency) fun _ ↦ rfl).trans h.currency
      id := h.id.trans (congrArg some (hterm (·.paymentId) fun _ ↦ rfl).symm) }

/-- The execution that an answer of the bank describes, of a transfer with the digest that was
prepared. -/
structure ExecutedAs (tenantId : String) (preparation answer : Dict) (execution : TransferExecution) :
    Prop where
  tenant : execution.tenantId = tenantId
  digest : text preparation "canonical_action_hash" = some execution.canonicalActionHash
  reference : text answer "bank_reference" = some execution.bankReference

/-- All that a coordinator was answered is backed by stored rows. -/
structure Backs (w : World) (c : Coordinator) : Prop where
  transfer : ∀ answer, c.bankPreparation = some answer →
    ∃ prepared ∈ w.bank.preparedTransfers, PreparedAs c.tenantId answer prepared
  payment : ∀ answer, c.ledgerPreparation = some answer →
    ∃ payment ∈ w.ledger.payments, InstructedAs c.tenantId answer payment
  execution : ∀ answer, c.bankExecution = some answer → ∃ preparation,
    c.bankPreparation = some preparation ∧ ∃ execution ∈ w.bank.executions,
      ExecutedAs c.tenantId preparation answer execution

/-- A coordinator that waits for an approval has exited until it is resumed, and one that has reconciled
has exited for good. -/
structure Coordinator.Orderly (c : Coordinator) : Prop where
  preparing : c.point = .bankPreparation → c.bankExecution = none
  pending : c.pending.isSome → c.point = .exited ∨ c.point = .resumption ∨ c.point = .raised
  reconciled : c.stage = .reconciled → c.pending = none ∧ c.point = .exited

section Answers

variable {platforms : Platforms} {w later : World} {c : Coordinator}

theorem Backs.extends (h : Backs w c) (hextends : w.Extends later) : Backs later c where
  transfer answer hanswer := by
    obtain ⟨prepared, hprepared, has⟩ := h.transfer answer hanswer
    obtain ⟨row, hrow, hterms⟩ := hextends.transfers _ ⟨prepared, hprepared, rfl⟩
    exact ⟨row, hrow, has.of_terms hterms⟩
  payment answer hanswer := by
    obtain ⟨payment, hpayment, has⟩ := h.payment answer hanswer
    obtain ⟨row, hrow, hterms⟩ := hextends.payments _ ⟨payment, hpayment, rfl⟩
    exact ⟨row, hrow, has.of_terms hterms⟩
  execution answer hanswer := by
    obtain ⟨preparation, hpreparation, execution, hexecution, has⟩ := h.execution answer hanswer
    exact ⟨preparation, hpreparation, execution, hextends.executions _ hexecution, has⟩

theorem backs_start (tenantId bankExecutionId : String) :
    Backs w (.start tenantId bankExecutionId) where
  transfer _ h := by cases h
  payment _ h := by cases h
  execution _ h := by cases h

theorem projection_bank {op : BankOp} {tenantId : String} {index : Nat} {answer : Dict}
    (h : w.projection platforms tenantId index (.bank op) = some answer) :
    ∃ call given, (call, given) ∈ w.bankAnswers ∧ call.op = op ∧ call.scope.tenantId = tenantId ∧
      answer = given.dump platforms.bank := by
  simp only [World.projection] at h
  split at h
  next call given hgiven =>
    split at h
    next hsame =>
      exact ⟨call, given, List.mem_of_getElem? hgiven, hsame.1, hsame.2, (Option.some.inj h).symm⟩
    · cases h
  · cases h

theorem projection_ledger {op : LedgerOp} {tenantId : String} {index : Nat} {answer : Dict}
    (h : w.projection platforms tenantId index (.ledger op) = some answer) :
    ∃ call given scope, (call, given) ∈ w.ledgerAnswers ∧ call.request = .scoped scope op ∧
      scope.tenantId = tenantId ∧ answer = given.dump platforms.ledger := by
  simp only [World.projection] at h
  split at h
  next scope op' now draws refused given hgiven =>
    split at h
    next hsame =>
      exact ⟨_, given, scope, List.mem_of_getElem? hgiven, by rw [hsame.1], hsame.2,
        (Option.some.inj h).symm⟩
    · cases h
  · cases h

theorem preparedAs_of_projection (hshown : Shown w) {tenantId : String} {index : Nat} {answer : Dict}
    (h : w.projection platforms tenantId index (.bank bankPreparationCall) = some answer) :
    ∃ prepared ∈ w.bank.preparedTransfers, PreparedAs tenantId answer prepared := by
  obtain ⟨call, given, hgiven, hop, htenant, rfl⟩ := projection_bank h
  obtain ⟨row, rfl, hrow, hsource, hbeneficiary, hamount, hcurrency, -, stored, hstored, hterms⟩ :=
    hshown.bankPrepared call given hgiven hop
  have has : PreparedAs tenantId ((BankAnswer.prepared row).dump platforms.bank) row :=
    ⟨hrow.trans htenant, hsource, hbeneficiary, hamount, hcurrency, rfl, rfl⟩
  exact ⟨stored, hstored, has.of_terms hterms⟩

theorem instructedAs_of_projection (hshown : Shown w) {tenantId : String} {index : Nat} {answer : Dict}
    (h : w.projection platforms tenantId index (.ledger ledgerPreparationCall) = some answer) :
    ∃ payment ∈ w.ledger.payments, InstructedAs tenantId answer payment := by
  obtain ⟨call, given, scope, hgiven, hrequest, htenant, rfl⟩ := projection_ledger h
  obtain ⟨journal, lines, payment, rfl, hpayment, hsource, hbeneficiary, hamount, hcurrency, stored,
    hstored, hterms⟩ := hshown.ledgerPrepared call given hgiven scope hrequest
  have has : InstructedAs tenantId
      ((LedgerAnswer.disbursement journal lines payment none).dump platforms.ledger) payment :=
    ⟨hpayment.trans htenant, hsource, hbeneficiary, hamount, hcurrency, rfl⟩
  exact ⟨stored, hstored, has.of_terms hterms⟩

/-- The call of the bank names what the bank has prepared. -/
theorem bankExecutionCall_eq_some {op : BankOp} (h : c.bankExecutionCall = some op) :
    ∃ preparation action actionHash, c.bankPreparation = some preparation ∧
      text preparation "canonical_action_hash" = some actionHash ∧
      op = .executeTransfer action actionHash c.bankExecutionId := by
  simp only [Coordinator.bankExecutionCall, Option.bind_eq_bind, Option.bind_eq_some_iff] at h
  obtain ⟨preparation, hpreparation, action, -, actionHash, hhash, hop⟩ := h
  exact ⟨preparation, action, actionHash, hpreparation, hhash, (Option.some.inj hop).symm⟩

theorem executedAs_of_projection (hshown : Shown w) {index : Nat} {answer : Dict} {op : BankOp}
    (hcall : c.bankExecutionCall = some op)
    (h : w.projection platforms c.tenantId index (.bank op) = some answer) :
    ∃ preparation, c.bankPreparation = some preparation ∧ ∃ execution ∈ w.bank.executions,
      ExecutedAs c.tenantId preparation answer execution := by
  obtain ⟨preparation, action, actionHash, hpreparation, hhash, rfl⟩ := bankExecutionCall_eq_some hcall
  obtain ⟨call, given, hgiven, hop, htenant, rfl⟩ := projection_bank h
  obtain ⟨execution, hexecution, hanswer, hexecutionTenant, hdigest, -⟩ :=
    hshown.bankExecuted call given hgiven action actionHash c.bankExecutionId hop
  have hreference : text (given.dump platforms.bank) "bank_reference" = some execution.bankReference := by
    rcases hanswer with rfl | ⟨journal, consumed, rfl⟩ <;> rfl
  exact ⟨preparation, hpreparation, execution, hexecution, hexecutionTenant.trans htenant,
    hhash.trans (congrArg some hdigest.symm), hreference⟩

/-! ## Answers that are received -/

theorem Backs.await (h : Backs w c) (point : Point) : Backs w (c.await point) := by
  unfold Coordinator.await
  split <;> exact ⟨h.transfer, h.payment, h.execution⟩

theorem Backs.handleLedgerResult (h : Backs w c) (response : Response) :
    Backs w (c.handleLedgerResult response) := by
  cases response with
  | succeeded projection =>
    apply Backs.await
    exact ⟨h.transfer, h.payment, h.execution⟩
  | _ => exact ⟨h.transfer, h.payment, h.execution⟩

theorem Backs.handleBankResult (h : Backs w c) {response : Response}
    (hexecuted : ∀ answer, response = .succeeded answer → ∃ preparation,
      c.bankPreparation = some preparation ∧ ∃ execution ∈ w.bank.executions,
        ExecutedAs c.tenantId preparation answer execution) : Backs w (c.handleBankResult response) := by
  cases response with
  | succeeded projection =>
    exact ⟨h.transfer, h.payment, fun answer hanswer ↦ hexecuted answer (by rw [Option.some.inj hanswer])⟩
  | _ => exact ⟨h.transfer, h.payment, h.execution⟩

/-- What succeeded is an answer of the outstanding call. -/
theorem answered_of_response {reply : Reply} {answer : Dict}
    (h : w.response platforms c reply = some (.succeeded answer)) :
    ∃ index call, c.outstanding = some call ∧
      w.projection platforms c.tenantId index call = some answer := by
  cases reply with
  | answered index =>
    simp only [World.response, Option.bind_eq_bind, Option.bind_eq_some_iff] at h
    obtain ⟨call, hcall, projection, hprojection, hanswer⟩ := h
    obtain rfl := Response.succeeded.inj (Option.some.inj hanswer)
    exact ⟨index, call, hcall, hprojection⟩
  | _ => cases h

/-- A call of the bank that is outstanding at an execution is answered with an execution. -/
theorem executedAs_of_outstanding (hshown : Shown w) {index : Nat} {answer : Dict} {call : ToolCall}
    (hcall : c.bankExecutionCall.map ToolCall.bank = some call)
    (h : w.projection platforms c.tenantId index call = some answer) :
    ∃ preparation, c.bankPreparation = some preparation ∧ ∃ execution ∈ w.bank.executions,
      ExecutedAs c.tenantId preparation answer execution := by
  obtain ⟨op, hop, rfl⟩ := Option.map_eq_some_iff.mp hcall
  exact executedAs_of_projection hshown hop h

/-- What a coordinator has been answered stays backed when it is given one more answer. -/
theorem Backs.receive (h : Backs w c) (horderly : c.Orderly) (hshown : Shown w) {reply : Reply}
    {response : Response} (hresponse : w.response platforms c reply = some response) :
    Backs w (c.receive response) := by
  have hkept : Backs w c.raise := ⟨h.transfer, h.payment, h.execution⟩
  unfold Coordinator.receive
  split
  next hpoint =>
    split
    next projection =>
      obtain ⟨index, call, hcall, hprojection⟩ := answered_of_response hresponse
      simp only [Coordinator.outstanding, hpoint] at hcall
      obtain rfl := Option.some.inj hcall
      apply Backs.await
      refine ⟨fun answer hanswer ↦ ?_, h.payment, fun answer hanswer ↦ ?_⟩
      · obtain rfl := Option.some.inj hanswer
        exact preparedAs_of_projection hshown hprojection
      · cases (horderly.preparing hpoint).symm.trans hanswer
    · exact hkept
  next hpoint =>
    split
    next projection =>
      obtain ⟨index, call, hcall, hprojection⟩ := answered_of_response hresponse
      simp only [Coordinator.outstanding, hpoint] at hcall
      obtain rfl := Option.some.inj hcall
      apply Backs.await
      refine ⟨h.transfer, fun answer hanswer ↦ ?_, h.execution⟩
      obtain rfl := Option.some.inj hanswer
      exact instructedAs_of_projection hshown hprojection
    · exact hkept
  · exact h.handleLedgerResult response
  next hpoint =>
    apply h.handleBankResult
    rintro answer rfl
    obtain ⟨index, call, hcall, hprojection⟩ := answered_of_response hresponse
    simp only [Coordinator.outstanding, hpoint] at hcall
    exact executedAs_of_outstanding hshown hcall hprojection
  next hpoint =>
    unfold Coordinator.handleResumption
    split
    · exact ⟨h.transfer, h.payment, h.execution⟩
    · split
      next callId hpending =>
        apply Backs.handleLedgerResult
        exact ⟨h.transfer, h.payment, h.execution⟩
      next callId hpending =>
        apply Backs.handleBankResult
        · exact ⟨h.transfer, h.payment, h.execution⟩
        · rintro answer rfl
          obtain ⟨index, call, hcall, hprojection⟩ := answered_of_response hresponse
          simp only [Coordinator.outstanding, hpoint, hpending] at hcall
          exact executedAs_of_outstanding hshown hcall hprojection
      · exact hkept
  · exact h

end Answers

/-! ## Where a coordinator stands -/

namespace Coordinator

variable {c : Coordinator}

theorem orderly_start (tenantId bankExecutionId : String) : (start tenantId bankExecutionId).Orderly where
  preparing _ := rfl
  pending h := by cases h
  reconciled h := by cases h

theorem Orderly.raise (hstage : c.stage ≠ .reconciled) : c.raise.Orderly where
  preparing h := by cases h
  pending _ := Or.inr (Or.inr rfl)
  reconciled h := absurd h hstage

theorem Orderly.await (hpending : c.pending = none) (hstage : c.stage ≠ .reconciled) {point : Point}
    (hpoint : point ≠ .bankPreparation) : (c.await point).Orderly := by
  unfold Coordinator.await
  split
  · exact
      { preparing := fun h ↦ absurd h hpoint
        pending := fun h ↦ absurd h (by simp [hpending])
        reconciled := fun h ↦ absurd h hstage }
  · exact Orderly.raise hstage

theorem Orderly.handleLedgerResult (hpending : c.pending = none) (hstage : c.stage ≠ .reconciled)
    (response : Response) : (c.handleLedgerResult response).Orderly := by
  cases response with
  | blocked callId =>
    exact
      { preparing := fun h ↦ by cases h
        pending := fun _ ↦ Or.inl rfl
        reconciled := fun h ↦ by cases h }
  | failed => exact Orderly.raise hstage
  | succeeded projection =>
    apply Orderly.await
    · exact hpending
    · exact hstage
    · decide

theorem Orderly.handleBankResult (hpending : c.pending = none) (hstage : c.stage ≠ .reconciled)
    (response : Response) : (c.handleBankResult response).Orderly := by
  cases response with
  | blocked callId =>
    exact
      { preparing := fun h ↦ by cases h
        pending := fun _ ↦ Or.inl rfl
        reconciled := fun h ↦ by cases h }
  | failed => exact Orderly.raise hstage
  | succeeded projection =>
    exact
      { preparing := fun h ↦ by cases h
        pending := fun h ↦ absurd h (by simp [Coordinator.handleBankResult, hpending])
        reconciled := fun h ↦ absurd h hstage }

theorem Orderly.receive (h : c.Orderly) (response : Response) : (c.receive response).Orderly := by
  have hstage (hpoint : c.point ≠ .exited) : c.stage ≠ .reconciled :=
    fun hreconciled ↦ hpoint (h.reconciled hreconciled).2
  have hpending (hexited : c.point ≠ .exited) (hresumed : c.point ≠ .resumption)
      (hraised : c.point ≠ .raised) : c.pending = none := by
    rw [← Option.not_isSome_iff_eq_none]
    intro hsome
    rcases h.pending hsome with hpoint | hpoint | hpoint
    · exact hexited hpoint
    · exact hresumed hpoint
    · exact hraised hpoint
  unfold Coordinator.receive
  split
  next hpoint =>
    have hstage := hstage (by simp [hpoint])
    split
    · apply Orderly.await
      · exact hpending (by simp [hpoint]) (by simp [hpoint]) (by simp [hpoint])
      · exact hstage
      · decide
    · exact Orderly.raise hstage
  next hpoint =>
    have hstage := hstage (by simp [hpoint])
    split
    · apply Orderly.await
      · exact hpending (by simp [hpoint]) (by simp [hpoint]) (by simp [hpoint])
      · exact hstage
      · decide
    · exact Orderly.raise hstage
  next hpoint =>
    exact Orderly.handleLedgerResult
      (hpending (by simp [hpoint]) (by simp [hpoint]) (by simp [hpoint])) (hstage (by simp [hpoint])) _
  next hpoint =>
    exact Orderly.handleBankResult
      (hpending (by simp [hpoint]) (by simp [hpoint]) (by simp [hpoint])) (hstage (by simp [hpoint])) _
  next hpoint =>
    have hstage := hstage (by simp [hpoint])
    unfold Coordinator.handleResumption
    split
    · exact
        { preparing := fun h ↦ by cases h
          pending := fun _ ↦ Or.inl rfl
          reconciled := fun h ↦ absurd h hstage }
    · split
      · exact Orderly.handleLedgerResult (c := { c with pending := none }) rfl hstage _
      · exact Orderly.handleBankResult (c := { c with pending := none }) rfl hstage _
      · exact Orderly.raise hstage
  · exact h

end Coordinator

end Xyena.Financing
