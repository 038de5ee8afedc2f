import Xyena.Bank.Transfers

/-!
# Reversals of one transfer

A reversal is bounded by the transfer it reverses when it is prepared, and
nothing looks at the other reversals of that transfer. Their sum is bounded when
every preparation asks for no more than what the earlier ones have left.
-/

namespace Xyena.Bank

open Xyena.Foundation Xyena.Contracts

/-- The amounts of all reversals that were prepared for an execution. -/
def requestedReversals (tenantId executionId : String) (rows : List PreparedReversal) : Int :=
  Table.sum (fun row ↦ if row.tenantId = tenantId ∧ row.transferExecutionId = executionId then row.amount
    else 0) rows

/-- The amounts of the settled reversals of an execution. -/
def settledReversals (tenantId executionId : String) (rows : List PreparedReversal) : Int :=
  Table.sum (fun row ↦ if row.tenantId = tenantId ∧ row.transferExecutionId = executionId ∧
    row.status = .settled then row.amount else 0) rows

/-- A prepared reversal asks for no more than the reversals before it have left of the transfer. -/
def AsksRemainder (db : BankDb) (call : BankCall) : Prop :=
  ∀ executionId amountText reason key amount execution,
    PreparesReversal db call executionId amountText reason key amount execution →
      requestedReversals call.scope.tenantId executionId db.reversals + amount ≤ execution.amount

/-- What has settled was requested. -/
theorem settledReversals_le {rows : List PreparedReversal} (hpositive : ∀ row ∈ rows, 0 < row.amount)
    (tenantId executionId : String) :
    settledReversals tenantId executionId rows ≤ requestedReversals tenantId executionId rows := by
  refine Table.sum_le_sum fun row hrow ↦ ?_
  have hamount := hpositive row hrow
  by_cases hsettled : row.status = .settled
  · simp [hsettled]
  · simp only [hsettled, and_false, if_false]
    split <;> omega

/-! ## Requested reversals along a run -/

/-- Every reversal belongs to an execution, and the requests for an execution do not exceed it. -/
structure Bounded (db : BankDb) : Prop where
  origin : ∀ row ∈ db.reversals, ∃ execution ∈ db.executions,
    execution.tenantId = row.tenantId ∧ execution.executionId = row.transferExecutionId
  bounded : ∀ execution ∈ db.executions,
    requestedReversals execution.tenantId execution.executionId db.reversals ≤ execution.amount

theorem requestedReversals_insert (tenantId executionId : String) (rows : List PreparedReversal)
    (value : PreparedReversal) :
    requestedReversals tenantId executionId (rows ++ [value]) =
      requestedReversals tenantId executionId rows +
        if value.tenantId = tenantId ∧ value.transferExecutionId = executionId then value.amount else 0 := by
  simp [requestedReversals]

/-- Settling a reversal changes none of its terms. -/
theorem requestedReversals_settle {rows : List PreparedReversal} {value : PreparedReversal}
    (hkeys : reversalConstraints.Meets rows) (hstored : value ∈ rows)
    (tenantId executionId approval callId reference : String) :
    requestedReversals tenantId executionId (RowWrite.applyAll reversalConstraints rows
        [.update (value.settle approval callId reference)]) =
      requestedReversals tenantId executionId rows := by
  simp only [requestedReversals, RowWrite.applyAll_cons, RowWrite.applyAll_nil, RowWrite.apply]
  have hkey : reversalConstraints.key (value.settle approval callId reference) =
    reversalConstraints.key value := rfl
  rw [Table.sum_replace _ hkeys.keys hstored hkey]
  exact Int.sub_add_cancel _ _

section Commit

variable {platform : BankPlatform} {db : BankDb} {call : BankCall} {answer : BankAnswer}
  {writes : Writes}

/-- A new execution has no reversals, since no execution had its id before. -/
theorem requestedReversals_unused (h : Bounded db) {tenantId executionId : String}
    (hunused : Unused db.executions TransferExecution.tenantId TransferExecution.executionId tenantId
      executionId) :
    requestedReversals tenantId executionId db.reversals = 0 := by
  refine (Table.sum_congr fun row hrow ↦ ?_).trans (Table.sum_zero _)
  rw [if_neg]
  rintro ⟨htenant, hexecution⟩
  obtain ⟨execution, hstored, hsameTenant, hsameId⟩ := h.origin row hrow
  exact hunused execution hstored (hsameTenant.trans htenant) (hsameId.trans hexecution)

theorem Bounded.apply (h : Bounded db) (hregular : Regular db) (hremainder : AsksRemainder db call)
    (hmove : Move platform db call answer writes) (haccepted : writes.Accepted db) :
    Bounded (writes.apply db) := by
  cases hmove with
  | quiet answer writes hquiet =>
    obtain ⟨_, _, _, heq⟩ := hquiet.apply db
    rw [heq]
    exact ⟨h.origin, h.bounded⟩
  | transferSettled executionId prepared account payee hs =>
    constructor
    · intro row hrow
      obtain ⟨execution, hexecution, hterms⟩ := h.origin row hrow
      exact ⟨execution, List.mem_append_left _ hexecution, hterms⟩
    · intro execution hexecution
      rcases List.mem_append.mp hexecution with hold | hnew
      · exact h.bounded execution hold
      · obtain rfl := List.mem_singleton.mp hnew
        have hnone := requestedReversals_unused h hs.unexecuted
        have hamount := hregular.transfers prepared hs.stored
        change requestedReversals call.scope.tenantId executionId db.reversals ≤ prepared.amount
        omega
  | reversalPrepared executionId amountText reason key amount execution audits hp =>
    have hleft := hremainder executionId amountText reason key amount execution hp
    obtain ⟨hfound, htenant, hid⟩ := findExecution_ok hp.found
    constructor
    · refine RowWrite.forall_written h.origin haccepted.reversals ?_
      exact ⟨execution, hfound, htenant, hid⟩
    · intro other hother
      refine (requestedReversals_insert _ _ _ _).trans_le ?_
      split
      next hsame =>
        have heq : other = execution := execution_unique hregular.keyed.executions hother hfound
          (hsame.1.symm.trans htenant.symm) (Or.inl (hsame.2.symm.trans hid.symm))
        rw [heq, htenant, hid]
        exact hleft
      · rw [Int.add_zero]
        exact h.bounded other hother
  | reversalSettled approval value execution prepared account hr =>
    constructor
    · exact RowWrite.forall_written h.origin haccepted.reversals (h.origin value hr.stored)
    · intro other hother
      refine (requestedReversals_settle hregular.keyed.reversals hr.stored _ _ _ _ _).trans_le ?_
      exact h.bounded other hother
  | _ => exact ⟨h.origin, h.bounded⟩

end Commit

/-- In every state of a run in which each prepared reversal asks for no more than what is left, the settled
reversals of an execution do not exceed it. -/
theorem reversals_within_transfer (platform : BankPlatform) (opening : Opening) (calls : List BankCall)
    (hremainder : ∀ e ∈ (bank platform).log opening.db calls, AsksRemainder e.before e.input) :
    ∀ execution ∈ ((bank platform).run opening.db calls).executions,
      settledReversals execution.tenantId execution.executionId
        ((bank platform).run opening.db calls).reversals ≤ execution.amount := by
  obtain ⟨hregular, hbounded⟩ := commit_invariant Bounded AsksRemainder opening.regular
    ⟨by simp [Opening.db], by simp [Opening.db]⟩
    (fun db call answer writes hregular h hremainder hmove haccepted ↦
      h.apply hregular hremainder hmove haccepted) calls hremainder
  intro execution hexecution
  calc settledReversals execution.tenantId execution.executionId
        ((bank platform).run opening.db calls).reversals
      ≤ requestedReversals execution.tenantId execution.executionId
        ((bank platform).run opening.db calls).reversals :=
        settledReversals_le hregular.reversals _ _
    _ ≤ execution.amount := hbounded.bounded execution hexecution

/-- Another reversal of 60.00, under another idempotency key. -/
def secondReversal : List BankCall :=
  [sampleCall "5" "bank.reversals.prepare" (.prepareReversal "exec-1" "60.00" "duplicate" "reversal-2"),
    sampleCall "6" "bank.reversals.execute" (.executeReversal "rev_5"
      "bcc2e37039dd040321afd4443547d2f0f9121d05103d60e5589e058b868d3cb3" "approval-2")]

/-- Both reversals of the small bank settle, and the first one is prepared when there is none. -/
theorem reversedTwice :
    (((bank sampleBank).log (sampleOpening 15000).db (firstTransfer ++ firstReversal ++ secondReversal)).all
      fun e ↦ match e.input.op with
        | .prepareReversal _ _ _ key => key != "reversal-1" || e.before.reversals.isEmpty
        | _ => true) = true ∧
    ((((bank sampleBank).run (sampleOpening 15000).db
      (firstTransfer ++ firstReversal ++ secondReversal)).executions.any fun execution ↦
        decide (execution.amount < settledReversals execution.tenantId execution.executionId
          ((bank sampleBank).run (sampleOpening 15000).db
            (firstTransfer ++ firstReversal ++ secondReversal)).reversals)) = true) := by
  decide +kernel

/-- One reversal of 60.00 stays within the first transfer. -/
theorem reversals_within_transfer_firstReversal :
    ∃ execution ∈ ((bank sampleBank).run (sampleOpening 15000).db
        (firstTransfer ++ firstReversal)).executions,
      settledReversals execution.tenantId execution.executionId
        ((bank sampleBank).run (sampleOpening 15000).db (firstTransfer ++ firstReversal)).reversals = 6000 ∧
      settledReversals execution.tenantId execution.executionId
        ((bank sampleBank).run (sampleOpening 15000).db (firstTransfer ++ firstReversal)).reversals ≤
          execution.amount := by
  have hsettled : (((bank sampleBank).run (sampleOpening 15000).db
      (firstTransfer ++ firstReversal)).executions.any fun execution ↦
        decide (settledReversals execution.tenantId execution.executionId
          ((bank sampleBank).run (sampleOpening 15000).db (firstTransfer ++ firstReversal)).reversals =
            6000)) = true := by
    decide +kernel
  obtain ⟨execution, hexecution, hreversed⟩ := List.any_eq_true.mp hsettled
  refine ⟨execution, hexecution, of_decide_eq_true hreversed, reversals_within_transfer sampleBank
    (sampleOpening 15000) (firstTransfer ++ firstReversal) ?_ execution hexecution⟩
  intro e he executionId amountText reason key amount execution hp
  have hinput := (bank sampleBank).input_mem he
  have hkey : key = "reversal-1" := by
    have hop := hp.op
    simp only [firstTransfer, firstReversal, List.cons_append, List.nil_append, List.mem_cons,
      List.not_mem_nil, or_false] at hinput
    rcases hinput with hinput | hinput | hinput | hinput <;> simp [hinput, sampleCall] at hop
    exact hop.2.2.2.symm
  have hchecked := List.all_eq_true.mp reversedTwice.1 e (by
    rw [Machine.log_append]
    exact List.mem_append_left _ he)
  simp only [hp.op, hkey, bne_self_eq_false, Bool.false_or, List.isEmpty_iff] at hchecked
  rw [hchecked]
  simpa [requestedReversals] using hp.bounded

/-- Two reversals of 60.00 settle for one transfer of 100.00. -/
theorem reversals_exceed_transfer :
    ∃ execution ∈ ((bank sampleBank).run (sampleOpening 15000).db
        (firstTransfer ++ firstReversal ++ secondReversal)).executions,
      execution.amount < settledReversals execution.tenantId execution.executionId
        ((bank sampleBank).run (sampleOpening 15000).db
          (firstTransfer ++ firstReversal ++ secondReversal)).reversals := by
  obtain ⟨execution, hexecution, hexceeded⟩ := List.any_eq_true.mp reversedTwice.2
  exact ⟨execution, hexecution, of_decide_eq_true hexceeded⟩

end Xyena.Bank
