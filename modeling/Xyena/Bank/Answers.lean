import Xyena.Bank.Transfers

/-!
# What answers about transfers say of the tables

A transfer that was prepared stays in the tables with its terms, and an
execution stays as it is. So the answer to a preparation or to a settlement,
whether fresh or repeated, describes rows that are found ever after.
-/

namespace Xyena.Bank

open Xyena.Foundation Xyena.Contracts
open Xyena.Foundation.Session (bind_ok)

/-! ## Rows that stay -/

section Commit

variable {platform : BankPlatform} {db : BankDb} {call : BankCall} {answer : BankAnswer}
  {writes : Writes}

theorem terms_apply (hregular : Regular db) (hmove : Move platform db call answer writes)
    {terms : PreparedTransfer} (h : ∃ row ∈ db.preparedTransfers, row.terms = terms) :
    ∃ row ∈ (writes.apply db).preparedTransfers, row.terms = terms := by
  have hkeys := hregular.keyed.preparedTransfers.keys
  cases hmove with
  | quiet answer writes hquiet =>
    obtain ⟨_, _, _, heq⟩ := hquiet.apply db
    rw [heq]
    exact h
  | transferPrepared =>
    obtain ⟨row, hrow, hterms⟩ := h
    exact ⟨row, List.mem_append_left _ hrow, hterms⟩
  | transferSettled executionId prepared account payee hs =>
    exact Table.exists_replace { prepared with status := .settled } hkeys hs.stored rfl
      id h
  | transferExpired value hstored hready =>
    exact Table.exists_replace { value with status := .expired } hkeys hstored rfl id h
  | _ => exact h

theorem executions_apply (hmove : Move platform db call answer writes)
    {execution : TransferExecution} (h : execution ∈ db.executions) :
    execution ∈ (writes.apply db).executions := by
  cases hmove with
  | quiet answer writes hquiet =>
    obtain ⟨_, _, _, heq⟩ := hquiet.apply db
    rw [heq]
    exact h
  | transferSettled => exact List.mem_append_left _ h
  | _ => exact h

theorem terms_step (hregular : Regular db) {terms : PreparedTransfer}
    (h : ∃ row ∈ db.preparedTransfers, row.terms = terms) :
    ∃ row ∈ ((bank platform).step db call).2.preparedTransfers, row.terms = terms := by
  rcases step_cases platform db call with hkept | ⟨answer, writes, hmove, -, hstep⟩
  · rw [hkept]
    exact h
  · rw [hstep]
    exact terms_apply hregular hmove h

theorem executions_step {execution : TransferExecution} (h : execution ∈ db.executions) :
    execution ∈ ((bank platform).step db call).2.executions := by
  rcases step_cases platform db call with hkept | ⟨answer, writes, hmove, -, hstep⟩
  · rw [hkept]
    exact h
  · rw [hstep]
    exact executions_apply hmove h

/-- A call that returns was served: its tables are kept, or its rows are committed. -/
theorem serve_of_ok (h : ((bank platform).step db call).1 = .ok answer) :
    (serve platform db call = .ok (answer, none) ∧ ((bank platform).step db call).2 = db) ∨
      ∃ writes, serve platform db call = .ok (answer, some writes) ∧
        ((bank platform).step db call).2 = writes.apply db := by
  obtain ⟨_ | writes, hserve, hafter⟩ := served_of_ok h
  · exact Or.inl ⟨hserve, hafter⟩
  · exact Or.inr ⟨writes, hserve, hafter⟩

end Commit

/-! ## Preparations and settlements -/

/-- The answer to a preparation shows a stored transfer with the terms that were asked for. -/
def ShowsTransfer (db : BankDb) (call : BankCall) (answer : BankAnswer)
    (source beneficiary currency key : String) (amount : Int) : Prop :=
  ∃ row, answer = .prepared row ∧ row.tenantId = call.scope.tenantId ∧
    row.sourceAccountToken = source ∧ row.beneficiaryToken = beneficiary ∧ row.amount = amount ∧
    row.currency = currency ∧ row.idempotencyKey = key ∧
    ∃ stored ∈ db.preparedTransfers, stored.terms = row.terms

/-- The answer to a settlement shows a stored execution, with the execution id or the action that was
asked for. -/
def ShowsExecution (db : BankDb) (call : BankCall) (answer : BankAnswer)
    (action actionHash executionId : String) : Prop :=
  ∃ execution ∈ db.executions,
    (answer = .execution execution ∨ ∃ journal consumed, answer = .settled execution journal consumed) ∧
    execution.tenantId = call.scope.tenantId ∧ execution.canonicalActionHash = actionHash ∧
    (execution.executionId = executionId ∨ execution.proposedActionId = action)

section Answers

variable {platform : BankPlatform} {db : BankDb} {call : BankCall} {answer : BankAnswer}

/-- A preparation finds a transfer with its digest, or writes a new one. -/
theorem prepareTransfer_ok {source beneficiary amountText currency rail key : String} {amount : Int}
    {writes : Option Writes} (hparsed : parseAmount amountText = .ok amount)
    (h : prepareTransfer platform db call source beneficiary amountText currency rail key =
      .ok (answer, writes)) :
    (writes = none ∧ ∃ row ∈ db.preparedTransfers, answer = .prepared row ∧
      row.canonicalActionHash = (newTransfer platform call source beneficiary amount currency rail
        key).canonicalActionHash) ∨
    (answer = .prepared (newTransfer platform call source beneficiary amount currency rail key) ∧
      ∃ rows, writes = some rows ∧ rows.preparedTransfers =
        [.insert (newTransfer platform call source beneficiary amount currency rail key)]) := by
  obtain ⟨amount', hamount, h⟩ := bind_ok.mp h
  obtain rfl := Except.ok.inj (hparsed.symm.trans hamount)
  obtain ⟨⟨⟩, -, h⟩ := bind_ok.mp h
  split at h
  next row hfind =>
    obtain ⟨hsame, h⟩ := ensure_bind_ok.mp h
    obtain ⟨rfl, rfl⟩ := Prod.mk.inj (Except.ok.inj h)
    exact Or.inl ⟨rfl, row, List.mem_of_find?_eq_some hfind, rfl, beq_iff_eq.mp hsame⟩
  next =>
    obtain ⟨_, -, h⟩ := bind_ok.mp h
    obtain ⟨_, -, h⟩ := bind_ok.mp h
    obtain ⟨⟨⟩, -, h⟩ := bind_ok.mp h
    obtain ⟨rfl, rfl⟩ := Prod.mk.inj (Except.ok.inj h)
    exact Or.inr ⟨rfl, _, rfl, rfl⟩

/-- A preparation that returns shows a transfer with its terms, also when it is repeated. -/
theorem showsTransfer_of_ok (hsha : Function.Injective platform.sha256)
    (hdigests : ∀ row ∈ db.preparedTransfers, row.canonicalActionHash = hash platform row.action)
    {source beneficiary amountText currency rail key : String} {amount : Int}
    (hop : call.op = .prepareTransfer source beneficiary amountText currency rail key)
    (hparsed : parseAmount amountText = .ok amount)
    (hok : ((bank platform).step db call).1 = .ok answer) :
    ShowsTransfer ((bank platform).step db call).2 call answer source beneficiary currency key
      amount := by
  have hserve (writes : Option Writes) (h : serve platform db call = .ok (answer, writes)) :
      prepareTransfer platform db call source beneficiary amountText currency rail key =
        .ok (answer, writes) := by
    simpa only [serve, hop] using h
  rcases serve_of_ok hok with ⟨hnone, hafter⟩ | ⟨writes, hsome, hafter⟩
  · rw [hafter]
    rcases prepareTransfer_ok hparsed (hserve none hnone) with ⟨-, row, hrow, rfl, hsame⟩ | ⟨-, rows, hrows, -⟩
    · rw [hdigests row hrow] at hsame
      obtain ⟨htenant, -, hsource, hamount, hcurrency, hbeneficiary, hkey⟩ :=
        terms_of_actionText row
          (newTransfer platform call source beneficiary amount currency rail key) (hsha hsame)
      exact ⟨row, rfl, htenant, hsource, hbeneficiary, hamount, hcurrency, hkey, row, hrow, rfl⟩
    · cases hrows
  · rw [hafter]
    rcases prepareTransfer_ok hparsed (hserve (some writes) hsome) with ⟨hnone, -⟩ | ⟨rfl, rows, hrows, hinsert⟩
    · cases hnone
    · obtain rfl := Option.some.inj hrows
      refine ⟨_, rfl, rfl, rfl, rfl, rfl, rfl, rfl, _, ?_, rfl⟩
      simp only [Writes.apply, hinsert]
      exact List.mem_append_right _ (List.mem_singleton.mpr rfl)

/-- A settlement that writes nothing is answered with a prior execution. -/
theorem executeTransfer_reply {action actionHash executionId : String}
    (h : executeTransfer platform db call action actionHash executionId = .ok (answer, none)) :
    ∃ prior ∈ db.executions, answer = .execution prior ∧ prior.tenantId = call.scope.tenantId ∧
      prior.canonicalActionHash = actionHash ∧
      (prior.executionId = executionId ∨ prior.proposedActionId = action) := by
  unfold executeTransfer at h
  split at h
  next prior hfind =>
    obtain ⟨hsame, h⟩ := ensure_bind_ok.mp h
    obtain ⟨rfl, -⟩ := Prod.mk.inj (Except.ok.inj h)
    have hrow := List.find?_some hfind
    simp only [Bool.and_eq_true, beq_iff_eq] at hrow hsame
    exact ⟨prior, List.mem_of_find?_eq_some hfind, rfl, hrow.1, hsame, Or.inl hrow.2⟩
  next =>
    split at h
    next prior hfind =>
      obtain ⟨hsame, h⟩ := ensure_bind_ok.mp h
      obtain ⟨rfl, -⟩ := Prod.mk.inj (Except.ok.inj h)
      have hrow := List.find?_some hfind
      simp only [Bool.and_eq_true, beq_iff_eq] at hrow hsame
      exact ⟨prior, List.mem_of_find?_eq_some hfind, rfl, hrow.1, hsame, Or.inr hrow.2⟩
    next =>
      obtain ⟨-, h⟩ := ensure_bind_ok.mp h
      split at h
      · cases h
      next =>
        simp only [ensure_bind_ok] at h
        obtain ⟨-, -, h⟩ := h
        obtain ⟨_, -, h⟩ := bind_ok.mp h
        obtain ⟨_, -, h⟩ := bind_ok.mp h
        obtain ⟨⟨⟩, -, h⟩ := bind_ok.mp h
        cases (Prod.mk.inj (Except.ok.inj h)).2

/-- A settlement that returns shows an execution, also when it is repeated. -/
theorem showsExecution_of_ok {action actionHash executionId : String}
    (hop : call.op = .executeTransfer action actionHash executionId)
    (hok : ((bank platform).step db call).1 = .ok answer) :
    ShowsExecution ((bank platform).step db call).2 call answer action actionHash executionId := by
  rcases serve_of_ok hok with ⟨hserve, hafter⟩ | ⟨writes, hserve, hafter⟩
  · rw [hafter]
    simp only [serve, hop] at hserve
    obtain ⟨prior, hprior, rfl, htenant, hhash, hfound⟩ := executeTransfer_reply hserve
    exact ⟨prior, hprior, Or.inl rfl, htenant, hhash, hfound⟩
  · rw [hafter]
    simp only [serve, hop] at hserve
    obtain ⟨prepared, account, payee, hs, rfl, rfl⟩ := settles_of_executeTransfer hop hserve
    obtain ⟨haction, hhash, -⟩ := BankOp.executeTransfer.inj (hop.symm.trans hs.op)
    exact ⟨newExecution call prepared executionId, List.mem_append_right _ (List.mem_singleton.mpr rfl),
      Or.inr ⟨_, _, rfl⟩, rfl, hhash.symm, Or.inl rfl⟩

end Answers

end Xyena.Bank
