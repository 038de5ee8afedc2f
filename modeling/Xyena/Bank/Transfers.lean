import Mathlib.Data.List.Forall2
import Xyena.Bank.Invariant
import Xyena.Foundation.JsonText

/-!
# Transfers settle once and as prepared

A prepared transfer keeps its terms; only its status moves, and only while it is
ready. Every execution stands next to the one debit that it has posted, and both
repeat the terms of the preparation whose digest the caller has supplied.
-/

namespace Xyena.Bank

open Xyena.Foundation Xyena.Contracts

/-! ## Prepared transfers along a run -/

/-- What the digest of a prepared transfer was taken over. -/
def PreparedTransfer.action (row : PreparedTransfer) : Dict :=
  [("tenant_id", .str row.tenantId), ("user_id", .str row.userId),
    ("source_account_token", .str row.sourceAccountToken),
    ("beneficiary_token", .str row.beneficiaryToken), ("amount", .str (centsText row.amount)),
    ("currency", .str row.currency), ("rail", .str row.rail), ("purpose", .str row.purpose),
    ("client_idempotency_key", .str row.idempotencyKey)]

/-- A prepared transfer without its status. -/
def PreparedTransfer.terms (row : PreparedTransfer) : PreparedTransfer :=
  { row with status := .readyForGuardian }

section Commit

variable {platform : BankPlatform} {db : BankDb} {call : BankCall} {answer : BankAnswer}
  {writes : Writes}

/-- The rows of a table in which one row was stored again with the same terms. -/
theorem exists_terms_of_mem_update {rows : List PreparedTransfer} {old changed row : PreparedTransfer}
    (h : row ∈ RowWrite.applyAll preparedTransferConstraints rows [.update changed])
    (hold : old ∈ rows) (hterms : changed.terms = old.terms)
    (hchanged : changed.status ≠ .readyForGuardian) :
    ∃ stored ∈ rows, row.terms = stored.terms ∧ (row.status = .readyForGuardian → row = stored) := by
  rcases Table.mem_replace h with rfl | ⟨hrow, -⟩
  · exact ⟨old, hold, hterms, fun hready ↦ absurd hready hchanged⟩
  · exact ⟨row, hrow, rfl, fun _ ↦ rfl⟩

/-- A prepared transfer has its terms from the commit before, or was prepared by this one. Nothing makes
it ready again. -/
theorem transfer_origin (hmove : Move platform db call answer writes) {row : PreparedTransfer}
    (hrow : row ∈ (writes.apply db).preparedTransfers) :
    (∃ stored ∈ db.preparedTransfers, row.terms = stored.terms ∧
        (row.status = .readyForGuardian → row = stored)) ∨
      ∃ source beneficiary amountText currency rail key amount account payee,
        Prepares platform db call source beneficiary amountText currency rail key amount account payee ∧
          row = newTransfer platform call source beneficiary amount currency rail key ∧
          writes.preparedTransfers = [.insert row] := by
  cases hmove with
  | quiet answer writes hquiet =>
    obtain ⟨_, _, _, heq⟩ := hquiet.apply db
    rw [heq] at hrow
    exact Or.inl ⟨row, hrow, rfl, fun _ ↦ rfl⟩
  | transferPrepared source beneficiary amountText currency rail key amount account payee audits hp =>
    rcases List.mem_append.mp hrow with hold | hnew
    · exact Or.inl ⟨row, hold, rfl, fun _ ↦ rfl⟩
    · obtain rfl := List.mem_singleton.mp hnew
      exact Or.inr ⟨source, beneficiary, amountText, currency, rail, key, amount, account, payee, hp,
        rfl, rfl⟩
  | transferSettled executionId prepared account payee hs =>
    exact Or.inl (exists_terms_of_mem_update hrow hs.stored rfl nofun)
  | transferExpired value hstored hready =>
    exact Or.inl (exists_terms_of_mem_update hrow hstored rfl nofun)
  | _ => exact Or.inl ⟨row, hrow, rfl, fun _ ↦ rfl⟩

/-- A row that is no longer ready survives the storing of one that was. -/
theorem mem_update_of_not_ready {rows : List PreparedTransfer} {old changed row : PreparedTransfer}
    (hkeys : preparedTransferConstraints.Meets rows) (hold : old ∈ rows)
    (hready : old.status = .readyForGuardian) (hkey : changed.proposedActionId = old.proposedActionId)
    (hrow : row ∈ rows) (hstatus : row.status ≠ .readyForGuardian) :
    row ∈ RowWrite.applyAll preparedTransferConstraints rows [.update changed] := by
  refine Table.mem_replace_of_ne hrow ?_
  intro hsame
  have heq := Table.eq_of_key hkeys.keys hrow hold (hsame.trans hkey)
  exact hstatus (heq ▸ hready)

/-- A prepared transfer that is settled or expired stays as it is. -/
theorem transfer_final (hregular : Regular db) (hmove : Move platform db call answer writes)
    {row : PreparedTransfer} (hrow : row ∈ db.preparedTransfers)
    (hstatus : row.status ≠ .readyForGuardian) : row ∈ (writes.apply db).preparedTransfers := by
  cases hmove with
  | quiet answer writes hquiet =>
    obtain ⟨_, _, _, heq⟩ := hquiet.apply db
    rw [heq]
    exact hrow
  | transferPrepared source beneficiary amountText currency rail key amount account payee audits hp =>
    exact List.mem_append_left _ hrow
  | transferSettled executionId prepared account payee hs =>
    exact mem_update_of_not_ready hregular.keyed.preparedTransfers hs.stored hs.ready rfl hrow hstatus
  | transferExpired value hstored hready =>
    exact mem_update_of_not_ready hregular.keyed.preparedTransfers hstored hready rfl hrow hstatus
  | _ => exact hrow

end Commit

/-! ## Executions and debits -/

/-- An execution and a posted transaction repeat the terms of a prepared transfer. -/
structure Pays (prepared : PreparedTransfer) (execution : TransferExecution) (row : Transaction) :
    Prop where
  tenant : execution.tenantId = prepared.tenantId
  user : execution.userId = prepared.userId
  amount : execution.amount = prepared.amount
  currency : execution.currency = prepared.currency
  source : row.accountToken = prepared.sourceAccountToken
  debit : row.direction = .debit
  debited : row.amount = prepared.amount
  reference : row.reference = execution.bankReference

/-- The settled transfer behind an execution and its debit. -/
def SettledAs (rows : List PreparedTransfer) (execution : TransferExecution) (row : Transaction) : Prop :=
  ∃ prepared ∈ rows, prepared.status = .settled ∧
    prepared.proposedActionId = execution.proposedActionId ∧
    prepared.canonicalActionHash = execution.canonicalActionHash ∧ Pays prepared execution row

/-- The debits among posted transactions. -/
def debitRows (posted : List Transaction) : List Transaction :=
  posted.filter fun row ↦ row.direction = .debit

/-- The digests of all preparations are those of their actions, and every execution has its debit. -/
structure Settled (platform : BankPlatform) (opening : Opening) (db : BankDb)
    (posted : List Transaction) : Prop where
  digests : ∀ row ∈ db.preparedTransfers, row.canonicalActionHash = hash platform row.action
  transactions : db.transactions = opening.transactions ++ posted
  debits : List.Forall₂ (SettledAs db.preparedTransfers) db.executions (debitRows posted)

theorem digests_commit {platform : BankPlatform} {db : BankDb} {call : BankCall} {answer : BankAnswer}
    {writes : Writes} (h : ∀ row ∈ db.preparedTransfers, row.canonicalActionHash = hash platform row.action)
    (hmove : Move platform db call answer writes) :
    ∀ row ∈ (writes.apply db).preparedTransfers, row.canonicalActionHash = hash platform row.action := by
  intro row hrow
  rcases transfer_origin hmove hrow with ⟨stored, hstored, hterms, -⟩ |
    ⟨_, _, _, _, _, _, _, _, _, -, rfl, -⟩
  · change row.terms.canonicalActionHash = hash platform row.terms.action
    rw [hterms]
    exact h stored hstored
  · rfl

/-- The execution and the debit that a settlement adds. -/
theorem settledAs_settlement {platform : BankPlatform} {db : BankDb} {call : BankCall}
    {executionId : String} {prepared : PreparedTransfer} {account : Account} {payee : Beneficiary}
    (h : Settles db call executionId prepared account payee) :
    SettledAs ((settlementWrites platform call account prepared executionId).apply db).preparedTransfers
      (newExecution call prepared executionId) (newDebit call account prepared executionId) := by
  refine ⟨{ prepared with status := .settled }, ?_, rfl, rfl, rfl, ?_⟩
  · exact Table.changed_mem_replace h.stored rfl
  · exact ⟨h.tenant.symm, h.user.symm, rfl, rfl, h.owned.token, rfl, rfl, rfl⟩

theorem Settled.apply {platform : BankPlatform} {opening : Opening} {db : BankDb} {call : BankCall}
    {answer : BankAnswer} {writes : Writes} {posted : List Transaction}
    (h : Settled platform opening db posted) (hregular : Regular db)
    (hmove : Move platform db call answer writes) :
    ∃ added, Settled platform opening (writes.apply db) (posted ++ added) := by
  have hdigests := digests_commit h.digests hmove
  have hkept : List.Forall₂ (SettledAs (writes.apply db).preparedTransfers) db.executions
      (debitRows posted) := by
    refine h.debits.imp ?_
    rintro execution row ⟨prepared, hprepared, hstatus, hrest⟩
    exact ⟨prepared, transfer_final hregular hmove hprepared (by rw [hstatus]; decide), hstatus, hrest⟩
  cases hmove with
  | quiet answer writes hquiet =>
    obtain ⟨_, _, _, heq⟩ := hquiet.apply db
    refine ⟨[], hdigests, ?_, ?_⟩
    · rw [heq, List.append_nil]
      exact h.transactions
    · rw [List.append_nil]
      rw [heq] at hkept ⊢
      exact hkept
  | transferSettled executionId prepared account payee hs =>
    refine ⟨[newDebit call account prepared executionId], hdigests, ?_, ?_⟩
    · rw [← List.append_assoc, ← h.transactions]
      rfl
    · rw [debitRows, List.filter_append]
      exact List.rel_append hkept (.cons (settledAs_settlement hs) .nil)
  | reversalSettled approval value execution prepared account hr =>
    refine ⟨[newCredit call account value], hdigests, ?_, ?_⟩
    · rw [← List.append_assoc, ← h.transactions]
      rfl
    · rw [debitRows, List.filter_append, List.filter_cons_of_neg (by simp [newCredit]),
        List.filter_nil, List.append_nil]
      exact hkept
  | _ => exact ⟨[], hdigests, by rw [List.append_nil]; exact h.transactions,
      by rw [List.append_nil]; exact hkept⟩

theorem settled_run (platform : BankPlatform) (opening : Opening) (calls : List BankCall) :
    ∃ posted, Settled platform opening ((bank platform).run opening.db calls) posted := by
  refine (commit_invariant (fun db ↦ ∃ posted, Settled platform opening db posted) (fun _ _ ↦ True)
    opening.regular ⟨[], by simp [Opening.db], (List.append_nil _).symm, .nil⟩ ?_ calls
    fun _ _ ↦ trivial).2
  rintro db call answer writes hregular ⟨posted, hsettled⟩ - hmove haccepted
  obtain ⟨added, hafter⟩ := hsettled.apply hregular hmove
  exact ⟨posted ++ added, hafter⟩

/-! ## Digests -/

/-- Preparations with one canonical text agree in everything that is paid. -/
theorem terms_of_actionText (first second : PreparedTransfer)
    (h : actionText first.action = actionText second.action) :
    first.tenantId = second.tenantId ∧ first.userId = second.userId ∧
      first.sourceAccountToken = second.sourceAccountToken ∧ first.amount = second.amount ∧
      first.currency = second.currency ∧ first.beneficiaryToken = second.beneficiaryToken ∧
      first.idempotencyKey = second.idempotencyKey := by
  have hnodup (row : PreparedTransfer) : (row.action.map Prod.fst).Nodup := by
    simp [PreparedTransfer.action]
  have hscalars : ∀ field ∈ second.action, field.2.isScalar = true := by
    simp [PreparedTransfer.action, Json.isScalar]
  have hsame : Json.Same (.obj first.action) (.obj second.action) :=
    Json.same_of_dumps true rfl rfl h
  have hfield (key : String) {left right : String}
      (hleft : first.action.lookup key = some (.str left))
      (hright : second.action.lookup key = some (.str right)) : left = right := by
    rw [hsame.lookup_eq (hnodup first) (hnodup second) hscalars key, hright] at hleft
    exact (Json.str.inj (Option.some.inj hleft)).symm
  exact ⟨hfield "tenant_id" rfl rfl, hfield "user_id" rfl rfl, hfield "source_account_token" rfl rfl,
    centsText_injective (hfield "amount" rfl rfl), hfield "currency" rfl rfl,
    hfield "beneficiary_token" rfl rfl, hfield "client_idempotency_key" rfl rfl⟩

/-! ## Replays -/

section Replays

variable {platform : BankPlatform} {db : BankDb} {call : BankCall} {action actionHash executionId : String}

/-- Within a tenant, an execution is told by its id, its Guardian call and its action. -/
theorem execution_unique {rows : List TransferExecution} (h : executionConstraints.Meets rows)
    {first second : TransferExecution} (hfirst : first ∈ rows) (hsecond : second ∈ rows)
    (htenant : first.tenantId = second.tenantId)
    (hsame : first.executionId = second.executionId ∨ first.guardianCallId = second.guardianCallId ∨
      first.proposedActionId = second.proposedActionId) : first = second := by
  by_contra hne
  have hkey : first.id ≠ second.id := fun hid ↦ hne (Table.eq_of_key h.keys hfirst hsecond hid)
  have hclash := h.unique first hfirst second hsecond hkey
  simp only [executionConstraints, Bool.or_eq_false_iff, tenantClash_eq_false] at hclash
  obtain ⟨⟨⟨hexecution, hcall⟩, haction⟩, -⟩ := hclash
  rcases hsame with hsame | hsame | hsame
  · exact hexecution htenant hsame
  · exact hcall htenant hsame
  · exact haction htenant hsame

/-- An execution is found by its tenant and its id. -/
theorem findExecution_eq (h : executionConstraints.Meets db.executions) {execution : TransferExecution}
    (hstored : execution ∈ db.executions) :
    findExecution db execution.tenantId execution.executionId = some execution := by
  refine Table.find?_eq_some_of_unique hstored (by simp) fun other hother hsame ↦ ?_
  simp only [Bool.and_eq_true, beq_iff_eq] at hsame
  exact execution_unique h hother hstored hsame.2 (Or.inl hsame.1)

/-- The execution that a call to settle a transfer is answered from: the one with its execution id, or
else the one of its action. -/
def FindsPrior (db : BankDb) (call : BankCall) (action executionId : String)
    (prior : TransferExecution) : Prop :=
  prior ∈ db.executions ∧ prior.tenantId = call.scope.tenantId ∧
    (prior.executionId = executionId ∨ prior.proposedActionId = action ∧
      Unused db.executions TransferExecution.tenantId TransferExecution.executionId
        call.scope.tenantId executionId)

theorem executeTransfer_prior (platform : BankPlatform) (actionHash : String)
    (hkeyed : executionConstraints.Meets db.executions) {prior : TransferExecution}
    (h : FindsPrior db call action executionId prior) :
    ∃ failure, executeTransfer platform db call action actionHash executionId =
      if prior.canonicalActionHash = actionHash then .ok (.execution prior, none) else .error failure := by
  obtain ⟨hprior, htenant, hfound⟩ := h
  unfold executeTransfer
  rcases hfound with rfl | ⟨rfl, hunused⟩
  · have hfind : (db.executions.find? fun row ↦ row.tenantId == call.scope.tenantId &&
        row.executionId == prior.executionId) = some prior := by
      refine Table.find?_eq_some_of_unique hprior (by simp [htenant]) fun other hother hselected ↦ ?_
      simp only [Bool.and_eq_true, beq_iff_eq] at hselected
      exact execution_unique hkeyed hother hprior (hselected.1.trans htenant.symm)
        (Or.inl hselected.2)
    refine ⟨.domain "execution_id is bound to another action hash.", ?_⟩
    simp only [hfind, ensure, beq_iff_eq]
    split <;> rfl
  · have hnone : (db.executions.find? fun row ↦ row.tenantId == call.scope.tenantId &&
        row.executionId == executionId) = none := by
      refine List.find?_eq_none.mpr fun row hrow ↦ ?_
      simpa using hunused row hrow
    have hfind : (db.executions.find? fun row ↦ row.tenantId == call.scope.tenantId &&
        row.proposedActionId == prior.proposedActionId) = some prior := by
      refine Table.find?_eq_some_of_unique hprior (by simp [htenant]) fun other hother hselected ↦ ?_
      simp only [Bool.and_eq_true, beq_iff_eq] at hselected
      exact execution_unique hkeyed hother hprior (hselected.1.trans htenant.symm)
        (Or.inr (Or.inr hselected.2))
    refine ⟨.domain "Prepared action is already bound to another hash.", ?_⟩
    simp only [hnone, hfind, ensure, beq_iff_eq]
    split <;> rfl

theorem step_executeTransfer (hop : call.op = .executeTransfer action actionHash executionId) :
    (bank platform).step db call = close db call.refused
      (executeTransfer platform db call action actionHash executionId) := by
  simp only [bank, serve, hop]

/-- A call that finds an execution is answered with it or raises, and commits nothing. -/
theorem step_prior (hkeyed : executionConstraints.Meets db.executions)
    (hop : call.op = .executeTransfer action actionHash executionId)
    {prior : TransferExecution} (h : FindsPrior db call action executionId prior) :
    ((bank platform).step db call).2 = db ∧
      (prior.canonicalActionHash = actionHash → ((bank platform).step db call).1 = .ok (.execution prior)) ∧
      (prior.canonicalActionHash ≠ actionHash →
        ∃ failure, ((bank platform).step db call).1 = .error failure) := by
  obtain ⟨failure, hexecute⟩ := executeTransfer_prior platform actionHash hkeyed h
  rw [step_executeTransfer hop, hexecute]
  split
  next hsame => exact ⟨rfl, fun _ ↦ rfl, fun hne ↦ absurd hsame hne⟩
  next hne => exact ⟨rfl, fun hsame ↦ absurd hsame hne, fun _ ↦ ⟨failure, rfl⟩⟩

/-- A Guardian call id that has settled a transfer settles nothing again. -/
theorem step_usedCall (hop : call.op = .executeTransfer action actionHash executionId)
    {prior : TransferExecution} (hprior : prior ∈ db.executions)
    (htenant : prior.tenantId = call.scope.tenantId)
    (hcall : prior.guardianCallId = call.scope.callId) : ((bank platform).step db call).2 = db := by
  rw [step_executeTransfer hop]
  refine close_of_no_writes fun answer writes h ↦ ?_
  obtain ⟨prepared, account, payee, hs, -, -⟩ := settles_of_executeTransfer hop h
  exact hs.callId prior hprior htenant hcall

end Replays

/-! ## Settlements in a run -/

section Settlement

variable {platform : BankPlatform} {db : BankDb} {call : BankCall}

/-- A step that adds an execution has settled a prepared transfer. -/
theorem settles_of_new_execution {execution : TransferExecution}
    (hafter : execution ∈ ((bank platform).step db call).2.executions)
    (hbefore : execution ∉ db.executions) :
    ∃ executionId prepared account payee, Settles db call executionId prepared account payee ∧
      execution = newExecution call prepared executionId ∧
      ((bank platform).step db call).2 =
        (settlementWrites platform call account prepared executionId).apply db := by
  rcases step_cases platform db call with hkept | ⟨answer, writes, hmove, -, hstep⟩
  · rw [hkept] at hafter
    exact absurd hafter hbefore
  · rw [hstep] at hafter ⊢
    cases hmove with
    | quiet answer writes hquiet =>
      obtain ⟨_, _, _, heq⟩ := hquiet.apply db
      rw [heq] at hafter
      exact absurd hafter hbefore
    | transferSettled executionId prepared account payee hs =>
      rcases List.mem_append.mp hafter with hold | hnew
      · exact absurd hold hbefore
      · exact ⟨executionId, prepared, account, payee, hs, List.mem_singleton.mp hnew, rfl⟩
    | _ => exact absurd hafter hbefore

/-- All preparations under the supplied digest have the terms that were settled. -/
theorem pays_of_digest (hdigests : ∀ row ∈ db.preparedTransfers,
      row.canonicalActionHash = hash platform row.action)
    (hcollision : Set.InjOn platform.sha256
      {text | ∃ row ∈ db.preparedTransfers, text = actionText row.action})
    {executionId : String} {prepared : PreparedTransfer} {account : Account} {payee : Beneficiary}
    (hs : Settles db call executionId prepared account payee) :
    ∀ row ∈ db.preparedTransfers, row.canonicalActionHash = prepared.canonicalActionHash →
      Pays row (newExecution call prepared executionId) (newDebit call account prepared executionId) := by
  intro row hrow hdigest
  rw [hdigests row hrow, hdigests prepared hs.stored] at hdigest
  have htext := hcollision ⟨row, hrow, rfl⟩ ⟨prepared, hs.stored, rfl⟩ hdigest
  obtain ⟨htenant, huser, hsource, hamount, hcurrency, -⟩ := terms_of_actionText _ _ htext
  refine ⟨?_, ?_, hamount.symm, hcurrency.symm, ?_, rfl, hamount.symm, rfl⟩
  · exact hs.tenant.symm.trans htenant.symm
  · exact hs.user.symm.trans huser.symm
  · exact hs.owned.token.trans hsource.symm

end Settlement

/-- Every execution has the settled transfer and the debit that belong to it. -/
theorem exists_settledAs {prepared : List PreparedTransfer} {executions : List TransferExecution}
    {posted : List Transaction} (h : List.Forall₂ (SettledAs prepared) executions posted)
    {execution : TransferExecution} (hexecution : execution ∈ executions) :
    ∃ row ∈ posted, SettledAs prepared execution row := by
  induction h with
  | nil => cases hexecution
  | cons hfirst hrest ih =>
    rcases List.mem_cons.mp hexecution with rfl | hlater
    · exact ⟨_, List.mem_cons_self, hfirst⟩
    · obtain ⟨row, hrow, hsettled⟩ := ih hlater
      exact ⟨row, List.mem_cons_of_mem _ hrow, hsettled⟩

/-- The executions of one prepared transfer are one execution. -/
theorem executions_of_prepared {platform : BankPlatform} {opening : Opening} {db : BankDb}
    {posted : List Transaction} (hregular : Regular db) (h : Settled platform opening db posted)
    (action : String) :
    (db.executions.filter fun row ↦ row.proposedActionId == action).length ≤ 1 := by
  refine Table.length_le_one (hregular.keyed.executions.keys.sublist (List.filter_sublist.map _)) ?_
  intro first hfirst second hsecond
  simp only [List.mem_filter, beq_iff_eq] at hfirst hsecond
  have hpaid (execution : TransferExecution) (hexecution : execution ∈ db.executions) :
      ∃ prepared ∈ db.preparedTransfers, prepared.proposedActionId = execution.proposedActionId ∧
        execution.tenantId = prepared.tenantId := by
    obtain ⟨row, -, prepared, hprepared, -, haction, -, hpays⟩ := exists_settledAs h.debits hexecution
    exact ⟨prepared, hprepared, haction, hpays.tenant⟩
  obtain ⟨prepared, hprepared, haction, htenant⟩ := hpaid first hfirst.1
  obtain ⟨prepared', hprepared', haction', htenant'⟩ := hpaid second hsecond.1
  have hsame : prepared = prepared' :=
    Table.eq_of_key hregular.keyed.preparedTransfers.keys hprepared hprepared'
      ((haction.trans hfirst.2).trans (haction'.trans hsecond.2).symm)
  refine execution_unique hregular.keyed.executions hfirst.1 hsecond.1 ?_
    (Or.inr (Or.inr (hfirst.2.trans hsecond.2.symm)))
  rw [htenant, htenant', hsame]

/-- In every run, an execution is the only one of its tenant with its execution id, its Guardian call and
its action; a prepared transfer has at most one execution, and the executions correspond one for one to
the debits posted since the opening. A new execution pays what every preparation under the supplied digest
says. A call that finds an execution is answered with it when it supplies its digest and raises otherwise,
and commits nothing in both cases; nor does a call with a used Guardian call id, or one that raises. -/
theorem transfer_settles_once (platform : BankPlatform) (opening : Opening) (calls : List BankCall)
    (hcollision : Set.InjOn platform.sha256 {text | ∃ e ∈ (bank platform).log opening.db calls,
      ∃ prepared ∈ e.before.preparedTransfers, text = actionText prepared.action}) :
    let db := (bank platform).run opening.db calls
    (∀ first ∈ db.executions, ∀ second ∈ db.executions, first.tenantId = second.tenantId →
      first.executionId = second.executionId ∨ first.guardianCallId = second.guardianCallId ∨
        first.proposedActionId = second.proposedActionId → first = second) ∧
    (∀ prepared ∈ db.preparedTransfers, (db.executions.filter fun row ↦
      row.proposedActionId == prepared.proposedActionId).length ≤ 1) ∧
    List.Forall₂ (SettledAs db.preparedTransfers) db.executions
      (debitRows (db.transactions.drop opening.transactions.length)) ∧
    (∀ e ∈ (bank platform).log opening.db calls, ∀ execution ∈ e.after.executions,
      execution ∉ e.before.executions → ∃ action actionHash executionId row,
        e.input.op = .executeTransfer action actionHash executionId ∧
        e.after.transactions = e.before.transactions ++ [row] ∧
        (∃ prepared ∈ e.before.preparedTransfers, prepared.proposedActionId = action ∧
          prepared.canonicalActionHash = actionHash) ∧
        ∀ prepared ∈ e.before.preparedTransfers, prepared.canonicalActionHash = actionHash →
          Pays prepared execution row) ∧
    (∀ e ∈ (bank platform).log opening.db calls, ∀ action actionHash executionId,
      e.input.op = .executeTransfer action actionHash executionId →
        (∀ prior, FindsPrior e.before e.input action executionId prior → e.after = e.before ∧
          (prior.canonicalActionHash = actionHash → e.output = .ok (.execution prior)) ∧
          (prior.canonicalActionHash ≠ actionHash → ∃ failure, e.output = .error failure)) ∧
        ∀ prior ∈ e.before.executions, prior.tenantId = e.input.scope.tenantId →
          prior.guardianCallId = e.input.scope.callId → e.after = e.before) ∧
    ∀ e ∈ (bank platform).log opening.db calls, ∀ failure, e.output = .error failure →
      e.after = e.before := by
  intro db
  have hregular := regular_run platform opening calls
  obtain ⟨posted, hsettled⟩ := settled_run platform opening calls
  refine ⟨fun first hfirst second hsecond ↦ execution_unique hregular.keyed.executions hfirst hsecond,
    fun prepared _ ↦ executions_of_prepared hregular hsettled prepared.proposedActionId, ?_, ?_, ?_, ?_⟩
  · have hposted : db.transactions.drop opening.transactions.length = posted := by
      rw [hsettled.transactions, List.drop_left]
    rw [hposted]
    exact hsettled.debits
  · intro e he execution hafter hbefore
    obtain ⟨earlier, call, later, hcalls, rfl⟩ := ((bank platform).mem_log_iff opening.db calls e).mp he
    obtain ⟨executionId, prepared, account, payee, hs, rfl, hstep⟩ :=
      settles_of_new_execution hafter hbefore
    obtain ⟨_, hearlier⟩ := settled_run platform opening earlier
    refine ⟨_, _, executionId, newDebit call account prepared executionId, hs.op, ?_,
      ⟨prepared, hs.stored, rfl, rfl⟩, pays_of_digest hearlier.digests (hcollision.mono ?_) hs⟩
    · exact congrArg BankDb.transactions hstep
    · rintro text ⟨row, hrow, rfl⟩
      exact ⟨_, he, row, hrow, rfl⟩
  · intro e he action actionHash executionId hop
    obtain ⟨earlier, call, later, hcalls, rfl⟩ := ((bank platform).mem_log_iff opening.db calls e).mp he
    have hkeyed := (regular_run platform opening earlier).keyed.executions
    exact ⟨fun prior hprior ↦ step_prior hkeyed hop hprior,
      fun prior hprior htenant hcall ↦ step_usedCall hop hprior htenant hcall⟩
  · intro e he failure hfailure
    obtain ⟨earlier, call, later, hcalls, rfl⟩ := ((bank platform).mem_log_iff opening.db calls e).mp he
    exact close_error hfailure

/-- The first transfer of the small bank settles. -/
theorem firstTransfer_settles :
    ∃ execution ∈ ((bank sampleBank).run (sampleOpening 15000).db firstTransfer).executions,
      execution.tenantId = "tenant-1" ∧ execution.executionId = "exec-1" ∧
        execution.canonicalActionHash =
          "1d22fd84ea6bbeca064e19fb6ed5b8548692343b6ca477d34ceb3ac5ae9b6542" := by
  have hany : (((bank sampleBank).run (sampleOpening 15000).db firstTransfer).executions.any fun row ↦
      row.tenantId == "tenant-1" && row.executionId == "exec-1" && row.canonicalActionHash ==
        "1d22fd84ea6bbeca064e19fb6ed5b8548692343b6ca477d34ceb3ac5ae9b6542") = true := by
    decide +kernel
  obtain ⟨execution, hexecution, hfields⟩ := List.any_eq_true.mp hany
  simp only [Bool.and_eq_true, beq_iff_eq] at hfields
  exact ⟨execution, hexecution, hfields.1.1, hfields.1.2, hfields.2⟩

/-- The settled transfer of the small bank stands next to its debit. -/
theorem transfer_settles_once_firstTransfer :
    ∃ execution ∈ ((bank sampleBank).run (sampleOpening 15000).db firstTransfer).executions,
      execution.executionId = "exec-1" ∧ ∃ row,
        SettledAs ((bank sampleBank).run (sampleOpening 15000).db firstTransfer).preparedTransfers
          execution row := by
  obtain ⟨execution, hexecution, -, hid, -⟩ := firstTransfer_settles
  obtain ⟨row, -, hpaid⟩ := exists_settledAs (transfer_settles_once sampleBank (sampleOpening 15000)
    firstTransfer sampleSha256_injective.injOn).2.2.1 hexecution
  exact ⟨execution, hexecution, hid, row, hpaid⟩

/-- The settlement asked for again under another digest. -/
def reboundTransfer : BankCall :=
  sampleCall "3" "bank.transfers.execute" (.executeTransfer "act_1"
    "b0a440813fe3364b64bb15e7afeac3212a87c3b4e4c99972f05aa162a94099bd" "exec-1")

/-- An execution id is bound to the digest of its execution. -/
theorem rebound_refused {platform : BankPlatform} {opening : Opening} {calls : List BankCall}
    {call : BankCall} {action actionHash executionId : String} {prior : TransferExecution}
    (hop : call.op = .executeTransfer action actionHash executionId)
    (hprior : prior ∈ ((bank platform).run opening.db calls).executions)
    (htenant : prior.tenantId = call.scope.tenantId) (hid : prior.executionId = executionId)
    (hdigest : prior.canonicalActionHash ≠ actionHash) :
    ∃ e ∈ (bank platform).log opening.db (calls ++ [call]), e.input = call ∧
      ∃ prior ∈ e.before.executions, prior.tenantId = e.input.scope.tenantId ∧
        prior.executionId = executionId ∧ ∃ failure, e.output = .error failure := by
  have hkeyed := (regular_run platform opening calls).keyed.executions
  obtain ⟨-, -, hrefused⟩ := step_prior hkeyed hop ⟨hprior, htenant, Or.inl hid⟩
  refine ⟨(bank platform).entry ((bank platform).run opening.db calls) call, ?_, rfl, prior, hprior,
    htenant, hid, hrefused hdigest⟩
  rw [Machine.log_snoc]
  exact List.mem_append_right _ List.mem_cons_self

/-- A call that finds an execution of its tenant with its execution id is not answered with it. -/
theorem prior_execution_refused :
    ∃ e ∈ (bank sampleBank).log (sampleOpening 15000).db (firstTransfer ++ [reboundTransfer]),
      e.input = reboundTransfer ∧ ∃ prior ∈ e.before.executions,
        prior.tenantId = e.input.scope.tenantId ∧ prior.executionId = "exec-1" ∧
          ∃ failure, e.output = .error failure := by
  obtain ⟨prior, hprior, htenant, hid, hdigest⟩ := firstTransfer_settles
  exact rebound_refused rfl hprior htenant hid (by rw [hdigest]; simp)

end Xyena.Bank
