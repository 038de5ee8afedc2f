import Xyena.Bank.Balances
import Xyena.Bank.Transfers

/-!
# Overlapping sessions of the bank

No operation locks a row. A session computes absolute balances from the rows
that it has read and writes them when it commits; the database checks keys and
unique columns at the commit and nothing else. Two sessions that have read the
same account row lose the update of the one that commits first. Balances follow
the settled transfers and reversals when the rows that a session has read and
writes again are still the committed ones at its commit.
-/

namespace Xyena.Bank

open Xyena.Foundation Xyena.Contracts

/-! ## The pool of sessions -/

/-- An open session: what it has read, and the answer and rows that it will commit. -/
structure BankSession where
  id : Nat
  call : BankCall
  seen : BankDb
  outcome : Except BankError Outcome

/-- The committed tables and the open sessions. -/
structure BankWorld where
  db : BankDb
  sessions : List BankSession := []

/-- What can happen next: a session starts and reads, commits, or is lost. -/
inductive SessionStep where
  | start (id : Nat) (call : BankCall)
  | finish (id : Nat)
  | crash (id : Nat)

def BankWorld.session (world : BankWorld) (id : Nat) : Option BankSession :=
  world.sessions.find? fun session ↦ session.id == id

def BankWorld.remove (world : BankWorld) (id : Nat) : List BankSession :=
  world.sessions.filter fun session ↦ session.id != id

def openSession (platform : BankPlatform) (db : BankDb) (id : Nat) (call : BankCall) : BankSession where
  id := id
  call := call
  seen := db
  outcome := serve platform db call

/-- Sessions in any interleaving. The pool gives out the answer of a session that ends. -/
def bankPool (platform : BankPlatform) :
    Machine BankWorld SessionStep (Option (Except BankError BankAnswer)) where
  step world
    | .start id call =>
      if (world.session id).isSome then (none, world)
      else (none, { world with sessions := world.sessions ++ [openSession platform world.db id call] })
    | .finish id =>
      match world.session id with
      | none => (none, world)
      | some session =>
        let closed := close world.db session.call.refused session.outcome
        (some closed.1, ⟨closed.2, world.remove id⟩)
    | .crash id => (none, { world with sessions := world.remove id })

/-- When the rows of the session are admitted, what it has read and writes again is still what is
committed. -/
def BankSession.Undisturbed (session : BankSession) (db : BankDb) : Prop :=
  ∀ answer writes, session.outcome = .ok (answer, some writes) → session.call.refused = false →
    writes.Accepted db → Current session.seen db writes

/-! ## What was settled -/

/-- The account that an execution was paid from. -/
def sourceOf (rows : List PreparedTransfer) (execution : TransferExecution) : Option String :=
  (rows.find? fun row ↦ row.proposedActionId == execution.proposedActionId).map
    PreparedTransfer.sourceAccountToken

/-- The account that a reversal is paid back to. -/
def targetOf (db : BankDb) (value : PreparedReversal) : Option String :=
  (findExecution db value.tenantId value.transferExecutionId).bind (sourceOf db.preparedTransfers)

/-- What an execution has taken from an account. -/
def paidFrom (db : BankDb) (token : String) (execution : TransferExecution) : Int :=
  if sourceOf db.preparedTransfers execution = some token then execution.amount else 0

/-- What a reversal has given back to an account. -/
def paidBack (db : BankDb) (token : String) (value : PreparedReversal) : Int :=
  if value.status = .settled ∧ targetOf db value = some token then value.amount else 0

/-- The settled transfers from an account. -/
def transferred (db : BankDb) (token : String) : Int := Table.sum (paidFrom db token) db.executions

/-- The settled reversals to an account. -/
def reversed (db : BankDb) (token : String) : Int := Table.sum (paidBack db token) db.reversals

/-! ## Rows that stay -/

/-- Executions stay, and prepared transfers stay with their terms. -/
structure Extends (seen db : BankDb) : Prop where
  executions : seen.executions ⊆ db.executions
  transfers : ∀ row ∈ seen.preparedTransfers, ∃ stored ∈ db.preparedTransfers, stored.terms = row.terms

theorem Extends.refl (db : BankDb) : Extends db db :=
  ⟨List.Subset.refl _, fun row hrow ↦ ⟨row, hrow, rfl⟩⟩

theorem Extends.trans {first second third : BankDb} (h : Extends first second)
    (h' : Extends second third) : Extends first third := by
  refine ⟨List.Subset.trans h.executions h'.executions, fun row hrow ↦ ?_⟩
  obtain ⟨stored, hstored, hterms⟩ := h.transfers row hrow
  obtain ⟨later, hlater, hterms'⟩ := h'.transfers stored hstored
  exact ⟨later, hlater, hterms'.trans hterms⟩

theorem id_of_terms {first second : PreparedTransfer} (h : first.terms = second.terms) :
    first.proposedActionId = second.proposedActionId := by
  change first.terms.proposedActionId = second.terms.proposedActionId
  rw [h]

theorem source_of_terms {first second : PreparedTransfer} (h : first.terms = second.terms) :
    first.sourceAccountToken = second.sourceAccountToken := by
  change first.terms.sourceAccountToken = second.terms.sourceAccountToken
  rw [h]

section Commit

variable {platform : BankPlatform} {seen db : BankDb} {call : BankCall} {answer : BankAnswer}
  {writes : Writes}

/-- Storing a row again with the terms that it was read with. -/
theorem terms_kept_of_update {rows : List PreparedTransfer} {read changed row : PreparedTransfer}
    (hkeys : preparedTransferConstraints.Meets rows)
    (hread : ∃ stored ∈ rows, stored.terms = read.terms) (hchanged : changed.terms = read.terms)
    (hrow : row ∈ rows) :
    ∃ after ∈ RowWrite.applyAll preparedTransferConstraints rows [.update changed],
      after.terms = row.terms := by
  obtain ⟨stored, hstored, hterms⟩ := hread
  refine Table.exists_replace _ hkeys.keys hstored (id_of_terms (hchanged.trans hterms.symm))
    (fun hsame ↦ ?_) ⟨row, hrow, rfl⟩
  rw [hchanged, ← hterms, hsame]

/-- A commit extends the tables, whatever has happened since its session has read them. -/
theorem extends_commit (hregular : Regular db) (hextends : Extends seen db)
    (hmove : Move platform seen call answer writes) : Extends db (writes.apply db) := by
  cases hmove with
  | quiet answer writes hquiet =>
    obtain ⟨_, _, _, heq⟩ := hquiet.apply db
    rw [heq]
    exact ⟨List.Subset.refl _, fun row hrow ↦ ⟨row, hrow, rfl⟩⟩
  | transferPrepared source beneficiary amountText currency rail key amount account payee audits hp =>
    exact ⟨List.Subset.refl _, fun row hrow ↦ ⟨row, List.mem_append_left _ hrow, rfl⟩⟩
  | transferSettled executionId prepared account payee hs =>
    exact ⟨List.subset_append_left _ _, fun row hrow ↦ terms_kept_of_update
      hregular.keyed.preparedTransfers (hextends.transfers prepared hs.stored) rfl hrow⟩
  | transferExpired value hstored hready =>
    exact ⟨List.Subset.refl _, fun row hrow ↦ terms_kept_of_update
      hregular.keyed.preparedTransfers (hextends.transfers value hstored) rfl hrow⟩
  | _ => exact ⟨List.Subset.refl _, fun row hrow ↦ ⟨row, hrow, rfl⟩⟩

end Commit

/-! ## Sources of executions and reversals -/

/-- Every execution has its prepared transfer, and every reversal its execution. -/
structure Sourced (db : BankDb) : Prop where
  executions : ∀ execution ∈ db.executions, ∃ row ∈ db.preparedTransfers,
    row.proposedActionId = execution.proposedActionId
  reversals : ∀ value ∈ db.reversals, ∃ execution ∈ db.executions,
    execution.tenantId = value.tenantId ∧ execution.executionId = value.transferExecutionId

theorem sourceOf_eq {rows : List PreparedTransfer} {row : PreparedTransfer}
    {execution : TransferExecution} (hkeys : preparedTransferConstraints.Meets rows) (hrow : row ∈ rows)
    (hid : row.proposedActionId = execution.proposedActionId) :
    sourceOf rows execution = some row.sourceAccountToken := by
  have hfind : (rows.find? fun row ↦ row.proposedActionId == execution.proposedActionId) = some row := by
    refine Table.find?_eq_some_of_unique hrow (by simp [hid]) fun other hother hsame ↦ ?_
    exact Table.eq_of_key hkeys.keys hother hrow ((beq_iff_eq.mp hsame).trans hid.symm)
  rw [sourceOf, hfind, Option.map_some]

theorem targetOf_eq {db : BankDb} {value : PreparedReversal} {execution : TransferExecution}
    (hkeys : executionConstraints.Meets db.executions) (hstored : execution ∈ db.executions)
    (htenant : execution.tenantId = value.tenantId)
    (hid : execution.executionId = value.transferExecutionId) :
    targetOf db value = sourceOf db.preparedTransfers execution := by
  rw [targetOf, ← htenant, ← hid, findExecution_eq hkeys hstored, Option.bind_some]

section Stable

variable {db after : BankDb}

/-- An execution keeps the account that it was paid from. -/
theorem sourceOf_stable (hregular : Regular db) (hafter : Regular after) (hextends : Extends db after)
    {execution : TransferExecution}
    (hsourced : ∃ row ∈ db.preparedTransfers, row.proposedActionId = execution.proposedActionId) :
    sourceOf after.preparedTransfers execution = sourceOf db.preparedTransfers execution := by
  obtain ⟨row, hrow, hid⟩ := hsourced
  obtain ⟨later, hlater, hterms⟩ := hextends.transfers row hrow
  rw [sourceOf_eq hregular.keyed.preparedTransfers hrow hid,
    sourceOf_eq hafter.keyed.preparedTransfers hlater ((id_of_terms hterms).trans hid),
    source_of_terms hterms]

/-- A reversal keeps the account that it is paid back to. -/
theorem targetOf_stable (hregular : Regular db) (hafter : Regular after) (hextends : Extends db after)
    (hsourced : Sourced db) {value : PreparedReversal}
    (hvalue : ∃ execution ∈ db.executions, execution.tenantId = value.tenantId ∧
      execution.executionId = value.transferExecutionId) :
    targetOf after value = targetOf db value := by
  obtain ⟨execution, hexecution, htenant, hid⟩ := hvalue
  rw [targetOf_eq hregular.keyed.executions hexecution htenant hid,
    targetOf_eq hafter.keyed.executions (hextends.executions hexecution) htenant hid,
    sourceOf_stable hregular hafter hextends (hsourced.executions execution hexecution)]

/-- The transfers settled before keep their sum. -/
theorem transferred_stable (hregular : Regular db) (hafter : Regular after) (hextends : Extends db after)
    (hsourced : Sourced db) (token : String) :
    Table.sum (paidFrom after token) db.executions = transferred db token := by
  refine Table.sum_congr fun execution hexecution ↦ ?_
  rw [paidFrom, paidFrom,
    sourceOf_stable hregular hafter hextends (hsourced.executions execution hexecution)]

/-- So do the reversals settled before. -/
theorem reversed_stable (hregular : Regular db) (hafter : Regular after) (hextends : Extends db after)
    (hsourced : Sourced db) (token : String) :
    Table.sum (paidBack after token) db.reversals = reversed db token := by
  refine Table.sum_congr fun value hvalue ↦ ?_
  rw [paidBack, paidBack,
    targetOf_stable hregular hafter hextends hsourced (hsourced.reversals value hvalue)]

/-- New executions come with their prepared transfers, and new reversals with their executions. -/
theorem Sourced.extend (h : Sourced db) (hextends : Extends db after)
    (hexecutions : ∀ execution ∈ after.executions, execution ∈ db.executions ∨
      ∃ row ∈ after.preparedTransfers, row.proposedActionId = execution.proposedActionId)
    (hreversals : ∀ value ∈ after.reversals, ∃ execution ∈ db.executions,
      execution.tenantId = value.tenantId ∧ execution.executionId = value.transferExecutionId) :
    Sourced after := by
  constructor
  · intro execution hexecution
    rcases hexecutions execution hexecution with hold | hnew
    · obtain ⟨row, hrow, hid⟩ := h.executions execution hold
      obtain ⟨later, hlater, hterms⟩ := hextends.transfers row hrow
      exact ⟨later, hlater, (id_of_terms hterms).trans hid⟩
    · exact hnew
  · intro value hvalue
    obtain ⟨execution, hexecution, hsame⟩ := hreversals value hvalue
    exact ⟨execution, hextends.executions hexecution, hsame⟩

end Stable

/-! ## Bookings and settlements -/

/-- The transactions posted since the opening are the settled transfers and reversals. -/
structure Booked (opening : Opening) (db : BankDb) (posted : List Transaction) : Prop where
  transactions : db.transactions = opening.transactions ++ posted
  sourced : Sourced db
  debits : ∀ token, booked .debit token posted = transferred db token
  credits : ∀ token, booked .credit token posted = reversed db token

theorem Opening.booked (opening : Opening) : Booked opening opening.db [] where
  transactions := (List.append_nil _).symm
  sourced := ⟨by simp [Opening.db], by simp [Opening.db]⟩
  debits _ := rfl
  credits _ := rfl

section Settle

variable {platform : BankPlatform} {opening : Opening} {posted added : List Transaction}
  {seen db after : BankDb} {call : BankCall} {answer : BankAnswer} {writes : Writes}

/-- A commit that books what it settles. -/
theorem Booked.post (h : Booked opening db posted) (hregular : Regular db) (hafter : Regular after)
    (hextends : Extends db after) (htransactions : after.transactions = db.transactions ++ added)
    (hsourced : Sourced after)
    (hdebits : ∀ token, transferred after token =
      Table.sum (paidFrom after token) db.executions + booked .debit token added)
    (hcredits : ∀ token, reversed after token =
      Table.sum (paidBack after token) db.reversals + booked .credit token added) :
    Booked opening after (posted ++ added) := by
  refine ⟨by rw [htransactions, h.transactions, List.append_assoc], hsourced, ?_, ?_⟩
  · intro token
    calc booked .debit token (posted ++ added)
        = transferred db token + booked .debit token added := by rw [booked_append, h.debits]
      _ = Table.sum (paidFrom after token) db.executions + booked .debit token added := by
        rw [transferred_stable hregular hafter hextends h.sourced]
      _ = transferred after token := (hdebits token).symm
  · intro token
    calc booked .credit token (posted ++ added)
        = reversed db token + booked .credit token added := by rw [booked_append, h.credits]
      _ = Table.sum (paidBack after token) db.reversals + booked .credit token added := by
        rw [reversed_stable hregular hafter hextends h.sourced]
      _ = reversed after token := (hcredits token).symm

/-- A commit that settles nothing. -/
theorem Booked.keep (h : Booked opening db posted) (hregular : Regular db) (hafter : Regular after)
    (hextends : Extends db after) (htransactions : after.transactions = db.transactions)
    (hexecutions : after.executions = db.executions) (hreversals : after.reversals = db.reversals) :
    Booked opening after (posted ++ []) := by
  refine h.post hregular hafter hextends (by rw [htransactions, List.append_nil]) ?_ ?_ ?_
  · refine h.sourced.extend hextends (fun execution hexecution ↦ Or.inl ?_) fun value hvalue ↦ ?_
    · rwa [hexecutions] at hexecution
    · rw [hreversals] at hvalue
      exact h.sourced.reversals value hvalue
  · intro token
    rw [transferred, hexecutions]
    exact (Int.add_zero _).symm
  · intro token
    rw [reversed, hreversals]
    exact (Int.add_zero _).symm

/-- A settled transfer is booked on the account that it was prepared for. -/
theorem Booked.settlement (h : Booked opening db posted) (hregular : Regular db)
    {account : Account} {prepared : PreparedTransfer} {executionId : String}
    (hafter : Regular ((settlementWrites platform call account prepared executionId).apply db))
    (hextends : Extends db ((settlementWrites platform call account prepared executionId).apply db))
    (hstored : ∃ row ∈ db.preparedTransfers, row.terms = prepared.terms)
    (hsource : account.accountToken = prepared.sourceAccountToken) :
    Booked opening ((settlementWrites platform call account prepared executionId).apply db)
      (posted ++ [newDebit call account prepared executionId]) := by
  obtain ⟨row, hrow, hread⟩ := hstored
  obtain ⟨later, hlater, hkept⟩ := hextends.transfers row hrow
  have hterms := hkept.trans hread
  have hpaid : sourceOf _ (newExecution call prepared executionId) = some later.sourceAccountToken :=
    sourceOf_eq hafter.keyed.preparedTransfers hlater (id_of_terms hterms)
  refine h.post hregular hafter hextends rfl ?_ ?_ ?_
  · refine h.sourced.extend hextends (fun execution hexecution ↦ ?_) h.sourced.reversals
    rcases List.mem_append.mp hexecution with hold | hnew
    · exact Or.inl hold
    · rw [List.mem_singleton.mp hnew]
      exact Or.inr ⟨later, hlater, id_of_terms hterms⟩
  · intro token
    have hexecutions : ((settlementWrites platform call account prepared executionId).apply
      db).executions = db.executions ++ [newExecution call prepared executionId] := rfl
    rw [transferred, hexecutions, Table.sum_append, booked_singleton, Table.sum_cons, Table.sum_nil,
      Int.add_zero, paidFrom, hpaid, source_of_terms hterms, ← hsource]
    simp [newDebit, newExecution]
  · intro token
    simp [booked_singleton, newDebit, reversed]
    rfl

/-- A prepared reversal is not booked yet. -/
theorem Booked.reversalPrepared (h : Booked opening db posted) (hregular : Regular db)
    {value : PreparedReversal} {execution : TransferExecution} (hafter : Regular after)
    (hextends : Extends db after) (htransactions : after.transactions = db.transactions)
    (hexecutions : after.executions = db.executions)
    (hreversals : after.reversals = db.reversals ++ [value])
    (hpending : value.status = .reviewRequired) (hexecution : execution ∈ db.executions)
    (htenant : execution.tenantId = value.tenantId)
    (hid : execution.executionId = value.transferExecutionId) : Booked opening after (posted ++ []) := by
  refine h.post hregular hafter hextends (by rw [htransactions, List.append_nil]) ?_ ?_ ?_
  · refine h.sourced.extend hextends (fun execution hexecution ↦ Or.inl ?_) fun value hvalue ↦ ?_
    · rwa [hexecutions] at hexecution
    · rw [hreversals] at hvalue
      rcases List.mem_append.mp hvalue with hold | hnew
      · exact h.sourced.reversals value hold
      · rw [List.mem_singleton.mp hnew]
        exact ⟨execution, hexecution, htenant, hid⟩
  · intro token
    rw [transferred, hexecutions]
    exact (Int.add_zero _).symm
  · intro token
    rw [reversed, hreversals, Table.sum_append]
    simp [paidBack, hpending, booked]

/-- A settled reversal is booked on the account that the transfer was paid from. -/
theorem Booked.reversal (h : Booked opening db posted) (hregular : Regular db) {account : Account}
    {value : PreparedReversal} {execution : TransferExecution} {prepared : PreparedTransfer}
    {approval : String} (hafter : Regular ((reversalWrites call account value approval).apply db))
    (hextends : Extends db ((reversalWrites call account value approval).apply db))
    (hvalue : value ∈ db.reversals) (hpending : value.status = .reviewRequired)
    (hexecution : execution ∈ db.executions) (htenant : execution.tenantId = value.tenantId)
    (hid : execution.executionId = value.transferExecutionId)
    (hprepared : prepared ∈ db.preparedTransfers)
    (haction : prepared.proposedActionId = execution.proposedActionId)
    (hsource : account.accountToken = prepared.sourceAccountToken) :
    Booked opening ((reversalWrites call account value approval).apply db)
      (posted ++ [newCredit call account value]) := by
  have hreversals : ((reversalWrites call account value approval).apply db).reversals =
    Table.replace reversalConstraints.key
      (value.settle approval call.scope.callId (reversalReference call)) db.reversals := rfl
  have hkey : reversalConstraints.key (value.settle approval call.scope.callId
    (reversalReference call)) = reversalConstraints.key value := rfl
  refine h.post hregular hafter hextends rfl ?_ ?_ ?_
  · refine h.sourced.extend hextends (fun _ hold ↦ Or.inl hold) fun row hrow ↦ ?_
    rw [hreversals] at hrow
    rcases Table.mem_replace hrow with rfl | ⟨hold, -⟩
    · exact ⟨execution, hexecution, htenant, hid⟩
    · exact h.sourced.reversals row hold
  · intro token
    simp [booked_singleton, newCredit, transferred]
    rfl
  · intro token
    have htarget : targetOf ((reversalWrites call account value approval).apply db)
        (value.settle approval call.scope.callId (reversalReference call)) =
          some account.accountToken := by
      rw [hsource]
      exact (targetOf_eq hafter.keyed.executions (hextends.executions hexecution) htenant hid).trans
        (sourceOf_eq hregular.keyed.preparedTransfers hprepared haction)
    rw [reversed, hreversals, Table.sum_replace _ hregular.keyed.reversals.keys hvalue hkey,
      booked_singleton, paidBack, paidBack, htarget]
    simp [newCredit, PreparedReversal.settle, hpending]

/-- A commit of rows that are still current books what it settles. -/
theorem Booked.apply (h : Booked opening db posted) (hregular : Regular db)
    (hafter : Regular (writes.apply db)) (hseen : Extends seen db)
    (hmove : Move platform seen call answer writes) (hcurrent : Current seen db writes) :
    ∃ added, Booked opening (writes.apply db) (posted ++ added) := by
  have hextends := extends_commit hregular hseen hmove
  cases hmove with
  | quiet answer writes hquiet =>
    obtain ⟨_, _, _, heq⟩ := hquiet.apply db
    rw [heq] at hafter hextends ⊢
    exact ⟨[], h.keep hregular hafter hextends rfl rfl rfl⟩
  | transferSettled executionId prepared account payee hs =>
    exact ⟨_, h.settlement hregular hafter hextends (hseen.transfers prepared hs.stored) hs.owned.token⟩
  | reversalPrepared executionId amountText reason key amount execution audits hp =>
    obtain ⟨hexecution, htenant, hid⟩ := findExecution_ok hp.found
    exact ⟨[], h.reversalPrepared hregular hafter hextends rfl rfl rfl rfl
      (hseen.executions hexecution) htenant hid⟩
  | reversalSettled approval value execution prepared account hr =>
    obtain ⟨hexecution, htenant, hid⟩ := findExecution_ok hr.found
    obtain ⟨row, hrow, hterms⟩ := hseen.transfers prepared hr.origin
    exact ⟨_, h.reversal hregular hafter hextends
      (hcurrent.reversal _ List.mem_cons_self value hr.stored rfl) hr.pending
      (hseen.executions hexecution) (htenant.trans hr.tenant.symm) hid hrow
      ((id_of_terms hterms).trans hr.action) (hr.owned.token.trans (source_of_terms hterms).symm)⟩
  | _ => exact ⟨[], h.keep hregular hafter hextends rfl rfl rfl⟩

end Settle

/-! ## Whole runs of the pool -/

/-- What stays true of an open session while others commit. -/
structure BankSession.Sound (platform : BankPlatform) (session : BankSession) (db : BankDb) : Prop where
  outcome : session.outcome = serve platform session.seen session.call
  regular : Regular session.seen
  kept : Extends session.seen db

/-- The bookings account for the balances, and the settlements for the bookings. -/
structure Accounted (platform : BankPlatform) (opening : Opening) (world : BankWorld) : Prop where
  regular : Regular world.db
  sessions : ∀ session ∈ world.sessions, session.Sound platform world.db
  posted : ∃ posted, Conserved opening world.db posted ∧ Booked opening world.db posted

section Pool

variable {platform : BankPlatform} {opening : Opening} {world : BankWorld}

/-- The commit of one session. -/
theorem Accounted.commit (h : Accounted platform opening world) {session : BankSession}
    (hsession : session ∈ world.sessions) {answer : BankAnswer} {writes : Writes}
    (houtcome : session.outcome = .ok (answer, some writes)) (haccepted : writes.Accepted world.db)
    (hcurrent : Current session.seen world.db writes) {others : List BankSession}
    (hothers : others ⊆ world.sessions) :
    Accounted platform opening ⟨writes.apply world.db, others⟩ := by
  have hsound := h.sessions session hsession
  have hmove := move_of_serve (hsound.outcome.symm.trans houtcome)
  have hafter := hsound.regular.apply h.regular hmove haccepted
  obtain ⟨posted, hconserved, hbooked⟩ := h.posted
  refine ⟨hafter, fun other hother ↦ ?_, ?_⟩
  · have hold := h.sessions other (hothers hother)
    exact ⟨hold.outcome, hold.regular,
      hold.kept.trans (extends_commit h.regular hsound.kept hmove)⟩
  · obtain ⟨added, hconserved⟩ := hconserved.apply h.regular hmove hcurrent
    obtain ⟨added', hbooked⟩ := hbooked.apply h.regular hafter hsound.kept hmove hcurrent
    have hsame : posted ++ added' = posted ++ added :=
      List.append_cancel_left (hbooked.transactions.symm.trans hconserved.transactions)
    exact ⟨posted ++ added, hconserved, hsame ▸ hbooked⟩

theorem Accounted.step (h : Accounted platform opening world) (input : SessionStep)
    (hundisturbed : ∀ id session, input = .finish id → world.session id = some session →
      session.Undisturbed world.db) :
    Accounted platform opening ((bankPool platform).step world input).2 := by
  have hremove (id : Nat) : world.remove id ⊆ world.sessions := List.filter_subset_self _
  cases input with
  | start id call =>
    simp only [bankPool]
    split
    · exact h
    · refine ⟨h.regular, fun session hsession ↦ ?_, h.posted⟩
      rcases List.mem_append.mp hsession with hold | hnew
      · exact h.sessions session hold
      · rw [List.mem_singleton.mp hnew]
        exact ⟨rfl, h.regular, Extends.refl _⟩
  | finish id =>
    simp only [bankPool]
    cases hfind : world.session id with
    | none => exact h
    | some session =>
      rcases close_cases world.db session.call.refused session.outcome with
        hkeep | ⟨answer, writes, houtcome, hrefused, haccepted, hclose⟩
      · simp only [hkeep]
        exact ⟨h.regular, fun other hother ↦ h.sessions other (hremove id hother), h.posted⟩
      · simp only [hclose]
        exact h.commit (List.mem_of_find?_eq_some hfind) houtcome haccepted
          (hundisturbed id session rfl hfind answer writes houtcome hrefused haccepted) (hremove id)
  | crash id => exact ⟨h.regular, fun other hother ↦ h.sessions other (hremove id hother), h.posted⟩

/-- The balances of an account in terms of what was settled. -/
theorem Accounted.balances (h : Accounted platform opening world) :
    ∀ account ∈ world.db.accounts, ∃ initial ∈ opening.accounts,
      initial.accountToken = account.accountToken ∧
      account.currentBalance = initial.currentBalance - transferred world.db account.accountToken +
        reversed world.db account.accountToken ∧
      0 ≤ initial.availableBalance - transferred world.db account.accountToken -
        activeHolds account.accountToken world.db.holds + reversed world.db account.accountToken := by
  intro account haccount
  obtain ⟨posted, hconserved, hbooked⟩ := h.posted
  obtain ⟨initial, hinitial, hbalanced⟩ := hconserved.accounts account haccount
  have hcurrent := hbalanced.current
  have hreserved := hbalanced.reserved
  have havailable := hbalanced.available
  rw [hbooked.debits, hbooked.credits] at hcurrent
  refine ⟨initial, hinitial, hbalanced.token, ?_, ?_⟩
  · omega
  · omega

end Pool

/-- When every session finds the rows that it writes again as it has read them, no update of a balance
is lost: in every state that the pool reaches, the current balance of an account is its opening balance
without the settled transfers and with the settled reversals, and what transfers and active holds leave
of its opening available balance is not negative. -/
theorem no_lost_update (platform : BankPlatform) (opening : Opening) (steps : List SessionStep)
    (hundisturbed : ∀ e ∈ (bankPool platform).log ⟨opening.db, []⟩ steps, ∀ id session,
      e.input = .finish id → e.before.session id = some session → session.Undisturbed e.before.db) :
    let db := ((bankPool platform).run ⟨opening.db, []⟩ steps).db
    ∀ account ∈ db.accounts, ∃ initial ∈ opening.accounts,
      initial.accountToken = account.accountToken ∧
      account.currentBalance = initial.currentBalance - transferred db account.accountToken +
        reversed db account.accountToken ∧
      0 ≤ initial.availableBalance - transferred db account.accountToken -
        activeHolds account.accountToken db.holds + reversed db account.accountToken := by
  have haccounted : Accounted platform opening ((bankPool platform).run ⟨opening.db, []⟩ steps) := by
    refine (bankPool platform).history_invariant (fun _ world ↦ Accounted platform opening world)
      (fun e ↦ ∀ id session, e.input = .finish id → e.before.session id = some session →
        session.Undisturbed e.before.db) ?_ ?_ steps hundisturbed
    · exact ⟨opening.regular, by simp, [], opening.conserved, opening.booked⟩
    · exact fun _ _ input h hadmitted ↦ h.step input hadmitted
  exact haccounted.balances

/-! ## Sessions one after the other -/

/-- Every call in a session of its own that ends before the next one starts. -/
def serial (calls : List BankCall) : List SessionStep :=
  calls.flatMap fun call ↦ [.start 0 call, .finish 0]

section Serial

variable (platform : BankPlatform) (db : BankDb)

theorem step_start (call : BankCall) :
    ((bankPool platform).step ⟨db, []⟩ (.start 0 call)).2 = ⟨db, [openSession platform db 0 call]⟩ :=
  rfl

theorem step_finish (call : BankCall) :
    ((bankPool platform).step ⟨db, [openSession platform db 0 call]⟩ (.finish 0)).2 =
      ⟨((bank platform).step db call).2, []⟩ :=
  rfl

/-- Such sessions are the bank that serves one call after the other. -/
theorem run_serial (calls : List BankCall) :
    (bankPool platform).run ⟨db, []⟩ (serial calls) = ⟨(bank platform).run db calls, []⟩ := by
  induction calls generalizing db with
  | nil => rfl
  | cons call rest ih =>
    change (bankPool platform).run ((bankPool platform).step ((bankPool platform).step ⟨db, []⟩
      (.start 0 call)).2 (.finish 0)).2 (serial rest) = _
    rw [step_start, step_finish, ih]
    rfl

/-- They do not disturb each other. -/
theorem undisturbed_serial (calls : List BankCall) :
    ∀ e ∈ (bankPool platform).log ⟨db, []⟩ (serial calls), ∀ id session,
      e.input = .finish id → e.before.session id = some session → session.Undisturbed e.before.db := by
  induction calls generalizing db with
  | nil => simp [serial]
  | cons call rest ih =>
    change ∀ e ∈ (bankPool platform).entry ⟨db, []⟩ (.start 0 call) ::
      (bankPool platform).entry ((bankPool platform).step ⟨db, []⟩ (.start 0 call)).2 (.finish 0) ::
      (bankPool platform).log ((bankPool platform).step ((bankPool platform).step ⟨db, []⟩
        (.start 0 call)).2 (.finish 0)).2 (serial rest), _
    rw [step_start, step_finish]
    refine List.forall_mem_cons.mpr ⟨?_, List.forall_mem_cons.mpr ⟨?_, ih _⟩⟩
    · intro id session hinput _
      cases hinput
    · intro id session _ hsession
      have hopen : session = openSession platform db 0 call :=
        List.mem_singleton.mp (List.mem_of_find?_eq_some hsession)
      rw [hopen]
      exact fun _ _ _ _ _ ↦ Current.refl _ _

end Serial

/-- A hold of 30.00 in a session of the small bank. -/
theorem no_lost_update_heldAccount :
    let calls := [sampleCall "1" "bank.holds.place" (.placeHold "acct-1" "30.00" "INR" "hold-1")]
    let db := ((bankPool sampleBank).run ⟨(sampleOpening 15000).db, []⟩ (serial calls)).db
    ∃ account ∈ db.accounts, ∃ initial ∈ (sampleOpening 15000).accounts,
      activeHolds account.accountToken db.holds = 3000 ∧
        account.currentBalance = initial.currentBalance - transferred db account.accountToken +
          reversed db account.accountToken := by
  intro calls db
  have hheld : (db.accounts.any fun row ↦ activeHolds row.accountToken db.holds == 3000) = true := by
    decide +kernel
  obtain ⟨account, haccount, hactive⟩ := List.any_eq_true.mp hheld
  obtain ⟨initial, hinitial, -, hcurrent, -⟩ := no_lost_update sampleBank (sampleOpening 15000)
    (serial calls) (undisturbed_serial sampleBank _ calls) account haccount
  exact ⟨account, haccount, initial, hinitial, beq_iff_eq.mp hactive, hcurrent⟩

/-- Two transfers of 100.00 and 80.00 that are prepared one after the other and executed at once. -/
def overlappingTransfers : List SessionStep :=
  serial
    [sampleCall "1" "bank.transfers.prepare"
        (.prepareTransfer "acct-1" "ben-1" "100.00" "INR" "DEMO_BANK_RAIL" "transfer-1"),
      sampleCall "2" "bank.transfers.prepare"
        (.prepareTransfer "acct-1" "ben-1" "80.00" "INR" "DEMO_BANK_RAIL" "transfer-2")] ++
    [.start 3 (sampleCall "3" "bank.transfers.execute" (.executeTransfer "act_1"
        "1d22fd84ea6bbeca064e19fb6ed5b8548692343b6ca477d34ceb3ac5ae9b6542" "exec-1")),
      .start 4 (sampleCall "4" "bank.transfers.execute" (.executeTransfer "act_2"
        "b0a440813fe3364b64bb15e7afeac3212a87c3b4e4c99972f05aa162a94099bd" "exec-2")),
      .finish 3, .finish 4]

/-- Both settle, and the balance follows the second alone. -/
theorem overlapping_transfers_lose_update :
    let world := (bankPool sampleBank).run ⟨(sampleOpening 50000).db, []⟩ overlappingTransfers
    world.sessions.isEmpty = true ∧ ¬ ∀ account ∈ world.db.accounts,
      ∃ initial ∈ (sampleOpening 50000).accounts, initial.accountToken = account.accountToken ∧
        account.currentBalance = initial.currentBalance - transferred world.db account.accountToken +
          reversed world.db account.accountToken := by
  decide +kernel

end Xyena.Bank
