import Xyena.Bank.Invariant

/-!
# The tools of the bank

`demos/bank-mcp/bank_demo/mcp.py`: every tool checks the signed envelope of its
request for its own name and runs one operation in the signed scope. The envelope
does not carry the arguments, so a signed envelope can be sent again with any
others. Five kinds of operations change the state of the bank, and each of them
leaves the Guardian call id in a row that no later operation touches: an
execution, a hold, the release of a hold, an executed beneficiary change, or a
settled reversal. The unique columns over these rows keep a call id from changing
anything twice.
-/

namespace Xyena.Bank

open Xyena.Foundation Xyena.Contracts

/-! ## Tools -/

/-- The name that the envelope of a request has to carry. -/
def BankOp.toolName : BankOp → String
  | .createConsent .. => "bank.aa.create_consent"
  | .getConsent _ => "bank.aa.get_consent"
  | .revokeConsent _ => "bank.aa.revoke_consent"
  | .fetchInformation .. => "bank.aa.fetch_information"
  | .listAccounts => "bank.accounts.list"
  | .getAccount _ => "bank.accounts.get"
  | .getBalance _ => "bank.accounts.get_balance"
  | .listTransactions .. => "bank.transactions.list"
  | .verifyBeneficiary _ => "bank.beneficiaries.verify"
  | .getLimits _ => "bank.limits.get"
  | .prepareTransfer .. => "bank.transfers.prepare"
  | .executeTransfer .. => "bank.transfers.execute"
  | .transferStatus _ => "bank.transfers.get_status"
  | .placeHold .. => "bank.holds.place"
  | .releaseHold _ => "bank.holds.release"
  | .prepareBeneficiaryChange .. => "bank.beneficiaries.prepare_change"
  | .executeBeneficiaryChange .. => "bank.beneficiaries.execute_change"
  | .prepareReversal .. => "bank.reversals.prepare"
  | .executeReversal .. => "bank.reversals.execute"

/-- A request to a tool: the meta data that it came with and the arguments. -/
structure BankRequest where
  requestMeta : Option Dict
  op : BankOp
  clock : Clock
  draws : Draws
  refused : Bool := false

def BankRequest.call (request : BankRequest) (scope : RuntimeScope) : BankCall where
  scope := scope
  op := request.op
  clock := request.clock
  draws := request.draws
  refused := request.refused

/-- The scope in which a tool serves the request. -/
def BankRequest.scope (platform : BankPlatform) (request : BankRequest) :
    Except BankError RuntimeScope :=
  verifyRuntimeScope platform.toServerPlatform request.requestMeta request.op.toolName

/-- The tools, one request after the other. -/
def bankTools (platform : BankPlatform) :
    Machine BankDb BankRequest (Except BankError BankAnswer) where
  step db request :=
    match request.scope platform with
    | .error failure => (.error failure, db)
    | .ok scope => (bank platform).step db (request.call scope)

/-! ## Changes -/

/-- The ways in which a Guardian call changes the state of the bank. -/
inductive ChangeKind where
  | transferSettled
  | holdPlaced
  | holdReleased
  | beneficiaryChanged
  | reversalSettled
deriving DecidableEq, Repr

def ChangeKind.all : List ChangeKind :=
  [.transferSettled, .holdPlaced, .holdReleased, .beneficiaryChanged, .reversalSettled]

def ChangeKind.toolName : ChangeKind → String
  | .transferSettled => "bank.transfers.execute"
  | .holdPlaced => "bank.holds.place"
  | .holdReleased => "bank.holds.release"
  | .beneficiaryChanged => "bank.beneficiaries.execute_change"
  | .reversalSettled => "bank.reversals.execute"

/-- What was changed so far in one of the ways, by its identifier. -/
def BankDb.changed (db : BankDb) : ChangeKind → List String
  | .transferSettled => db.executions.map TransferExecution.id
  | .holdPlaced => db.holds.map AccountHold.holdId
  | .holdReleased =>
    (db.holds.filter fun row ↦ row.status == .released).map AccountHold.holdId
  | .beneficiaryChanged => (db.beneficiaryChanges.filter fun row ↦ row.status == .executed).map
      PreparedBeneficiaryChange.changeId
  | .reversalSettled => (db.reversals.filter fun row ↦ row.status == .settled).map
      PreparedReversal.reversalId

/-- The changes of one kind between two states. -/
def newChanges (before after : BankDb) (kind : ChangeKind) : List (ChangeKind × String) :=
  ((after.changed kind).filter fun id ↦ decide (id ∉ before.changed kind)).map (kind, ·)

/-- All changes between two states. -/
def allChanges (before after : BankDb) : List (ChangeKind × String) :=
  ChangeKind.all.flatMap (newChanges before after)

/-- One served request of a run. -/
abbrev RequestEntry := Entry BankDb BankRequest (Except BankError BankAnswer)

/-- The changes that the requests with one Guardian call id have made. -/
def changesOf (platform : BankPlatform) (history : List RequestEntry) (callId : String) :
    List (ChangeKind × String) :=
  (history.filter fun e ↦ (e.input.scope platform).toOption.any (·.callId == callId)).flatMap
    fun e ↦ allChanges e.before e.after

/-- Accepted envelopes with one call id belong to one call: they name one tenant and one tool. -/
def NamedOnce (platform : BankPlatform) (requests : List BankRequest) : Prop :=
  ∀ first ∈ requests, ∀ second ∈ requests, ∀ scope scope',
    first.scope platform = .ok scope → second.scope platform = .ok scope' →
    scope.callId = scope'.callId →
      scope.tenantId = scope'.tenantId ∧ scope.canonicalName = scope'.canonicalName

theorem toolName_injective : Function.Injective ChangeKind.toolName := by
  intro first second h
  cases first <;> cases second <;> first | rfl | exact absurd h (by decide)

/-- An accepted envelope names the tool that has accepted it. -/
theorem canonicalName_of_scope {platform : BankPlatform} {request : BankRequest} {scope : RuntimeScope}
    (h : request.scope platform = .ok scope) : scope.canonicalName = request.op.toolName := by
  obtain ⟨envelope, -, hcheck⟩ := Session.bind_ok.mp h
  obtain ⟨-, hname, -, -, -, -, rfl⟩ := checkEnvelope_ok.mp hcheck
  unfold Gateway.holdsText at hname
  split at hname
  next value hvalue =>
    rw [beq_iff_eq.mp hname] at hvalue
    simp [scopeOf, Gateway.ServerPlatform.textOf, hvalue, Json.text]
  · cases hname

theorem tools_step_cases (platform : BankPlatform) (db : BankDb) (request : BankRequest) :
    ((bankTools platform).step db request).2 = db ∨
      ∃ scope answer writes, request.scope platform = .ok scope ∧
        Move platform db (request.call scope) answer writes ∧ writes.Accepted db ∧
        ((bankTools platform).step db request).2 = writes.apply db := by
  simp only [bankTools]
  cases hscope : request.scope platform with
  | error failure => exact Or.inl rfl
  | ok scope =>
    rcases step_cases platform db (request.call scope) with
      hkeep | ⟨answer, writes, hmove, haccepted, hstep⟩
    · exact Or.inl hkeep
    · exact Or.inr ⟨scope, answer, writes, rfl, hmove, haccepted, congrArg Prod.snd hstep⟩

/-! ## Marks -/

/-- A row that is still to be released, executed or settled carries no call id. -/
structure Stamped (db : BankDb) : Prop where
  holds : ∀ row ∈ db.holds, row.status = .active → row.releaseGuardianCallId = none
  changes : ∀ row ∈ db.beneficiaryChanges, row.status = .readyForGuardian → row.guardianCallId = none
  reversals : ∀ row ∈ db.reversals, row.status = .reviewRequired → row.guardianCallId = none

/-- The call id that a change of a kind leaves in the tables. -/
def Marked (db : BankDb) (tenantId callId : String) : ChangeKind → Prop
  | .transferSettled => ∃ row ∈ db.executions, row.tenantId = tenantId ∧ row.guardianCallId = callId
  | .holdPlaced => ∃ row ∈ db.holds, row.tenantId = tenantId ∧ row.guardianCallId = callId
  | .holdReleased => ∃ row ∈ db.holds, row.releaseGuardianCallId = some callId
  | .beneficiaryChanged => ∃ row ∈ db.beneficiaryChanges, row.guardianCallId = some callId
  | .reversalSettled => ∃ row ∈ db.reversals, row.guardianCallId = some callId

section Commit

variable {platform : BankPlatform} {db : BankDb} {call : BankCall} {answer : BankAnswer}
  {writes : Writes}

theorem Stamped.apply (h : Stamped db) (hmove : Move platform db call answer writes)
    (haccepted : writes.Accepted db) : Stamped (writes.apply db) := by
  constructor
  · cases hmove with
    | quiet answer writes hquiet =>
      obtain ⟨_, _, _, heq⟩ := hquiet.apply db
      rw [heq]
      exact h.holds
    | holdPlaced token amountText currency key amount account events audits hp =>
      exact RowWrite.forall_written h.holds haccepted.holds fun _ ↦ rfl
    | holdReleased value account now events audits hr =>
      exact RowWrite.forall_written h.holds haccepted.holds nofun
    | _ => exact h.holds
  · cases hmove with
    | quiet answer writes hquiet =>
      obtain ⟨_, _, _, heq⟩ := hquiet.apply db
      rw [heq]
      exact h.changes
    | changePrepared value audits hready hcall =>
      exact RowWrite.forall_written h.changes haccepted.beneficiaryChanges fun _ ↦ hcall
    | changeExecuted value write events audits hc =>
      exact RowWrite.forall_written h.changes haccepted.beneficiaryChanges nofun
    | _ => exact h.changes
  · cases hmove with
    | quiet answer writes hquiet =>
      obtain ⟨_, _, _, heq⟩ := hquiet.apply db
      rw [heq]
      exact h.reversals
    | reversalPrepared executionId amountText reason key amount execution audits hp =>
      exact RowWrite.forall_written h.reversals haccepted.reversals fun _ ↦ rfl
    | reversalSettled approval value execution prepared account hr =>
      exact RowWrite.forall_written h.reversals haccepted.reversals nofun
    | _ => exact h.reversals

/-- No commit takes a mark away. -/
theorem Marked.apply {tenantId callId : String} {kind : ChangeKind} (h : Marked db tenantId callId kind)
    (hregular : Regular db) (hstamped : Stamped db) (hmove : Move platform db call answer writes) :
    Marked (writes.apply db) tenantId callId kind := by
  have happend {Row : Type} {rows added : List Row} {P : Row → Prop} (h : ∃ row ∈ rows, P row) :
      ∃ row ∈ rows ++ added, P row := by
    obtain ⟨row, hrow, hP⟩ := h
    exact ⟨row, List.mem_append_left _ hrow, hP⟩
  cases hmove with
  | quiet answer writes hquiet =>
    obtain ⟨_, _, _, heq⟩ := hquiet.apply db
    rw [heq]
    cases kind <;> exact h
  | transferSettled executionId prepared account payee hs =>
    cases kind with
    | transferSettled => exact happend h
    | _ => exact h
  | holdPlaced token amountText currency key amount account events audits hp =>
    cases kind with
    | holdPlaced => exact happend h
    | holdReleased => exact happend h
    | _ => exact h
  | holdReleased value account now events audits hr =>
    cases kind with
    | holdPlaced => exact Table.exists_replace _ hregular.keyed.holds.keys hr.stored rfl id h
    | holdReleased =>
      refine Table.exists_replace _ hregular.keyed.holds.keys hr.stored rfl (fun hmark ↦ ?_) h
      cases (hstamped.holds value hr.stored hr.active).symm.trans hmark
    | _ => exact h
  | changePrepared value audits hready hcall =>
    cases kind with
    | beneficiaryChanged => exact happend h
    | _ => exact h
  | changeExecuted value write events audits hc =>
    cases kind with
    | beneficiaryChanged =>
      refine Table.exists_replace _ hregular.keyed.beneficiaryChanges.keys hc.stored rfl (fun hmark ↦ ?_) h
      cases (hstamped.changes value hc.stored hc.ready).symm.trans hmark
    | _ => exact h
  | reversalPrepared executionId amountText reason key amount execution audits hp =>
    cases kind with
    | reversalSettled => exact happend h
    | _ => exact h
  | reversalSettled approval value execution prepared account hr =>
    cases kind with
    | reversalSettled =>
      refine Table.exists_replace _ hregular.keyed.reversals.keys hr.stored rfl (fun hmark ↦ ?_) h
      cases (hstamped.reversals value hr.stored hr.pending).symm.trans hmark
    | _ => exact h
  | _ => cases kind <;> exact h

/-- Updating a row whose call id was not set: the unique column shows that no row has the id yet. -/
theorem unset_of_update {Row : Type} {constraints : Constraints Row String} {rows : List Row}
    {column : Row → Option String} {read changed : Row} {callId : String}
    (hkeys : constraints.Meets rows) (hread : read ∈ rows)
    (hkey : constraints.key changed = constraints.key read) (hunset : column read = none)
    (hfree : ∀ old ∈ rows, constraints.key changed ≠ constraints.key old → column old ≠ some callId) :
    ¬ ∃ row ∈ rows, column row = some callId := by
  rintro ⟨row, hrow, hset⟩
  by_cases hsame : constraints.key changed = constraints.key row
  · obtain rfl := Table.eq_of_key hkeys.keys hread hrow (hkey.symm.trans hsame)
    cases hunset.symm.trans hset
  · exact hfree row hrow hsame hset

/-- The two states differ in at most one change of one kind. -/
structure OneChange (before after : BankDb) (kind : ChangeKind) (id : String) : Prop where
  others : ∀ other, other ≠ kind → after.changed other = before.changed other
  single : ∀ item ∈ after.changed kind, item ∉ before.changed kind → item = id

/-- A row that is added, or marked as done, is the only new one. -/
theorem new_of_append {Row : Type} {key : Row → String} {rows : List Row} {row : Row} {item : String}
    (h : item ∈ (rows ++ [row]).map key) (hnew : item ∉ rows.map key) : item = key row := by
  rw [List.map_append, List.map_singleton] at h
  rcases List.mem_append.mp h with hold | hlast
  · exact absurd hold hnew
  · exact List.mem_singleton.mp hlast

theorem new_of_replace {Row : Type} {key : Row → String} {done : Row → Bool} {rows : List Row}
    {changed : Row} {item : String} (h : item ∈ ((Table.replace key changed rows).filter done).map key)
    (hnew : item ∉ (rows.filter done).map key) : item = key changed := by
  obtain ⟨row, hrow, rfl⟩ := List.mem_map.mp h
  obtain ⟨hmem, hdone⟩ := List.mem_filter.mp hrow
  rcases Table.mem_replace hmem with rfl | ⟨hold, -⟩
  · rfl
  · exact absurd (List.mem_map_of_mem (List.mem_filter.mpr ⟨hold, hdone⟩)) hnew

/-- A commit changes nothing in the five ways, or makes one change that its tool is for, with a call id
that had made none of that kind and is marked now. -/
theorem change_of_move (hregular : Regular db) (hstamped : Stamped db)
    (hmove : Move platform db call answer writes) (haccepted : writes.Accepted db) :
    (∀ kind, (writes.apply db).changed kind = db.changed kind) ∨
      ∃ kind id, call.op.toolName = kind.toolName ∧ OneChange db (writes.apply db) kind id ∧
        ¬ Marked db call.scope.tenantId call.scope.callId kind ∧
        Marked (writes.apply db) call.scope.tenantId call.scope.callId kind := by
  cases hmove with
  | quiet answer writes hquiet =>
    obtain ⟨_, _, _, heq⟩ := hquiet.apply db
    rw [heq]
    exact Or.inl fun kind ↦ by cases kind <;> rfl
  | transferSettled executionId prepared account payee hs =>
    refine Or.inr ⟨.transferSettled, _, by rw [hs.op]; rfl, ⟨?_, fun _ ↦ new_of_append⟩, ?_, ?_⟩
    · intro other hother
      cases other with
      | transferSettled => exact absurd rfl hother
      | _ => rfl
    · -- the operation looks the call id up itself
      rintro ⟨row, hrow, htenant, hcall⟩
      exact hs.callId row hrow htenant hcall
    · exact ⟨_, List.mem_append_right _ List.mem_cons_self, rfl, rfl⟩
  | holdPlaced token amountText currency key amount account events audits hp =>
    refine Or.inr ⟨.holdPlaced, _, by rw [hp.op]; rfl, ⟨?_, fun _ ↦ new_of_append⟩, ?_, ?_⟩
    · intro other hother
      cases other with
      | holdPlaced => exact absurd rfl hother
      | holdReleased => simp [BankDb.changed, Writes.apply, RowWrite.apply, newHold]
      | _ => rfl
    · -- only the unique column of the tenant refuses a second hold
      rintro ⟨row, hrow, htenant, hcall⟩
      have hfree := (RowWrite.accepted_insert.mp
        (RowWrite.accepted_of_singleton haccepted.holds) row hrow).2
      simp only [holdConstraints, Bool.or_eq_false_iff, tenantClash_eq_false] at hfree
      exact hfree.1.2 htenant.symm hcall.symm
    · exact ⟨_, List.mem_append_right _ List.mem_cons_self, rfl, rfl⟩
  | holdReleased value account now events audits hr =>
    refine Or.inr ⟨.holdReleased, _, by rw [hr.op]; rfl, ⟨?_, fun _ ↦ new_of_replace⟩, ?_, ?_⟩
    · intro other hother
      cases other with
      | holdPlaced => exact Table.map_key_replace _ _ _
      | holdReleased => exact absurd rfl hother
      | _ => rfl
    · -- the hold is active, so its own call id is not set; other holds meet the unique column
      refine unset_of_update hregular.keyed.holds hr.stored rfl
        (hstamped.holds value hr.stored hr.active) fun old hold hne ↦ ?_
      have hfree := RowWrite.accepted_update.mp
        (RowWrite.accepted_of_singleton haccepted.holds) old hold hne
      simp only [holdConstraints, Bool.or_eq_false_iff, optionalClash_eq_false] at hfree
      exact hfree.2 _ rfl
    · exact ⟨_, Table.changed_mem_replace hr.stored rfl, rfl⟩
  | changePrepared value audits hready hcall =>
    refine Or.inl fun kind ↦ ?_
    cases kind with
    | beneficiaryChanged => simp [BankDb.changed, Writes.apply, RowWrite.apply, hready]
    | _ => rfl
  | changeExecuted value write events audits hc =>
    refine Or.inr ⟨.beneficiaryChanged, _, by rw [hc.op]; rfl, ⟨?_, fun _ ↦ new_of_replace⟩, ?_, ?_⟩
    · intro other hother
      cases other with
      | beneficiaryChanged => exact absurd rfl hother
      | _ => rfl
    · refine unset_of_update hregular.keyed.beneficiaryChanges hc.stored rfl
        (hstamped.changes value hc.stored hc.ready) fun old hold hne ↦ ?_
      have hfree := RowWrite.accepted_update.mp
        (RowWrite.accepted_of_singleton haccepted.beneficiaryChanges) old hold hne
      simp only [changeConstraints, Bool.or_eq_false_iff, optionalClash_eq_false] at hfree
      exact hfree.2 _ rfl
    · exact ⟨_, Table.changed_mem_replace hc.stored rfl, rfl⟩
  | reversalPrepared executionId amountText reason key amount execution audits hp =>
    refine Or.inl fun kind ↦ ?_
    cases kind with
    | reversalSettled => simp [BankDb.changed, Writes.apply, RowWrite.apply, newReversal]
    | _ => rfl
  | reversalSettled approval value execution prepared account hr =>
    refine Or.inr ⟨.reversalSettled, _, by rw [hr.op]; rfl, ⟨?_, fun _ ↦ new_of_replace⟩, ?_, ?_⟩
    · intro other hother
      cases other with
      | reversalSettled => exact absurd rfl hother
      | _ => rfl
    · refine unset_of_update hregular.keyed.reversals hr.stored rfl
        (hstamped.reversals value hr.stored hr.pending) fun old hold hne ↦ ?_
      have hfree := RowWrite.accepted_update.mp
        (RowWrite.accepted_of_singleton haccepted.reversals) old hold hne
      simp only [reversalConstraints, Bool.or_eq_false_iff, optionalClash_eq_false] at hfree
      exact hfree.1.2 _ rfl
    · exact ⟨_, Table.changed_mem_replace hr.stored rfl, rfl⟩
  | _ => exact Or.inl fun kind ↦ by cases kind <;> rfl

end Commit

/-! ## Counting changes -/

section Count

variable {before after : BankDb}

theorem newChanges_of_eq {kind : ChangeKind} (h : after.changed kind = before.changed kind) :
    newChanges before after kind = [] := by
  simp [newChanges, h]

theorem allChanges_of_eq (h : ∀ kind, after.changed kind = before.changed kind) :
    allChanges before after = [] := by
  simp [allChanges, fun kind ↦ newChanges_of_eq (h kind)]

theorem OneChange.allChanges_eq {kind : ChangeKind} {id : String} (h : OneChange before after kind id) :
    allChanges before after = newChanges before after kind := by
  have hothers (other : ChangeKind) (hother : other ≠ kind) : newChanges before after other = [] :=
    newChanges_of_eq (h.others other hother)
  cases kind <;> simp [allChanges, ChangeKind.all, hothers]

/-- The identifiers of the changes are keys of their tables. -/
theorem nodup_changed {db : BankDb} (h : Regular db) (kind : ChangeKind) : (db.changed kind).Nodup := by
  cases kind with
  | transferSettled => exact h.keyed.executions.keys
  | holdPlaced => exact h.keyed.holds.keys
  | holdReleased => exact h.keyed.holds.keys.sublist (List.filter_sublist.map _)
  | beneficiaryChanged => exact h.keyed.beneficiaryChanges.keys.sublist (List.filter_sublist.map _)
  | reversalSettled => exact h.keyed.reversals.keys.sublist (List.filter_sublist.map _)

theorem OneChange.length_le_one {kind : ChangeKind} {id : String} (h : OneChange before after kind id)
    (hafter : Regular after) : (allChanges before after).length ≤ 1 := by
  rw [h.allChanges_eq, newChanges, List.length_map]
  have hnodup := (nodup_changed hafter kind).filter fun item ↦ decide (item ∉ before.changed kind)
  have hsame (item : String)
      (hitem : item ∈ (after.changed kind).filter fun item ↦ decide (item ∉ before.changed kind)) :
      item = id := by
    obtain ⟨hmem, hnew⟩ := List.mem_filter.mp hitem
    exact h.single item hmem (of_decide_eq_true hnew)
  refine Table.length_le_one (hnodup.map Function.injective_id) fun first hfirst second hsecond ↦ ?_
  rw [hsame first hfirst, hsame second hsecond]

/-- The kind of a change that was made is the one of the step. -/
theorem OneChange.kind_eq {kind : ChangeKind} {id : String} (h : OneChange before after kind id)
    {change : ChangeKind × String} (hchange : change ∈ allChanges before after) : change.1 = kind := by
  rw [h.allChanges_eq] at hchange
  obtain ⟨item, -, rfl⟩ := List.mem_map.mp hchange
  rfl

end Count

/-! ## Whole runs -/

/-- What the requests of a run have left behind: every change is marked with its call id, its tool is
for changes of its kind, and no call id has made two. -/
structure Counted (platform : BankPlatform) (requests : List BankRequest) (history : List RequestEntry)
    (db : BankDb) : Prop where
  regular : Regular db
  stamped : Stamped db
  inputs : ∀ e ∈ history, e.input ∈ requests
  marked : ∀ e ∈ history, ∀ scope, e.input.scope platform = .ok scope →
    ∀ change ∈ allChanges e.before e.after,
      e.input.op.toolName = change.1.toolName ∧ Marked db scope.tenantId scope.callId change.1
  once : ∀ callId, (changesOf platform history callId).length ≤ 1

section Runs

variable {platform : BankPlatform} {requests : List BankRequest} {history : List RequestEntry}
  {db : BankDb}

theorem changesOf_snoc (history : List RequestEntry) (e : RequestEntry) (callId : String) :
    changesOf platform (history ++ [e]) callId = changesOf platform history callId ++
      if (e.input.scope platform).toOption.any (·.callId == callId) then allChanges e.before e.after
      else [] := by
  rw [changesOf, List.filter_append, List.flatMap_append, changesOf]
  congr 1
  split
  next hcall => simp [hcall]
  next hcall => simp [hcall]

/-- One more entry whose changes are marked and make no second one for its call id. -/
theorem Counted.record (h : Counted platform requests history db) {e : RequestEntry}
    (hinput : e.input ∈ requests) {after : BankDb} (hafter : Regular after) (hstamped : Stamped after)
    (hmarked : ∀ tenantId callId kind, Marked db tenantId callId kind → Marked after tenantId callId kind)
    (hnew : ∀ scope, e.input.scope platform = .ok scope → ∀ change ∈ allChanges e.before e.after,
      e.input.op.toolName = change.1.toolName ∧ Marked after scope.tenantId scope.callId change.1)
    (honce : ∀ callId, (e.input.scope platform).toOption.any (·.callId == callId) = true →
      (changesOf platform history callId ++ allChanges e.before e.after).length ≤ 1) :
    Counted platform requests (history ++ [e]) after := by
  refine ⟨hafter, hstamped, ?_, ?_, ?_⟩
  · intro other hother
    rcases List.mem_append.mp hother with hold | hlast
    · exact h.inputs other hold
    · rw [List.mem_singleton.mp hlast]
      exact hinput
  · intro other hother scope hscope change hchange
    rcases List.mem_append.mp hother with hold | hlast
    · obtain ⟨htool, hmark⟩ := h.marked other hold scope hscope change hchange
      exact ⟨htool, hmarked _ _ _ hmark⟩
    · rw [List.mem_singleton.mp hlast] at hscope hchange ⊢
      exact hnew scope hscope change hchange
  · intro callId
    rw [changesOf_snoc]
    split
    next hcall => exact honce callId hcall
    · rw [List.append_nil]
      exact h.once callId

/-- A request that changes nothing. -/
theorem Counted.keep (h : Counted platform requests history db) {e : RequestEntry}
    (hinput : e.input ∈ requests) {after : BankDb} (hafter : Regular after) (hstamped : Stamped after)
    (hmarked : ∀ tenantId callId kind, Marked db tenantId callId kind → Marked after tenantId callId kind)
    (hnone : allChanges e.before e.after = []) :
    Counted platform requests (history ++ [e]) after := by
  refine h.record hinput hafter hstamped hmarked (fun scope _ change hchange ↦ ?_) fun callId _ ↦ ?_
  · rw [hnone] at hchange
    cases hchange
  · rw [hnone, List.append_nil]
    exact h.once callId

/-- A call id whose kind of change is not marked has made no change at all. -/
theorem Counted.changesOf_eq_nil (h : Counted platform requests history db)
    (hnamed : NamedOnce platform requests) {request : BankRequest} (hrequest : request ∈ requests)
    {scope : RuntimeScope} (hscope : request.scope platform = .ok scope) {kind : ChangeKind}
    (htool : request.op.toolName = kind.toolName)
    (hunmarked : ¬ Marked db scope.tenantId scope.callId kind) :
    changesOf platform history scope.callId = [] := by
  rw [changesOf, List.flatMap_eq_nil_iff]
  intro e he
  obtain ⟨hmem, hcall⟩ := List.mem_filter.mp he
  rw [List.eq_nil_iff_forall_not_mem]
  intro change hchange
  cases hearlier : e.input.scope platform with
  | error failure =>
    rw [hearlier] at hcall
    cases hcall
  | ok earlier =>
    rw [hearlier] at hcall
    have hid : earlier.callId = scope.callId := beq_iff_eq.mp hcall
    obtain ⟨hkind, hmark⟩ := h.marked e hmem earlier hearlier change hchange
    obtain ⟨htenant, hname⟩ := hnamed e.input (h.inputs e hmem) request hrequest earlier scope
      hearlier hscope hid
    rw [canonicalName_of_scope hearlier, canonicalName_of_scope hscope, hkind, htool] at hname
    rw [htenant, hid, toolName_injective hname] at hmark
    exact hunmarked hmark

theorem Counted.step (h : Counted platform requests history db) (hnamed : NamedOnce platform requests)
    {request : BankRequest} (hrequest : request ∈ requests) :
    Counted platform requests (history ++ [(bankTools platform).entry db request])
      ((bankTools platform).step db request).2 := by
  rcases tools_step_cases platform db request with
    hkeep | ⟨scope, answer, writes, hscope, hmove, haccepted, hstep⟩
  · rw [hkeep]
    refine h.keep hrequest h.regular h.stamped (fun _ _ _ hmark ↦ hmark) (allChanges_of_eq fun kind ↦ ?_)
    exact congrArg (BankDb.changed · kind) hkeep
  · have hregular := h.regular.apply h.regular hmove haccepted
    have hstamped := h.stamped.apply hmove haccepted
    have hkept (tenantId callId : String) (kind : ChangeKind) (hmark : Marked db tenantId callId kind) :
        Marked (writes.apply db) tenantId callId kind :=
      hmark.apply h.regular h.stamped hmove
    have hafter : ((bankTools platform).entry db request).after = writes.apply db := hstep
    rw [hstep]
    rcases change_of_move h.regular h.stamped hmove haccepted with
      hsame | ⟨kind, id, htool, hchange, hunmarked, hmark⟩
    · refine h.keep hrequest hregular hstamped hkept (allChanges_of_eq fun kind ↦ ?_)
      rw [hafter]
      exact hsame kind
    · have hentry : allChanges ((bankTools platform).entry db request).before
          ((bankTools platform).entry db request).after = allChanges db (writes.apply db) := by
        rw [hafter]
        rfl
      refine h.record hrequest hregular hstamped hkept (fun scope' hscope' change hmade ↦ ?_)
        fun callId hcall ↦ ?_
      · rw [hentry] at hmade
        rw [hchange.kind_eq hmade, ← Except.ok.inj (hscope.symm.trans hscope')]
        exact ⟨htool, hmark⟩
      · have hid : (request.scope platform).toOption.any (·.callId == callId) = true := hcall
        rw [hscope] at hid
        obtain rfl : scope.callId = callId := beq_iff_eq.mp hid
        rw [h.changesOf_eq_nil hnamed hrequest hscope htool hunmarked, List.nil_append, hentry]
        exact hchange.length_le_one hregular

end Runs

/-- In every run of the tools, however signed envelopes are sent again and with whatever arguments, the
requests with one Guardian call id make at most one change: they settle one transfer, place one hold,
release one hold, execute one beneficiary change or settle one reversal. -/
theorem one_change_per_call (platform : BankPlatform) (opening : Opening) (requests : List BankRequest)
    (hnamed : NamedOnce platform requests) (callId : String) :
    (changesOf platform ((bankTools platform).log opening.db requests) callId).length ≤ 1 := by
  have hcounted : Counted platform requests ((bankTools platform).log opening.db requests)
      ((bankTools platform).run opening.db requests) := by
    refine (bankTools platform).history_invariant (Counted platform requests)
      (fun e ↦ e.input ∈ requests) ?_ ?_ requests fun e he ↦ (bankTools platform).input_mem he
    · refine ⟨opening.regular, ⟨?_, ?_, ?_⟩, ?_, ?_, ?_⟩
      · simp [Opening.db]
      · simp [Opening.db]
      · simp [Opening.db]
      · simp
      · simp
      · simp [changesOf]
    · exact fun _ _ _ h hrequest ↦ h.step hnamed hrequest
  exact hcounted.once callId

/-! ## An envelope that is sent twice -/

/-- The envelope of a call that places a hold. -/
def holdEnvelope : Dict :=
  [("tenant_id", .str "tenant-1"), ("organization_id", .str "org-1"), ("user_id", .str "user-1"),
    ("session_id", .str "session-1"), ("run_id", .str "run-1"), ("call_id", .str "call-1"),
    ("correlation_id", .str "correlation-1"), ("agent_name", .str "payments-agent"),
    ("canonical_name", .str "bank.holds.place"), ("purpose", .str "invoice"),
    ("request_hash", .str "request-1"), ("guardian_decision_id", .str "decision-1"),
    ("authorization_id", .str "authorization-1"), ("authorization_consumed", .bool true)]

/-- The envelope as it is signed. -/
def holdEnvelopeText : String :=
  "\x7b\"agent_name\":\"payments-agent\",\"authorization_consumed\":true," ++
    "\"authorization_id\":\"authorization-1\",\"call_id\":\"call-1\"," ++
    "\"canonical_name\":\"bank.holds.place\",\"correlation_id\":\"correlation-1\"," ++
    "\"guardian_decision_id\":\"decision-1\",\"organization_id\":\"org-1\",\"purpose\":\"invoice\"," ++
    "\"request_hash\":\"request-1\",\"run_id\":\"run-1\",\"session_id\":\"session-1\"," ++
    "\"tenant_id\":\"tenant-1\",\"user_id\":\"user-1\"\x7d"

def holdSignature : String := "c27b5e1a59c256fd8aae3ed6801a98edc91ecd603d98315b7c2358091b92f4aa"

/-- The small bank with the digest of the envelope. -/
def signedBank : BankPlatform :=
  { sampleBank with
    hmac := fun secret text ↦
      if text = holdEnvelopeText then holdSignature else text ++ " under " ++ secret }

/-- A request to place a hold with the signed envelope. -/
def holdRequest (label amount : String) : BankRequest where
  requestMeta := some [("ai.xyena/runtime", .obj holdEnvelope), ("ai.xyena/signature", .str holdSignature),
    ("ai.xyena/signature-algorithm", .str "hmac-sha256")]
  op := .placeHold "acct-1" amount "INR" ("hold-" ++ label)
  clock := { now := fun _ ↦ 0, today := fun _ ↦ 20000 }
  draws := { token := label, journal := label, reference := label
             rowId := fun k ↦ label ++ "-" ++ toString k }

/-- The envelope is sent again for another hold, and only the first one is placed. -/
theorem one_change_per_call_replayedHold :
    let requests := [holdRequest "1" "30.00", holdRequest "2" "40.00"]
    let changes := changesOf signedBank
      ((bankTools signedBank).log (sampleOpening 15000).db requests) "call-1"
    (.holdPlaced, "hold_1") ∈ changes ∧ changes.length ≤ 1 := by
  intro requests changes
  have hplaced : changes.contains (.holdPlaced, "hold_1") = true := by decide +kernel
  refine ⟨List.contains_iff_mem.mp hplaced,
    one_change_per_call signedBank (sampleOpening 15000) requests ?_ "call-1"⟩
  have hsame : ∀ request ∈ requests, request.scope signedBank = (holdRequest "1" "30.00").scope signedBank :=
    List.forall_mem_cons.mpr ⟨rfl, List.forall_mem_cons.mpr ⟨rfl, by simp⟩⟩
  intro first hfirst second hsecond scope scope' hscope hscope' _
  rw [hsame first hfirst] at hscope
  rw [hsame second hsecond] at hscope'
  obtain rfl := Except.ok.inj (hscope.symm.trans hscope')
  exact ⟨rfl, rfl⟩

end Xyena.Bank
