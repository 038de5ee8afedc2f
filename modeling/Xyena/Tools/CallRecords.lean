import Xyena.Tools.BrokerSpec

/-!
# The records of the calls

In every state that the tool platform reaches, the attempts and results of a
call are those that its status asks for, and no two calls share an idempotency
key. One lemma says what a commit does to the records of each call; the
invariant of whole runs follows from it.
-/

namespace Xyena.Tools

open Xyena.Foundation Xyena.Contracts Xyena.Audit Xyena.Gateway

/-! ## Records of one call -/

/-- The statuses of a call that has been made. -/
def isFinal : ToolCallStatus → Bool
  | .succeeded => true
  | .failed => true
  | .unknown => true
  | _ => false

/-- The attempts and results of a call with a status. -/
inductive Filed : ToolCallStatus → List MCPCallAttempt → List MCPToolResult → Prop
  | waiting : Filed .waitingApproval [] []
  | blocked (result : MCPToolResult) (hresult : result.status = .blocked) :
      Filed .blocked [] [result]
  | final {status : ToolCallStatus} (hfinal : isFinal status = true) (attempt : MCPCallAttempt)
      (result : MCPToolResult) (hattempt : attempt.status = status)
      (hresult : result.status = status) : Filed status [attempt] [result]

def ToolDb.attemptsOf (db : ToolDb) (callId : Uuid) : List MCPCallAttempt :=
  db.attempts.filter fun attempt ↦ attempt.callId == callId

def ToolDb.resultsOf (db : ToolDb) (callId : Uuid) : List MCPToolResult :=
  db.results.filter fun result ↦ result.callId == callId

/-- Two calls under one idempotency key of a tenant and a tool version. -/
def MCPToolCall.SameKey (first second : MCPToolCall) : Prop :=
  first.tenantId = second.tenantId ∧ first.toolVersionId = second.toolVersionId ∧
    first.idempotencyKey = second.idempotencyKey ∧ truthy first.idempotencyKey = true

structure Ledger (db : ToolDb) : Prop where
  ids : (db.calls.map MCPToolCall.id).Nodup
  attemptCalls : ∀ attempt ∈ db.attempts, ∃ call ∈ db.calls, call.id = attempt.callId
  resultCalls : ∀ result ∈ db.results, ∃ call ∈ db.calls, call.id = result.callId
  filed : ∀ call ∈ db.calls, Filed call.status (db.attemptsOf call.id) (db.resultsOf call.id)
  safe : ∀ result ∈ db.results, bareScalar result.modelProjection = false

/-- No two calls share an idempotency key. -/
def KeysUnique (db : ToolDb) : Prop :=
  ∀ first ∈ db.calls, ∀ second ∈ db.calls, first.SameKey second → first.id = second.id

/-! ## Commits -/

/-- The records of a transaction are those of its call. -/
structure Writes.WellFiled (writes : Writes) : Prop where
  filed : Filed writes.call.status writes.attempt.toList writes.result.toList
  attempt : ∀ row ∈ writes.attempt.toList, row.callId = writes.call.id
  result : ∀ row ∈ writes.result.toList, row.callId = writes.call.id
  safe : ∀ row ∈ writes.result.toList, bareScalar row.modelProjection = false

/-- Where the call row of a transaction belongs: it is a new row, or the next state of a row that
waits for approval. -/
inductive Writes.Placed (db : ToolDb) (writes : Writes) : Prop
  | inserted (hinserted : writes.inserted = true)
      (hid : ∀ old ∈ db.calls, writes.call.id ≠ old.id)
  | updated (hupdated : writes.inserted = false) (old : MCPToolCall) (hold : old ∈ db.calls)
      (hwaiting : old.status = .waitingApproval) (hadvances : old.Advances writes.call)

section Commit

variable {db : ToolDb} {writes : Writes}

/-- The rows of the calls after a commit. -/
theorem Writes.mem_apply_calls (hplaced : writes.Placed db) {call : MCPToolCall} :
    call ∈ (writes.apply db).calls ↔
      call = writes.call ∨ call ∈ db.calls ∧ call.id ≠ writes.call.id := by
  cases hplaced with
  | inserted hinserted hid =>
    simp only [Writes.apply, hinserted, if_true, List.mem_append, List.mem_singleton]
    constructor
    · rintro (hcall | rfl)
      · exact Or.inr ⟨hcall, (hid call hcall).symm⟩
      · exact Or.inl rfl
    · rintro (rfl | ⟨hcall, -⟩)
      · exact Or.inr rfl
      · exact Or.inl hcall
  | updated hupdated old hold _ hadvances =>
    have hid : old.id = writes.call.id := by
      obtain ⟨_, _, _, _, hcall⟩ := hadvances
      rw [hcall]
    simp only [Writes.apply, hupdated, Bool.false_eq_true, if_false]
    constructor
    · exact Table.mem_replace
    · rintro (rfl | ⟨hcall, hne⟩)
      · exact Table.changed_mem_replace hold hid
      · exact Table.mem_replace_of_ne hcall hne

/-- A call that is new or waits for approval has no records yet. -/
theorem Ledger.no_records (h : Ledger db) (hplaced : writes.Placed db) :
    db.attemptsOf writes.call.id = [] ∧ db.resultsOf writes.call.id = [] := by
  cases hplaced with
  | inserted _ hid =>
    constructor
    · refine List.filter_eq_nil_iff.mpr fun attempt hattempt hcall ↦ ?_
      obtain ⟨call, hmem, hsame⟩ := h.attemptCalls attempt hattempt
      exact hid call hmem ((beq_iff_eq.mp hcall).symm.trans hsame.symm)
    · refine List.filter_eq_nil_iff.mpr fun result hresult hcall ↦ ?_
      obtain ⟨call, hmem, hsame⟩ := h.resultCalls result hresult
      exact hid call hmem ((beq_iff_eq.mp hcall).symm.trans hsame.symm)
  | updated _ old hold hwaiting hadvances =>
    have hfiled := h.filed old hold
    obtain ⟨_, _, _, _, hcall⟩ := hadvances
    rw [hcall]
    generalize db.attemptsOf old.id = attempts, db.resultsOf old.id = results at hfiled
    rw [hwaiting] at hfiled
    cases hfiled with
    | waiting => exact ⟨rfl, rfl⟩
    | final hfinal => cases hfinal

/-- The records of one call after a commit. -/
theorem Writes.records_apply (hfiled : writes.WellFiled) (callId : Uuid) :
    (writes.apply db).attemptsOf callId =
        db.attemptsOf callId ++ (if callId = writes.call.id then writes.attempt.toList else []) ∧
      (writes.apply db).resultsOf callId =
        db.resultsOf callId ++ (if callId = writes.call.id then writes.result.toList else []) := by
  simp only [ToolDb.attemptsOf, ToolDb.resultsOf, Writes.apply, List.filter_append,
    List.append_cancel_left_eq]
  constructor
  · split
    next hid =>
      exact List.filter_eq_self.mpr fun row hrow ↦ by simp [hfiled.attempt row hrow, hid]
    next hid =>
      refine List.filter_eq_nil_iff.mpr fun row hrow hcall ↦ hid ?_
      rw [← beq_iff_eq.mp hcall, hfiled.attempt row hrow]
  · split
    next hid =>
      exact List.filter_eq_self.mpr fun row hrow ↦ by simp [hfiled.result row hrow, hid]
    next hid =>
      refine List.filter_eq_nil_iff.mpr fun row hrow hcall ↦ hid ?_
      rw [← beq_iff_eq.mp hcall, hfiled.result row hrow]

/-- A commit keeps the invariant. -/
theorem Ledger.apply (h : Ledger db) (hplaced : writes.Placed db) (hfiled : writes.WellFiled) :
    Ledger (writes.apply db) := by
  have hcalls {call : MCPToolCall} := @Writes.mem_apply_calls db writes hplaced call
  have hrecords := @Writes.records_apply db writes hfiled
  have hkept {callId : Uuid} (hold : ∃ call ∈ db.calls, call.id = callId) :
      ∃ call ∈ (writes.apply db).calls, call.id = callId := by
    obtain ⟨call, hcall, rfl⟩ := hold
    by_cases hid : call.id = writes.call.id
    · exact ⟨writes.call, hcalls.mpr (Or.inl rfl), hid.symm⟩
    · exact ⟨call, hcalls.mpr (Or.inr ⟨hcall, hid⟩), rfl⟩
  constructor
  case ids =>
    cases hplaced with
    | inserted hinserted hid =>
      simp only [Writes.apply, hinserted, if_true]
      exact Table.nodup_keys_append h.ids hid
    | updated hupdated =>
      simp only [Writes.apply, hupdated, Bool.false_eq_true, if_false, Table.map_key_replace]
      exact h.ids
  case attemptCalls =>
    intro attempt hattempt
    rcases List.mem_append.mp hattempt with hold | hnew
    · exact hkept (h.attemptCalls attempt hold)
    · exact ⟨writes.call, hcalls.mpr (Or.inl rfl), (hfiled.attempt attempt hnew).symm⟩
  case resultCalls =>
    intro result hresult
    rcases List.mem_append.mp hresult with hold | hnew
    · exact hkept (h.resultCalls result hold)
    · exact ⟨writes.call, hcalls.mpr (Or.inl rfl), (hfiled.result result hnew).symm⟩
  case filed =>
    intro call hcall
    rw [(hrecords call.id).1, (hrecords call.id).2]
    rcases hcalls.mp hcall with rfl | ⟨hold, hid⟩
    · rw [(h.no_records hplaced).1, (h.no_records hplaced).2, if_pos rfl, if_pos rfl]
      exact hfiled.filed
    · rw [if_neg hid, if_neg hid, List.append_nil, List.append_nil]
      exact h.filed call hold
  case safe =>
    intro result hresult
    exact (List.mem_append.mp hresult).elim (h.safe result) (hfiled.safe result)

/-- A commit keeps the keys apart when a new row has an unused key. -/
theorem KeysUnique.apply (h : KeysUnique db) (hplaced : writes.Placed db)
    (hunused : writes.inserted = true → ∀ old ∈ db.calls, ¬ writes.call.SameKey old) :
    KeysUnique (writes.apply db) := by
  have hcalls {call : MCPToolCall} := @Writes.mem_apply_calls db writes hplaced call
  have hnew (other : MCPToolCall) (hother : other ∈ db.calls) (hkey : writes.call.SameKey other) :
      writes.call.id = other.id := by
    cases hplaced with
    | inserted hinserted => exact absurd hkey (hunused hinserted other hother)
    | updated _ old hold _ hadvances =>
      obtain ⟨_, _, _, _, hcall⟩ := hadvances
      rw [hcall] at hkey ⊢
      exact h old hold other hother hkey
  intro first hfirst second hsecond hkey
  rcases hcalls.mp hfirst with rfl | ⟨hold₁, -⟩ <;> rcases hcalls.mp hsecond with rfl | ⟨hold₂, -⟩
  · rfl
  · exact hnew second hold₂ hkey
  · obtain ⟨htenant, hversion, hsame, hgiven⟩ := hkey
    exact (hnew first hold₁ ⟨htenant.symm, hversion.symm, hsame.symm, hsame ▸ hgiven⟩).symm
  · exact h first hold₁ second hold₂ hkey

end Commit

/-! ## Broker calls -/

section Broker

variable {platform : BrokerPlatform} {db : ToolDb} {draws : Draws} {target : Target}
  {trace : List BrokerEvent} {writes : Writes} {result : SafeToolResult}

/-- The records of a finished call carry its status. -/
theorem records_spec (platform : BrokerPlatform) (draws : Draws) (row : CatalogRow)
    (call : MCPToolCall) (projection : Except Fault PyValue) :
    let made := records platform draws row call projection
    isFinal made.status = true ∧ made.attempt.status = made.status ∧
      made.result.status = made.status ∧ made.attempt.callId = call.id ∧
      made.result.callId = call.id := by
  unfold records
  split
  · exact ⟨rfl, rfl, rfl, rfl, rfl⟩
  · by_cases huncertain : row.uncertain = true <;>
      simp [failureRecords, failureStatus, huncertain, isFinal, storeResult]

theorem finishCall_ok {inserted : Bool} {row : CatalogRow} {call : MCPToolCall}
    {projection : Except Fault PyValue} {outcome : Outcome}
    (h : finishCall platform draws inserted row call projection = .ok outcome) :
    bareScalar (records platform draws row call projection).result.modelProjection = false ∧
      outcome.writes = some (recordedWrites platform draws inserted call
        (records platform draws row call projection)) := by
  simp only [finishCall, safeResult, bind, Except.bind] at h
  split at h
  · cases h
  next hsafe =>
    split at hsafe
    · cases hsafe
    next hscalar => exact ⟨by simpa using hscalar, (Except.ok.inj h) ▸ rfl⟩

theorem Target.Ending.wellFiled {outcome : Except BrokerError Outcome}
    (hending : target.Ending platform draws trace outcome)
    (houtcome : outcome = .ok ⟨result, some writes⟩) : writes.WellFiled := by
  cases hending with
  | raised => cases houtcome
  | waiting call =>
    obtain ⟨-, hwrites⟩ := Outcome.mk.inj (Except.ok.inj houtcome)
    obtain rfl := Option.some.inj hwrites
    exact ⟨.waiting, by simp, by simp, by simp⟩
  | blocked call =>
    obtain ⟨-, hwrites⟩ := Outcome.mk.inj (Except.ok.inj houtcome)
    obtain rfl := Option.some.inj hwrites
    refine ⟨.blocked _ rfl, by simp, ?_, ?_⟩
    · intro row hrow
      obtain rfl := List.mem_singleton.mp hrow
      rfl
    · intro row hrow
      obtain rfl := List.mem_singleton.mp hrow
      rfl
  | called call projection =>
    obtain ⟨hscalar, hwrites⟩ := finishCall_ok houtcome
    obtain rfl := Option.some.inj hwrites
    obtain ⟨hfinal, hattempt, hresult, hattemptCall, hresultCall⟩ :=
      records_spec platform draws target.row call projection
    refine ⟨.final hfinal _ _ hattempt hresult, ?_, ?_, ?_⟩
    · intro row hrow
      obtain rfl := List.mem_singleton.mp hrow
      exact hattemptCall
    · intro row hrow
      obtain rfl := List.mem_singleton.mp hrow
      exact hresultCall
    · intro row hrow
      obtain rfl := List.mem_singleton.mp hrow
      exact hscalar

/-- The end of a broker call with a target leaves the tables as they are, or commits a row of the
target with its records. -/
theorem Target.Ending.close {outcome : Except BrokerError Outcome}
    (hending : target.Ending platform draws trace outcome) (db : ToolDb) :
    (closeTransaction db outcome).2 = db ∨
      ∃ writes : Writes, writes.inserted = target.inserted ∧ target.call.Advances writes.call ∧
        writes.WellFiled ∧ writes.accepted db = true ∧
        (closeTransaction db outcome).2 = writes.apply db := by
  match outcome, hending with
  | .error failure, _ => exact Or.inl rfl
  | .ok ⟨result, none⟩, _ => exact Or.inl rfl
  | .ok ⟨result, some writes⟩, hending =>
    rcases closeTransaction_writes db result writes with hrefused | ⟨haccepted, hcommitted⟩
    · rw [hrefused]
      exact Or.inl rfl
    · obtain ⟨rows, hrows, hinserted, hcall, -⟩ := hending.writes_call rfl
      obtain rfl := Option.some.inj hrows
      rw [hcommitted]
      exact Or.inr ⟨writes, hinserted, hcall, hending.wellFiled rfl, haccepted, rfl⟩

/-- When the lookup of a key finds nothing, no stored call has the key. -/
theorem findIdempotentResult_none {tenantId versionId : Uuid} {key : Option String}
    {requestHash : String} (hkey : truthy key = true)
    (h : findIdempotentResult db tenantId versionId key requestHash = .ok none) :
    ∀ old ∈ db.calls, ¬ (old.tenantId = tenantId ∧ old.toolVersionId = versionId ∧
      old.idempotencyKey = key) := by
  obtain ⟨text, rfl, htext⟩ : ∃ text, key = some text ∧ text ≠ "" := by
    cases key with
    | none => cases hkey
    | some text => exact ⟨text, rfl, by simpa [truthy] using hkey⟩
  simp only [findIdempotentResult, Option.filter_some, htext, ne_eq, not_false_eq_true, decide_true,
    if_true] at h
  split at h
  next hfind =>
    rintro old hold ⟨htenant, hversion, hsame⟩
    have hnone := List.find?_eq_none.mp hfind old hold
    simp [htenant, hversion, hsame] at hnone
  next existing hfind =>
    split at h
    · cases h
    · split at h
      · cases h
      next stored hstored =>
        cases hsafe : safeResult stored existing.id with
        | error failure => simp [hsafe, Except.map] at h
        | ok safe => simp [hsafe, Except.map] at h

/-- A new call comes under an unused key. -/
theorem BrokerCall.target_key_unused {call : BrokerCall}
    (htarget : call.target platform db = some target) (hinserted : target.inserted = true) :
    ∀ old ∈ db.calls, ¬ target.call.SameKey old := by
  rcases BrokerCall.target_cases htarget with
    ⟨-, request, canonical, -, hadmission, hrow⟩ | ⟨hstored, -⟩
  · obtain ⟨-, rfl, -, hlookup, -⟩ := admitCall_fresh hadmission
    rintro old hold ⟨htenant, hversion, hkey, hgiven⟩
    rw [hrow] at htenant hversion hkey hgiven
    exact findIdempotentResult_none hgiven hlookup old hold
      ⟨htenant.symm, hversion.symm, hkey.symm⟩
  · rw [hinserted] at hstored
    cases hstored

/-- The row that a broker call assigns belongs to its target. -/
theorem placed_of_target {call : BrokerCall} (htarget : call.target platform db = some target)
    (hinserted : writes.inserted = target.inserted) (hcall : target.call.Advances writes.call) :
    writes.Placed db := by
  rcases BrokerCall.target_cases htarget with
    ⟨hnew, request, canonical, -, hadmission, hrow⟩ | ⟨hstored, request, -, hfind, hwaiting, -⟩
  · obtain ⟨-, rfl, -, -, hid, -⟩ := admitCall_fresh hadmission
    obtain ⟨_, _, _, _, hcall⟩ := hcall
    rw [hrow] at hcall
    refine .inserted (hinserted.trans hnew) ?_
    rw [hcall]
    exact hid
  · exact .updated (hinserted.trans hstored) target.call (List.mem_of_find?_eq_some hfind) hwaiting
      hcall

/-- The commit of a broker call with a target. -/
theorem ledger_close {call : BrokerCall} (h : Ledger db) (hkeys : KeysUnique db)
    (htarget : call.target platform db = some target) {outcome : Except BrokerError Outcome}
    (hending : target.Ending platform draws trace outcome) :
    Ledger (closeTransaction db outcome).2 ∧ KeysUnique (closeTransaction db outcome).2 := by
  rcases hending.close db with hkept | ⟨writes, hinserted, hcall, hfiled, -, hcommitted⟩
  · rw [hkept]
    exact ⟨h, hkeys⟩
  · have hplaced := placed_of_target htarget hinserted hcall
    rw [hcommitted]
    refine ⟨h.apply hplaced hfiled, hkeys.apply hplaced fun hnew ↦ ?_⟩
    have hunused := BrokerCall.target_key_unused htarget (hinserted.symm.trans hnew)
    obtain ⟨_, _, _, _, hrow⟩ := hcall
    rw [hrow]
    exact hunused

end Broker

/-- Every step of the tool platform keeps the records in order. -/
theorem ledger_step (platform : BrokerPlatform) (db : ToolDb) (op : ToolOp) (h : Ledger db)
    (hkeys : KeysUnique db) : Ledger ((toolPlatform platform).step db op).2 ∧
      KeysUnique ((toolPlatform platform).step db op).2 := by
  cases op with
  | registry op => exact ⟨⟨h.ids, h.attemptCalls, h.resultCalls, h.filed, h.safe⟩, hkeys⟩
  | broker call oracle =>
    match htarget : call.target platform db with
    | none =>
      obtain ⟨answer, hstep, -⟩ := step_of_no_target htarget oracle
      rw [hstep]
      exact ⟨h, hkeys⟩
    | some target =>
      obtain ⟨outcome, trace, hstep, hending, -⟩ := step_of_target htarget oracle
      rw [hstep]
      exact ledger_close h hkeys htarget hending

end Xyena.Tools
