import Xyena.Tools.CallRecords

/-!
# Results and replays

A call that has been invoked keeps exactly one attempt and one result with its
own status, and a repeated request gets the stored result. This needs the
commit after the invocation to succeed: `_safe_result` is built outside the
`try` block and the rows are flushed later still, so a reply that neither the
contract nor the columns admitCall rolls the whole call back.
-/

namespace Xyena.Tools

open Xyena.Foundation Xyena.Contracts Xyena.Audit Xyena.Gateway

/-! ## Replies that can be recorded -/

/-- What the broker makes of a reply fits the contract of a safe result and the columns: a stored
projection is no bare number or truth value and has no null character and no number that is not
finite, an exception has a short class name and no null character in its text. -/
def recordableProjection (policy : MCPToolPolicy) (projection : Except Fault PyValue) : Bool :=
  match storedProjection policy projection with
  | .ok value => jsonStorable value && !bareScalar value
  | .error (fault, _) =>
    fits 100 fault.className && textStorable (String.ofList (fault.detail.toList.take 4000))

def recordable (event : BrokerEvent) : Bool :=
  event.effect.invocation.all fun invocation ↦
    (projectionOf event).all (recordableProjection invocation.row.policy)

/-- The identifiers that a call draws for its records are unused. -/
def freshDraws (db : ToolDb) (draws : Draws) : Bool :=
  (db.attempts.all fun old ↦ draws.attemptId != old.id) &&
    (db.results.all fun old ↦ draws.resultId != old.id) &&
    (db.outbox.all fun old ↦ draws.outboxId != old.id) &&
    (db.audit.all fun old ↦ draws.auditId != old.id)

section Kept

variable (platform : BrokerPlatform) (draws : Draws) {row : CatalogRow} (call : MCPToolCall)
  {projection : Except Fault PyValue}

theorem records_ids (row : CatalogRow) (projection : Except Fault PyValue) :
    (records platform draws row call projection).attempt.id = draws.attemptId ∧
      (records platform draws row call projection).result.id = draws.resultId := by
  unfold records
  split
  · exact ⟨rfl, rfl⟩
  · by_cases huncertain : row.uncertain = true <;> simp [failureRecords, huncertain, storeResult]

theorem records_storable (h : recordableProjection row.policy projection = true) :
    let made := records platform draws row call projection
    bareScalar made.result.modelProjection = false ∧ made.attempt.storable = true ∧
      made.result.storable = true := by
  unfold recordableProjection at h
  unfold records
  match hstored : storedProjection row.policy projection with
  | .ok value =>
    simp only [hstored, Bool.and_eq_true, Bool.not_eq_true'] at h
    simp [successRecords, storeResult, MCPCallAttempt.storable, MCPToolResult.storable, h.1,
      h.2]
  | .error (fault, code) =>
    simp only [hstored, Bool.and_eq_true] at h
    have hfirst : fits 100 "reconciliation_required" = true := by decide
    have hsecond : fits 100 "no_blind_retry" = true := by decide
    by_cases huncertain : row.uncertain = true <;>
      simp [failureRecords, storeResult, huncertain, MCPCallAttempt.storable,
        MCPToolResult.storable, bareScalar, jsonStorable, h.1, h.2, hfirst, hsecond]

theorem finishCall_of_safe (inserted : Bool)
    (h : bareScalar (records platform draws row call projection).result.modelProjection = false) :
    ∃ result, finishCall platform draws inserted row call projection = .ok ⟨result, some
      (recordedWrites platform draws inserted call (records platform draws row call projection))⟩ := by
  simp only [finishCall, safeResult, h, Bool.false_eq_true, if_false, bind, Except.bind]
  exact ⟨_, rfl⟩

/-- The database takes the rows of a finished call with unused identifiers. -/
theorem accepted_of_recordable {db : ToolDb} {inserted : Bool} (hledger : Ledger db)
    (hplaced : (recordedWrites platform draws inserted call
      (records platform draws row call projection)).Placed db)
    (hfresh : freshDraws db draws = true)
    (h : recordableProjection row.policy projection = true) :
    (recordedWrites platform draws inserted call
      (records platform draws row call projection)).accepted db = true := by
  obtain ⟨-, hattempt, hresult⟩ := records_storable platform draws call h
  obtain ⟨hattemptId, hresultId⟩ := records_ids platform draws call row projection
  obtain ⟨-, -, -, hattemptCall, hresultCall⟩ := records_spec platform draws row call projection
  obtain ⟨hnoAttempts, hnoResults⟩ := hledger.no_records hplaced
  have hsame : (recordedWrites platform draws inserted call
    (records platform draws row call projection)).call.id = call.id := rfl
  rw [hsame] at hnoAttempts hnoResults
  simp only [freshDraws, Bool.and_eq_true, List.all_eq_true, bne_iff_ne] at hfresh
  obtain ⟨⟨⟨hnewAttempt, hnewResult⟩, hnewOutbox⟩, hnewAudit⟩ := hfresh
  simp only [Writes.accepted, Bool.and_eq_true, Bool.or_eq_true, Bool.not_eq_true']
  refine ⟨⟨⟨⟨?_, ?_⟩, ?_⟩, ?_⟩, ?_⟩
  · cases hplaced with
    | inserted _ hid => exact Or.inr (List.all_eq_true.mpr fun old hold ↦ by simpa using hid old hold)
    | updated hupdated => exact Or.inl hupdated
  · refine Bool.and_eq_true_iff.mpr ⟨hattempt, List.all_eq_true.mpr fun old hold ↦ ?_⟩
    have hother : old.callId ≠ call.id := by
      simpa using List.filter_eq_nil_iff.mp hnoAttempts old hold
    simp [MCPCallAttempt.conflicts, hattemptId, hnewAttempt old hold, hattemptCall, hother.symm]
  · refine Bool.and_eq_true_iff.mpr ⟨hresult, List.all_eq_true.mpr fun old hold ↦ ?_⟩
    have hother : old.callId ≠ call.id := by
      simpa using List.filter_eq_nil_iff.mp hnoResults old hold
    simp [MCPToolResult.conflicts, hresultId, hnewResult old hold, hresultCall, hother.symm]
  · exact List.all_eq_true.mpr fun old hold ↦ bne_iff_ne.mpr (hnewOutbox old hold)
  · refine List.all_eq_true.mpr fun old hold ↦ ?_
    rw [newEvent_conflicts platform.auditCodec draws.occurredAt _ hnewAudit old hold]
    rfl

end Kept

/-! ## The property -/

/-- Some earlier endpoint call has invoked the tool for this call. -/
def Invoked (history : List ToolEntry) (call : MCPToolCall) : Prop :=
  ∃ e ∈ history, ∃ invocation ∈ e.output.invocations, invocation.call.id = call.id

/-- A submitted request that passes resolution and the checks of access and arguments under the key
of a stored call. -/
structure Repeats (platform : BrokerPlatform) (db : ToolDb) (request : ToolCallSubmit)
    (row : CatalogRow) (call : MCPToolCall) : Prop where
  resolved : resolve db.registry request.context.tenantId request.intent.requestedName = some row
  access : validateAccess request row = .ok ()
  arguments : validateArguments platform row.version.inputSchema request.intent.arguments = .ok ()
  tenant : request.context.tenantId = call.tenantId
  version : row.version.id = call.toolVersionId
  key : request.intent.idempotencyKey = call.idempotencyKey

/-- The records of the calls after a run. -/
structure ResultsAgree (platform : BrokerPlatform) (history : List ToolEntry) (db : ToolDb) :
    Prop where
  /-- The call of every invocation is stored. -/
  kept : ∀ e ∈ history, ∀ invocation ∈ e.output.invocations,
    ∃ call ∈ db.calls, call.id = invocation.call.id
  /-- An invoked call has one attempt and one result, which agree with it on how it ended. -/
  recorded : ∀ call ∈ db.calls, Invoked history call → isFinal call.status = true ∧
    ∃ attempt result, db.attemptsOf call.id = [attempt] ∧ db.resultsOf call.id = [result] ∧
      attempt.status = call.status ∧ result.status = call.status
  /-- An invoked remote tool with side effects has not failed. -/
  uncertain : ∀ e ∈ history, ∀ invocation ∈ e.output.invocations, invocation.row.uncertain = true →
    ∀ call ∈ db.calls, call.id = invocation.call.id → call.status ≠ .failed
  /-- Whoever repeats an invoked call next gets its stored result or a conflict, and neither invokes
  anything nor changes a row. -/
  replayed : ∀ call ∈ db.calls, Invoked history call → truthy call.idempotencyKey = true →
    ∀ request row draws oracle, Repeats platform db request row call →
      ∃ stored safe, db.resultsOf call.id = [stored] ∧ safeResult stored call.id = .ok safe ∧
        (toolPlatform platform).step db (.broker ⟨.execute request, draws⟩ oracle) =
          (.broker (if (canonicalRequest platform draws.callId request row).requestHash =
              call.requestHash then .ok safe
            else .error (.broker .idempotencyConflict
              "The idempotency key was already used with a different request.")) [], db)

/-! ## Replays -/

section Lookup

variable {platform : BrokerPlatform} {db : ToolDb} {call : MCPToolCall}

theorem Filed.of_final {status : ToolCallStatus} {attempts : List MCPCallAttempt}
    {results : List MCPToolResult} (h : Filed status attempts results)
    (hfinal : isFinal status = true) :
    ∃ attempt result, attempts = [attempt] ∧ results = [result] ∧ attempt.status = status ∧
      result.status = status := by
  cases h with
  | waiting => cases hfinal
  | blocked => cases hfinal
  | final _ attempt result hattempt hresult => exact ⟨attempt, result, rfl, rfl, hattempt, hresult⟩

/-- The lookup of a key finds the one call that has it. -/
theorem Ledger.findByKey_eq (h : Ledger db) (hkeys : KeysUnique db) (hcall : call ∈ db.calls) {key : String}
    (hkey : call.idempotencyKey = some key) (hgiven : key ≠ "") :
    findByKey db call.tenantId call.toolVersionId key = some call := by
  match hfind : findByKey db call.tenantId call.toolVersionId key with
  | none =>
    have hnone := List.find?_eq_none.mp hfind call hcall
    simp [hkey] at hnone
  | some existing =>
    have hmem := List.mem_of_find?_eq_some hfind
    have hselected := List.find?_some hfind
    simp only [Bool.and_eq_true, beq_iff_eq] at hselected
    obtain ⟨⟨htenant, hversion⟩, hsame⟩ := hselected
    have hid := hkeys existing hmem call hcall
      ⟨htenant, hversion, hsame.trans hkey.symm, by simp [truthy, hsame, hgiven]⟩
    rw [Table.eq_of_key h.ids hmem hcall hid]

theorem safeResult_of_ledger (h : Ledger db) {stored : MCPToolResult} (hstored : stored ∈ db.results)
    (callId : Uuid) : ∃ safe, safeResult stored callId = .ok safe := by
  simp only [safeResult, h.safe stored hstored, Bool.false_eq_true, if_false]
  exact ⟨_, rfl⟩

/-- A request that is not admitted ends at once. -/
theorem step_of_admitCall_error {draws : Draws} {request : ToolCallSubmit} {failure : BrokerError}
    (h : admitCall platform db draws request = .error failure) (oracle : Program.Oracle Ask Reply) :
    (toolPlatform platform).step db (.broker ⟨.execute request, draws⟩ oracle) =
      (.broker (.error failure) [], db) := by
  simp only [toolPlatform, serveBroker, execute, h, Program.exec, closeTransaction]

theorem step_of_admitCall_replay {draws : Draws} {request : ToolCallSubmit} {result : SafeToolResult}
    (h : admitCall platform db draws request = .ok (.replay result)) (oracle : Program.Oracle Ask Reply) :
    (toolPlatform platform).step db (.broker ⟨.execute request, draws⟩ oracle) =
      (.broker (.ok result) [], db) := by
  simp only [toolPlatform, serveBroker, execute, h, Program.exec, closeTransaction]

/-- What a repeated request gets once the call is made. -/
theorem replay_step (h : Ledger db) (hkeys : KeysUnique db) (hcall : call ∈ db.calls)
    (hfinal : isFinal call.status = true)
    (hkey : truthy call.idempotencyKey = true) {request : ToolCallSubmit} {row : CatalogRow}
    (draws : Draws) (oracle : Program.Oracle Ask Reply)
    (hrepeats : Repeats platform db request row call) :
    ∃ stored safe, db.resultsOf call.id = [stored] ∧ safeResult stored call.id = .ok safe ∧
      (toolPlatform platform).step db (.broker ⟨.execute request, draws⟩ oracle) =
        (.broker (if (canonicalRequest platform draws.callId request row).requestHash =
            call.requestHash then .ok safe
          else .error (.broker .idempotencyConflict
            "The idempotency key was already used with a different request.")) [], db) := by
  obtain ⟨text, htext, hgiven⟩ : ∃ text, call.idempotencyKey = some text ∧ text ≠ "" := by
    match hsome : call.idempotencyKey with
    | none => simp [hsome, truthy] at hkey
    | some text => exact ⟨text, rfl, by simpa [hsome, truthy] using hkey⟩
  obtain ⟨-, stored, -, hstored, -⟩ := (h.filed call hcall).of_final hfinal
  have hmem : stored ∈ db.results :=
    (List.mem_filter.mp (hstored.symm ▸ List.mem_singleton.mpr rfl : stored ∈ db.resultsOf call.id)).1
  obtain ⟨safe, hsafe⟩ := safeResult_of_ledger h hmem call.id
  have hfound : (db.results.find? fun result ↦ result.callId == call.id) = some stored := by
    rw [← List.head?_filter]
    exact congrArg List.head? hstored
  refine ⟨stored, safe, hstored, hsafe, ?_⟩
  have hlookup (requestHash : String) : findIdempotentResult db request.context.tenantId
      row.version.id request.intent.idempotencyKey requestHash =
        if call.requestHash ≠ requestHash then .error (.broker .idempotencyConflict
          "The idempotency key was already used with a different request.")
        else .ok (some safe) := by
    have hcallFound := h.findByKey_eq hkeys hcall htext hgiven
    rw [hrepeats.tenant, hrepeats.version, hrepeats.key, htext]
    simp only [findIdempotentResult, Option.filter_some, hgiven, ne_eq, not_false_eq_true,
      decide_true, if_true, hcallFound, hfound, hsafe, Except.map]
  have hadmission := admitCall_of_checks draws hrepeats.resolved hrepeats.access
    hrepeats.arguments
  rw [hlookup] at hadmission
  by_cases hhash : (canonicalRequest platform draws.callId request row).requestHash =
    call.requestHash
  · rw [if_neg (not_not.mpr hhash.symm)] at hadmission
    rw [if_pos hhash]
    exact step_of_admitCall_replay hadmission oracle
  · rw [if_pos fun hsame ↦ hhash hsame.symm] at hadmission
    rw [if_neg hhash]
    exact step_of_admitCall_error hadmission oracle

end Lookup

/-! ## Runs -/

/-- A broker call draws unused identifiers and its last reply can be recorded. -/
def keepsRecords (e : ToolEntry) : Bool :=
  match e.input, e.output with
  | .broker call _, .broker _ trace =>
    freshDraws e.before call.draws && trace.getLast?.all recordable
  | _, _ => true

/-- What holds of the entries so far and the tables. -/
structure ReplayInvariant (history : List ToolEntry) (db : ToolDb) : Prop where
  ledger : Ledger db
  keys : KeysUnique db
  made : ∀ e ∈ history, ∀ invocation ∈ e.output.invocations,
    ∃ call ∈ db.calls, call.id = invocation.call.id ∧ isFinal call.status = true ∧
      (invocation.row.uncertain = true → call.status ≠ .failed)

section Step

variable {platform : BrokerPlatform} {db : ToolDb} {target : Target} {trace : List BrokerEvent}
  {outcome : Except BrokerError Outcome}

/-- A call that has been made keeps its row in every later commit. -/
theorem Ledger.final_kept (h : Ledger db) {writes : Writes} (hplaced : writes.Placed db)
    {call : MCPToolCall} (hcall : call ∈ db.calls) (hfinal : isFinal call.status = true) :
    call ∈ (writes.apply db).calls := by
  refine (Writes.mem_apply_calls hplaced).mpr (Or.inr ⟨hcall, fun hid ↦ ?_⟩)
  cases hplaced with
  | inserted _ hnew => exact hnew call hcall hid.symm
  | updated _ old hold hwaiting hadvances =>
    obtain ⟨_, _, _, _, hchanged⟩ := hadvances
    rw [hchanged] at hid
    rw [Table.eq_of_key h.ids hcall hold hid, hwaiting] at hfinal
    cases hfinal

theorem step_final_kept (platform : BrokerPlatform) (h : Ledger db) (op : ToolOp)
    {call : MCPToolCall} (hcall : call ∈ db.calls) (hfinal : isFinal call.status = true) :
    call ∈ ((toolPlatform platform).step db op).2.calls := by
  cases op with
  | registry op => exact hcall
  | broker request oracle =>
    match htarget : request.target platform db with
    | none =>
      obtain ⟨answer, hstep, -⟩ := step_of_no_target htarget oracle
      rw [hstep]
      exact hcall
    | some target =>
      obtain ⟨outcome, trace, hstep, hending, -⟩ := step_of_target htarget oracle
      rw [hstep]
      rcases hending.close db with hkept | ⟨writes, hinserted, hadvances, -, -, hcommitted⟩
      · rw [hkept]
        exact hcall
      · rw [hcommitted]
        exact h.final_kept (placed_of_target htarget hinserted hadvances) hcall hfinal

theorem projectionOf_invocation {event : BrokerEvent} {projection : Except Fault PyValue}
    (h : projectionOf event = some projection) :
    ∃ invocation, event.effect.invocation = some invocation := by
  obtain ⟨effect, reply⟩ := event
  cases effect with
  | handler invocation => exact ⟨invocation, rfl⟩
  | remote invocation => exact ⟨invocation, rfl⟩
  | evaluate => cases h
  | authorizeApproved => cases h
  | consume => cases h

/-- A call that has invoked its tool ends with records, when its last reply can be recorded. -/
theorem Target.Ending.called_of_invoked {draws : Draws}
    (hending : target.Ending platform draws trace outcome)
    (hallowed : ∀ earlier event later, trace = earlier ++ event :: later →
      target.Allowed earlier event.effect)
    (hinvoked : ¬ NoInvocation trace) (hrecordable : trace.getLast?.all recordable = true) :
    ∃ call projection, target.call.Advances call ∧
      recordableProjection target.row.policy projection = true ∧
      outcome = finishCall platform draws target.inserted target.row call projection := by
  cases hending with
  | raised _ hsilent => exact absurd hsilent hinvoked
  | waiting _ _ _ _ hsilent => exact absurd hsilent hinvoked
  | blocked _ _ _ _ _ _ hsilent => exact absurd hsilent hinvoked
  | called call projection hcall _ hprojects =>
    obtain ⟨earlier, event, rfl, hprojection⟩ := hprojects.resolve_left hinvoked
    obtain ⟨invocation, hinvocation⟩ := projectionOf_invocation hprojection
    obtain ⟨hrow, -⟩ := hallowed earlier event [] rfl invocation hinvocation
    refine ⟨call, projection, hcall, ?_, rfl⟩
    rw [List.getLast?_concat, Option.all_some, recordable, hinvocation, hprojection,
      Option.all_some, Option.all_some, hrow] at hrecordable
    exact hrecordable

/-- The row that an invoked call leaves. -/
theorem made_of_invoked (h : Ledger db) {draws : Draws}
    (hplaced : ∀ writes : Writes, writes.inserted = target.inserted →
      target.call.Advances writes.call → writes.Placed db)
    (hending : target.Ending platform draws trace outcome)
    (hallowed : ∀ earlier event later, trace = earlier ++ event :: later →
      target.Allowed earlier event.effect)
    (hinvoked : ¬ NoInvocation trace) (hfresh : freshDraws db draws = true)
    (hrecordable : trace.getLast?.all recordable = true) :
    ∃ made ∈ (closeTransaction db outcome).2.calls, target.call.Advances made ∧
      isFinal made.status = true ∧ (target.row.uncertain = true → made.status ≠ .failed) := by
  obtain ⟨row, projection, hadvances, hprojection, rfl⟩ :=
    hending.called_of_invoked hallowed hinvoked hrecordable
  obtain ⟨hsafe, -⟩ := records_storable platform draws row hprojection
  obtain ⟨result, hfinish⟩ := finishCall_of_safe platform draws row target.inserted hsafe
  have hhere := hplaced (recordedWrites platform draws target.inserted row
    (records platform draws target.row row projection)) rfl (hadvances.withStatus _)
  have haccepted := accepted_of_recordable platform draws row h hhere hfresh hprojection
  rw [hfinish]
  simp only [closeTransaction, Writes.commit, haccepted, if_true]
  refine ⟨_, (Writes.mem_apply_calls hhere).mpr (Or.inl rfl), hadvances.withStatus _, ?_, ?_⟩
  · exact (records_spec platform draws target.row row projection).1
  · intro huncertain
    change (records platform draws target.row row projection).status ≠ .failed
    unfold records
    split
    · exact ToolCallStatus.noConfusion
    · simp [failureRecords, failureStatus, huncertain]

end Step

theorem replayInvariant_step (platform : BrokerPlatform) (history : List ToolEntry) (db : ToolDb)
    (op : ToolOp) (h : ReplayInvariant history db)
    (hkeeps : keepsRecords ((toolPlatform platform).entry db op) = true) :
    ReplayInvariant (history ++ [(toolPlatform platform).entry db op])
      ((toolPlatform platform).step db op).2 := by
  obtain ⟨hledger, hkeys⟩ := ledger_step platform db op h.ledger h.keys
  refine ⟨hledger, hkeys, ?_⟩
  intro e he invocation hinvocation
  rcases List.mem_append.mp he with hearlier | hlast
  · obtain ⟨call, hcall, hid, hfinal, huncertain⟩ := h.made e hearlier invocation hinvocation
    exact ⟨call, step_final_kept platform h.ledger op hcall hfinal, hid, hfinal, huncertain⟩
  · obtain rfl := List.mem_singleton.mp hlast
    cases op with
    | registry op => cases hinvocation
    | broker call oracle =>
      obtain ⟨target, htarget, hrow, hadvances⟩ := step_invocation hinvocation
      obtain ⟨outcome, trace, hstep, hending, hallowed⟩ := step_of_target htarget oracle
      have houtput : ((toolPlatform platform).entry db (.broker call oracle)).output =
        .broker (closeTransaction db outcome).1 trace := congrArg Prod.fst hstep
      rw [houtput] at hinvocation
      obtain ⟨event, hevent, hinvoked⟩ := ToolAnswer.mem_invocations.mp hinvocation
      have hnoisy : ¬ NoInvocation trace := by
        intro hsilent
        rw [hsilent event hevent] at hinvoked
        cases hinvoked
      have hadmitted : freshDraws db call.draws = true ∧ trace.getLast?.all recordable = true := by
        simp only [keepsRecords, houtput] at hkeeps
        exact Bool.and_eq_true_iff.mp hkeeps
      obtain ⟨made, hmade, hleft, hfinal, hstatus⟩ := made_of_invoked h.ledger
        (fun _ ↦ placed_of_target htarget) hending hallowed hnoisy hadmitted.1 hadmitted.2
      rw [hstep, hrow]
      refine ⟨made, hmade, ?_, hfinal, hstatus⟩
      obtain ⟨_, _, _, _, hcall⟩ := hadvances
      obtain ⟨_, _, _, _, hrow⟩ := hleft
      rw [hcall, hrow]

theorem ReplayInvariant.resultsAgree {platform : BrokerPlatform} {history : List ToolEntry}
    {db : ToolDb} (h : ReplayInvariant history db) : ResultsAgree platform history db := by
  have hmade {call : MCPToolCall} (hcall : call ∈ db.calls) (hinvoked : Invoked history call) :
      isFinal call.status = true := by
    obtain ⟨e, he, invocation, hinvocation, hid⟩ := hinvoked
    obtain ⟨stored, hstored, hsame, hfinal, -⟩ := h.made e he invocation hinvocation
    rwa [Table.eq_of_key h.ledger.ids hcall hstored (hid.symm.trans hsame.symm)]
  constructor
  case kept =>
    intro e he invocation hinvocation
    obtain ⟨call, hcall, hid, -⟩ := h.made e he invocation hinvocation
    exact ⟨call, hcall, hid⟩
  case recorded =>
    intro call hcall hinvoked
    exact ⟨hmade hcall hinvoked, (h.ledger.filed call hcall).of_final (hmade hcall hinvoked)⟩
  case uncertain =>
    intro e he invocation hinvocation huncertain call hcall hid
    obtain ⟨stored, hstored, hsame, -, hstatus⟩ := h.made e he invocation hinvocation
    rw [Table.eq_of_key h.ledger.ids hcall hstored (hid.trans hsame.symm)]
    exact hstatus huncertain
  case replayed =>
    intro call hcall hinvoked hkey request row draws oracle hrepeats
    exact replay_step h.ledger h.keys hcall (hmade hcall hinvoked) hkey draws oracle hrepeats

/-- From every registry without calls, in every run whose broker calls draw unused identifiers and
end with replies that can be recorded, the records of all invoked calls agree and replays are
exact. -/
theorem resultsAgree_of_keepsRecords (platform : BrokerPlatform) (registry : RegistryDb)
    (outbox : List OutboxEvent) (audit : List AuditEvent) (ops : List ToolOp)
    (hkeeps : ∀ e ∈ (toolPlatform platform).log
      { registry := registry, outbox := outbox, audit := audit } ops, keepsRecords e = true) :
    ResultsAgree platform
      ((toolPlatform platform).log { registry := registry, outbox := outbox, audit := audit } ops)
      ((toolPlatform platform).run { registry := registry, outbox := outbox, audit := audit } ops) := by
  have hstart : ReplayInvariant []
      { registry := registry, outbox := outbox, audit := audit } := by
    refine ⟨?_, by simp [KeysUnique], by simp⟩
    constructor <;> simp
  exact ((toolPlatform platform).history_invariant ReplayInvariant (keepsRecords · = true) hstart
    (fun history db op h ↦ replayInvariant_step platform history db op h) ops hkeeps).resultsAgree

theorem resultsAgree_escalatedRun :
    ResultsAgree sampleBroker ((toolPlatform sampleBroker).log {} (escalatedRun settledReply))
        ((toolPlatform sampleBroker).run {} (escalatedRun settledReply)) ∧
      ((toolPlatform sampleBroker).run {} (escalatedRun settledReply)).results.map MCPToolResult.status =
        [.succeeded] :=
  ⟨resultsAgree_of_keepsRecords sampleBroker {} [] [] (escalatedRun settledReply) (by decide +kernel),
    by decide +kernel⟩

/-- The bank settles the transfer and answers with a text that has a null character. -/
def nullReply : RemoteReply where
  structuredContent := .dict [("status", .str "SETTLED\x00")]

/-- The resumption with that reply is rolled back at its commit. -/
theorem nullReply_not_resultsAgree :
    ¬ ResultsAgree sampleBroker ((toolPlatform sampleBroker).log {} (escalatedRun nullReply))
      ((toolPlatform sampleBroker).run {} (escalatedRun nullReply)) := by
  intro h
  have hlost : (((toolPlatform sampleBroker).run {} (escalatedRun nullReply)).calls.any fun call ↦
      !isFinal call.status && ((toolPlatform sampleBroker).log {} (escalatedRun nullReply)).any fun e ↦
        e.output.invocations.any fun invocation ↦ invocation.call.id == call.id) = true := by
    decide +kernel
  obtain ⟨call, hcall, hfound⟩ := List.any_eq_true.mp hlost
  obtain ⟨hopen, hinvoked⟩ := Bool.and_eq_true_iff.mp hfound
  obtain ⟨e, he, hinvocations⟩ := List.any_eq_true.mp hinvoked
  obtain ⟨invocation, hinvocation, hid⟩ := List.any_eq_true.mp hinvocations
  rw [(h.recorded call hcall ⟨e, he, invocation, hinvocation, beq_iff_eq.mp hid⟩).1] at hopen
  cases hopen

end Xyena.Tools
