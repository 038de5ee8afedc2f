import Xyena.Tools.BrokerSpec

/-!
# The gate in front of every tool

No environment can make the broker invoke a tool that is not a safe read before
Guardian has consumed an authorization for exactly that call. The environment
here is everything outside the broker: Guardian may decide anything, leave out
the token or raise at each of its three operations.
-/

namespace Xyena.Tools

open Xyena.Foundation Xyena.Contracts Xyena.Gateway

/-- The tool of a target is a safe read, or Guardian has consumed an authorization for its call
within these events. -/
def Target.GateOpen (target : Target) (trace : List BrokerEvent) : Prop :=
  target.row.safeRead = true ∨ ∃ event ∈ trace, consumedFor target.call event = true

/-- The gate at one broker call that met the tables `db` and left the tables `after`. -/
structure Gated (platform : BrokerPlatform) (db : ToolDb) (call : BrokerCall)
    (answer : Except BrokerError SafeToolResult) (trace : List BrokerEvent) (after : ToolDb) :
    Prop where
  /-- Whatever is invoked is invoked for the target, and the gate was open before. -/
  invoked : ∀ earlier event later invocation, trace = earlier ++ event :: later →
    event.effect.invocation = some invocation →
      ∃ target, call.target platform db = some target ∧ invocation.row = target.row ∧
        target.call.Advances invocation.call ∧ target.GateOpen earlier
  /-- The row of the target is a stored one or is stored when the call returns. -/
  stored : ∀ target, call.target platform db = some target →
    (target.inserted = true ∨ target.call ∈ db.calls) ∧
      ∀ result, answer = .ok result → ∃ row ∈ after.calls, target.call.Advances row
  /-- Behind a closed gate nothing is invoked, and the call is rolled back, unchanged, blocked or
  waiting for approval. -/
  closed : (∀ target, call.target platform db = some target → ¬ target.GateOpen trace) →
    NoInvocation trace ∧
      ((∃ failure, answer = .error failure ∧ after = db) ∨
        ∃ result, answer = .ok result ∧
          (after = db ∨ ∃ row, after.calls = db.calls ++ [row] ∧
            (row.status = .blocked ∨ row.status = .waitingApproval)))

section Step

variable {platform : BrokerPlatform} {db : ToolDb} {call : BrokerCall} {target : Target}
  {trace : List BrokerEvent} {outcome : Except BrokerError Outcome}

theorem gated_of_no_target (htarget : call.target platform db = none)
    (answer : Except BrokerError SafeToolResult) : Gated platform db call answer [] db where
  invoked := by
    intro earlier event later invocation htrace
    cases earlier <;> cases htrace
  stored := by simp [htarget]
  closed := by
    intro _
    refine ⟨.nil, ?_⟩
    cases answer with
    | error failure => exact Or.inl ⟨failure, rfl, rfl⟩
    | ok result => exact Or.inr ⟨result, rfl, Or.inl rfl⟩

theorem Target.Cleared.gateOpen (h : target.Cleared trace) : target.GateOpen trace :=
  h.imp_left And.right

theorem gated_of_target (htarget : call.target platform db = some target)
    (hending : target.Ending platform call.draws trace outcome)
    (hallowed : ∀ earlier event later, trace = earlier ++ event :: later →
      target.Allowed earlier event.effect) :
    Gated platform db call (closeTransaction db outcome).1 trace (closeTransaction db outcome).2 where
  invoked := by
    intro earlier event later invocation htrace hinvocation
    obtain ⟨hrow, hcall, hcleared, -⟩ := hallowed earlier event later htrace invocation hinvocation
    exact ⟨target, htarget, hrow, hcall, hcleared.gateOpen⟩
  stored := by
    intro other hother
    obtain rfl := Option.some.inj (htarget.symm.trans hother)
    have hstored := BrokerCall.target_stored htarget
    refine ⟨hstored, fun result hresult ↦ ?_⟩
    match outcome, hending with
    | .ok ⟨answer, writes⟩, hending =>
      obtain ⟨rows, rfl, hinserted, hcall, -⟩ := hending.writes_call rfl
      rcases closeTransaction_writes db answer rows with hrefused | ⟨-, hcommitted⟩
      · rw [hrefused] at hresult
        cases hresult
      · rw [hcommitted]
        refine ⟨rows.call, Writes.call_mem_apply ?_, hcall⟩
        rcases hstored with hnew | hmem
        · exact Or.inl (hinserted.trans hnew)
        · obtain ⟨_, _, _, _, hcall⟩ := hcall
          exact Or.inr ⟨_, hmem, by rw [hcall]⟩
  closed := by
    intro hshut
    have hclosed := hshut target htarget
    match outcome, hending with
    | .error failure, hending =>
      refine ⟨?_, Or.inl ⟨failure, rfl, rfl⟩⟩
      exact hending.silent_of_not_cleared fun hcleared ↦ hclosed hcleared.gateOpen
    | .ok ⟨answer, writes⟩, hending =>
      refine ⟨hending.silent_of_not_cleared fun hcleared ↦ hclosed hcleared.gateOpen, ?_⟩
      obtain ⟨rows, rfl, hinserted, -, hcleared | ⟨-, hnew, hstatus⟩⟩ := hending.writes_call rfl
      · exact absurd hcleared.gateOpen hclosed
      · rcases closeTransaction_writes db answer rows with hrefused | ⟨-, hcommitted⟩
        · rw [hrefused]
          exact Or.inl ⟨_, rfl, rfl⟩
        · rw [hcommitted]
          refine Or.inr ⟨answer, rfl, Or.inr ⟨rows.call, ?_, hstatus⟩⟩
          simp only [Writes.apply, hinserted, hnew, if_true]

theorem gated_step (platform : BrokerPlatform) (db : ToolDb) (call : BrokerCall)
    (oracle : Program.Oracle Ask Reply) :
    ∃ answer trace, ((toolPlatform platform).entry db (.broker call oracle)).output =
        .broker answer trace ∧
      Gated platform db call answer trace ((toolPlatform platform).step db (.broker call oracle)).2 := by
  match htarget : call.target platform db with
  | none =>
    obtain ⟨answer, hstep, -⟩ := step_of_no_target htarget oracle
    refine ⟨answer, [], congrArg Prod.fst hstep, ?_⟩
    rw [hstep]
    exact gated_of_no_target htarget answer
  | some target =>
    obtain ⟨outcome, trace, hstep, hending, hallowed⟩ := step_of_target htarget oracle
    refine ⟨_, trace, congrArg Prod.fst hstep, ?_⟩
    rw [hstep]
    exact gated_of_target htarget hending hallowed

end Step

/-- From every state of the tables and in every run, each broker call respects the gate. -/
theorem gated_run (platform : BrokerPlatform) (start : ToolDb) (ops : List ToolOp) :
    ∀ e ∈ (toolPlatform platform).log start ops, ∀ call oracle, e.input = .broker call oracle →
      ∃ answer trace, e.output = .broker answer trace ∧
        Gated platform e.before call answer trace e.after := by
  rintro e he call oracle hinput
  obtain ⟨earlier, input, later, -, rfl⟩ := ((toolPlatform platform).mem_log_iff _ _ _).mp he
  obtain rfl : input = .broker call oracle := hinput
  exact gated_step platform _ call oracle

/-- The resumption of the sample call, which invokes the tool behind the gate. -/
theorem gated_escalatedRun :
    let resumed := (toolPlatform sampleBroker).entry ((toolPlatform sampleBroker).run {}
      (sampleRegistration .always ++ [sampleExecute 100 .escalate settledReply]))
      (sampleResume 200 100 settledReply)
    resumed.output.invocations.length = 1 ∧
      ∃ answer trace, resumed.output = .broker answer trace ∧
        Gated sampleBroker resumed.before ⟨.resume ⟨1, 100, 5⟩, sampleDraws 200⟩ answer trace
          resumed.after := by
  refine ⟨by decide +kernel, gated_run sampleBroker {} (escalatedRun settledReply) _ ?_ _ _ rfl⟩
  exact ((toolPlatform sampleBroker).mem_log_iff _ _ _).mpr ⟨_, _, [], rfl, rfl⟩

end Xyena.Tools
