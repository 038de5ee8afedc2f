import Xyena.Contracts.Documents
import Xyena.Guardian.Provenance

/-!
# The content behind an authorization

A decision is looked up by tenant, call and the request hash that the caller
states. Neither the stated hash nor the stored evaluation hash is compared with
the content of the evaluation at hand, so a changed request can ride on an
earlier decision. It cannot in a run in which every request that is authorized
states the hash of its own content and no live decision was made for a
different evaluation.
-/

namespace Xyena.Guardian

open Xyena.Foundation Xyena.Contracts Xyena.Tools

/-! ## The property -/

/-- The evaluation that a call asks for. -/
def GuardianOp.evaluation : GuardianOp → Option GuardianEvaluationRequest
  | .evaluate evaluation => some evaluation
  | _ => none

/-- The entry is answered with an authorization. -/
def answered (e : GuardianEntry) : Bool :=
  match e.output with
  | .ok (.evaluated response) => response.authorizationId.isSome
  | _ => false

/-- The policy engine allows or escalates the evaluation. -/
def Admits (evaluation : GuardianEvaluationRequest) : Prop :=
  (PolicyEngine.evaluate evaluation).outcome = .allow ∨
    (PolicyEngine.evaluate evaluation).outcome = .escalate

/-- Two evaluations for one tenant, call and hash that are both answered with an authorization have
the same content, and the policy engine admits both. -/
def ContentBound (log : List GuardianEntry) : Prop :=
  ∀ e₁ ∈ log, ∀ e₂ ∈ log, ∀ r₁ ∈ e₁.input.op.evaluation, ∀ r₂ ∈ e₂.input.op.evaluation,
    e₁.input.op.requestKey = e₂.input.op.requestKey →
    answered e₁ = true → answered e₂ = true →
      r₁.request.SameContent r₂.request ∧ Admits r₁ ∧ Admits r₂

/-! ## The condition -/

/-- The stated hash is the canonical hash of the content. -/
def StatesOwnHash (platform : Platform) (evaluation : GuardianEvaluationRequest) : Prop :=
  evaluation.request.requestHash =
    canonicalHash platform.sha256 (.obj evaluation.request.document)

instance (platform : Platform) (evaluation : GuardianEvaluationRequest) :
    Decidable (StatesOwnHash platform evaluation) := inferInstanceAs (Decidable (_ = _))

/-- A live decision for the request was made for this very evaluation. -/
def DecidedAlike (platform : Platform) (db : GuardianDb) (now : Time)
    (evaluation : GuardianEvaluationRequest) : Prop :=
  ∀ decision ∈ liveDecision db now evaluation.request,
    decision.evaluationHash = canonicalHash platform.sha256 evaluation.dump

instance (platform : Platform) (db : GuardianDb) (now : Time)
    (evaluation : GuardianEvaluationRequest) :
    Decidable (DecidedAlike platform db now evaluation) :=
  inferInstanceAs (Decidable (∀ _ ∈ liveDecision db now evaluation.request, _))

/-- An evaluation that Guardian is about to answer with an authorization states its own hash and
meets no decision made for another evaluation. -/
def EvaluatesOwnContent (platform : Platform) (e : GuardianEntry) : Prop :=
  ∀ evaluation ∈ e.input.op.evaluation, authorizes e.before e.input = true →
    StatesOwnHash platform evaluation ∧
      DecidedAlike platform e.before e.input.clock.now evaluation

instance (platform : Platform) (e : GuardianEntry) : Decidable (EvaluatesOwnContent platform e) :=
  inferInstanceAs (Decidable (∀ _ ∈ e.input.op.evaluation, _))

/-- The documents that are hashed in a run of the calls. -/
def hashedDocuments (calls : List GuardianCall) : List Json :=
  calls.flatMap fun call ↦
    match call.op.evaluation with
    | some evaluation => [.obj evaluation.request.document, evaluation.dump]
    | none => []

/-- Documents with one hash are the same document. -/
def NoCollision (sha256 : String → String) (documents : List Json) : Prop :=
  ∀ first ∈ documents, ∀ second ∈ documents,
    canonicalHash sha256 first = canonicalHash sha256 second → first.Same second

theorem GuardianOp.mem_evaluation {op : GuardianOp} {evaluation : GuardianEvaluationRequest} :
    evaluation ∈ op.evaluation ↔ op = .evaluate evaluation := by
  cases op <;> simp [GuardianOp.evaluation, eq_comm]

theorem mem_hashedDocuments {platform : Platform} {calls : List GuardianCall} {e : GuardianEntry}
    (he : e ∈ (guardian platform).log {} calls) {evaluation : GuardianEvaluationRequest}
    (hop : e.input.op = .evaluate evaluation) :
    .obj evaluation.request.document ∈ hashedDocuments calls ∧
      evaluation.dump ∈ hashedDocuments calls := by
  have hcall : e.input ∈ calls := by
    rw [← (guardian platform).map_input_log {} calls]
    exact List.mem_map_of_mem he
  constructor
  all_goals
    refine List.mem_flatMap.mpr ⟨e.input, hcall, ?_⟩
    simp [hop, GuardianOp.evaluation]

/-! ## Answers -/

variable {platform : Platform} {db after : GuardianDb}

theorem evaluate_authorizes {call : GuardianCall} {evaluation : GuardianEvaluationRequest}
    {response : GuardianEvaluationResponse} (hop : call.op = .evaluate evaluation)
    (h : (evaluate platform call.clock call.ids evaluation).exec db = (.ok response, after))
    (hanswered : response.authorizationId.isSome = true) : authorizes db call = true := by
  simp only [authorizes, hop]
  rw [evaluate, Session.exec_get_bind] at h
  cases hlive : liveDecision db call.clock.now evaluation.request with
  | some decision =>
    simp only [hlive, resolveExisting, Session.exec_get_bind] at h ⊢
    split at h
    next hissue => simp only [hissue]
    · obtain ⟨rfl, -⟩ := Session.exec_pure_ok.mp h
      cases hanswered
    · obtain ⟨rfl, -⟩ := Session.exec_pure_ok.mp h
      cases hanswered
  | none =>
    simp only [beq_iff_eq]
    by_contra hdenied
    simp only [hlive, hdenied, if_false] at h
    obtain ⟨_, stored, -, h⟩ := Session.exec_bind_ok.mp h
    split at h
    · obtain ⟨_, escalated, -, h⟩ := Session.exec_bind_ok.mp h
      obtain ⟨_, audited, -, h⟩ := Session.exec_bind_ok.mp h
      obtain ⟨rfl, -⟩ := Session.exec_pure_ok.mp h
      cases hanswered
    · obtain ⟨_, audited, -, h⟩ := Session.exec_bind_ok.mp h
      obtain ⟨rfl, -⟩ := Session.exec_pure_ok.mp h
      cases hanswered

/-- An evaluation in a run that is answered with an authorization was about to be authorized. -/
theorem authorizes_of_answered {calls : List GuardianCall} {e : GuardianEntry}
    (he : e ∈ (guardian platform).log {} calls) {evaluation : GuardianEvaluationRequest}
    (hop : e.input.op = .evaluate evaluation) (h : answered e = true) :
    authorizes e.before e.input = true := by
  obtain ⟨earlier, call, later, -, rfl⟩ := ((guardian platform).mem_log_iff _ _ _).mp he
  change call.op = _ at hop
  unfold answered at h
  split at h
  next response houtput =>
    change ((serve platform call).atomically _).1 = _ at houtput
    rw [Session.atomically_fst] at houtput
    obtain ⟨after, hexec⟩ : ∃ after, (serve platform call).exec
        ((guardian platform).run {} earlier) = (.ok (.evaluated response), after) :=
      ⟨_, Prod.ext houtput rfl⟩
    simp only [serve, hop] at hexec
    obtain ⟨reply, middle, hevaluate, hpure⟩ := Session.exec_bind_ok.mp hexec
    obtain ⟨hreply, -⟩ := Session.exec_pure_ok.mp hpure
    obtain rfl := GuardianReply.evaluated.inj hreply
    exact evaluate_authorizes hop hevaluate h
  · cases h

theorem decisionRow_evaluationHash (platform : Platform) (clock : Readings) (ids : FreshIds)
    (evaluation : GuardianEvaluationRequest) :
    (decisionRow platform clock ids evaluation).evaluationHash =
      canonicalHash platform.sha256 evaluation.dump := rfl

/-- Evaluations with the same dump have the same outcome. -/
theorem outcome_of_dump {first second : GuardianEvaluationRequest}
    (h : Json.Same first.dump second.dump) :
    (PolicyEngine.evaluate first).outcome = (PolicyEngine.evaluate second).outcome := by
  obtain ⟨hpolicy, hagent, hscope, hpurpose, hkey, hhash⟩ := GuardianEvaluationRequest.of_dump h
  simp only [PolicyEngine.evaluate, hpolicy, hagent, hscope, hpurpose, hkey, hhash]

/-- The policy engine admits every evaluation that Guardian authorizes, provided a decision it meets
was made for that evaluation. -/
theorem admits_of_authorizes {calls : List GuardianCall} {e : GuardianEntry}
    (he : e ∈ (guardian platform).log {} calls) {evaluation : GuardianEvaluationRequest}
    (hop : e.input.op = .evaluate evaluation) (hauthorizes : authorizes e.before e.input = true)
    (hcollision : NoCollision platform.sha256 (hashedDocuments calls))
    (halike : DecidedAlike platform e.before e.input.clock.now evaluation) : Admits evaluation := by
  have hsound := sound_before he
  simp only [authorizes, hop] at hauthorizes
  split at hauthorizes
  next decision hlive =>
    obtain ⟨hstored, -, -⟩ := liveDecision_spec hlive
    obtain ⟨origin, horigin, created, ⟨hcreates, -⟩, hrow⟩ := hsound.decided decision hstored
    -- the decision was made for an evaluation with the same dump
    have hsame : Json.Same created.dump evaluation.dump := by
      refine hcollision _ (mem_hashedDocuments horigin hcreates).2 _
        (mem_hashedDocuments he hop).2 ?_
      rw [← halike decision hlive, hrow, decisionRow_evaluationHash]
    have houtcome : decision.outcome = (PolicyEngine.evaluate evaluation).outcome :=
      (congrArg GuardianDecision.outcome hrow).trans (outcome_of_dump hsame)
    split at hauthorizes
    next hissue =>
      rcases resolution_issue hissue with hallow | ⟨approval, happroval, hbelongs, -⟩
      · exact Or.inl (houtcome.symm.trans hallow)
      · obtain ⟨escalated, hescalated, hid, hescalate⟩ := hsound.escalated approval happroval
        obtain rfl := Table.eq_of_key hsound.decisionIds hescalated hstored (hid.trans hbelongs)
        exact Or.inr (houtcome.symm.trans hescalate)
    · cases hauthorizes
  next hlive => exact Or.inl (by simpa using hauthorizes)

/-- In every run in which authorized evaluations state their own hash and meet no decision made for
another evaluation, an authorization answers for the content that was evaluated. -/
theorem contentBound_of_evaluatesOwnContent (platform : Platform) (calls : List GuardianCall)
    (hcollision : NoCollision platform.sha256 (hashedDocuments calls))
    (hown : ∀ e ∈ (guardian platform).log {} calls, EvaluatesOwnContent platform e) :
    ContentBound ((guardian platform).log {} calls) := by
  intro e₁ he₁ e₂ he₂ r₁ hr₁ r₂ hr₂ hkey hanswered₁ hanswered₂
  have hop₁ := GuardianOp.mem_evaluation.mp hr₁
  have hop₂ := GuardianOp.mem_evaluation.mp hr₂
  have hauthorizes₁ := authorizes_of_answered he₁ hop₁ hanswered₁
  have hauthorizes₂ := authorizes_of_answered he₂ hop₂ hanswered₂
  obtain ⟨hhash₁, halike₁⟩ := hown e₁ he₁ r₁ hr₁ hauthorizes₁
  obtain ⟨hhash₂, halike₂⟩ := hown e₂ he₂ r₂ hr₂ hauthorizes₂
  have hhash : r₁.request.requestHash = r₂.request.requestHash := by
    rw [hop₁, hop₂] at hkey
    simp only [GuardianOp.requestKey, Option.some.injEq, Prod.mk.injEq] at hkey
    exact hkey.2.2
  refine ⟨CanonicalToolRequest.sameContent_of_document ?_,
    admits_of_authorizes he₁ hop₁ hauthorizes₁ hcollision halike₁,
    admits_of_authorizes he₂ hop₂ hauthorizes₂ hcollision halike₂⟩
  refine hcollision _ (mem_hashedDocuments he₁ hop₁).1 _ (mem_hashedDocuments he₂ hop₂).1 ?_
  exact hhash₁.symm.trans (hhash.trans hhash₂)

/-- The same evaluation is asked for twice and answered twice, the second time out of the stored
decision. -/
def repeatedRun : List GuardianCall :=
  [callAt (.evaluate sampleEvaluation) 0 (sampleIds 100),
    callAt (.evaluate sampleEvaluation) (seconds 1) (sampleIds 200)]

theorem sampleSha256_document :
    canonicalHash sampleSha256 (.obj sampleRequest.document) = sampleHash := by
  have hbrace : (canonicalJson (.obj sampleRequest.document)).toList.head? = some '\x7b' := by
    simp only [canonicalJson, Json.dumps, String.toList_ofList, Json.normalize, Json.dumpChars,
      List.cons_append, List.head?_cons]
  rw [canonicalHash, sampleSha256, if_pos hbrace, if_pos rfl]

theorem sampleSha256_evaluation :
    canonicalHash sampleSha256 sampleEvaluation.dump = sampleEvaluationHash := by
  have hbrace : (canonicalJson sampleEvaluation.dump).toList.head? = some '\x7b' := by
    simp only [canonicalJson, Json.dumps, String.toList_ofList, GuardianEvaluationRequest.dump,
      Json.normalize, Json.dumpChars, List.cons_append, List.head?_cons]
  -- the two texts differ in the first letter of their first key
  have hapart : canonicalJson sampleEvaluation.dump ≠
      canonicalJson (.obj sampleRequest.document) := by
    intro h
    have hchars := congrArg (fun text ↦ text.toList[2]?) h
    simp only [canonicalJson, Json.dumps, String.toList_ofList] at hchars
    revert hchars
    decide +kernel
  rw [canonicalHash, sampleSha256, if_pos hbrace, if_neg hapart, if_pos rfl]

theorem contentBound_repeatedRun :
    ContentBound ((guardian (samplePlatform [])).log {} repeatedRun) ∧
      ((guardian (samplePlatform [])).log {} repeatedRun).map answered = [true, true] := by
  refine ⟨contentBound_of_evaluatesOwnContent _ _ ?_ ?_, by decide +kernel⟩
  · intro first hfirst second hsecond hhash
    have hcases (document : Json) (h : document ∈ hashedDocuments repeatedRun) :
        document = .obj sampleRequest.document ∨ document = sampleEvaluation.dump := by
      have hlist : hashedDocuments repeatedRun = [.obj sampleRequest.document,
          sampleEvaluation.dump, .obj sampleRequest.document, sampleEvaluation.dump] := rfl
      rw [hlist] at h
      simp only [List.mem_cons, List.not_mem_nil, or_false] at h
      tauto
    change canonicalHash sampleSha256 _ = canonicalHash sampleSha256 _ at hhash
    rcases hcases first hfirst with rfl | rfl <;> rcases hcases second hsecond with rfl | rfl
    · rfl
    · rw [sampleSha256_document, sampleSha256_evaluation] at hhash
      exact absurd hhash (by decide)
    · rw [sampleSha256_document, sampleSha256_evaluation] at hhash
      exact absurd hhash (by decide)
    · rfl
  · have hsample (e : GuardianEntry) (he : e ∈ (guardian (samplePlatform [])).log {} repeatedRun) :
        e.input.op = .evaluate sampleEvaluation := by
      have hcall : e.input ∈ repeatedRun := by
        rw [← (guardian (samplePlatform [])).map_input_log {} repeatedRun]
        exact List.mem_map_of_mem he
      simp only [repeatedRun, List.mem_cons, List.not_mem_nil, or_false] at hcall
      rcases hcall with hcall | hcall <;> rw [hcall] <;> rfl
    intro e he evaluation hevaluation _
    rw [hsample e he] at hevaluation
    obtain rfl := Option.some.inj hevaluation
    refine ⟨sampleSha256_document.symm, fun decision hlive ↦ ?_⟩
    obtain ⟨origin, horigin, created, ⟨hcreates, -⟩, hrow⟩ :=
      (sound_before he).decided decision (liveDecision_spec hlive).1
    rw [hsample origin horigin] at hcreates
    obtain rfl := GuardianOp.evaluate.inj hcreates
    rw [hrow, decisionRow_evaluationHash]

/-- The amount is changed after the decision and the old hash is stated again. -/
def changedEvaluation : GuardianEvaluationRequest :=
  { sampleEvaluation with
    request := { sampleRequest with normalizedArguments := [("amount", .str "9000000.00")] } }

def changedRun : List GuardianCall :=
  [callAt (.evaluate sampleEvaluation) 0 (sampleIds 100),
    callAt (.evaluate changedEvaluation) (seconds 1) (sampleIds 200)]

theorem changedRun_not_contentBound :
    ¬ ContentBound ((guardian (samplePlatform [])).log {} changedRun) := by
  intro h
  have hsame := (h _ List.mem_cons_self _ (List.mem_cons_of_mem _ List.mem_cons_self)
    sampleEvaluation rfl changedEvaluation rfl (by decide +kernel) (by decide +kernel)
    (by decide +kernel)).1.normalizedArguments
  simp [Json.Same, Json.normalize, Json.normalizeFields, Json.sortFields, sampleEvaluation,
    sampleRequest, changedEvaluation] at hsame

end Xyena.Guardian
