import Xyena.Funder.Answers
import Xyena.Funder.Commitments

/-!
# The programs that offers come from

An application records for every active program of its tenant whether a rule
speaks against it. An approval asks for some eligible program, and an offer names
its program itself: it repeats the upper bound of the amount and the tenor, and
looks neither at the recorded results nor at the other rules. Every offer comes
from an eligible program exactly when every offer that is issued names one.
-/

namespace Xyena.Funder

open Xyena.Foundation Xyena.Foundation.Session

/-! ## Recorded results -/

/-- The results of an application record a program as eligible. -/
def FundingApplication.Records (application : FundingApplication) (programId : String) : Prop :=
  ∃ result ∈ application.eligibilityResults, result.programId = programId ∧ result.eligible = true

/-- No rule of an active program of the tenant speaks against a request. -/
def Admits (db : FunderDb) (tenantId : String) (body : ApplicationRequest) (programId : String) : Prop :=
  ∃ program ∈ db.programs, program.tenantId = tenantId ∧ program.status = .active ∧
    program.id = programId ∧
      eligibilityReasons program body.requestedAmount body.tenorDays body.region body.industry = []

/-- A new application records just the programs that admit it. -/
theorem records_newApplication {db : FunderDb} {call : FunderCall} {tenantId : String}
    {body : ApplicationRequest} {programId : String} :
    (newApplication rounding db call tenantId body).Records programId ↔
      Admits db tenantId body programId := by
  simp only [FundingApplication.Records, newApplication, Admits, List.mem_map, List.mem_filter,
    Bool.and_eq_true, beq_iff_eq]
  constructor
  · rintro ⟨_, ⟨program, ⟨hstored, howner, hactive⟩, rfl⟩, hid, heligible⟩
    exact ⟨program, hstored, howner, hactive, hid, List.isEmpty_iff.mp heligible⟩
  · rintro ⟨program, hstored, howner, hactive, hid, hreasons⟩
    exact ⟨_, ⟨program, ⟨hstored, howner, hactive⟩, rfl⟩, hid, List.isEmpty_iff.mpr hreasons⟩

/-! ## The history of an application -/

/-- The entry has created the application with an identifier. -/
def Creates (e : Entry FunderDb FunderCall (Except FunderError FunderAnswer)) (tenantId : String)
    (body : ApplicationRequest) (applicationId : String) : Prop :=
  e.input.request = .createApplication tenantId body ∧ (∃ answer, e.output = .ok answer) ∧
    "application_demo_" ++ e.input.token = applicationId

/-- The program admitted the application when a call of the history created it. -/
def WasEligible (history : History) (applicationId programId : String) : Prop :=
  ∃ e ∈ history, ∃ tenantId body, Creates e tenantId body applicationId ∧
    Admits e.before tenantId body programId

theorem wasEligible_append {history : History}
    {e : Entry FunderDb FunderCall (Except FunderError FunderAnswer)} {applicationId programId : String} :
    WasEligible (history ++ [e]) applicationId programId ↔ WasEligible history applicationId programId ∨
      ∃ tenantId body, Creates e tenantId body applicationId ∧ Admits e.before tenantId body programId := by
  simp only [WasEligible, List.mem_append, List.mem_singleton, or_and_right, exists_or,
    exists_eq_left]

/-- An entry that creates nothing adds nothing. -/
theorem wasEligible_append_of_other {history : History}
    {e : Entry FunderDb FunderCall (Except FunderError FunderAnswer)} {applicationId programId : String}
    (h : ∀ tenantId body, ¬ Creates e tenantId body applicationId) :
    WasEligible (history ++ [e]) applicationId programId ↔
      WasEligible history applicationId programId := by
  rw [wasEligible_append]
  refine or_iff_left ?_
  rintro ⟨tenantId, body, hcreates, -⟩
  exact h tenantId body hcreates

/-! ## What a commit does to applications and offers -/

section Commits

variable {rounding : Rounding} {sha256 : String → String} {db : FunderDb} {call : FunderCall}
    {tenantId : String}
  {answer : FunderAnswer} {writes : Writes}

/-- The rows of a call that creates an application. -/
theorem serve_createApplication {body : ApplicationRequest} {rows : Option Writes}
    (hrequest : call.request = .createApplication tenantId body)
    (h : serve rounding sha256 db call = .ok (answer, rows)) :
    rows = some { applications := [.insert (newApplication rounding db call tenantId body)] } := by
  simp only [serve, hrequest] at h
  obtain ⟨-, h⟩ := ensure_bind_ok.mp h
  exact (Prod.mk.inj (Except.ok.inj h)).2.symm

/-- The rows of a call that reviews an application. -/
theorem serve_reviewApplication {applicationId : String} {expectedVersion : Int} {body : ReviewRequest}
    (hrequest : call.request = .reviewApplication tenantId applicationId expectedVersion body)
    (h : serve rounding sha256 db call = .ok (answer, some writes)) :
    ∃ value : FundingApplication, writes = { applications := [.update (value.review body)] } := by
  simp only [serve, hrequest] at h
  obtain ⟨value, -, h⟩ := bind_ok.mp h
  obtain ⟨-, h⟩ := ensure_bind_ok.mp h
  obtain ⟨-, h⟩ := ensure_bind_ok.mp h
  obtain ⟨-, h⟩ := ensure_bind_ok.mp h
  exact ⟨value, (Option.some.inj (returned h).2).symm⟩

theorem answered_application {request : Request} {row : FundingApplication}
    (h : request.answeredBy (.application row) = true) :
    (∃ tenantId body, request = .createApplication tenantId body) ∨
      ∃ tenantId applicationId expectedVersion body,
        request = .reviewApplication tenantId applicationId expectedVersion body := by
  cases request with
  | createApplication tenantId body => exact Or.inl ⟨tenantId, body, rfl⟩
  | reviewApplication tenantId applicationId expectedVersion body =>
    exact Or.inr ⟨tenantId, applicationId, expectedVersion, body, rfl⟩
  | _ => cases h

theorem answered_offer {request : Request} {row : FundingOffer} {program : FundingProgram}
    {application : FundingApplication} (h : request.answeredBy (.offer row program application) = true) :
    ∃ tenantId applicationId expectedVersion body,
      request = .issueOffer tenantId applicationId expectedVersion body := by
  cases request with
  | issueOffer tenantId applicationId expectedVersion body =>
    exact ⟨tenantId, applicationId, expectedVersion, body, rfl⟩
  | _ => cases h

/-- Where the applications after a commit come from. -/
inductive ApplicationOrigin (rounding : Rounding) (db : FunderDb) (call : FunderCall)
    (row : FundingApplication) : Prop
  | created (tenantId : String) (body : ApplicationRequest)
      (hrequest : call.request = .createApplication tenantId body)
      (hrow : row = newApplication rounding db call tenantId body)
      (hfresh : ∀ old ∈ db.applications, row.id ≠ old.id)
  | stored (old : FundingApplication) (hstored : old ∈ db.applications) (hid : old.id = row.id)
      (hresults : old.eligibilityResults = row.eligibilityResults)

theorem application_origin (hserve : serve rounding sha256 db call = .ok (answer, some writes))
    (haccepted : writes.Accepted db) {row : FundingApplication}
    (hrow : row ∈ (writes.apply db).applications) : ApplicationOrigin rounding db call row := by
  have hanswered := serve_answers rounding sha256 db call _ hserve
  cases move_of_serve hserve with
  | applicationCreated tenantId body =>
    rcases answered_application hanswered with
      ⟨owner, request, hrequest⟩ | ⟨owner, applicationId, expectedVersion, review, hrequest⟩
    · obtain hrows := serve_createApplication hrequest hserve
      simp only [Option.some.injEq, Writes.mk.injEq, List.cons.injEq, RowWrite.insert.injEq] at hrows
      have hfree := RowWrite.accepted_insert.mp (RowWrite.accepted_of_singleton haccepted.applications)
      rcases RowWrite.mem_written haccepted.applications hrow with rfl | ⟨hold, -⟩
      · exact .created owner request hrequest hrows.2.1.1 fun old hold ↦ (hfree old hold).1
      · exact .stored row hold rfl rfl
    · obtain ⟨value, hrows⟩ := serve_reviewApplication hrequest hserve
      simp at hrows
  | applicationReviewed value body hstored =>
    rcases RowWrite.mem_written haccepted.applications hrow with rfl | ⟨hold, -⟩
    · exact .stored value hstored rfl rfl
    · exact .stored row hold rfl rfl
  | offerIssued tenantId application program body h =>
    rcases RowWrite.mem_written haccepted.applications hrow with rfl | ⟨hold, -⟩
    · exact .stored application h.heldApplication.stored rfl rfl
    · exact .stored row hold rfl rfl
  | reserved => exact .stored row hrow rfl rfl
  | released => exact .stored row hrow rfl rfl
  | prepared => exact .stored row hrow rfl rfl
  | confirmed => exact .stored row hrow rfl rfl
  | programMoved => exact .stored row hrow rfl rfl
  | eventIgnored => exact .stored row hrow rfl rfl
  | eventFollowed => exact .stored row hrow rfl rfl

/-- The call issues an offer: all checks hold, and the database takes the rows. -/
structure Issuable (db : FunderDb) (call : FunderCall) (tenantId : String) (application : FundingApplication)
    (program : FundingProgram) (body : OfferRequest) : Prop extends
    Issues db tenantId application program body where
  request : call.request = .issueOffer tenantId application.id application.version body
  withinProgram : body.approvedAmount ≤ program.maximumAmount
  rate : body.advanceRate ≤ program.advanceRateMaximum
  tenor : program.tenorMinimumDays ≤ body.tenorDays ∧ body.tenorDays ≤ program.tenorMaximumDays
  current : call.clock 0 < body.expiresAt
  admitted : call.refused = false
  fresh : ∀ row ∈ db.offers, "offer_demo_" ++ call.token ≠ row.id

theorem expectVersion_ok {current expected : Int} :
    expectVersion current expected = .ok () ↔ current = expected := by
  by_cases h : current = expected <;> simp [expectVersion, ensure, h]

/-- The rows of a new offer. -/
def offerWrites (rounding : Rounding) (call : FunderCall) (tenantId : String)
    (application : FundingApplication) (program : FundingProgram) (body : OfferRequest) : Writes :=
  { offers := [.insert (newOffer rounding call tenantId application program body)]
    applications := [.update application.bump] }

/-- A call that commits an offer has made all checks. -/
theorem serve_issueOffer {applicationId : String} {expectedVersion : Int} {body : OfferRequest}
    (hrequest : call.request = .issueOffer tenantId applicationId expectedVersion body)
    (h : serve rounding sha256 db call = .ok (answer, some writes)) (hadmitted : call.refused = false)
    (haccepted : writes.Accepted db) :
    ∃ application program, Issuable db call tenantId application program body ∧
      writes = offerWrites rounding call tenantId application program body := by
  simp only [serve, hrequest] at h
  obtain ⟨application, happlication, h⟩ := bind_ok.mp h
  obtain ⟨⟨⟩, hversion, h⟩ := bind_ok.mp h
  obtain ⟨happroved, h⟩ := ensure_bind_ok.mp h
  obtain ⟨program, hprogram, h⟩ := bind_ok.mp h
  obtain ⟨hactive, h⟩ := ensure_bind_ok.mp h
  obtain ⟨hbound, h⟩ := ensure_bind_ok.mp h
  obtain ⟨hrate, h⟩ := ensure_bind_ok.mp h
  obtain ⟨htenor, h⟩ := ensure_bind_ok.mp h
  obtain ⟨hcurrent, h⟩ := ensure_bind_ok.mp h
  obtain ⟨-, hrows⟩ := returned h
  obtain rfl : offerWrites rounding call tenantId application program body = writes := Option.some.inj hrows
  have hfound := lookup_ok happlication
  obtain rfl := hfound.id
  have hfree := RowWrite.accepted_insert.mp (RowWrite.accepted_of_singleton haccepted.offers)
  simp only [Bool.and_eq_true, decide_eq_true_eq] at hbound hrate htenor hcurrent
  refine ⟨application, program, ⟨⟨hfound, beq_iff_eq.mp happroved, lookup_ok hprogram,
    beq_iff_eq.mp hactive, hbound.1⟩, ?_, hbound.2, hrate, htenor, hcurrent, hadmitted,
    fun old hold ↦ (hfree old hold).1⟩, rfl⟩
  rw [hrequest, expectVersion_ok.mp hversion]

/-- An offer whose checks hold is committed. -/
theorem step_of_issuable (rounding : Rounding) (sha256 : String → String) {application : FundingApplication}
    {program : FundingProgram} {body : OfferRequest} (hkeyed : db.WellKeyed)
    (h : Issuable db call tenantId application program body) :
    (marketplace rounding sha256).step db call =
      (.ok (.offer (newOffer rounding call tenantId application program body) program application.bump),
        (offerWrites rounding call tenantId application program body).apply db) := by
  have happlication : applicationModel db tenantId application.id = .ok application :=
    h.heldApplication.lookup hkeyed.applications.keys
  have hprogram : programModel db tenantId body.programId = .ok program :=
    h.heldProgram.lookup hkeyed.programs.keys
  have hserve : serve rounding sha256 db call =
      .ok (.offer (newOffer rounding call tenantId application program body) program application.bump,
        some (offerWrites rounding call tenantId application program body)) := by
    simp only [serve, h.request, issueOffer]
    refine bind_ok.mpr ⟨application, happlication, ?_⟩
    refine bind_ok.mpr ⟨(), expectVersion_ok.mpr rfl, ?_⟩
    refine ensure_bind_ok.mpr ⟨by simp [h.approved], ?_⟩
    refine bind_ok.mpr ⟨program, hprogram, ?_⟩
    refine ensure_bind_ok.mpr ⟨by simp [h.active], ?_⟩
    refine ensure_bind_ok.mpr ⟨by simp [h.withinRequest, h.withinProgram], ?_⟩
    refine ensure_bind_ok.mpr ⟨by simp [h.rate], ?_⟩
    refine ensure_bind_ok.mpr ⟨by simp [h.tenor], ?_⟩
    exact ensure_bind_ok.mpr ⟨by simp [h.current], rfl⟩
  refine (sessions rounding sha256).step_commit hserve h.admitted (Writes.accepted_iff.mpr ?_)
  refine ⟨rfl, ?_, ?_, rfl, rfl, rfl⟩
  · exact RowWrite.acceptedAll_update hkeyed.applications h.heldApplication.stored rfl fun _ ↦ rfl
  · exact RowWrite.acceptedAll_cons.mpr
      ⟨RowWrite.accepted_insert.mpr fun old hold ↦ ⟨h.fresh old hold, rfl⟩, rfl⟩

/-- Where the offers after a commit come from. -/
inductive OfferOrigin (rounding : Rounding) (db : FunderDb) (call : FunderCall) (row : FundingOffer) : Prop
  | issued (tenantId : String) (application : FundingApplication) (program : FundingProgram)
      (body : OfferRequest) (h : Issuable db call tenantId application program body)
      (hrow : row = newOffer rounding call tenantId application program body)
  | stored (old : FundingOffer) (hstored : old ∈ db.offers)
      (happlication : old.applicationId = row.applicationId) (hprogram : old.programId = row.programId)

theorem offer_origin (hserve : serve rounding sha256 db call = .ok (answer, some writes))
    (hadmitted : call.refused = false) (haccepted : writes.Accepted db) {row : FundingOffer}
    (hrow : row ∈ (writes.apply db).offers) : OfferOrigin rounding db call row := by
  have hanswered := serve_answers rounding sha256 db call _ hserve
  cases move_of_serve hserve with
  | offerIssued =>
    obtain ⟨owner, applicationId, expectedVersion, request, hrequest⟩ := answered_offer hanswered
    obtain ⟨application, program, h, hrows⟩ := serve_issueOffer hrequest hserve hadmitted haccepted
    rw [hrows] at hrow haccepted
    rcases RowWrite.mem_written haccepted.offers hrow with rfl | ⟨hold, -⟩
    · exact .issued owner application program request h rfl
    · exact .stored row hold rfl rfl
  | reserved tenantId offer application program body h =>
    rcases RowWrite.mem_written haccepted.offers hrow with rfl | ⟨hold, -⟩
    · exact .stored offer h.heldOffer.stored rfl rfl
    · exact .stored row hold rfl rfl
  | released tenantId reference now value program offer h =>
    rcases RowWrite.mem_written haccepted.offers hrow with rfl | ⟨hold, -⟩
    · exact .stored offer h.heldOffer.stored rfl rfl
    · exact .stored row hold rfl rfl
  | applicationCreated => exact .stored row hrow rfl rfl
  | applicationReviewed => exact .stored row hrow rfl rfl
  | prepared => exact .stored row hrow rfl rfl
  | confirmed => exact .stored row hrow rfl rfl
  | programMoved => exact .stored row hrow rfl rfl
  | eventIgnored => exact .stored row hrow rfl rfl
  | eventFollowed => exact .stored row hrow rfl rfl

/-- A call that creates an application stores it under a new identifier. -/
theorem created_by {tenant : String} {body : ApplicationRequest} {applicationId : String}
    (hserve : serve rounding sha256 db call = .ok (answer, some writes)) (haccepted : writes.Accepted db)
    (h : Creates ((marketplace rounding sha256).entry db call) tenant body applicationId) :
    applicationId ∈ (writes.apply db).applications.map FundingApplication.id ∧
      ∀ old ∈ db.applications, old.id ≠ applicationId := by
  obtain ⟨hrequest, -, rfl⟩ := h
  obtain rfl := Option.some.inj (serve_createApplication hrequest hserve)
  have hfree := RowWrite.accepted_insert.mp (RowWrite.accepted_of_singleton haccepted.applications)
  refine ⟨List.mem_map.mpr ⟨newApplication rounding db call tenant body, ?_, rfl⟩, fun old hold ↦ ?_⟩
  · exact List.mem_append_right _ List.mem_cons_self
  · exact Ne.symm (hfree old hold).1

end Commits

/-! ## The results of a run -/

/-- What every run keeps: an application records the programs that were eligible for it. -/
structure Evaluated (history : History) (db : FunderDb) : Prop where
  regular : Regular db
  results : ∀ application ∈ db.applications, ∀ programId,
    application.Records programId ↔ WasEligible history application.id programId
  created : ∀ e ∈ history, ∀ tenantId body applicationId, Creates e tenantId body applicationId →
    applicationId ∈ db.applications.map FundingApplication.id

section Runs

variable {rounding : Rounding} {sha256 : String → String} {history : History} {db : FunderDb}

/-- An entry that creates nothing keeps the results of the same rows. -/
theorem Evaluated.append (h : Evaluated history db)
    {e : Entry FunderDb FunderCall (Except FunderError FunderAnswer)}
    (hother : ∀ tenantId body applicationId, ¬ Creates e tenantId body applicationId) :
    Evaluated (history ++ [e]) db where
  regular := h.regular
  results application happlication programId := by
    rw [wasEligible_append_of_other fun tenantId body ↦ hother tenantId body _]
    exact h.results application happlication programId
  created := by
    intro e' he' tenantId body applicationId hcreates
    rcases List.mem_append.mp he' with hold | hnew
    · exact h.created e' hold tenantId body applicationId hcreates
    · rw [List.mem_singleton.mp hnew] at hcreates
      exact absurd hcreates (hother tenantId body applicationId)

theorem Evaluated.step (h : Evaluated history db) (call : FunderCall) :
    Evaluated (history ++ [(marketplace rounding sha256).entry db call])
      ((marketplace rounding sha256).step db call).2 := by
  rcases (sessions rounding sha256).step_cases db call with
    ⟨failure, hstep⟩ | ⟨answer, hserve, hstep⟩ | ⟨answer, writes, hserve, hrefused, haccepted, hstep⟩
  · have hafter : ((marketplace rounding sha256).step db call).2 = db := congrArg Prod.snd hstep
    rw [hafter]
    refine h.append ?_
    rintro tenantId body applicationId ⟨-, ⟨answer, houtput⟩, -⟩
    have herror : ((marketplace rounding sha256).entry db call).output = .error failure :=
      congrArg Prod.fst hstep
    rw [herror] at houtput
    cases houtput
  · have hafter : ((marketplace rounding sha256).step db call).2 = db := congrArg Prod.snd hstep
    rw [hafter]
    refine h.append ?_
    rintro tenantId body applicationId ⟨hrequest, -, -⟩
    cases serve_createApplication hrequest hserve
  · have haccepted := Writes.accepted_iff.mp haccepted
    have hafter : ((marketplace rounding sha256).step db call).2 = writes.apply db := congrArg Prod.snd hstep
    have houtput : ((marketplace rounding sha256).entry db call).output = .ok answer :=
      congrArg Prod.fst hstep
    rw [hafter]
    refine ⟨h.regular.apply (move_of_serve hserve) haccepted, ?_, ?_⟩
    · intro row hrow programId
      cases application_origin hserve haccepted hrow with
      | created tenantId body hrequest hnew hfresh =>
        have hunseen : ¬ WasEligible history row.id programId := by
          rintro ⟨e, he, owner, request, hcreates, -⟩
          obtain ⟨old, hold, hid⟩ := List.mem_map.mp (h.created e he owner request row.id hcreates)
          exact hfresh old hold hid.symm
        rw [wasEligible_append, or_iff_right hunseen, hnew, records_newApplication]
        constructor
        · exact fun hadmits ↦ ⟨tenantId, body, ⟨hrequest, ⟨answer, houtput⟩, rfl⟩, hadmits⟩
        · rintro ⟨owner, request, ⟨hcreates, -, -⟩, hadmits⟩
          obtain ⟨rfl, rfl⟩ := Request.createApplication.inj (hrequest.symm.trans hcreates)
          exact hadmits
      | stored old hold hid hresults =>
        rw [wasEligible_append_of_other fun tenantId body hcreates ↦
          (created_by hserve haccepted hcreates).2 old hold hid]
        have hsame := h.results old hold programId
        rwa [FundingApplication.Records, hresults, hid] at hsame
    · intro e he tenantId body applicationId hcreates
      rcases List.mem_append.mp he with hold | hnew
      · exact application_kept writes (h.created e hold tenantId body applicationId hcreates)
      · rw [List.mem_singleton.mp hnew] at hcreates
        exact (created_by hserve haccepted hcreates).1

end Runs

/-! ## The law and its condition -/

/-- An offer names a program that its application records as eligible, because the program admitted the
application when it was created. -/
def FundingOffer.Eligible (history : History) (db : FunderDb) (offer : FundingOffer) : Prop :=
  ∃ application ∈ db.applications, application.id = offer.applicationId ∧
    application.Records offer.programId ∧ WasEligible history application.id offer.programId

def OffersEligible (history : History) (db : FunderDb) : Prop :=
  ∀ offer ∈ db.offers, offer.Eligible history db

/-- An offer that the call issues names a program that was eligible for the application. -/
def NamesEligible (history : History) (db : FunderDb) (call : FunderCall) : Prop :=
  ∀ tenantId application program body, Issuable db call tenantId application program body →
    WasEligible history application.id program.id

section Exact

variable {rounding : Rounding} {sha256 : String → String} {history : History} {db : FunderDb}
    {call : FunderCall}

/-- An offer for a stored application is eligible when its program was. -/
theorem Evaluated.eligible (h : Evaluated history db) {offer : FundingOffer}
    (hstored : offer.applicationId ∈ db.applications.map FundingApplication.id)
    (hwas : WasEligible history offer.applicationId offer.programId) : offer.Eligible history db := by
  obtain ⟨application, happlication, hid⟩ := List.mem_map.mp hstored
  rw [← hid] at hwas
  exact ⟨application, happlication, hid, (h.results application happlication _).mpr hwas, hwas⟩

/-- What made an offer eligible is kept by a call. -/
theorem FundingOffer.Eligible.kept {offer : FundingOffer} (h : offer.Eligible history db) :
    offer.applicationId ∈ ((marketplace rounding sha256).step db call).2.applications.map
      FundingApplication.id ∧
      WasEligible (history ++ [(marketplace rounding sha256).entry db call]) offer.applicationId
        offer.programId := by
  obtain ⟨application, happlication, hid, -, hwas⟩ := h
  rw [← hid]
  have hstored : application.id ∈ db.applications.map FundingApplication.id :=
    List.mem_map_of_mem happlication
  refine ⟨?_, wasEligible_append.mpr (Or.inl hwas)⟩
  exact (sessions rounding sha256).step_kept
    (fun db ↦ application.id ∈ db.applications.map FundingApplication.id)
    hstored fun _ writes _ _ _ ↦ application_kept writes hstored

/-- A call keeps all offers eligible exactly when an offer that it issues names an eligible program. -/
theorem offersEligible_step_iff (h : Evaluated history db) (heligible : OffersEligible history db) :
    OffersEligible (history ++ [(marketplace rounding sha256).entry db call])
      ((marketplace rounding sha256).step db call).2 ↔
      NamesEligible history db call := by
  constructor
  · intro hafter tenantId application program body hissue
    have hstep := step_of_issuable rounding sha256 h.regular.keyed hissue
    have hstored : newOffer rounding call tenantId application program body ∈
        ((marketplace rounding sha256).step db call).2.offers := by
      rw [hstep]
      exact List.mem_append_right _ List.mem_cons_self
    obtain ⟨stored, -, hid, -, hwas⟩ := hafter _ hstored
    rw [hid, wasEligible_append_of_other] at hwas
    · exact hwas
    · rintro owner request ⟨hrequest, -, -⟩
      cases hissue.request.symm.trans hrequest
  · intro hnames offer hoffer
    have hafter : Evaluated (history ++ [(marketplace rounding sha256).entry db call])
        ((marketplace rounding sha256).step db call).2 := h.step call
    have hkept (old : FundingOffer) (hold : old ∈ db.offers)
        (happlication : old.applicationId = offer.applicationId)
        (hprogram : old.programId = offer.programId) :
        offer.Eligible (history ++ [(marketplace rounding sha256).entry db call])
          ((marketplace rounding sha256).step db call).2 := by
      obtain ⟨hstored, hwas⟩ := (heligible old hold).kept
      rw [happlication] at hstored
      rw [happlication, hprogram] at hwas
      exact hafter.eligible hstored hwas
    rcases (sessions rounding sha256).step_cases db call with
      ⟨failure, hstep⟩ | ⟨answer, -, hstep⟩ | ⟨answer, writes, hserve, hrefused, haccepted, hstep⟩
    · have hsame : ((marketplace rounding sha256).step db call).2 = db := congrArg Prod.snd hstep
      exact hkept offer (hsame ▸ hoffer) rfl rfl
    · have hsame : ((marketplace rounding sha256).step db call).2 = db := congrArg Prod.snd hstep
      exact hkept offer (hsame ▸ hoffer) rfl rfl
    · have hcommit : ((marketplace rounding sha256).step db call).2 = writes.apply db :=
        congrArg Prod.snd hstep
      have hwritten : offer ∈ (writes.apply db).offers := hcommit ▸ hoffer
      cases offer_origin hserve hrefused (Writes.accepted_iff.mp haccepted) hwritten with
      | issued tenantId application program body hissue hrow =>
        refine hafter.eligible ?_ (wasEligible_append.mpr (Or.inl ?_))
        · rw [hcommit, hrow]
          exact application_kept writes (List.mem_map_of_mem hissue.heldApplication.stored)
        · rw [hrow]
          exact hnames tenantId application program body hissue
      | stored old hold happlication hprogram => exact hkept old hold happlication hprogram

end Exact

/-- A marketplace with programs and nothing else. -/
structure Catalog where
  programs : List FundingProgram
  keys : programConstraints.Meets programs

def Catalog.db (catalog : Catalog) : FunderDb := { programs := catalog.programs }

theorem Catalog.evaluated (catalog : Catalog) : Evaluated [] catalog.db where
  regular := Regular.of_programs catalog.keys
  results := by simp [Catalog.db]
  created := by simp

/-- All offers that a run issues come from programs that were eligible for their application, and that the
application records as such, exactly when every call of the run that issues an offer names one. -/
theorem offers_eligible_iff (rounding : Rounding) (sha256 : String → String) (catalog : Catalog)
    (calls : List FunderCall) :
    (∀ earlier later, calls = earlier ++ later →
      OffersEligible ((marketplace rounding sha256).log catalog.db earlier)
        ((marketplace rounding sha256).run catalog.db earlier)) ↔
      ∀ earlier call later, calls = earlier ++ call :: later →
        NamesEligible ((marketplace rounding sha256).log catalog.db earlier)
          ((marketplace rounding sha256).run catalog.db earlier) call :=
  (marketplace rounding sha256).always_history_iff Evaluated OffersEligible NamesEligible catalog.evaluated
    (fun _ ↦ nofun) (fun _ _ call h ↦ h.step call) (fun _ _ _ h ↦ offersEligible_step_iff h) calls

/-! ## An offer of a program that does not serve the region -/

section Elsewhere

def harbour : FundingProgram :=
  { aurum with id := "harbour", programCode := "HARBOUR-60", eligibleRegions := ["Gujarat"] }

/-- Two programs, of which one finances the region of the application. -/
def regionalPrograms : Catalog where
  programs := [aurum, harbour]
  keys := ⟨by decide, by decide⟩

/-- The application is approved for the one program, and the offer names the other. -/
def loomElsewhere : List FunderCall :=
  loomReserved.take 2 ++
    [aurumCall "3" (.issueOffer "tenant" "application_demo_1" 2 { loomOffer with programId := "harbour" })]

theorem offer_of_ineligible_program :
    ¬ ∀ earlier later, loomElsewhere = earlier ++ later →
      OffersEligible ((marketplace .halfUp fun text ↦ text).log regionalPrograms.db earlier)
        ((marketplace .halfUp fun text ↦ text).run regionalPrograms.db earlier) := by
  intro h
  have hissued : ∃ offer ∈ ((marketplace .halfUp fun text ↦ text).run regionalPrograms.db
    loomElsewhere).offers,
      ∀ application ∈ ((marketplace .halfUp fun text ↦ text).run regionalPrograms.db
        loomElsewhere).applications,
        ∀ result ∈ application.eligibilityResults, result.programId = offer.programId →
          result.eligible = false := by
    decide +kernel
  obtain ⟨offer, hoffer, hunrecorded⟩ := hissued
  obtain ⟨application, happlication, -, ⟨result, hresult, hprogram, heligible⟩, -⟩ :=
    h loomElsewhere [] (List.append_nil _).symm offer hoffer
  rw [hunrecorded application happlication result hresult hprogram] at heligible
  cases heligible

end Elsewhere

end Xyena.Funder
