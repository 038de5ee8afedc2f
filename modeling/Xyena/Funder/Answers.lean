import Xyena.Funder.Moves

/-!
# Which answers an operation gives

Every operation answers with rows of its own kind, so that an answer says which
request was made.
-/

namespace Xyena.Funder

open Xyena.Foundation Xyena.Foundation.Session

/-- Whether a request is answered with rows of this kind. -/
def Request.answeredBy : Request → FunderAnswer → Bool
  | .createApplication .., .application _ => true
  | .reviewApplication .., .application _ => true
  | .issueOffer .., .offer .. => true
  | .reserveOffer .., .reservation _ => true
  | .releaseReservation .., .reservation _ => true
  | .prepareCommitment .., .commitment .. => true
  | .confirmCommitment .., .commitment .. => true
  | .transitionProgram .., .program _ => true
  | .getExposure .., .exposure _ => true
  | .consumeExternalEvent .., .duplicateIgnored _ => true
  | .consumeExternalEvent .., .staleVersionIgnored _ => true
  | .consumeExternalEvent .., .processed .. => true
  | _, _ => false

theorem serve_answers (rounding : Rounding) (sha256 : String → String) (db : FunderDb) (call : FunderCall) :
    Returns (fun outcome ↦ call.request.answeredBy outcome.1 = true) (serve rounding sha256 db call) := by
  unfold serve
  cases call.request with
  | createApplication tenantId body => exact .ensure fun _ ↦ .ok rfl
  | reviewApplication tenantId applicationId expectedVersion body =>
    exact .bind fun _ _ ↦ .bind fun _ _ ↦ .ensure fun _ ↦ .ensure fun _ ↦ .ok rfl
  | issueOffer tenantId applicationId expectedVersion body =>
    refine .bind fun _ _ ↦ .bind fun _ _ ↦ .ensure fun _ ↦ .bind fun _ _ ↦ .ensure fun _ ↦ ?_
    exact .ensure fun _ ↦ .ensure fun _ ↦ .ensure fun _ ↦ .ensure fun _ ↦ .ok rfl
  | reserveOffer tenantId offerId body =>
    simp only [reserveOffer]
    split
    · exact .ensure fun _ ↦ .ok rfl
    · refine .bind fun _ _ ↦ .ensure fun _ ↦ .ensure fun _ ↦ .bind fun _ _ ↦ .bind fun _ _ ↦ ?_
      exact .ensure fun _ ↦ .ensure fun _ ↦ .ok rfl
  | releaseReservation tenantId reservationId expectedVersion =>
    exact .bind fun _ _ ↦ .bind fun _ _ ↦ .ensure fun _ ↦ .bind fun _ _ ↦ .bind fun _ _ ↦ .ok rfl
  | prepareCommitment tenantId reservationId body =>
    refine .bind fun _ _ ↦ .ensure fun _ ↦ ?_
    split
    · exact .ok rfl
    · exact .ok rfl
  | confirmCommitment tenantId commitmentId body =>
    refine .bind fun _ _ ↦ ?_
    split
    · exact .bind fun _ _ ↦ .ok rfl
    · refine .ensure fun _ ↦ .bind fun _ _ ↦ .bind fun _ _ ↦ .ensure fun _ ↦ ?_
      exact .bind fun _ _ ↦ .ok rfl
  | transitionProgram tenantId programId expectedVersion action =>
    refine .bind fun _ _ ↦ .bind fun _ _ ↦ ?_
    split
    · exact .error _
    · exact .ok rfl
  | getExposure tenantId msmeId => exact .ok rfl
  | consumeExternalEvent event signedPayloadHash =>
    simp only [consumeExternalEvent]
    split
    · exact .ok rfl
    · refine .bind fun _ _ ↦ ?_
      split
      · exact .error _
      · split
        · exact .ok rfl
        · exact .ok rfl

end Xyena.Funder
