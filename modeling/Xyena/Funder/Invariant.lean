import Xyena.Funder.Moves

/-!
# What every commit of the marketplace keeps

The tables refer to each other: a reservation to its offer, an offer to its
application, and a commitment to the reservation whose amount it commits. Rows
are never deleted and these columns never change.
-/

namespace Xyena.Funder

open Xyena.Foundation Xyena.Foundation.Session

/-- The tables meet their keys and refer to rows that exist. -/
structure Regular (db : FunderDb) : Prop where
  keyed : db.WellKeyed
  amounts : ∀ row ∈ db.reservations, 0 ≤ row.reservedAmount
  requests : ∀ row ∈ db.applications, 0 ≤ row.requestedAmount
  offered : ∀ row ∈ db.reservations, row.offerId ∈ db.offers.map FundingOffer.id
  applied : ∀ row ∈ db.offers, row.applicationId ∈ db.applications.map FundingApplication.id
  backed : ∀ row ∈ db.commitments, (row.reservationId, row.committedAmount) ∈
    db.reservations.map fun reservation ↦ (reservation.id, reservation.reservedAmount)

/-- A marketplace with programs and nothing else. -/
theorem Regular.of_programs {programs : List FundingProgram} (h : programConstraints.Meets programs) :
    Regular { programs := programs } where
  keyed := ⟨h, meets_nil _, meets_nil _, meets_nil _, meets_nil _, meets_nil _⟩
  amounts := by simp
  requests := by simp
  offered := by simp
  applied := by simp
  backed := by simp

section References

variable {db : FunderDb}

/-- The reservation of a commitment, which a lookup by its key has found. -/
theorem Regular.backed_by (h : Regular db) {value : FundingCommitment} {reservation : OfferReservation}
    (hvalue : value ∈ db.commitments) (hreservation : reservation ∈ db.reservations)
    (hid : reservation.id = value.reservationId) : reservation.reservedAmount = value.committedAmount := by
  obtain ⟨row, hrow, hpair⟩ := List.mem_map.mp (h.backed value hvalue)
  obtain ⟨hrowId, hamount⟩ := Prod.mk.inj hpair
  obtain rfl : row = reservation :=
    Table.eq_of_key h.keyed.reservations.keys hrow hreservation (hrowId.trans hid.symm)
  exact hamount

theorem Regular.offer_of (h : Regular db) {reservation : OfferReservation}
    (hreservation : reservation ∈ db.reservations) :
    ∃ offer ∈ db.offers, offer.id = reservation.offerId :=
  List.mem_map.mp (h.offered reservation hreservation)

theorem Regular.application_of (h : Regular db) {offer : FundingOffer} (hoffer : offer ∈ db.offers) :
    ∃ application ∈ db.applications, application.id = offer.applicationId :=
  List.mem_map.mp (h.applied offer hoffer)

end References

section Step

variable {rounding : Rounding} {sha256 : String → String} {db : FunderDb} {call : FunderCall}
    {answer : FunderAnswer}
  {writes : Writes}

theorem offer_kept (writes : Writes) {id : String} (h : id ∈ db.offers.map FundingOffer.id) :
    id ∈ (writes.apply db).offers.map FundingOffer.id :=
  RowWrite.key_mem_applyAll offerConstraints writes.offers h

theorem application_kept (writes : Writes) {id : String}
    (h : id ∈ db.applications.map FundingApplication.id) :
    id ∈ (writes.apply db).applications.map FundingApplication.id :=
  RowWrite.key_mem_applyAll applicationConstraints writes.applications h

/-- The references from reservations survive when a reservation is stored with the same columns. -/
theorem backed_update (changed : OfferReservation) {reservation : OfferReservation} (h : Regular db)
    (hreservation : reservation ∈ db.reservations) (hid : changed.id = reservation.id)
    (hamount : changed.reservedAmount = reservation.reservedAmount) :
    ∀ row ∈ db.commitments, (row.reservationId, row.committedAmount) ∈
      (RowWrite.applyAll reservationConstraints db.reservations [.update changed]).map
        fun row ↦ (row.id, row.reservedAmount) := by
  intro row hrow
  have hcolumn : (changed.id, changed.reservedAmount) = (reservation.id, reservation.reservedAmount) := by
    rw [hid, hamount]
  have hcolumns : (RowWrite.applyAll reservationConstraints db.reservations [.update changed]).map
      (fun row ↦ (row.id, row.reservedAmount)) =
        db.reservations.map fun row ↦ (row.id, row.reservedAmount) :=
    RowWrite.map_update h.keyed.reservations hreservation hid hcolumn
  rw [hcolumns]
  exact h.backed row hrow

/-- A move keeps the tables regular. -/
theorem Regular.apply (h : Regular db) (hmove : Move rounding sha256 db call answer writes)
    (haccepted : writes.Accepted db) : Regular (writes.apply db) := by
  have hkeyed := h.keyed.apply haccepted
  cases hmove with
  | applicationCreated tenantId body =>
    refine ⟨hkeyed, h.amounts, ?_, h.offered, fun row hrow ↦ ?_, h.backed⟩
    · exact RowWrite.forall_written h.requests haccepted.applications
        (rounding.round_nonneg (le_of_lt body.requestedAmount_pos))
    · exact application_kept _ (h.applied row hrow)
  | applicationReviewed value body hstored =>
    refine ⟨hkeyed, h.amounts, ?_, h.offered, fun row hrow ↦ ?_, h.backed⟩
    · exact RowWrite.forall_written h.requests haccepted.applications (h.requests value hstored)
    · exact application_kept _ (h.applied row hrow)
  | offerIssued tenantId application program body hissue =>
    have happlication := hissue.heldApplication.stored
    refine ⟨hkeyed, h.amounts, ?_, fun row hrow ↦ ?_, ?_, h.backed⟩
    · exact RowWrite.forall_written h.requests haccepted.applications (h.requests application happlication)
    · exact offer_kept _ (h.offered row hrow)
    · refine RowWrite.forall_written (fun row hrow ↦ ?_) haccepted.offers ?_
      · exact application_kept _ (h.applied row hrow)
      · exact application_kept _ (List.mem_map_of_mem happlication)
  | reserved tenantId offer application program body hreserve =>
    have hoffer := hreserve.heldOffer.stored
    refine ⟨hkeyed, ?_, h.requests, ?_, ?_, fun row hrow ↦ ?_⟩
    · exact RowWrite.forall_written h.amounts haccepted.reservations
        (rounding.round_nonneg (le_of_lt body.amount_pos))
    · refine RowWrite.forall_written (fun row hrow ↦ ?_) haccepted.reservations ?_
      · exact offer_kept _ (h.offered row hrow)
      · exact offer_kept _ (List.mem_map_of_mem hoffer)
    · exact RowWrite.forall_written h.applied haccepted.offers (h.applied offer hoffer)
    · exact List.mem_map.mpr ((List.mem_map.mp (h.backed row hrow)).imp fun _ hrow ↦
        ⟨List.mem_append_left _ hrow.1, hrow.2⟩)
  | released tenantId reference now value program offer hrelease =>
    have hvalue := hrelease.heldValue.stored
    have hoffer := hrelease.heldOffer.stored
    refine ⟨hkeyed, ?_, h.requests, ?_, ?_, backed_update _ h hvalue rfl rfl⟩
    · exact RowWrite.forall_written h.amounts haccepted.reservations (h.amounts value hvalue)
    · refine RowWrite.forall_written (fun row hrow ↦ ?_) haccepted.reservations ?_
      · exact offer_kept _ (h.offered row hrow)
      · exact offer_kept _ (h.offered value hvalue)
    · exact RowWrite.forall_written h.applied haccepted.offers (h.applied offer hoffer)
  | prepared tenantId reservation body hprepare =>
    refine ⟨hkeyed, h.amounts, h.requests, h.offered, h.applied, ?_⟩
    exact RowWrite.forall_written h.backed haccepted.commitments
      (List.mem_map.mpr ⟨reservation, hprepare.heldReservation.stored, rfl⟩)
  | confirmed tenantId value reservation program body hconfirm =>
    have hreservation := hconfirm.heldReservation.stored
    have hbacked := backed_update (reservation.commit value.id) h hreservation rfl rfl
    refine ⟨hkeyed, ?_, h.requests, ?_, h.applied, ?_⟩
    · exact RowWrite.forall_written h.amounts haccepted.reservations (h.amounts reservation hreservation)
    · exact RowWrite.forall_written h.offered haccepted.reservations (h.offered reservation hreservation)
    · exact RowWrite.forall_written hbacked haccepted.commitments
        (hbacked value hconfirm.heldValue.stored)
  | programMoved value target hstored =>
    exact ⟨hkeyed, h.amounts, h.requests, h.offered, h.applied, h.backed⟩
  | eventIgnored event signedPayloadHash =>
    exact ⟨hkeyed, h.amounts, h.requests, h.offered, h.applied, h.backed⟩
  | eventFollowed event signedPayloadHash value version hfollow =>
    refine ⟨hkeyed, h.amounts, h.requests, h.offered, h.applied, ?_⟩
    refine RowWrite.forall_written h.backed haccepted.commitments ?_
    rw [RowWrite.row, follow_reservationId, follow_committedAmount]
    exact h.backed value hfollow.heldValue.stored

end Step

/-- Every call keeps the tables regular. -/
theorem Regular.step {rounding : Rounding} {sha256 : String → String} {db : FunderDb} (h : Regular db)
    (call : FunderCall) :
    Regular ((marketplace rounding sha256).step db call).2 :=
  (sessions rounding sha256).step_kept Regular h fun _ _ hserve _ haccepted ↦
    h.apply (move_of_serve hserve) (Writes.accepted_iff.mp haccepted)

/-! ## A sample marketplace -/

def aurum : FundingProgram where
  id := "program"
  tenantId := "tenant"
  funderId := "funder"
  programCode := "RAPID-70"
  minimumAmount := 10000
  maximumAmount := 500000
  totalCapacity := 1000000
  advanceRateMaximum := 70
  tenorMinimumDays := 15
  tenorMaximumDays := 90
  eligibleRegions := ["Karnataka"]
  eligibleIndustries := ["Textiles"]
  status := .active

theorem aurum_meets : programConstraints.Meets [aurum] := ⟨List.nodup_singleton _, by simp⟩

def aurumCall (token : String) (request : Request) : FunderCall where
  request := request
  clock _ := 0
  token := token

theorem exposure_none : (0 : Rat) ≤ 0 := le_rfl

def loomRequest : ApplicationRequest where
  caseId := "case"
  msmeId := "msme"
  msmeName := "Western Loomworks"
  receivableId := "receivable"
  requestedAmount := 40000
  tenorDays := 60
  region := "Karnataka"
  industry := "Textiles"
  evidenceReceiptIds := ["evr_gst"]
  exposureSnapshotReference := "exposure"
  exposureAmount := 0
  requestedAmount_pos := by decide +kernel
  tenor_offered := by decide
  evidence_given := by decide
  exposureAmount_nonneg := exposure_none

def loomOffer : OfferRequest where
  programId := "program"
  approvedAmount := 40000
  advanceRate := 60
  annualRate := 13
  feeAmount := 300
  tenorDays := 60
  repaymentTerms := "Single settlement on day 60"
  expiresAt := 100
  approvedAmount_pos := by decide +kernel
  advanceRate_percentage := by decide +kernel
  annualRate_percentage := by decide +kernel
  feeAmount_nonneg := by decide +kernel
  tenor_offered := by decide

def loomReserve (key : String) (hkey : 8 ≤ key.toList.length ∧ key.toList.length ≤ 120) : ReserveRequest where
  amount := 40000
  idempotencyKey := key
  expiresAt := 50
  amount_pos := by decide +kernel
  key_length := hkey

theorem reserveKey_length : 8 ≤ "reserve_1".toList.length ∧ "reserve_1".toList.length ≤ 120 := by decide

/-- From the application of an enterprise to the reservation of its offer. -/
def loomReserved : List FunderCall :=
  [aurumCall "1" (.createApplication "tenant" loomRequest),
    aurumCall "2" (.reviewApplication "tenant" "application_demo_1" 1 ⟨.approve, "reviewer"⟩),
    aurumCall "3" (.issueOffer "tenant" "application_demo_1" 2 loomOffer),
    aurumCall "4" (.reserveOffer "tenant" "offer_demo_3" (loomReserve "reserve_1" reserveKey_length))]

end Xyena.Funder
