import Xyena.Funder.Commitments

/-!
# What an application is financed with

Every offer for an application is bounded by its requested amount and every
reservation by its offer, but the reservations of several offers are committed
one by one. The committed reservations of an application stay within its request
exactly when every confirmation finds room for one more.
-/

namespace Xyena.Funder

open Xyena.Foundation Xyena.Foundation.Session

/-! ## Committed reservations of an application -/

/-- Whether an offer was issued for an application. -/
def issuedFor (offers : List FundingOffer) (applicationId offerId : String) : Bool :=
  offers.any fun offer ↦ offer.id == offerId && offer.applicationId == applicationId

/-- The sum of the committed reservations over all offers issued for an application. -/
def financedFor (db : FunderDb) (applicationId : String) : Int :=
  Table.sum OfferReservation.reservedAmount (db.reservations.filter fun row ↦
    row.status == .committed && issuedFor db.offers applicationId row.offerId)

/-- No application is financed beyond its request. -/
def WithinRequests (db : FunderDb) : Prop :=
  ∀ application ∈ db.applications, financedFor db application.id ≤ application.requestedAmount

/-- What a reservation adds to the financing of an application. -/
def OfferReservation.financing (offers : List FundingOffer) (applicationId : String)
    (row : OfferReservation) : Int :=
  if row.status == .committed && issuedFor offers applicationId row.offerId then row.reservedAmount else 0

theorem financedFor_eq (db : FunderDb) (applicationId : String) : financedFor db applicationId =
    Table.sum (OfferReservation.financing db.offers applicationId) db.reservations :=
  Table.sum_filter _ _ _

theorem OfferReservation.financing_of_uncommitted {row : OfferReservation} (offers : List FundingOffer)
    (applicationId : String) (h : row.status ≠ .committed) : row.financing offers applicationId = 0 := by
  simp [financing, h]

theorem issuedFor_iff {offers : List FundingOffer} {applicationId offerId : String} :
    issuedFor offers applicationId offerId = true ↔
      ∃ offer ∈ offers, offer.id = offerId ∧ offer.applicationId = applicationId := by
  simp [issuedFor]

/-- Whether an offer was issued for an application depends on two columns only. -/
theorem issuedFor_congr {first second : List FundingOffer}
    (h : first.map (fun offer ↦ (offer.id, offer.applicationId)) =
      second.map fun offer ↦ (offer.id, offer.applicationId)) (applicationId offerId : String) :
    issuedFor first applicationId offerId = issuedFor second applicationId offerId := by
  have hcolumns (offers : List FundingOffer) : issuedFor offers applicationId offerId =
      (offers.map fun offer ↦ (offer.id, offer.applicationId)).any fun columns ↦
        columns.1 == offerId && columns.2 == applicationId := by
    rw [List.any_map]
    rfl
  rw [hcolumns, hcolumns, h]

/-- A new offer is issued for no application that has reservations of it. -/
theorem issuedFor_append {offers : List FundingOffer} {new : FundingOffer} {offerId : String}
    (applicationId : String) (hne : new.id ≠ offerId) :
    issuedFor (offers ++ [new]) applicationId offerId = issuedFor offers applicationId offerId := by
  simp [issuedFor, hne]

/-! ## One reservation is within the request -/

/-- Every offer is within the request of its application and every reservation within its offer. -/
structure Bounded (db : FunderDb) : Prop where
  offers : ∀ offer ∈ db.offers, ∃ application ∈ db.applications,
    application.id = offer.applicationId ∧ offer.approvedAmount ≤ application.requestedAmount
  reservations : ∀ row ∈ db.reservations, ∃ offer ∈ db.offers,
    offer.id = row.offerId ∧ row.reservedAmount ≤ offer.approvedAmount

section Bounds

variable {rounding : Rounding} {sha256 : String → String} {db : FunderDb} {call : FunderCall}
    {answer : FunderAnswer}
  {writes : Writes}

/-- A reservation is within the request of the application that its offer was issued for. -/
theorem Bounded.reservation_le (h : Bounded db) (hregular : Regular db) {row : OfferReservation}
    {application : FundingApplication} (hrow : row ∈ db.reservations)
    (happlication : application ∈ db.applications)
    (hissued : issuedFor db.offers application.id row.offerId = true) :
    row.reservedAmount ≤ application.requestedAmount := by
  obtain ⟨issued, hstored, hid, hfor⟩ := issuedFor_iff.mp hissued
  obtain ⟨offer, hoffer, hofferId, hwithinOffer⟩ := h.reservations row hrow
  obtain rfl : issued = offer :=
    Table.eq_of_key hregular.keyed.offers.keys hstored hoffer (hid.trans hofferId.symm)
  obtain ⟨other, hother, hotherId, hwithinRequest⟩ := h.offers issued hstored
  obtain rfl : other = application :=
    Table.eq_of_key hregular.keyed.applications.keys hother happlication (hotherId.trans hfor)
  exact Int.le_trans hwithinOffer hwithinRequest

/-- A move keeps all bounds. -/
theorem Bounded.apply (h : Bounded db) (hmove : Move rounding sha256 db call answer writes)
    (hregular : Regular db) (haccepted : writes.Accepted db) : Bounded (writes.apply db) := by
  have happlicationKeys := hregular.keyed.applications.keys
  have hofferKeys := hregular.keyed.offers.keys
  cases hmove with
  | applicationCreated tenantId body =>
    refine ⟨fun offer hoffer ↦ ?_, h.reservations⟩
    obtain ⟨application, happlication, hbound⟩ := h.offers offer hoffer
    exact ⟨application, List.mem_append_left _ happlication, hbound⟩
  | applicationReviewed value body hstored =>
    exact ⟨fun offer hoffer ↦ Table.exists_replace (value.review body) happlicationKeys hstored rfl id
      (h.offers offer hoffer), h.reservations⟩
  | offerIssued tenantId application program body hissue =>
    have happlication := hissue.heldApplication.stored
    refine ⟨RowWrite.forall_written (fun offer hoffer ↦ ?_) haccepted.offers ?_, fun row hrow ↦ ?_⟩
    · exact Table.exists_replace application.bump happlicationKeys happlication rfl id
        (h.offers offer hoffer)
    · exact ⟨application.bump, Table.changed_mem_replace happlication rfl, rfl,
        rounding.round_le hissue.withinRequest⟩
    · obtain ⟨offer, hoffer, hbound⟩ := h.reservations row hrow
      exact ⟨offer, List.mem_append_left _ hoffer, hbound⟩
  | reserved tenantId offer application program body hreserve =>
    have hoffer := hreserve.heldOffer.stored
    refine ⟨RowWrite.forall_written h.offers haccepted.offers (h.offers offer hoffer),
      RowWrite.forall_written (fun row hrow ↦ ?_) haccepted.reservations ?_⟩
    · exact Table.exists_replace offer.reserve hofferKeys hoffer rfl id (h.reservations row hrow)
    · exact ⟨offer.reserve, Table.changed_mem_replace hoffer rfl, rfl, rounding.round_le hreserve.withinOffer⟩
  | released tenantId reference now value program offer hrelease =>
    have hoffer := hrelease.heldOffer.stored
    have hkept (row : OfferReservation) (hrow : row ∈ db.reservations) :=
      Table.exists_replace (offer.free now) hofferKeys hoffer rfl id (h.reservations row hrow)
    exact ⟨RowWrite.forall_written h.offers haccepted.offers (h.offers offer hoffer),
      RowWrite.forall_written hkept haccepted.reservations (hkept value hrelease.heldValue.stored)⟩
  | confirmed tenantId value reservation program body hconfirm =>
    exact ⟨h.offers, RowWrite.forall_written h.reservations haccepted.reservations
      (h.reservations reservation hconfirm.heldReservation.stored)⟩
  | prepared => exact ⟨h.offers, h.reservations⟩
  | programMoved => exact ⟨h.offers, h.reservations⟩
  | eventIgnored => exact ⟨h.offers, h.reservations⟩
  | eventFollowed => exact ⟨h.offers, h.reservations⟩

end Bounds

/-! ## What the moves do to the financing -/

section Financing

variable {db after : FunderDb} {applicationId : String}

/-- The financing stays when the reservations stay and the offers agree on them. -/
theorem financedFor_congr (hreservations : after.reservations = db.reservations)
    (hoffers : ∀ row ∈ db.reservations,
      issuedFor after.offers applicationId row.offerId = issuedFor db.offers applicationId row.offerId) :
    financedFor after applicationId = financedFor db applicationId := by
  rw [financedFor_eq, financedFor_eq, hreservations]
  refine Table.sum_congr fun row hrow ↦ ?_
  rw [OfferReservation.financing, OfferReservation.financing, hoffers row hrow]

/-- A new reservation that is not committed finances nothing. -/
theorem financedFor_insert {row : OfferReservation} (hafter : after.reservations = db.reservations ++ [row])
    (hoffers : after.offers.map (fun offer ↦ (offer.id, offer.applicationId)) =
      db.offers.map fun offer ↦ (offer.id, offer.applicationId))
    (huncommitted : row.status ≠ .committed) :
    financedFor after applicationId = financedFor db applicationId := by
  rw [financedFor_eq, financedFor_eq, hafter, Table.sum_append, Table.sum_cons, Table.sum_nil,
    OfferReservation.financing_of_uncommitted _ _ huncommitted, Int.add_zero, Int.add_zero]
  refine Table.sum_congr fun row _ ↦ ?_
  rw [OfferReservation.financing, OfferReservation.financing, issuedFor_congr hoffers]

/-- A changed reservation moves the financing by its own change. -/
theorem financedFor_update (old changed : OfferReservation) (hregular : Regular db)
    (hafter : after.reservations = Table.replace OfferReservation.id changed db.reservations)
    (hoffers : after.offers.map (fun offer ↦ (offer.id, offer.applicationId)) =
      db.offers.map fun offer ↦ (offer.id, offer.applicationId))
    (hold : old ∈ db.reservations) (hid : changed.id = old.id) :
    financedFor after applicationId = financedFor db applicationId -
      old.financing db.offers applicationId + changed.financing db.offers applicationId := by
  have hsame (row : OfferReservation) :
      row.financing after.offers applicationId = row.financing db.offers applicationId := by
    rw [OfferReservation.financing, OfferReservation.financing, issuedFor_congr hoffers]
  calc financedFor after applicationId
      = Table.sum (OfferReservation.financing db.offers applicationId)
          (Table.replace OfferReservation.id changed db.reservations) := by
        rw [financedFor_eq, hafter]
        exact Table.sum_congr fun row _ ↦ hsame row
    _ = financedFor db applicationId - old.financing db.offers applicationId +
          changed.financing db.offers applicationId := by
        rw [financedFor_eq]
        exact Table.sum_replace _ hregular.keyed.reservations.keys hold hid

/-- An application none of whose reservations is committed is not financed. -/
theorem financedFor_of_uncommitted (h : ∀ row ∈ db.reservations, row.status = .committed →
    issuedFor db.offers applicationId row.offerId = false) : financedFor db applicationId = 0 := by
  rw [financedFor_eq, ← Table.sum_zero db.reservations]
  refine Table.sum_congr fun row hrow ↦ ?_
  unfold OfferReservation.financing
  split
  next hfinances =>
    simp only [Bool.and_eq_true, beq_iff_eq] at hfinances
    rw [h row hrow hfinances.1] at hfinances
    cases hfinances.2
  · rfl

/-- An application without offers is not financed. -/
theorem financedFor_of_unissued (h : ∀ offer ∈ db.offers, offer.applicationId ≠ applicationId) :
    financedFor db applicationId = 0 := by
  refine financedFor_of_uncommitted fun row _ _ ↦ ?_
  rw [← Bool.not_eq_true, issuedFor_iff]
  rintro ⟨offer, hoffer, -, hfor⟩
  exact h offer hoffer hfor

end Financing

section Step

variable {rounding : Rounding} {sha256 : String → String} {db : FunderDb} {call : FunderCall}
    {answer : FunderAnswer}
  {writes : Writes}

/-- Storing an offer keeps the columns by which it belongs to its application. -/
theorem offers_update (changed : FundingOffer) {offer : FundingOffer} (hregular : Regular db)
    (hoffer : offer ∈ db.offers) (hid : changed.id = offer.id)
    (happlication : changed.applicationId = offer.applicationId) :
    (RowWrite.applyAll offerConstraints db.offers [.update changed]).map
        (fun offer ↦ (offer.id, offer.applicationId)) =
      db.offers.map fun offer ↦ (offer.id, offer.applicationId) :=
  RowWrite.map_update hregular.keyed.offers hoffer hid (by rw [hid, happlication])

/-- A confirmation finances the application of its offer by the reservation, and no other one. -/
theorem financedFor_confirmation {tenantId : String} {value : FundingCommitment}
    {reservation : OfferReservation} {program : FundingProgram} {body : CommitmentConfirmRequest}
    (hregular : Regular db) (h : Confirms db call tenantId value reservation program body)
    (applicationId : String) :
    financedFor ((confirmationWrites value reservation program body).apply db) applicationId =
      financedFor db applicationId +
        if issuedFor db.offers applicationId reservation.offerId then reservation.reservedAmount else 0 := by
  have hafter : financedFor ((confirmationWrites value reservation program body).apply db) applicationId =
      financedFor db applicationId - reservation.financing db.offers applicationId +
        (reservation.commit value.id).financing db.offers applicationId :=
    financedFor_update reservation (reservation.commit value.id) hregular rfl rfl
      h.heldReservation.stored rfl
  rw [hafter, OfferReservation.financing_of_uncommitted _ _ (by simp [h.active]), Int.sub_zero]
  simp [OfferReservation.financing, OfferReservation.commit]

/-- A confirmation adds the reservation to the financing of its application, and a call that confirms
nothing leaves all financing as it is. -/
theorem Move.financed (hmove : Move rounding sha256 db call answer writes) (hregular : Regular db)
    (haccepted : writes.Accepted db) (applicationId : String) :
    financedFor (writes.apply db) applicationId = financedFor db applicationId ∨
      ∃ tenantId value reservation program body,
        Confirms db call tenantId value reservation program body ∧
        issuedFor db.offers applicationId reservation.offerId = true ∧
        financedFor (writes.apply db) applicationId =
          financedFor db applicationId + reservation.reservedAmount := by
  cases hmove with
  | applicationCreated => exact Or.inl rfl
  | applicationReviewed => exact Or.inl rfl
  | prepared => exact Or.inl rfl
  | programMoved => exact Or.inl rfl
  | eventIgnored => exact Or.inl rfl
  | eventFollowed => exact Or.inl rfl
  | offerIssued tenantId application program body h =>
    refine Or.inl (financedFor_congr rfl fun row hrow ↦ ?_)
    have hfree := RowWrite.accepted_insert.mp (RowWrite.accepted_of_singleton haccepted.offers)
    obtain ⟨offer, hoffer, hid⟩ := hregular.offer_of hrow
    exact issuedFor_append applicationId (hid ▸ (hfree offer hoffer).1)
  | reserved tenantId offer application program body h =>
    have hoffers := offers_update offer.reserve hregular h.heldOffer.stored rfl rfl
    exact Or.inl (financedFor_insert rfl hoffers (by simp [newReservation]))
  | released tenantId reference now value program offer h =>
    have hoffers := offers_update (offer.free now) hregular h.heldOffer.stored rfl rfl
    refine Or.inl ((financedFor_update value (value.release reference) hregular rfl hoffers
      h.heldValue.stored rfl).trans ?_)
    rw [OfferReservation.financing_of_uncommitted _ _ (by simp [h.active]),
      OfferReservation.financing_of_uncommitted _ _ (by simp [OfferReservation.release])]
    omega
  | confirmed tenantId value reservation program body h =>
    have hafter := financedFor_confirmation hregular h applicationId
    split at hafter
    next hissued => exact Or.inr ⟨tenantId, value, reservation, program, body, h, hissued, hafter⟩
    · exact Or.inl (hafter.trans (Int.add_zero _))

/-- A confirmation whose guards hold is committed. -/
theorem step_of_confirms {tenantId : String} {value : FundingCommitment} {reservation : OfferReservation}
    {program : FundingProgram} {body : CommitmentConfirmRequest} (hkeyed : db.WellKeyed)
    (h : Confirms db call tenantId value reservation program body) (hrefused : call.refused = false) :
    (marketplace rounding sha256).step db call =
      (.ok (.commitment (value.confirm body) (reservation.commit value.id)),
        (confirmationWrites value reservation program body).apply db) := by
  have hvalue : commitmentModel db tenantId value.id = .ok value :=
    h.heldValue.lookup hkeyed.commitments.keys
  have hreservation : reservationModel db tenantId value.reservationId = .ok reservation :=
    h.heldReservation.lookup hkeyed.reservations.keys
  have hprogram : programModel db tenantId reservation.programId = .ok program :=
    h.heldProgram.lookup hkeyed.programs.keys
  have hserve : serve rounding sha256 db call =
      .ok (.commitment (value.confirm body) (reservation.commit value.id),
        some (confirmationWrites value reservation program body)) := by
    simp only [serve, h.request, confirmCommitment]
    refine bind_ok.mpr ⟨value, hvalue, ?_⟩
    rw [if_neg (by simp [h.prepared])]
    refine ensure_bind_ok.mpr ⟨beq_iff_eq.mpr h.prepared, ?_⟩
    refine bind_ok.mpr ⟨(), checkActionHash_ok.mpr h.sameHash, ?_⟩
    refine bind_ok.mpr ⟨reservation, hreservation, ?_⟩
    refine ensure_bind_ok.mpr ⟨by simp [h.active, h.current], ?_⟩
    exact bind_ok.mpr ⟨program, hprogram, rfl⟩
  refine (sessions rounding sha256).step_commit hserve hrefused (Writes.accepted_iff.mpr ?_)
  refine ⟨?_, rfl, rfl, ?_, ?_, rfl⟩
  · exact RowWrite.acceptedAll_update hkeyed.programs h.heldProgram.stored rfl fun _ ↦ rfl
  · exact RowWrite.acceptedAll_update hkeyed.reservations h.heldReservation.stored rfl fun _ ↦ rfl
  · exact RowWrite.acceptedAll_update hkeyed.commitments h.heldValue.stored rfl fun _ ↦ rfl

/-! ## The exact condition -/

/-- A confirmation for an application that has a committed reservation already finds room for one more
in its request. -/
def LeavesRoom (db : FunderDb) (call : FunderCall) : Prop :=
  ∀ tenantId value reservation program body, call.refused = false →
    Confirms db call tenantId value reservation program body →
      ∀ application ∈ db.applications, issuedFor db.offers application.id reservation.offerId = true →
        ∀ other ∈ db.reservations, other.status = .committed →
          issuedFor db.offers application.id other.offerId = true →
            financedFor db application.id + reservation.reservedAmount ≤ application.requestedAmount

/-- An application after a move is a new one without offers or has the request of an old one. -/
theorem Move.application_origin (hmove : Move rounding sha256 db call answer writes) (hregular : Regular db)
    (haccepted : writes.Accepted db) {application : FundingApplication}
    (happlication : application ∈ (writes.apply db).applications) :
    financedFor (writes.apply db) application.id = 0 ∧ 0 ≤ application.requestedAmount ∨
      ∃ old ∈ db.applications, old.id = application.id ∧
        old.requestedAmount = application.requestedAmount := by
  cases hmove with
  | applicationCreated tenantId body =>
    have hfree := RowWrite.accepted_insert.mp (RowWrite.accepted_of_singleton haccepted.applications)
    rcases RowWrite.mem_written haccepted.applications happlication with rfl | ⟨hold, -⟩
    · refine Or.inl ⟨financedFor_of_unissued fun offer hoffer hsame ↦ ?_,
        rounding.round_nonneg (le_of_lt body.requestedAmount_pos)⟩
      obtain ⟨old, hold, hid⟩ := hregular.application_of hoffer
      exact (hfree old hold).1 (hsame.symm.trans hid.symm)
    · exact Or.inr ⟨application, hold, rfl, rfl⟩
  | applicationReviewed value body hstored =>
    rcases RowWrite.mem_written haccepted.applications happlication with rfl | ⟨hold, -⟩
    · exact Or.inr ⟨value, hstored, rfl, rfl⟩
    · exact Or.inr ⟨application, hold, rfl, rfl⟩
  | offerIssued tenantId old program body h =>
    rcases RowWrite.mem_written haccepted.applications happlication with rfl | ⟨hold, -⟩
    · exact Or.inr ⟨old, h.heldApplication.stored, rfl, rfl⟩
    · exact Or.inr ⟨application, hold, rfl, rfl⟩
  | reserved => exact Or.inr ⟨application, happlication, rfl, rfl⟩
  | released => exact Or.inr ⟨application, happlication, rfl, rfl⟩
  | prepared => exact Or.inr ⟨application, happlication, rfl, rfl⟩
  | confirmed => exact Or.inr ⟨application, happlication, rfl, rfl⟩
  | programMoved => exact Or.inr ⟨application, happlication, rfl, rfl⟩
  | eventIgnored => exact Or.inr ⟨application, happlication, rfl, rfl⟩
  | eventFollowed => exact Or.inr ⟨application, happlication, rfl, rfl⟩

/-- The first committed reservation of an application is within its request, and so is a further one
when there is room. -/
theorem LeavesRoom.room (h : LeavesRoom db call) (hregular : Regular db) (hbounded : Bounded db)
    {tenantId : String} {value : FundingCommitment} {reservation : OfferReservation}
    {program : FundingProgram} {body : CommitmentConfirmRequest} (hrefused : call.refused = false)
    (hconfirm : Confirms db call tenantId value reservation program body)
    {application : FundingApplication} (happlication : application ∈ db.applications)
    (hissued : issuedFor db.offers application.id reservation.offerId = true) :
    financedFor db application.id + reservation.reservedAmount ≤ application.requestedAmount := by
  by_cases hother : ∃ other ∈ db.reservations, other.status = .committed ∧
      issuedFor db.offers application.id other.offerId = true
  · obtain ⟨other, hstored, hcommitted, hfor⟩ := hother
    exact h tenantId value reservation program body hrefused hconfirm application happlication hissued
      other hstored hcommitted hfor
  · have hnone : financedFor db application.id = 0 := by
      refine financedFor_of_uncommitted fun row hrow hcommitted ↦ ?_
      exact Bool.not_eq_true _ ▸ fun hfor ↦ hother ⟨row, hrow, hcommitted, hfor⟩
    rw [hnone, Int.zero_add]
    exact hbounded.reservation_le hregular hconfirm.heldReservation.stored happlication hissued

/-- A move that leaves room keeps all applications within their requests. -/
theorem Move.within (hmove : Move rounding sha256 db call answer writes) (hregular : Regular db)
    (hbounded : Bounded db) (hwithin : WithinRequests db) (hrefused : call.refused = false)
    (haccepted : writes.Accepted db) (hroom : LeavesRoom db call) : WithinRequests (writes.apply db) := by
  intro application happlication
  rcases hmove.application_origin hregular haccepted happlication with
    ⟨hnone, hrequest⟩ | ⟨old, hold, hid, hrequest⟩
  · rw [hnone]
    exact hrequest
  · rw [← hid, ← hrequest]
    rcases hmove.financed hregular haccepted old.id with
      hsame | ⟨tenantId, value, reservation, program, body, hconfirm, hissued, hmore⟩
    · rw [hsame]
      exact hwithin old hold
    · rw [hmore]
      exact hroom.room hregular hbounded hrefused hconfirm hold hissued

/-- A call keeps the applications within their requests exactly when it leaves room. -/
theorem within_step_iff (hregular : Regular db) (hbounded : Bounded db) (hwithin : WithinRequests db) :
    WithinRequests ((marketplace rounding sha256).step db call).2 ↔ LeavesRoom db call := by
  constructor
  · intro hafter tenantId value reservation program body hrefused hconfirm application happlication
      hissued _ _ _ _
    rw [step_of_confirms hregular.keyed hconfirm hrefused] at hafter
    have hbound := hafter application happlication
    rwa [financedFor_confirmation hregular hconfirm, if_pos hissued] at hbound
  · intro hroom
    refine (sessions rounding sha256).step_kept WithinRequests hwithin ?_
    intro answer writes hserve hrefused haccepted
    exact (move_of_serve hserve).within hregular hbounded hwithin hrefused
      (Writes.accepted_iff.mp haccepted) hroom

end Step

/-- A marketplace whose applications are within their requests, as one without offers is. -/
structure Requests where
  db : FunderDb
  regular : Regular db
  bounded : Bounded db
  within : WithinRequests db

theorem bounded_of_programs (programs : List FundingProgram) : Bounded { programs := programs } :=
  ⟨fun _ hoffer ↦ absurd hoffer List.not_mem_nil, fun _ hrow ↦ absurd hrow List.not_mem_nil⟩

theorem withinRequests_of_programs (programs : List FundingProgram) :
    WithinRequests { programs := programs } :=
  fun _ happlication ↦ absurd happlication List.not_mem_nil

/-- Every set of programs opens a marketplace without requests. -/
def Requests.ofPrograms (programs : List FundingProgram) (hkeys : programConstraints.Meets programs) :
    Requests where
  db := { programs := programs }
  regular := Regular.of_programs hkeys
  bounded := bounded_of_programs programs
  within := withinRequests_of_programs programs

theorem Bounded.step {rounding : Rounding} {sha256 : String → String} {db : FunderDb}
    (h : Regular db ∧ Bounded db) (call : FunderCall) : Regular ((marketplace rounding sha256).step db call).2 ∧
      Bounded ((marketplace rounding sha256).step db call).2 := by
  refine ⟨h.1.step call, (sessions rounding sha256).step_kept Bounded h.2 ?_⟩
  intro answer writes hserve _ haccepted
  exact h.2.apply (move_of_serve hserve) h.1 (Writes.accepted_iff.mp haccepted)

/-- The applications stay within their requests all through a run exactly when every confirmation of it
for an application with a committed reservation finds room for one more. -/
theorem financed_within_request_iff (rounding : Rounding) (sha256 : String → String) (start : Requests)
    (calls : List FunderCall) :
    (∀ e ∈ (marketplace rounding sha256).log start.db calls, WithinRequests e.after) ↔
      ∀ e ∈ (marketplace rounding sha256).log start.db calls, LeavesRoom e.before e.input :=
  (marketplace rounding sha256).always_iff (fun db ↦ Regular db ∧ Bounded db) WithinRequests LeavesRoom
    ⟨start.regular, start.bounded⟩ start.within (fun _ call h ↦ Bounded.step h call)
    (fun _ _ h hwithin ↦ within_step_iff h.1 h.2 hwithin) calls

/-! ## Two offers for one application -/

section Twice

def digest : String := "0000000000000000000000000000000000000000000000000000000000000000"

def loomConfirm (reference : String) (hreference : 6 ≤ reference.toList.length) :
    CommitmentConfirmRequest where
  guardianAuthorizationId := "authorization"
  actionHash := digest
  executionReference := reference
  authorization_length := by decide
  hash_length := by decide +kernel
  reference_length := hreference

/-- A second offer for the application, and a confirmed commitment for each of the two. -/
def loomTwice : List FunderCall :=
  loomReserved ++
    [aurumCall "5" (.issueOffer "tenant" "application_demo_1" 3 loomOffer),
      aurumCall "6" (.reserveOffer "tenant" "offer_demo_5" (loomReserve "reserve_2" (by decide))),
      aurumCall "7" (.prepareCommitment "tenant" "reservation_demo_4" ⟨"beneficiary", beneficiary_length⟩),
      aurumCall "8" (.prepareCommitment "tenant" "reservation_demo_6" ⟨"beneficiary", beneficiary_length⟩),
      aurumCall "9" (.confirmCommitment "tenant" "commitment_demo_7" (loomConfirm "execution_1" (by decide))),
      aurumCall "10" (.confirmCommitment "tenant" "commitment_demo_8"
        (loomConfirm "execution_2" (by decide)))]

def aurumRequests : Requests := .ofPrograms [aurum] aurum_meets

theorem application_financed_twice :
    ¬ ∀ e ∈ (marketplace .halfUp fun _ ↦ digest).log aurumRequests.db loomTwice,
      WithinRequests e.after := by
  intro h
  have hbeyond : ∃ e ∈ (marketplace .halfUp fun _ ↦ digest).log aurumRequests.db loomTwice,
      ∃ application ∈ e.after.applications,
        application.requestedAmount < financedFor e.after application.id := by
    decide +kernel
  obtain ⟨e, he, application, happlication, hbeyond⟩ := hbeyond
  exact absurd (h e he application happlication) (Int.not_le.mpr hbeyond)

end Twice

end Xyena.Funder
