import Xyena.Funder.Service

/-!
# What one call of the marketplace can do

`Move` lists the ways in which a session ends with rows to commit, each with the
guards that led to it. An invariant is kept when every move keeps it. A call
whose guards hold in a database with distinct keys commits its rows, so that the
guards also say exactly when the move is made.
-/

namespace Xyena.Funder

open Xyena.Foundation Xyena.Foundation.Session Xyena.Contracts
open Xyena.Gateway (compareDigest compareDigest_same)

/-! ## Lookups -/

/-- The row of a tenant with an identifier, as a lookup finds it. -/
structure Held {Row : Type} (tenant key : Row → String) (rows : List Row) (tenantId valueId : String)
    (row : Row) : Prop where
  stored : row ∈ rows
  owner : tenant row = tenantId
  id : key row = valueId

section Lookups

variable {Row : Type} {tenant key : Row → String} {rows : List Row} {missing tenantId valueId : String}
  {row : Row}

theorem lookup_ok (h : lookup tenant key rows missing tenantId valueId = .ok row) :
    Held tenant key rows tenantId valueId row := by
  unfold lookup at h
  split at h
  next found hfind =>
    obtain rfl := Except.ok.inj h
    have hrow := List.find?_some hfind
    simp only [Bool.and_eq_true, beq_iff_eq] at hrow
    exact ⟨List.mem_of_find?_eq_some hfind, hrow.1, hrow.2⟩
  · cases h

/-- With distinct identifiers a lookup finds the row. -/
theorem Held.lookup (h : Held tenant key rows tenantId valueId row) (hkeys : (rows.map key).Nodup) :
    lookup tenant key rows missing tenantId valueId = .ok row := by
  have hfind : (rows.find? fun row ↦ tenant row == tenantId && key row == valueId) = some row := by
    refine Table.find?_eq_some_of_unique h.stored (by simp [h.owner, h.id]) fun other hother hsame ↦ ?_
    simp only [Bool.and_eq_true, beq_iff_eq] at hsame
    exact Table.eq_of_key hkeys hother h.stored (hsame.2.trans h.id.symm)
  simp only [Funder.lookup, hfind]

theorem checkActionHash_ok {stored supplied : String} :
    checkActionHash stored supplied = .ok () ↔ supplied = stored := by
  unfold checkActionHash
  rw [← compareDigest_same]
  cases compareDigest supplied stored <;> simp

end Lookups

abbrev ApplicationOf (db : FunderDb) := Held FundingApplication.tenantId FundingApplication.id db.applications

abbrev ProgramOf (db : FunderDb) := Held FundingProgram.tenantId FundingProgram.id db.programs

abbrev OfferOf (db : FunderDb) := Held FundingOffer.tenantId FundingOffer.id db.offers

abbrev ReservationOf (db : FunderDb) := Held OfferReservation.tenantId OfferReservation.id db.reservations

abbrev CommitmentOf (db : FunderDb) := Held FundingCommitment.tenantId FundingCommitment.id db.commitments

/-! ## Guards -/

section Guards

variable (db : FunderDb) (call : FunderCall) (tenantId : String)

/-- A new offer for an approved application. -/
structure Issues (application : FundingApplication) (program : FundingProgram) (body : OfferRequest) :
    Prop where
  heldApplication : ApplicationOf db tenantId application.id application
  approved : application.status = .approved
  heldProgram : ProgramOf db tenantId body.programId program
  active : program.status = .active
  withinRequest : body.approvedAmount ≤ application.requestedAmount

/-- A new reservation of capacity for an offer. -/
structure Reserves (offer : FundingOffer) (application : FundingApplication) (program : FundingProgram)
    (body : ReserveRequest) : Prop where
  request : ∃ offerId, call.request = .reserveOffer tenantId offerId body
  heldOffer : OfferOf db tenantId offer.id offer
  issued : offer.status = .issued
  withinOffer : body.amount ≤ offer.approvedAmount
  heldApplication : ApplicationOf db tenantId offer.applicationId application
  heldProgram : ProgramOf db tenantId offer.programId program
  withinCapacity : body.amount ≤ available program

/-- The release of an active reservation. -/
structure Releases (value : OfferReservation) (program : FundingProgram) (offer : FundingOffer) :
    Prop where
  request : ∃ expectedVersion, call.request = .releaseReservation tenantId value.id expectedVersion
  heldValue : ReservationOf db tenantId value.id value
  active : value.status = .active
  heldProgram : ProgramOf db tenantId value.programId program
  heldOffer : OfferOf db tenantId value.offerId offer

/-- The preparation of a commitment for a reservation that has none. -/
structure Prepares (reservation : OfferReservation) : Prop where
  heldReservation : ReservationOf db tenantId reservation.id reservation
  active : reservation.status = .active
  uncommitted : ∀ row ∈ db.commitments, row.reservationId ≠ reservation.id

/-- The confirmation of a prepared commitment. -/
structure Confirms (value : FundingCommitment) (reservation : OfferReservation)
    (program : FundingProgram) (body : CommitmentConfirmRequest) : Prop where
  request : call.request = .confirmCommitment tenantId value.id body
  heldValue : CommitmentOf db tenantId value.id value
  prepared : value.status = .prepared
  sameHash : body.actionHash = value.actionHash
  heldReservation : ReservationOf db tenantId value.reservationId reservation
  active : reservation.status = .active
  current : call.clock 0 < reservation.expiresAt
  heldProgram : ProgramOf db tenantId reservation.programId program

/-- An event that has not been consumed and is newer than the commitment it is about. -/
structure Follows (event : ExternalEventEnvelope) (value : FundingCommitment) (version : Int) : Prop where
  request : ∃ payloadHash, call.request = .consumeExternalEvent event payloadHash
  unseen : ∀ row ∈ db.inboxEvents, row.sourceApplication = event.sourceApplication →
    row.eventId ≠ event.eventId
  heldValue : CommitmentOf db event.tenantId event.aggregateId value
  sentVersion : event.aggregateVersion = some version
  newer : value.version < version

end Guards

/-! ## Followed commitments -/

@[simp] theorem follow_id (value : FundingCommitment) (event : ExternalEventEnvelope) (version : Int) :
    (value.follow event version).id = value.id := by
  unfold FundingCommitment.follow
  split <;> rfl

@[simp] theorem follow_reservationId (value : FundingCommitment) (event : ExternalEventEnvelope)
    (version : Int) : (value.follow event version).reservationId = value.reservationId := by
  unfold FundingCommitment.follow
  split <;> rfl

@[simp] theorem follow_committedAmount (value : FundingCommitment) (event : ExternalEventEnvelope)
    (version : Int) : (value.follow event version).committedAmount = value.committedAmount := by
  unfold FundingCommitment.follow
  split <;> rfl

@[simp] theorem follow_guardianAuthorizationId (value : FundingCommitment)
    (event : ExternalEventEnvelope) (version : Int) :
    (value.follow event version).guardianAuthorizationId = value.guardianAuthorizationId := by
  unfold FundingCommitment.follow
  split <;> rfl

/-! ## Moves -/

/-- How a session ends with rows to commit. -/
inductive Move (rounding : Rounding) (sha256 : String → String) (db : FunderDb) (call : FunderCall) :
    FunderAnswer → Writes → Prop
  | applicationCreated (tenantId : String) (body : ApplicationRequest) :
      Move rounding sha256 db call (.application (newApplication rounding db call tenantId body))
        { applications := [.insert (newApplication rounding db call tenantId body)] }
  | applicationReviewed (value : FundingApplication) (body : ReviewRequest)
      (hstored : value ∈ db.applications) :
      Move rounding sha256 db call (.application (value.review body))
        { applications := [.update (value.review body)] }
  | offerIssued (tenantId : String) (application : FundingApplication) (program : FundingProgram)
      (body : OfferRequest) (h : Issues db tenantId application program body) :
      Move rounding sha256 db call (.offer (newOffer rounding call tenantId application program body)
        program application.bump)
        { offers := [.insert (newOffer rounding call tenantId application program body)]
          applications := [.update application.bump] }
  | reserved (tenantId : String) (offer : FundingOffer) (application : FundingApplication)
      (program : FundingProgram) (body : ReserveRequest)
      (h : Reserves db call tenantId offer application program body) :
      Move rounding sha256 db call (.reservation (newReservation rounding call tenantId offer application
        program body))
        { reservations := [.insert (newReservation rounding call tenantId offer application program body)]
          programs := [.update (program.reserve rounding body.amount)]
          offers := [.update offer.reserve] }
  | released (tenantId reference : String) (now : Time) (value : OfferReservation)
      (program : FundingProgram) (offer : FundingOffer)
      (h : Releases db call tenantId value program offer) :
      Move rounding sha256 db call (.reservation (value.release reference))
        { programs := [.update (program.release value.reservedAmount)]
          offers := [.update (offer.free now)]
          reservations := [.update (value.release reference)] }
  | prepared (tenantId : String) (reservation : OfferReservation) (body : CommitmentPrepareRequest)
      (h : Prepares db tenantId reservation) :
      Move rounding sha256 db call (.commitment (newCommitment sha256 call tenantId reservation body)
        reservation)
        { commitments := [.insert (newCommitment sha256 call tenantId reservation body)] }
  | confirmed (tenantId : String) (value : FundingCommitment) (reservation : OfferReservation)
      (program : FundingProgram) (body : CommitmentConfirmRequest)
      (h : Confirms db call tenantId value reservation program body) :
      Move rounding sha256 db call (.commitment (value.confirm body) (reservation.commit value.id))
        (confirmationWrites value reservation program body)
  | programMoved (value : FundingProgram) (target : ProgramStatus) (hstored : value ∈ db.programs) :
      Move rounding sha256 db call (.program (value.move target))
        { programs := [.update (value.move target)] }
  | eventIgnored (event : ExternalEventEnvelope) (signedPayloadHash : String) :
      Move rounding sha256 db call (.staleVersionIgnored event.eventId)
        { inboxEvents := [.insert (newInbox call event signedPayloadHash)] }
  | eventFollowed (event : ExternalEventEnvelope) (signedPayloadHash : String)
      (value : FundingCommitment) (version : Int) (h : Follows db call event value version) :
      Move rounding sha256 db call (.processed event.eventId value.id)
        { commitments := [.update (value.follow event version)]
          inboxEvents := [.insert (newInbox call event signedPayloadHash)] }

/-! ## Inversion, one operation after the other -/

section Inversion

variable {rounding : Rounding} {sha256 : String → String} {db : FunderDb} {call : FunderCall}
    {tenantId : String}
  {answer : FunderAnswer} {writes : Writes}

/-- An operation that returns an outcome returns just this one. -/
theorem returned {value answer : FunderAnswer} {rows : Option Writes} {writes : Writes}
    (h : (pure (value, rows) : Except FunderError Outcome) = .ok (answer, some writes)) :
    value = answer ∧ rows = some writes :=
  Prod.mk.inj (Except.ok.inj h)

theorem move_createApplication {body : ApplicationRequest}
    (h : createApplication rounding db call tenantId body = .ok (answer, some writes)) :
    Move rounding sha256 db call answer writes := by
  obtain ⟨-, h⟩ := ensure_bind_ok.mp h
  obtain ⟨rfl, ⟨⟩⟩ := returned h
  exact .applicationCreated tenantId body

theorem move_reviewApplication {applicationId : String} {expectedVersion : Int} {body : ReviewRequest}
    (h : reviewApplication db tenantId applicationId expectedVersion body = .ok (answer, some writes)) :
    Move rounding sha256 db call answer writes := by
  obtain ⟨value, hvalue, h⟩ := bind_ok.mp h
  obtain ⟨-, h⟩ := ensure_bind_ok.mp h
  obtain ⟨-, h⟩ := ensure_bind_ok.mp h
  obtain ⟨-, h⟩ := ensure_bind_ok.mp h
  obtain ⟨rfl, ⟨⟩⟩ := returned h
  exact .applicationReviewed value body (lookup_ok hvalue).stored

theorem move_issueOffer {applicationId : String} {expectedVersion : Int} {body : OfferRequest}
    (h : issueOffer rounding db call tenantId applicationId expectedVersion body = .ok
    (answer, some writes)) :
    Move rounding sha256 db call answer writes := by
  obtain ⟨application, happlication, h⟩ := bind_ok.mp h
  obtain ⟨-, h⟩ := ensure_bind_ok.mp h
  obtain ⟨happroved, h⟩ := ensure_bind_ok.mp h
  obtain ⟨program, hprogram, h⟩ := bind_ok.mp h
  obtain ⟨hactive, h⟩ := ensure_bind_ok.mp h
  obtain ⟨hbound, h⟩ := ensure_bind_ok.mp h
  obtain ⟨-, h⟩ := ensure_bind_ok.mp h
  obtain ⟨-, h⟩ := ensure_bind_ok.mp h
  obtain ⟨-, h⟩ := ensure_bind_ok.mp h
  obtain ⟨rfl, ⟨⟩⟩ := returned h
  have hfound := lookup_ok happlication
  obtain rfl := hfound.id
  simp only [Bool.and_eq_true, decide_eq_true_eq] at hbound
  exact .offerIssued tenantId application program body
    ⟨hfound, beq_iff_eq.mp happroved, lookup_ok hprogram, beq_iff_eq.mp hactive, hbound.1⟩

theorem move_reserveOffer {offerId : String} {body : ReserveRequest}
    (hrequest : call.request = .reserveOffer tenantId offerId body)
    (h : reserveOffer rounding db call tenantId offerId body = .ok (answer, some writes)) :
    Move rounding sha256 db call answer writes := by
  unfold reserveOffer at h
  split at h
  next existing _ =>
    obtain ⟨-, h⟩ := ensure_bind_ok.mp h
    obtain ⟨-, ⟨⟩⟩ := returned h
  · obtain ⟨offer, hoffer, h⟩ := bind_ok.mp h
    obtain ⟨hissued, h⟩ := ensure_bind_ok.mp h
    obtain ⟨hwithin, h⟩ := ensure_bind_ok.mp h
    obtain ⟨application, happlication, h⟩ := bind_ok.mp h
    obtain ⟨program, hprogram, h⟩ := bind_ok.mp h
    obtain ⟨hcapacity, h⟩ := ensure_bind_ok.mp h
    obtain ⟨-, h⟩ := ensure_bind_ok.mp h
    obtain ⟨rfl, ⟨⟩⟩ := returned h
    have hfound := lookup_ok hoffer
    obtain rfl := hfound.id
    simp only [Bool.and_eq_true, decide_eq_true_eq, beq_iff_eq] at hissued hwithin hcapacity
    exact .reserved tenantId offer application program body
      ⟨⟨_, hrequest⟩, hfound, hissued.1, hwithin, lookup_ok happlication, lookup_ok hprogram, hcapacity.2⟩

theorem move_releaseReservation {reservationId : String} {expectedVersion : Int}
    (hrequest : call.request = .releaseReservation tenantId reservationId expectedVersion)
    (h : releaseReservation db call tenantId reservationId expectedVersion = .ok (answer, some writes)) :
    Move rounding sha256 db call answer writes := by
  obtain ⟨value, hvalue, h⟩ := bind_ok.mp h
  obtain ⟨-, h⟩ := ensure_bind_ok.mp h
  obtain ⟨hactive, h⟩ := ensure_bind_ok.mp h
  obtain ⟨program, hprogram, h⟩ := bind_ok.mp h
  obtain ⟨offer, hoffer, h⟩ := bind_ok.mp h
  obtain ⟨rfl, ⟨⟩⟩ := returned h
  have hfound := lookup_ok hvalue
  obtain rfl := hfound.id
  exact .released tenantId _ _ value program offer
    ⟨⟨expectedVersion, hrequest⟩, hfound, beq_iff_eq.mp hactive, lookup_ok hprogram, lookup_ok hoffer⟩

theorem move_prepareCommitment {reservationId : String} {body : CommitmentPrepareRequest}
    (h : prepareCommitment sha256 db call tenantId reservationId body = .ok (answer, some writes)) :
    Move rounding sha256 db call answer writes := by
  obtain ⟨reservation, hreservation, h⟩ := bind_ok.mp h
  obtain ⟨hactive, h⟩ := ensure_bind_ok.mp h
  split at h
  · obtain ⟨-, ⟨⟩⟩ := returned h
  next hnone =>
    obtain ⟨rfl, ⟨⟩⟩ := returned h
    have hfound := lookup_ok hreservation
    obtain rfl := hfound.id
    simp only [Bool.and_eq_true, beq_iff_eq] at hactive
    exact .prepared tenantId reservation body
      ⟨hfound, hactive.1, fun row hrow ↦ by simpa using List.find?_eq_none.mp hnone row hrow⟩

theorem move_confirmCommitment {commitmentId : String} {body : CommitmentConfirmRequest}
    (hrequest : call.request = .confirmCommitment tenantId commitmentId body)
    (h : confirmCommitment db call tenantId commitmentId body = .ok (answer, some writes)) :
    Move rounding sha256 db call answer writes := by
  obtain ⟨value, hvalue, h⟩ := bind_ok.mp h
  split at h
  · obtain ⟨reservation, -, h⟩ := bind_ok.mp h
    obtain ⟨-, ⟨⟩⟩ := returned h
  · obtain ⟨hprepared, h⟩ := ensure_bind_ok.mp h
    obtain ⟨⟨⟩, hhash, h⟩ := bind_ok.mp h
    obtain ⟨reservation, hreservation, h⟩ := bind_ok.mp h
    obtain ⟨hactive, h⟩ := ensure_bind_ok.mp h
    obtain ⟨program, hprogram, h⟩ := bind_ok.mp h
    obtain ⟨rfl, ⟨⟩⟩ := returned h
    have hfound := lookup_ok hvalue
    obtain rfl := hfound.id
    simp only [Bool.and_eq_true, beq_iff_eq, decide_eq_true_eq] at hactive
    exact .confirmed tenantId value reservation program body
      ⟨hrequest, hfound, beq_iff_eq.mp hprepared, checkActionHash_ok.mp hhash,
        lookup_ok hreservation, hactive.1, hactive.2, lookup_ok hprogram⟩

theorem move_transitionProgram {programId : String} {expectedVersion : Int} {action : ProgramAction}
    (h : transitionProgram db tenantId programId expectedVersion action = .ok (answer, some writes)) :
    Move rounding sha256 db call answer writes := by
  obtain ⟨value, hvalue, h⟩ := bind_ok.mp h
  obtain ⟨-, h⟩ := ensure_bind_ok.mp h
  split at h
  · cases h
  next target _ =>
    obtain ⟨rfl, ⟨⟩⟩ := returned h
    exact .programMoved value target (lookup_ok hvalue).stored

theorem move_consumeExternalEvent {event : ExternalEventEnvelope} {signedPayloadHash : String}
    (hrequest : call.request = .consumeExternalEvent event signedPayloadHash)
    (h : consumeExternalEvent db call event signedPayloadHash = .ok (answer, some writes)) :
    Move rounding sha256 db call answer writes := by
  unfold consumeExternalEvent at h
  split at h
  · obtain ⟨-, ⟨⟩⟩ := returned h
  next hnone =>
    obtain ⟨value, hvalue, h⟩ := bind_ok.mp h
    split at h
    · cases h
    next version hversion =>
      split at h
      · obtain ⟨rfl, ⟨⟩⟩ := returned h
        exact .eventIgnored event signedPayloadHash
      next hnewer =>
        obtain ⟨rfl, ⟨⟩⟩ := returned h
        refine .eventFollowed event signedPayloadHash value version
          ⟨⟨signedPayloadHash, hrequest⟩, fun row hrow hsource hid ↦ ?_, lookup_ok hvalue, hversion,
            Int.not_le.mp hnewer⟩
        simpa [hsource, hid] using List.find?_eq_none.mp hnone row hrow

/-- Every session that ends with rows to commit has made one of the listed moves. -/
theorem move_of_serve (h : serve rounding sha256 db call = .ok (answer, some writes)) :
    Move rounding sha256 db call answer writes := by
  unfold serve at h
  split at h
  · exact move_createApplication h
  · exact move_reviewApplication h
  · exact move_issueOffer h
  next hrequest => exact move_reserveOffer hrequest h
  next hrequest => exact move_releaseReservation hrequest h
  · exact move_prepareCommitment h
  next hrequest => exact move_confirmCommitment hrequest h
  · exact move_transitionProgram h
  · cases h
  next hrequest => exact move_consumeExternalEvent hrequest h

end Inversion

end Xyena.Funder
