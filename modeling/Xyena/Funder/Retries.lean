import Xyena.Funder.Answers
import Xyena.Funder.Commitments

/-!
# Repeated requests

A reservation, a prepared commitment and a confirmed one can each be asked for
again. A reservation is compared by its offer and by the amount that its column
has kept, and not by its expiry; a preparation is not compared at all, and a
confirmation by its execution reference alone. A repeated request is exact, that
is, it returns the first row when all of its parameters are the first ones and is
rejected otherwise, under a condition on the parameters of the two requests.
-/

namespace Xyena.Funder

open Xyena.Foundation Xyena.Foundation.Session

abbrev Served := Entry FunderDb FunderCall (Except FunderError FunderAnswer)

/-! ## First calls -/

/-- The call has made the reservation of its idempotency key. -/
structure FirstReserve (e : Served) (tenantId offerId : String) (body : ReserveRequest)
    (row : OfferReservation) : Prop where
  request : e.input.request = .reserveOffer tenantId offerId body
  unused : ∀ old ∈ e.before.reservations, old.tenantId = tenantId →
    old.idempotencyKey ≠ body.idempotencyKey
  answered : e.output = .ok (.reservation row)

/-- The call has prepared the commitment of its reservation. -/
structure FirstPrepare (e : Served) (tenantId reservationId : String) (body : CommitmentPrepareRequest)
    (row : FundingCommitment) (reservation : OfferReservation) : Prop where
  request : e.input.request = .prepareCommitment tenantId reservationId body
  unprepared : ∀ old ∈ e.before.commitments, old.reservationId ≠ reservationId
  answered : e.output = .ok (.commitment row reservation)

/-- The call has confirmed a commitment that was prepared. -/
structure FirstConfirm (e : Served) (tenantId commitmentId : String) (body : CommitmentConfirmRequest)
    (row : FundingCommitment) (reservation : OfferReservation) : Prop where
  request : e.input.request = .confirmCommitment tenantId commitmentId body
  prepared : ∀ old ∈ e.before.commitments, old.id = commitmentId → old.status = .prepared
  answered : e.output = .ok (.commitment row reservation)

/-! ## Exact retries -/

/-- The call is rejected and changes nothing. -/
def Rejected (e : Served) : Prop := (∃ failure, e.output = .error failure) ∧ e.after = e.before

/-- The call returns the stored reservation with an identifier. -/
def ReturnsReservation (e : Served) (reservationId : String) : Prop :=
  ∃ row ∈ e.before.reservations, row.id = reservationId ∧ e.output = .ok (.reservation row)

/-- The call returns the stored commitment with an identifier. -/
def ReturnsCommitment (e : Served) (commitmentId : String) : Prop :=
  ∃ row ∈ e.before.commitments, ∃ reservation, row.id = commitmentId ∧
    e.output = .ok (.commitment row reservation)

/-- A later reservation with the key of a first one returns its row or is rejected. -/
def ReserveExact (first second : Served) : Prop :=
  ∀ tenantId offerId body row laterOffer later, FirstReserve first tenantId offerId body row →
    second.input.request = .reserveOffer tenantId laterOffer later →
      later.idempotencyKey = body.idempotencyKey →
        if laterOffer = offerId ∧ later.amount = body.amount ∧ later.expiresAt = body.expiresAt then
          ReturnsReservation second row.id
        else Rejected second

/-- A later preparation, while the reservation can be committed, returns the first commitment or is
rejected. -/
def PrepareExact (first second : Served) : Prop :=
  ∀ tenantId reservationId body row reservation later current,
    FirstPrepare first tenantId reservationId body row reservation →
      second.input.request = .prepareCommitment tenantId reservationId later →
        ReservationOf second.before tenantId reservationId current → current.status = .active →
          second.input.clock 0 < current.expiresAt →
            if later.destinationToken = body.destinationToken then ReturnsCommitment second row.id
            else Rejected second

/-- A later confirmation with the reference of a first one, while the commitment is committed, returns the
commitment or is rejected. -/
def ConfirmExact (first second : Served) : Prop :=
  ∀ tenantId commitmentId body row reservation later current,
    FirstConfirm first tenantId commitmentId body row reservation →
      second.input.request = .confirmCommitment tenantId commitmentId later →
        later.executionReference = body.executionReference →
          CommitmentOf second.before tenantId commitmentId current → current.status = .committed →
            if later.guardianAuthorizationId = body.guardianAuthorizationId ∧
                later.actionHash = body.actionHash then ReturnsCommitment second row.id
            else Rejected second

structure RetryExact (first second : Served) : Prop where
  reserve : ReserveExact first second
  prepare : PrepareExact first second
  confirm : ConfirmExact first second

/-! ## The condition -/

/-- A repeated amount is one that the column has kept whole, and a request that names the offer and the
amount that was kept repeats the amount and the expiry. -/
def ReserveRepeats (rounding : Rounding) (first second : Served) : Prop :=
  ∀ tenantId offerId body row later, FirstReserve first tenantId offerId body row →
    second.input.request = .reserveOffer tenantId offerId later →
      later.idempotencyKey = body.idempotencyKey →
        (later.amount = body.amount → later.expiresAt = body.expiresAt →
            body.amount = rounding.round body.amount) ∧
          (later.amount = rounding.round body.amount →
            later.amount = body.amount ∧ later.expiresAt = body.expiresAt)

/-- A repeated preparation names the destination again. -/
def PrepareRepeats (first second : Served) : Prop :=
  ∀ tenantId reservationId body row reservation later current,
    FirstPrepare first tenantId reservationId body row reservation →
      second.input.request = .prepareCommitment tenantId reservationId later →
        ReservationOf second.before tenantId reservationId current → current.status = .active →
          second.input.clock 0 < current.expiresAt → later.destinationToken = body.destinationToken

/-- A repeated confirmation names the authorization and the action again. -/
def ConfirmRepeats (first second : Served) : Prop :=
  ∀ tenantId commitmentId body row reservation later current,
    FirstConfirm first tenantId commitmentId body row reservation →
      second.input.request = .confirmCommitment tenantId commitmentId later →
        later.executionReference = body.executionReference →
          CommitmentOf second.before tenantId commitmentId current → current.status = .committed →
            later.guardianAuthorizationId = body.guardianAuthorizationId ∧
              later.actionHash = body.actionHash

structure Repeats (rounding : Rounding) (first second : Served) : Prop where
  reserve : ReserveRepeats rounding first second
  prepare : PrepareRepeats first second
  confirm : ConfirmRepeats first second

/-! ## What a first call leaves -/

/-- A reservation with an identifier that a request has made. -/
structure OfferReservation.MadeBy (rounding : Rounding) (row : OfferReservation)
    (reservationId tenant offer : String) (body : ReserveRequest) : Prop where
  id : row.id = reservationId
  owner : row.tenantId = tenant
  key : row.idempotencyKey = body.idempotencyKey
  offer : row.offerId = offer
  amount : row.reservedAmount = rounding.round body.amount

/-- A commitment that a confirmation with a reference has closed. -/
structure FundingCommitment.ClosedBy (row : FundingCommitment) (commitmentId tenant reservation : String)
    (reference : String) : Prop where
  id : row.id = commitmentId
  owner : row.tenantId = tenant
  reservation : row.reservationId = reservation
  closed : row.status ≠ .prepared
  reference : row.executionReference = some reference

@[simp] theorem follow_tenantId (value : FundingCommitment) (event : ExternalEventEnvelope) (version : Int) :
    (value.follow event version).tenantId = value.tenantId := by
  unfold FundingCommitment.follow
  split <;> rfl

@[simp] theorem follow_executionReference (value : FundingCommitment) (event : ExternalEventEnvelope)
    (version : Int) : (value.follow event version).executionReference = value.executionReference := by
  unfold FundingCommitment.follow
  split <;> rfl

theorem follow_closed (value : FundingCommitment) (event : ExternalEventEnvelope) (version : Int) :
    (value.follow event version).status ≠ .prepared := by
  unfold FundingCommitment.follow
  split <;> simp

/-- What a first call has left in the tables. -/
structure Since (rounding : Rounding) (e : Served) (db : FunderDb) : Prop where
  reserved : ∀ tenantId offerId body row, FirstReserve e tenantId offerId body row →
    ∃ current ∈ db.reservations, current.MadeBy rounding row.id tenantId offerId body
  prepared : ∀ tenantId reservationId body row reservation,
    FirstPrepare e tenantId reservationId body row reservation →
      ∃ current ∈ db.commitments, current.id = row.id ∧ current.reservationId = reservationId
  confirmed : ∀ tenantId commitmentId body row reservation,
    FirstConfirm e tenantId commitmentId body row reservation →
      row.id = commitmentId ∧ ∃ reservationId,
        (∃ current ∈ db.commitments,
          current.ClosedBy commitmentId tenantId reservationId body.executionReference) ∧
        ∃ stored ∈ db.reservations, stored.tenantId = tenantId ∧ stored.id = reservationId

section Kept

variable {rounding : Rounding} {sha256 : String → String} {db : FunderDb} {call : FunderCall}
    {answer : FunderAnswer}
  {writes : Writes}

/-- What holds of a reservation holds of it after a move when a release and a commitment keep it. -/
theorem Move.reservation_kept (hmove : Move rounding sha256 db call answer writes) (hregular : Regular db)
    {P : OfferReservation → Prop} (hrelease : ∀ row reference, P row → P (row.release reference))
    (hcommit : ∀ row reference, P row → P (row.commit reference)) (h : ∃ row ∈ db.reservations, P row) :
    ∃ row ∈ (writes.apply db).reservations, P row := by
  have hkeys := hregular.keyed.reservations.keys
  cases hmove with
  | reserved =>
    obtain ⟨row, hrow, hP⟩ := h
    exact ⟨row, List.mem_append_left _ hrow, hP⟩
  | released tenantId reference now value program offer hguard =>
    exact Table.exists_replace (value.release reference) hkeys hguard.heldValue.stored rfl
      (hrelease value reference) h
  | confirmed tenantId value reservation program body hguard =>
    exact Table.exists_replace (reservation.commit value.id) hkeys hguard.heldReservation.stored rfl
      (hcommit reservation value.id) h
  | applicationCreated => exact h
  | applicationReviewed => exact h
  | offerIssued => exact h
  | prepared => exact h
  | programMoved => exact h
  | eventIgnored => exact h
  | eventFollowed => exact h

/-- What holds of a commitment holds of it after a move when a confirmation and an event keep it. -/
theorem Move.commitment_kept (hmove : Move rounding sha256 db call answer writes) (hregular : Regular db)
    {P : FundingCommitment → Prop}
    (hconfirm : ∀ row body, row.status = .prepared → P row → P (row.confirm body))
    (hfollow : ∀ row event version, P row → P (row.follow event version))
    (h : ∃ row ∈ db.commitments, P row) : ∃ row ∈ (writes.apply db).commitments, P row := by
  have hkeys := hregular.keyed.commitments.keys
  cases hmove with
  | prepared =>
    obtain ⟨row, hrow, hP⟩ := h
    exact ⟨row, List.mem_append_left _ hrow, hP⟩
  | confirmed tenantId value reservation program body hguard =>
    exact Table.exists_replace (value.confirm body) hkeys hguard.heldValue.stored rfl
      (hconfirm value body hguard.prepared) h
  | eventFollowed event signedPayloadHash value version hguard =>
    exact Table.exists_replace (value.follow event version) hkeys hguard.heldValue.stored (follow_id ..)
      (hfollow value event version) h
  | applicationCreated => exact h
  | applicationReviewed => exact h
  | offerIssued => exact h
  | reserved => exact h
  | released => exact h
  | programMoved => exact h
  | eventIgnored => exact h

/-- Later moves keep what a first call has left. -/
theorem Since.apply {e : Served} (h : Since rounding e db)
    (hmove : Move rounding sha256 db call answer writes)
    (hregular : Regular db) : Since rounding e (writes.apply db) where
  reserved tenantId offerId body row hfirst := by
    refine hmove.reservation_kept hregular ?_ ?_ (h.reserved tenantId offerId body row hfirst)
    · exact fun row reference hmade ↦ ⟨hmade.id, hmade.owner, hmade.key, hmade.offer, hmade.amount⟩
    · exact fun row reference hmade ↦ ⟨hmade.id, hmade.owner, hmade.key, hmade.offer, hmade.amount⟩
  prepared tenantId reservationId body row reservation hfirst := by
    refine hmove.commitment_kept hregular ?_ ?_
      (h.prepared tenantId reservationId body row reservation hfirst)
    · exact fun row body _ hsame ↦ hsame
    · exact fun row event version hsame ↦ by rwa [follow_id, follow_reservationId]
  confirmed tenantId commitmentId body row reservation hfirst := by
    obtain ⟨hid, reservationId, hclosed, hstored⟩ :=
      h.confirmed tenantId commitmentId body row reservation hfirst
    refine ⟨hid, reservationId, hmove.commitment_kept hregular ?_ ?_ hclosed,
      hmove.reservation_kept hregular ?_ ?_ hstored⟩
    · exact fun row body hprepared hclosed ↦ absurd hprepared hclosed.closed
    · intro row event version hclosed
      refine ⟨?_, ?_, ?_, follow_closed row event version, ?_⟩
      · rw [follow_id, hclosed.id]
      · rw [follow_tenantId, hclosed.owner]
      · rw [follow_reservationId, hclosed.reservation]
      · rw [follow_executionReference, hclosed.reference]
    · exact fun row reference hsame ↦ hsame
    · exact fun row reference hsame ↦ hsame

theorem Since.step {e : Served} (h : Since rounding e db) (hregular : Regular db) (call : FunderCall) :
    Since rounding e ((marketplace rounding sha256).step db call).2 :=
  (sessions rounding sha256).step_kept (Since rounding e) h fun _ _ hserve _ _ ↦
    h.apply (move_of_serve hserve) hregular

end Kept

section First

variable {rounding : Rounding} {sha256 : String → String} {db : FunderDb} {call : FunderCall}
    {tenantId : String}
  {answer : FunderAnswer} {rows : Option Writes}

theorem serve_reserveOffer {offerId : String} {body : ReserveRequest}
    (hrequest : call.request = .reserveOffer tenantId offerId body)
    (hunused : ∀ old ∈ db.reservations, old.tenantId = tenantId →
      old.idempotencyKey ≠ body.idempotencyKey)
    (h : serve rounding sha256 db call = .ok (answer, rows)) :
    ∃ row : OfferReservation, answer = .reservation row ∧ row.MadeBy rounding row.id tenantId offerId body ∧
      ∃ writes, rows = some writes ∧ writes.reservations = [.insert row] := by
  have hnone : (db.reservations.find? fun row ↦
      row.tenantId == tenantId && row.idempotencyKey == body.idempotencyKey) = none := by
    refine List.find?_eq_none.mpr fun row hrow ↦ ?_
    simpa using hunused row hrow
  simp only [serve, hrequest, reserveOffer, hnone] at h
  obtain ⟨offer, hoffer, h⟩ := bind_ok.mp h
  obtain ⟨-, h⟩ := ensure_bind_ok.mp h
  obtain ⟨-, h⟩ := ensure_bind_ok.mp h
  obtain ⟨application, -, h⟩ := bind_ok.mp h
  obtain ⟨program, -, h⟩ := bind_ok.mp h
  obtain ⟨-, h⟩ := ensure_bind_ok.mp h
  obtain ⟨-, h⟩ := ensure_bind_ok.mp h
  obtain ⟨hanswer, hrows⟩ := Prod.mk.inj (Except.ok.inj h)
  exact ⟨newReservation rounding call tenantId offer application program body, hanswer.symm,
    ⟨rfl, rfl, rfl, (lookup_ok hoffer).id, rfl⟩, _, hrows.symm, rfl⟩

theorem serve_prepareCommitment {reservationId : String} {body : CommitmentPrepareRequest}
    (hrequest : call.request = .prepareCommitment tenantId reservationId body)
    (hunprepared : ∀ old ∈ db.commitments, old.reservationId ≠ reservationId)
    (h : serve rounding sha256 db call = .ok (answer, rows)) :
    ∃ row reservation, answer = .commitment row reservation ∧ row.reservationId = reservationId ∧
      ∃ writes, rows = some writes ∧ writes.commitments = [.insert row] := by
  simp only [serve, hrequest] at h
  obtain ⟨reservation, hreservation, h⟩ := bind_ok.mp h
  obtain ⟨-, h⟩ := ensure_bind_ok.mp h
  have hid := (lookup_ok hreservation).id
  have hnone : (db.commitments.find? fun row ↦ row.reservationId == reservation.id) = none := by
    refine List.find?_eq_none.mpr fun row hrow ↦ ?_
    simpa [hid] using hunprepared row hrow
  simp only [hnone] at h
  obtain ⟨hanswer, hrows⟩ := Prod.mk.inj (Except.ok.inj h)
  exact ⟨newCommitment sha256 call tenantId reservation body, reservation, hanswer.symm, hid, _,
    hrows.symm, rfl⟩

theorem serve_confirmCommitment {commitmentId : String} {body : CommitmentConfirmRequest}
    (hrequest : call.request = .confirmCommitment tenantId commitmentId body)
    (hprepared : ∀ old ∈ db.commitments, old.id = commitmentId → old.status = .prepared)
    (h : serve rounding sha256 db call = .ok (answer, rows)) :
    ∃ value reservation program, CommitmentOf db tenantId commitmentId value ∧
      ReservationOf db tenantId value.reservationId reservation ∧
        answer = .commitment (value.confirm body) (reservation.commit value.id) ∧
          rows = some (confirmationWrites value reservation program body) := by
  simp only [serve, hrequest] at h
  obtain ⟨value, hvalue, h⟩ := bind_ok.mp h
  have hheld := lookup_ok hvalue
  have hstatus := hprepared value hheld.stored hheld.id
  rw [if_neg (by simp [hstatus])] at h
  obtain ⟨-, h⟩ := ensure_bind_ok.mp h
  obtain ⟨⟨⟩, -, h⟩ := bind_ok.mp h
  obtain ⟨reservation, hreservation, h⟩ := bind_ok.mp h
  obtain ⟨-, h⟩ := ensure_bind_ok.mp h
  obtain ⟨program, -, h⟩ := bind_ok.mp h
  obtain ⟨hanswer, hrows⟩ := Prod.mk.inj (Except.ok.inj h)
  exact ⟨value, reservation, program, hheld, lookup_ok hreservation, hanswer.symm, hrows.symm⟩

/-- A call that returns has run its operation and stored the rows of it. -/
theorem served_of_output (h : ((marketplace rounding sha256).entry db call).output = .ok answer) :
    ∃ rows, serve rounding sha256 db call = .ok (answer, rows) ∧
      ∀ writes, rows = some writes → ((marketplace rounding sha256).step db call).2 = writes.apply db := by
  obtain ⟨rows, hserve, hafter⟩ := (sessions rounding sha256).served_of_output h
  exact ⟨rows, hserve, fun writes hrows ↦ (hafter writes hrows).2⟩

/-- A first call leaves its rows. -/
theorem since_entry (rounding : Rounding) (sha256 : String → String) (db : FunderDb) (call : FunderCall) :
    Since rounding ((marketplace rounding sha256).entry db call)
      ((marketplace rounding sha256).step db call).2 where
  reserved tenantId offerId body row hfirst := by
    obtain ⟨rows, hserve, hafter⟩ := served_of_output hfirst.answered
    obtain ⟨stored, hanswer, hmade, writes, hrows, hwrites⟩ :=
      serve_reserveOffer hfirst.request hfirst.unused hserve
    obtain rfl := FunderAnswer.reservation.inj hanswer
    refine ⟨row, ?_, hmade⟩
    rw [hafter writes hrows, Writes.apply, hwrites]
    exact List.mem_append_right _ List.mem_cons_self
  prepared tenantId reservationId body row reservation hfirst := by
    obtain ⟨rows, hserve, hafter⟩ := served_of_output hfirst.answered
    obtain ⟨stored, other, hanswer, hid, writes, hrows, hwrites⟩ :=
      serve_prepareCommitment hfirst.request hfirst.unprepared hserve
    obtain rfl := (FunderAnswer.commitment.inj hanswer).1
    refine ⟨row, ?_, rfl, hid⟩
    rw [hafter writes hrows, Writes.apply, hwrites]
    exact List.mem_append_right _ List.mem_cons_self
  confirmed tenantId commitmentId body row reservation hfirst := by
    obtain ⟨rows, hserve, hafter⟩ := served_of_output hfirst.answered
    obtain ⟨value, stored, program, hvalue, hstored, hanswer, hrows⟩ :=
      serve_confirmCommitment hfirst.request hfirst.prepared hserve
    obtain rfl := (FunderAnswer.commitment.inj hanswer).1
    refine ⟨hvalue.id, value.reservationId, ⟨value.confirm body, ?_, hvalue.id, hvalue.owner, rfl, ?_, rfl⟩,
      stored.commit value.id, ?_, hstored.owner, hstored.id⟩
    · rw [hafter _ hrows]
      exact Table.changed_mem_replace hvalue.stored rfl
    · simp [FundingCommitment.confirm]
    · rw [hafter _ hrows]
      exact Table.changed_mem_replace hstored.stored rfl

end First

/-! ## What a later call does -/

section Replay

variable {rounding : Rounding} {sha256 : String → String} {db : FunderDb} {call : FunderCall}
    {tenantId : String}

/-- The conflict of a key that another reservation has used. -/
def reserveConflict : FunderError :=
  .conflict "Idempotency key was already used for another reservation request."

/-- A request with the key of a reservation is compared by offer and stored amount. -/
theorem replay_reserve (rounding : Rounding) (sha256 : String → String) {current : OfferReservation}
    {reservationId offerId laterOffer : String} {body later : ReserveRequest} (hregular : Regular db)
    (hcurrent : current ∈ db.reservations) (hmade : current.MadeBy rounding reservationId tenantId offerId
      body)
    (hrequest : call.request = .reserveOffer tenantId laterOffer later)
    (hkey : later.idempotencyKey = body.idempotencyKey) :
    (marketplace rounding sha256).step db call =
      if laterOffer = offerId ∧ later.amount = rounding.round body.amount then
        (.ok (.reservation current), db)
      else (.error reserveConflict, db) := by
  have hfind : (db.reservations.find? fun row ↦
      row.tenantId == tenantId && row.idempotencyKey == later.idempotencyKey) = some current := by
    refine Table.find?_eq_some_of_unique hcurrent (by simp [hmade.owner, hmade.key, hkey])
      fun other hother hsame ↦ ?_
    simp only [Bool.and_eq_true, beq_iff_eq] at hsame
    by_contra hne
    have hids : other.id ≠ current.id := fun hid ↦
      hne (Table.eq_of_key hregular.keyed.reservations.keys hother hcurrent hid)
    have hclash := hregular.keyed.reservations.unique other hother current hcurrent hids
    simp [reservationConstraints, hsame.1, hsame.2, hmade.owner, hmade.key, hkey] at hclash
  have hserve : (marketplace rounding sha256).step db call = (sessions rounding sha256).close db
    call.refused (do
      ensure (current.offerId == laterOffer && current.reservedAmount == later.amount) reserveConflict
      return (.reservation current, none)) := by
    simp only [marketplace, Service.machine, sessions, serve, hrequest, reserveOffer, hfind, reserveConflict]
  rw [hserve, hmade.offer, hmade.amount]
  by_cases hsame : laterOffer = offerId ∧ later.amount = rounding.round body.amount
  · rw [if_pos hsame, hsame.1, hsame.2]
    simp [ensure, bind, Except.bind, pure, Except.pure, Service.close]
  · rw [if_neg hsame]
    have hdiffer : (offerId == laterOffer && (rounding.round body.amount : Rat) == later.amount) = false := by
      rw [← Bool.not_eq_true]
      intro hequal
      simp only [Bool.and_eq_true, beq_iff_eq] at hequal
      exact hsame ⟨hequal.1.symm, hequal.2.symm⟩
    rw [hdiffer]
    rfl

/-- A reservation that has a commitment is answered with it. -/
theorem replay_prepare (rounding : Rounding) (sha256 : String → String) {reservationId : String}
    {later : CommitmentPrepareRequest}
    {reservation : OfferReservation} {current : FundingCommitment} (hregular : Regular db)
    (hrequest : call.request = .prepareCommitment tenantId reservationId later)
    (hreservation : ReservationOf db tenantId reservationId reservation)
    (hactive : reservation.status = .active) (htime : call.clock 0 < reservation.expiresAt)
    (hcurrent : current ∈ db.commitments) (hid : current.reservationId = reservationId) :
    (marketplace rounding sha256).step db call = (.ok (.commitment current reservation), db) := by
  have hfind : (db.commitments.find? fun row ↦ row.reservationId == reservation.id) = some current := by
    refine Table.find?_eq_some_of_unique hcurrent (by simp [hid, hreservation.id]) fun other hother hsame ↦ ?_
    by_contra hne
    have hids : other.id ≠ current.id := fun hid ↦
      hne (Table.eq_of_key hregular.keyed.commitments.keys hother hcurrent hid)
    have hclash := hregular.keyed.commitments.unique other hother current hcurrent hids
    simp only [commitmentConstraints, beq_eq_false_iff_ne] at hclash
    exact hclash ((beq_iff_eq.mp hsame).trans (hreservation.id.trans hid.symm))
  have hserve : serve rounding sha256 db call = .ok (.commitment current reservation, none) := by
    simp only [serve, hrequest]
    refine bind_ok.mpr ⟨reservation, hreservation.lookup hregular.keyed.reservations.keys, ?_⟩
    refine ensure_bind_ok.mpr ⟨by simp [hactive, htime], ?_⟩
    rw [hfind]
    rfl
  exact congrArg ((sessions rounding sha256).close db call.refused) hserve

/-- A committed commitment is answered when the reference is repeated. -/
theorem replay_confirm (rounding : Rounding) (sha256 : String → String) {commitmentId : String}
    {later : CommitmentConfirmRequest}
    {reservation : OfferReservation} {current : FundingCommitment} (hregular : Regular db)
    (hrequest : call.request = .confirmCommitment tenantId commitmentId later)
    (hcurrent : CommitmentOf db tenantId commitmentId current) (hcommitted : current.status = .committed)
    (hreference : current.executionReference = some later.executionReference)
    (hreservation : ReservationOf db tenantId current.reservationId reservation) :
    (marketplace rounding sha256).step db call = (.ok (.commitment current reservation), db) := by
  have hserve : serve rounding sha256 db call = .ok (.commitment current reservation, none) := by
    simp only [serve, hrequest]
    refine bind_ok.mpr ⟨current, hcurrent.lookup hregular.keyed.commitments.keys, ?_⟩
    rw [if_pos ⟨hcommitted, hreference⟩]
    exact bind_ok.mpr ⟨reservation, hreservation.lookup hregular.keyed.reservations.keys, rfl⟩
  exact congrArg ((sessions rounding sha256).close db call.refused) hserve

/-- A call that is answered from the tables is exact when just the parameters are repeated. -/
theorem replayed_iff {answer : FunderAnswer} {repeated : Prop} [Decidable repeated] {Returned : Prop}
    (hstep : (marketplace rounding sha256).step db call = (.ok answer, db)) (hreturned : Returned) :
    (if repeated then Returned else Rejected ((marketplace rounding sha256).entry db call)) ↔ repeated := by
  split
  next h => exact iff_of_true hreturned h
  next h =>
    refine iff_of_false ?_ h
    rintro ⟨⟨failure, houtput⟩, -⟩
    cases (congrArg Prod.fst hstep).symm.trans houtput

variable {e : Served}

theorem reserveExact_iff (hregular : Regular db) (hsince : Since rounding e db) :
    ReserveExact e ((marketplace rounding sha256).entry db call) ↔
      ReserveRepeats rounding e ((marketplace rounding sha256).entry db call) := by
  constructor
  · intro hexact tenantId offerId body row later hfirst hrequest hkey
    obtain ⟨current, hcurrent, hmade⟩ := hsince.reserved tenantId offerId body row hfirst
    have hstep := replay_reserve rounding sha256 hregular hcurrent hmade hrequest hkey
    have hlater := hexact tenantId offerId body row offerId later hfirst hrequest hkey
    constructor
    · intro hamount hexpiry
      rw [if_pos ⟨rfl, hamount, hexpiry⟩] at hlater
      obtain ⟨found, -, -, houtput⟩ := hlater
      by_contra hround
      rw [if_neg fun hsame ↦ hround (hamount.symm.trans hsame.2)] at hstep
      cases (congrArg Prod.fst hstep).symm.trans houtput
    · intro hamount
      rw [if_pos ⟨rfl, hamount⟩] at hstep
      by_contra hdrift
      rw [if_neg fun hsame ↦ hdrift hsame.2] at hlater
      obtain ⟨⟨failure, houtput⟩, -⟩ := hlater
      cases (congrArg Prod.fst hstep).symm.trans houtput
  · intro hrepeats tenantId offerId body row laterOffer later hfirst hrequest hkey
    obtain ⟨current, hcurrent, hmade⟩ := hsince.reserved tenantId offerId body row hfirst
    have hstep := replay_reserve rounding sha256 hregular hcurrent hmade hrequest hkey
    split
    next hsame =>
      obtain ⟨rfl, hamount, hexpiry⟩ := hsame
      have hwhole := (hrepeats tenantId laterOffer body row later hfirst hrequest hkey).1 hamount hexpiry
      rw [if_pos ⟨rfl, hamount.trans hwhole⟩] at hstep
      exact ⟨current, hcurrent, hmade.id, congrArg Prod.fst hstep⟩
    next hdiffer =>
      have hrejected : ¬ (laterOffer = offerId ∧ later.amount = rounding.round body.amount) := by
        rintro ⟨rfl, hamount⟩
        exact hdiffer ⟨rfl, (hrepeats tenantId laterOffer body row later hfirst hrequest hkey).2 hamount⟩
      rw [if_neg hrejected] at hstep
      exact ⟨⟨reserveConflict, congrArg Prod.fst hstep⟩, congrArg Prod.snd hstep⟩

theorem prepareExact_iff (hregular : Regular db) (hsince : Since rounding e db) :
    PrepareExact e ((marketplace rounding sha256).entry db call) ↔
      PrepareRepeats e ((marketplace rounding sha256).entry db call) := by
  refine forall₅_congr fun tenantId reservationId body row reservation ↦ forall₅_congr fun later current
    hfirst hrequest hheld ↦ forall₂_congr fun hactive htime ↦ ?_
  obtain ⟨stored, hstored, hid, hbacks⟩ :=
    hsince.prepared tenantId reservationId body row reservation hfirst
  have hstep := replay_prepare rounding sha256 hregular hrequest hheld hactive htime hstored hbacks
  exact replayed_iff hstep ⟨stored, hstored, current, hid, congrArg Prod.fst hstep⟩

theorem confirmExact_iff (hregular : Regular db) (hsince : Since rounding e db) :
    ConfirmExact e ((marketplace rounding sha256).entry db call) ↔
      ConfirmRepeats e ((marketplace rounding sha256).entry db call) := by
  refine forall₅_congr fun tenantId commitmentId body row reservation ↦ forall₅_congr fun later current
    hfirst hrequest hreference ↦ forall₂_congr fun hheld hcommitted ↦ ?_
  obtain ⟨hid, reservationId, ⟨closed, hclosed, hsame⟩, stored, hstored, howner, hstoredId⟩ :=
    hsince.confirmed tenantId commitmentId body row reservation hfirst
  obtain rfl : closed = current :=
    Table.eq_of_key hregular.keyed.commitments.keys hclosed hheld.stored (hsame.id.trans hheld.id.symm)
  have hstep := replay_confirm rounding sha256 hregular hrequest hheld hcommitted
    (by rw [hsame.reference, hreference]) ⟨hstored, howner, hstoredId.trans hsame.reservation.symm⟩
  exact replayed_iff hstep ⟨closed, hclosed, stored, hsame.id.trans hid.symm, congrArg Prod.fst hstep⟩

/-- A later call is exact when it meets the condition. -/
theorem retryExact_iff (hregular : Regular db) (hsince : Since rounding e db) :
    RetryExact e ((marketplace rounding sha256).entry db call) ↔
      Repeats rounding e ((marketplace rounding sha256).entry db call) := by
  constructor
  · exact fun h ↦ ⟨(reserveExact_iff hregular hsince).mp h.reserve,
      (prepareExact_iff hregular hsince).mp h.prepare, (confirmExact_iff hregular hsince).mp h.confirm⟩
  · exact fun h ↦ ⟨(reserveExact_iff hregular hsince).mpr h.reserve,
      (prepareExact_iff hregular hsince).mpr h.prepare, (confirmExact_iff hregular hsince).mpr h.confirm⟩

end Replay

/-- The tables of a marketplace. -/
structure Tables where
  db : FunderDb
  regular : Regular db

/-- From all tables, in every run, all later calls are exact retries of the first ones exactly when each of
them repeats the parameters that are not compared, and no repeated amount has been rounded. -/
theorem retries_exact_iff (rounding : Rounding) (sha256 : String → String) (start : Tables)
    (calls : List FunderCall) :
    ((marketplace rounding sha256).log start.db calls).Pairwise RetryExact ↔
      ((marketplace rounding sha256).log start.db calls).Pairwise (Repeats rounding) :=
  (marketplace rounding sha256).pairwise_log_iff Regular (Since rounding) start.regular
    (fun _ call h ↦ h.step call)
    (fun db call _ ↦ since_entry rounding sha256 db call) (fun _ _ call h hsince ↦ hsince.step h call)
    (fun _ _ _ h hsince ↦ retryExact_iff h hsince) calls

/-! ## A retry of an amount with a third decimal -/

section Rounded

/-- An amount of 200.005, of which the column keeps 200.01. -/
def loomThirds : ReserveRequest where
  amount := 40001 / 2
  idempotencyKey := "reserve_1"
  expiresAt := 50
  amount_pos := by decide +kernel
  key_length := reserveKey_length

def loomThirdsCall (token : String) : FunderCall :=
  aurumCall token (.reserveOffer "tenant" "offer_demo_3" loomThirds)

/-- The offer is reserved, and the same request is made once more. -/
def loomRetried : List FunderCall := loomReserved.take 3 ++ [loomThirdsCall "4", loomThirdsCall "5"]

def aurumTables : Tables := ⟨aurumStart.db, aurumStart.regular⟩

/-- The reservation of an answer, if it is one. -/
def answeredReservation : Except FunderError FunderAnswer → Option OfferReservation
  | .ok (.reservation row) => some row
  | _ => none

theorem answeredReservation_eq_some {answer : Except FunderError FunderAnswer} {row : OfferReservation} :
    answeredReservation answer = some row ↔ answer = .ok (.reservation row) := by
  unfold answeredReservation
  split <;> simp_all

theorem rounded_reservation_retried :
    ¬ ((marketplace .halfUp fun text ↦ text).log aurumTables.db loomRetried).Pairwise RetryExact := by
  intro h
  rw [loomRetried, Machine.log_append, List.pairwise_append] at h
  generalize hoffered : (marketplace .halfUp fun text ↦ text).run aurumTables.db
    (loomReserved.take 3) = offered at h
  have hpair := (List.pairwise_cons.mp h.2.1).1 _ List.mem_cons_self
  have hunused : offered.reservations = [] := by
    rw [← hoffered]
    decide +kernel
  have hfirst : (answeredReservation ((marketplace .halfUp fun text ↦ text).step offered
      (loomThirdsCall "4")).1).isSome = true := by
    rw [← hoffered]
    decide +kernel
  have hsecond : answeredReservation ((marketplace .halfUp fun text ↦ text).step
      ((marketplace .halfUp fun text ↦ text).step offered (loomThirdsCall "4")).2
        (loomThirdsCall "5")).1 = none := by
    rw [← hoffered]
    decide +kernel
  obtain ⟨row, hrow⟩ := Option.isSome_iff_exists.mp hfirst
  have hanswered := hpair.reserve "tenant" "offer_demo_3" loomThirds row "offer_demo_3" loomThirds
    ⟨rfl, by simp [Machine.entry, hunused], answeredReservation_eq_some.mp hrow⟩ rfl rfl
  rw [if_pos ⟨rfl, rfl, rfl⟩] at hanswered
  obtain ⟨found, -, -, houtput⟩ := hanswered
  cases hsecond.symm.trans (answeredReservation_eq_some.mpr houtput)

end Rounded

end Xyena.Funder
