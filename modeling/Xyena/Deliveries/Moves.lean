import Xyena.Deliveries.Service

/-!
# What one call of the delivery service can do

`Move` lists the ways in which a session ends with rows to commit, each with the
guards that led to it. All moves but the creation of a delivery change stored
deliveries and write the rows of `recordWrites` for them, next to the rows that
the operation is about.
-/

namespace Xyena.Deliveries

open Xyena.Foundation Xyena.Foundation.Session Xyena.Contracts

section Locked

variable {db : DeliveryDb} {actor : ActorScope} {deliveryId : String} {expectedVersion : Int}
  {delivery : Delivery}

theorem lockedDelivery_ok : lockedDelivery db actor deliveryId expectedVersion = .ok delivery ↔
    deliveryModel db actor.tenantId deliveryId = .ok delivery ∧ (delivery.version : Int) = expectedVersion := by
  unfold lockedDelivery
  rw [bind_ok]
  constructor
  · rintro ⟨found, hfound, h⟩
    obtain ⟨hversion, h⟩ := ensure_bind_ok.mp h
    obtain rfl := Except.ok.inj h
    exact ⟨hfound, beq_iff_eq.mp hversion⟩
  · rintro ⟨hfound, hversion⟩
    exact ⟨delivery, hfound, ensure_bind_ok.mpr ⟨beq_iff_eq.mpr hversion, rfl⟩⟩

theorem lockedDelivery_mem (h : lockedDelivery db actor deliveryId expectedVersion = .ok delivery) :
    delivery ∈ db.deliveries :=
  findRow_mem (lockedDelivery_ok.mp h).1

end Locked

/-! ## Guards -/

section Guards

variable (db : DeliveryDb) (call : DeliveryCall) (actor : ActorScope)

/-- A transit event that is possible from the status of the delivery and neither in the future nor before
the dispatch. -/
structure Transits (body : TransitEventRequest) (delivery : Delivery) (target : DeliveryStatus) : Prop where
  request : ∃ deliveryId expectedVersion,
    call.request = .recordTransitEvent actor deliveryId expectedVersion body ∧
      lockedDelivery db actor deliveryId expectedVersion = .ok delivery
  target : transitions delivery.status body.eventType = some target
  past : body.occurredAt.getD (call.clock 0) ≤ call.clock 1 + minutes 5
  afterDispatch : (delivery.dispatchDate.any fun dispatched ↦
    decide (body.occurredAt.getD (call.clock 0) < dispatched)) = false

/-- An attempt for a delivery that is on the road. -/
structure Attempts (body : DeliveryAttemptRequest) (delivery : Delivery) : Prop where
  request : ∃ deliveryId expectedVersion,
    call.request = .recordDeliveryAttempt actor deliveryId expectedVersion body ∧
      lockedDelivery db actor deliveryId expectedVersion = .ok delivery
  onRoad : delivery.status = .inTransit ∨ delivery.status = .outForDelivery

/-- An attempt that has delivered a quantity of every item. -/
structure Succeeds (body : DeliveryAttemptRequest) (delivery : Delivery)
    (taken : List (DeliveryItem × Int)) : Prop extends Attempts db call actor body delivery where
  success : body.success = true
  skus : sameSkus (body.itemQuantities.entries.map Prod.fst)
    ((itemsOf db delivery.id).map DeliveryItem.sku) = true
  taken : takeQuantities body.itemQuantities DeliveryItem.dispatchedQuantity
    (fun sku ↦ "Delivered quantity for " ++ sku ++ " exceeds dispatch.") (itemsOf db delivery.id) = .ok taken

/-- The acceptance of a delivery with a verified proof. -/
structure Accepts (body : AcceptanceCreate) (delivery : Delivery)
    (settled : List (DeliveryItem × ItemAcceptance)) : Prop where
  stored : delivery ∈ db.deliveries
  pending : delivery.status ∈ pendingAcceptanceStatuses
  verified : ∃ proof ∈ db.proofs, proof.deliveryId = delivery.id ∧ proof.verificationStatus = .verified
  settled : settleItems body.items (itemsOf db delivery.id) = .ok settled

end Guards

/-! ## Moves -/

section Moves

variable (platform : DeliveryPlatform) (db : DeliveryDb) (call : DeliveryCall)

/-- The name of the event of an attempt. -/
def successChange (delivery : Delivery) (taken : List (DeliveryItem × Int)) : Change where
  old := delivery
  new := delivery.succeed (taken.any fun item ↦ decide (item.2 < item.1.dispatchedQuantity))
  eventType := "delivery.attempt_succeeded"

/-- How a session ends with rows to commit. -/
inductive Move : Writes → Prop
  | created (actor : ActorScope) (body : DeliveryCreate)
      (hrequest : call.request = .createDelivery actor body) :
      Move (creationWrites platform call actor body)
  | readied (actor : ActorScope) (delivery : Delivery) (tracking : String)
      (hstored : delivery ∈ db.deliveries) (hstatus : delivery.status = .created) :
      Move (recordWrites platform call actor [⟨delivery, delivery.ready tracking, "delivery.ready"⟩])
  | dispatched (actor : ActorScope) (body : DispatchRequest) (delivery : Delivery)
      (taken : List (DeliveryItem × Int)) (hstored : delivery ∈ db.deliveries)
      (hstatus : delivery.status = .readyToDispatch)
      (htaken : takeQuantities body.itemQuantities DeliveryItem.orderedQuantity
        (fun sku ↦ "Dispatch for " ++ sku ++ " exceeds ordered quantity.")
        (itemsOf db delivery.id) = .ok taken) :
      Move { recordWrites platform call actor
          [⟨delivery, delivery.dispatch body.carrierId (call.clock 0), "delivery.dispatched"⟩] with
        items := taken.map fun item ↦ .update (item.1.dispatch item.2) }
  | transited (actor : ActorScope) (body : TransitEventRequest) (delivery : Delivery)
      (target : DeliveryStatus) (h : Transits db call actor body delivery target) :
      Move (recordWrites platform call actor
        [⟨delivery, delivery.transit target, "delivery." ++ body.eventType.value.toLower⟩])
  | succeeded (actor : ActorScope) (body : DeliveryAttemptRequest) (delivery : Delivery)
      (taken : List (DeliveryItem × Int)) (h : Succeeds db call actor body delivery taken) :
      Move { recordWrites platform call actor [successChange delivery taken] with
        items := taken.map fun item ↦ .update (item.1.deliver item.2) }
  | failed (actor : ActorScope) (body : DeliveryAttemptRequest) (delivery : Delivery)
      (h : Attempts db call actor body delivery) (hfailure : body.success = false) :
      Move (recordWrites platform call actor [⟨delivery, delivery.fail, "delivery.attempt_failed"⟩])
  | captured (actor : ActorScope) (delivery : Delivery) (proof : ProofOfDelivery)
      (hstored : delivery ∈ db.deliveries) (howner : proof.deliveryId = delivery.id) :
      Move { recordWrites platform call actor [⟨delivery, delivery.note, "delivery.proof_captured"⟩] with
        proofs := (pendingProofs db delivery.id).map (fun row ↦ .update (row.supersede proof.id)) ++
          [.insert proof] }
  | reviewed (actor : ActorScope) (delivery : Delivery) (proof : ProofOfDelivery) (verified : Bool)
      (eventType : String) (hstored : delivery ∈ db.deliveries) (hproof : proof ∈ db.proofs)
      (howner : proof.deliveryId = delivery.id)
      (hpending : proof.verificationStatus = .pendingVerification) :
      Move { recordWrites platform call actor [⟨delivery, delivery.note, eventType⟩] with
        proofs := [.update (proof.review verified actor.actorId)] }
  | accepted (actor : ActorScope) (body : AcceptanceCreate) (delivery : Delivery)
      (settled : List (DeliveryItem × ItemAcceptance)) (h : Accepts db body delivery settled) :
      Move { recordWrites platform call actor [⟨delivery, delivery.accept settled, "delivery.accepted"⟩] with
        items := settled.map fun item ↦ .update (item.1.settle item.2)
        acceptances := [.insert (newAcceptance call actor (delivery.accept settled))] }
  | cancelled (actor : ActorScope) (delivery : Delivery) (hstored : delivery ∈ db.deliveries)
      (hstatus : delivery.status ∉ terminalStatuses) :
      Move (recordWrites platform call actor [⟨delivery, delivery.cancel actor.role, "delivery.cancelled"⟩])
  | noted (actor : ActorScope) (delivery : Delivery) (eventType : String)
      (corrections : List (RowWrite DeliveryCorrection)) (hstored : delivery ∈ db.deliveries) :
      Move { recordWrites platform call actor [⟨delivery, delivery.note, eventType⟩] with
        corrections := corrections }
  | corrected (actor : ActorScope) (delivery corrected : Delivery) (changes : List (String × String))
      (corrections : List (RowWrite DeliveryCorrection)) (hstored : delivery ∈ db.deliveries)
      (hassigned : assignAll platform delivery changes = .ok corrected) :
      Move { recordWrites platform call actor
          [⟨delivery, corrected.note, "delivery.correction_approved"⟩] with corrections := corrections }
  | staled (envelope : ExternalEventEnvelope) (hrequest : call.request = .consumeExternalEvent envelope) :
      Move { inboxEvents := [.insert (newInbox envelope .stale)] }
  | consumed (envelope : ExternalEventEnvelope) (aggregates : List (RowWrite ExternalAggregateVersion))
      (hrequest : call.request = .consumeExternalEvent envelope) :
      Move { recordWrites platform call (sourceActor envelope) (marks db envelope) with
        aggregates := aggregates
        inboxEvents := [.insert (newInbox envelope .processed)] }

end Moves

/-! ## Inversion, one operation after the other -/

section Inversion

variable {platform : DeliveryPlatform} {db : DeliveryDb} {call : DeliveryCall} {actor : ActorScope}
  {deliveryId : String} {expectedVersion : Int} {answer : DeliveryAnswer} {writes : Writes}

/-- An operation that returns an outcome returns just this one. -/
theorem returned {value answer : DeliveryAnswer} {rows : Option Writes} {writes : Writes}
    (h : (pure (value, rows) : Except DeliveryError Outcome) = .ok (answer, some writes)) :
    value = answer ∧ rows = some writes :=
  Prod.mk.inj (Except.ok.inj h)

theorem move_createDelivery {body : DeliveryCreate} (hrequest : call.request = .createDelivery actor body)
    (h : createDelivery platform db call actor body = .ok (answer, some writes)) :
    Move platform db call writes := by
  obtain ⟨-, h⟩ := ensure_bind_ok.mp h
  obtain ⟨-, ⟨⟩⟩ := returned h
  exact .created actor body hrequest

theorem move_markReady (h : markReady platform db call actor deliveryId expectedVersion =
    .ok (answer, some writes)) : Move platform db call writes := by
  obtain ⟨delivery, hdelivery, h⟩ := bind_ok.mp h
  obtain ⟨hstatus, h⟩ := ensure_bind_ok.mp h
  obtain ⟨-, h⟩ := ensure_bind_ok.mp h
  obtain ⟨tracking, -, h⟩ := bind_ok.mp h
  obtain ⟨-, ⟨⟩⟩ := returned h
  exact .readied actor delivery tracking (lockedDelivery_mem hdelivery) (beq_iff_eq.mp hstatus)

theorem move_dispatchDelivery {body : DispatchRequest}
    (h : dispatchDelivery platform db call actor deliveryId expectedVersion body =
      .ok (answer, some writes)) : Move platform db call writes := by
  obtain ⟨delivery, hdelivery, h⟩ := bind_ok.mp h
  obtain ⟨hready, h⟩ := ensure_bind_ok.mp h
  obtain ⟨-, h⟩ := ensure_bind_ok.mp h
  obtain ⟨taken, htaken, h⟩ := bind_ok.mp h
  obtain ⟨-, ⟨⟩⟩ := returned h
  simp only [Bool.and_eq_true, beq_iff_eq] at hready
  exact .dispatched actor body delivery taken (lockedDelivery_mem hdelivery) hready.1 htaken

theorem move_recordTransitEvent {body : TransitEventRequest}
    (hrequest : call.request = .recordTransitEvent actor deliveryId expectedVersion body)
    (h : recordTransitEvent platform db call actor deliveryId expectedVersion body =
      .ok (answer, some writes)) : Move platform db call writes := by
  obtain ⟨delivery, hdelivery, h⟩ := bind_ok.mp h
  split at h
  · cases h
  next target htarget =>
    obtain ⟨hpast, h⟩ := ensure_bind_ok.mp h
    obtain ⟨hafter, h⟩ := ensure_bind_ok.mp h
    obtain ⟨-, ⟨⟩⟩ := returned h
    exact .transited actor body delivery target ⟨⟨deliveryId, expectedVersion, hrequest, hdelivery⟩,
      htarget, of_decide_eq_true hpast, by simpa using hafter⟩

theorem move_recordDeliveryAttempt {body : DeliveryAttemptRequest}
    (hrequest : call.request = .recordDeliveryAttempt actor deliveryId expectedVersion body)
    (h : recordDeliveryAttempt platform db call actor deliveryId expectedVersion body =
      .ok (answer, some writes)) : Move platform db call writes := by
  obtain ⟨delivery, hdelivery, h⟩ := bind_ok.mp h
  obtain ⟨honRoad, h⟩ := ensure_bind_ok.mp h
  simp only [Bool.or_eq_true, beq_iff_eq] at honRoad
  have hattempts : Attempts db call actor body delivery :=
    ⟨⟨deliveryId, expectedVersion, hrequest, hdelivery⟩, honRoad⟩
  split at h
  next hsuccess =>
    obtain ⟨hskus, h⟩ := ensure_bind_ok.mp h
    obtain ⟨taken, htaken, h⟩ := bind_ok.mp h
    obtain ⟨-, ⟨⟩⟩ := returned h
    exact .succeeded actor body delivery taken ⟨hattempts, hsuccess, hskus, htaken⟩
  next hfailure =>
    obtain ⟨-, ⟨⟩⟩ := returned h
    exact .failed actor body delivery hattempts (Bool.not_eq_true _ ▸ hfailure)

theorem move_capturePod {body : ProofCreate}
    (h : capturePod platform db call actor deliveryId expectedVersion body = .ok (answer, some writes)) :
    Move platform db call writes := by
  obtain ⟨delivery, hdelivery, h⟩ := bind_ok.mp h
  obtain ⟨-, h⟩ := ensure_bind_ok.mp h
  obtain ⟨-, ⟨⟩⟩ := returned h
  exact .captured actor delivery ⟨call.uuid 0, delivery.id, _, _, _, _⟩ (lockedDelivery_mem hdelivery) rfl

theorem move_verifyPod {proofId : String} {verified : Bool}
    (h : verifyPod platform db call actor deliveryId proofId expectedVersion verified =
      .ok (answer, some writes)) : Move platform db call writes := by
  obtain ⟨delivery, hdelivery, h⟩ := bind_ok.mp h
  obtain ⟨proof, hproof, h⟩ := bind_ok.mp h
  obtain ⟨hpending, h⟩ := ensure_bind_ok.mp h
  obtain ⟨-, ⟨⟩⟩ := returned h
  have hselected := findRow_selected hproof
  simp only [Bool.and_eq_true, beq_iff_eq] at hselected
  exact .reviewed actor delivery proof verified _ (lockedDelivery_mem hdelivery) (findRow_mem hproof)
    hselected.2 (beq_iff_eq.mp hpending)

theorem move_recordBuyerAcceptance {body : AcceptanceCreate}
    (h : recordBuyerAcceptance platform db call actor deliveryId expectedVersion body =
      .ok (answer, some writes)) : Move platform db call writes := by
  obtain ⟨delivery, hdelivery, h⟩ := bind_ok.mp h
  obtain ⟨hpending, h⟩ := ensure_bind_ok.mp h
  obtain ⟨hverified, h⟩ := ensure_bind_ok.mp h
  obtain ⟨-, h⟩ := ensure_bind_ok.mp h
  obtain ⟨settled, hsettled, h⟩ := bind_ok.mp h
  obtain ⟨-, ⟨⟩⟩ := returned h
  simp only [List.any_eq_true, Bool.and_eq_true, beq_iff_eq] at hverified
  exact .accepted actor body delivery settled
    ⟨lockedDelivery_mem hdelivery, List.contains_iff_mem.mp hpending, hverified, hsettled⟩

theorem move_cancelDelivery
    (h : cancelDelivery platform db call actor deliveryId expectedVersion = .ok (answer, some writes)) :
    Move platform db call writes := by
  obtain ⟨delivery, hdelivery, h⟩ := bind_ok.mp h
  obtain ⟨hopen, h⟩ := ensure_bind_ok.mp h
  obtain ⟨-, h⟩ := ensure_bind_ok.mp h
  obtain ⟨-, ⟨⟩⟩ := returned h
  exact .cancelled actor delivery (lockedDelivery_mem hdelivery) (by simpa using hopen)

theorem move_proposeCorrection {body : CorrectionCreate}
    (h : proposeCorrection platform db call actor deliveryId expectedVersion body =
      .ok (answer, some writes)) : Move platform db call writes := by
  obtain ⟨-, h⟩ := ensure_bind_ok.mp h
  obtain ⟨delivery, hdelivery, h⟩ := bind_ok.mp h
  obtain ⟨-, h⟩ := ensure_bind_ok.mp h
  obtain ⟨-, ⟨⟩⟩ := returned h
  exact .noted actor delivery _ _ (lockedDelivery_mem hdelivery)

theorem assigned_of_correct {delivery corrected : Delivery} {changes : List (String × String)}
    (h : correct platform db actor delivery changes = .ok corrected) :
    assignAll platform delivery changes = .ok corrected := by
  unfold correct at h
  split at h
  · exact h
  · exact (bind_ok.mp h).choose_spec.2

theorem move_reviewCorrection {correctionId : String} {approve : Bool}
    (h : reviewCorrection platform db call actor correctionId expectedVersion approve =
      .ok (answer, some writes)) : Move platform db call writes := by
  obtain ⟨correction, -, h⟩ := bind_ok.mp h
  obtain ⟨delivery, hdelivery, h⟩ := bind_ok.mp h
  obtain ⟨-, h⟩ := ensure_bind_ok.mp h
  split at h
  · obtain ⟨corrected, hcorrected, h⟩ := bind_ok.mp h
    obtain ⟨-, ⟨⟩⟩ := returned h
    exact .corrected actor delivery corrected _ _ (lockedDelivery_mem hdelivery)
      (assigned_of_correct hcorrected)
  · obtain ⟨-, ⟨⟩⟩ := returned h
    exact .noted actor delivery _ _ (lockedDelivery_mem hdelivery)

theorem move_consumeExternalEvent {envelope : ExternalEventEnvelope}
    (hrequest : call.request = .consumeExternalEvent envelope)
    (h : consumeExternalEvent platform db call envelope = .ok (answer, some writes)) :
    Move platform db call writes := by
  unfold consumeExternalEvent at h
  split at h
  · cases h
  · simp only at h
    split at h
    · obtain ⟨-, ⟨⟩⟩ := returned h
      exact .staled envelope hrequest
    · obtain ⟨-, ⟨⟩⟩ := returned h
      exact .consumed envelope _ hrequest

/-- Every session that ends with rows to commit has made one of the listed moves. -/
theorem move_of_serve (h : serve platform db call = .ok (answer, some writes)) :
    Move platform db call writes := by
  unfold serve at h
  split at h
  next hrequest => exact move_createDelivery hrequest h
  · exact move_markReady h
  · exact move_dispatchDelivery h
  next hrequest => exact move_recordTransitEvent hrequest h
  next hrequest => exact move_recordDeliveryAttempt hrequest h
  · exact move_capturePod h
  · exact move_verifyPod h
  · exact move_recordBuyerAcceptance h
  · exact move_cancelDelivery h
  · exact move_proposeCorrection h
  · exact move_reviewCorrection h
  next hrequest => exact move_consumeExternalEvent hrequest h

end Inversion

/-! ## Calls that pass their guards -/

section Completeness

variable {platform : DeliveryPlatform} {db : DeliveryDb} {call : DeliveryCall} {actor : ActorScope}
  {delivery : Delivery}

theorem serve_of_transits {body : TransitEventRequest} {target : DeliveryStatus}
    (h : Transits db call actor body delivery target) :
    serve platform db call = .ok (.delivery (delivery.transit target), some (recordWrites platform call actor
      [⟨delivery, delivery.transit target, "delivery." ++ body.eventType.value.toLower⟩])) := by
  obtain ⟨deliveryId, expectedVersion, hrequest, hheld⟩ := h.request
  simp only [serve, hrequest, recordTransitEvent]
  refine bind_ok.mpr ⟨delivery, hheld, ?_⟩
  simp only [h.target]
  refine ensure_bind_ok.mpr ⟨decide_eq_true h.past, ?_⟩
  exact ensure_bind_ok.mpr ⟨by simpa using h.afterDispatch, rfl⟩

theorem serve_of_succeeds {body : DeliveryAttemptRequest} {taken : List (DeliveryItem × Int)}
    (h : Succeeds db call actor body delivery taken) :
    serve platform db call = .ok (.delivery (successChange delivery taken).new, some
      { recordWrites platform call actor [successChange delivery taken] with
        items := taken.map fun item ↦ .update (item.1.deliver item.2) }) := by
  obtain ⟨deliveryId, expectedVersion, hrequest, hheld⟩ := h.request
  simp only [serve, hrequest, recordDeliveryAttempt]
  refine bind_ok.mpr ⟨delivery, hheld, ensure_bind_ok.mpr ⟨by simpa using h.onRoad, ?_⟩⟩
  rw [if_pos h.success]
  exact ensure_bind_ok.mpr ⟨h.skus, bind_ok.mpr ⟨taken, h.taken, rfl⟩⟩

theorem serve_of_fails {body : DeliveryAttemptRequest} (h : Attempts db call actor body delivery)
    (hfailure : body.success = false) :
    serve platform db call = .ok (.delivery delivery.fail, some (recordWrites platform call actor
      [⟨delivery, delivery.fail, "delivery.attempt_failed"⟩])) := by
  obtain ⟨deliveryId, expectedVersion, hrequest, hheld⟩ := h.request
  simp only [serve, hrequest, recordDeliveryAttempt]
  refine bind_ok.mpr ⟨delivery, hheld, ensure_bind_ok.mpr ⟨by simpa using h.onRoad, ?_⟩⟩
  rw [if_neg (by rw [hfailure]; decide)]
  rfl

end Completeness

end Xyena.Deliveries
