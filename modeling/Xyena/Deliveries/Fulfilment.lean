import Xyena.Deliveries.Refinement

/-!
# Delivered quantities and accepted value

The quantities of an item never grow on the way from the order to the buyer,
and a delivery is settled at most once, by an acceptance with a verified proof
that splits what was delivered. The accepted value is the rounded worth of the
accepted quantities, and rounding keeps the order of sums.
-/

namespace Xyena.Deliveries

open Xyena.Foundation

/-! ## What the source promises -/

/-- An acceptance of the delivery is stored. -/
def Settled (db : DeliveryDb) (delivery : Delivery) : Prop :=
  ∃ acceptance ∈ db.acceptances, acceptance.deliveryId = delivery.id

structure Fulfilled (db : DeliveryDb) (delivery : Delivery) : Prop where
  quantities : ∀ item ∈ db.items, item.deliveryId = delivery.id →
    0 ≤ item.deliveredQuantity ∧ item.deliveredQuantity ≤ item.dispatchedQuantity ∧
      item.dispatchedQuantity ≤ item.orderedQuantity
  open_quantities : ¬Settled db delivery → ∀ item ∈ db.items, item.deliveryId = delivery.id →
    item.acceptedQuantity + item.rejectedQuantity = 0
  settled_quantities : Settled db delivery → ∀ item ∈ db.items, item.deliveryId = delivery.id →
    item.acceptedQuantity + item.rejectedQuantity = item.deliveredQuantity
  open_value : ¬Settled db delivery → delivery.verifiedDeliveredValue = 0
  settled_value : Settled db delivery → delivery.verifiedDeliveredValue =
    worth DeliveryItem.acceptedQuantity DeliveryItem.supportedUnitValue (itemsOf db delivery.id)
  value_le : delivery.verifiedDeliveredValue ≤ delivery.declaredValue
  proof : delivery.status = .delivered ∨ delivery.status = .partiallyAccepted →
    ∃ proof ∈ db.proofs, proof.deliveryId = delivery.id ∧ proof.verificationStatus = .verified
  acceptance : delivery.status = .delivered ∨ delivery.status = .partiallyAccepted →
    ∃ acceptance, (db.acceptances.filter fun row ↦ row.deliveryId == delivery.id) = [acceptance] ∧
      acceptance.acceptedValue = delivery.verifiedDeliveredValue

/-- The status of a stored delivery. -/
def statusOf (deliveryId : String) (db : DeliveryDb) : Option DeliveryStatus :=
  (db.deliveries.find? fun row ↦ row.id == deliveryId).map Delivery.status

def Terminal (status : Option DeliveryStatus) : Prop := ∃ last ∈ terminalStatuses, status = some last

/-! ## Worth -/

section Worth

variable {Row Other : Type} {quantity limit unitValue : Row → Int} {rows : List Row}

theorem worth_map (row : Other → Row) (others : List Other) :
    worth quantity unitValue (others.map row) =
      worth (fun other ↦ quantity (row other)) (fun other ↦ unitValue (row other)) others := by
  rw [worth, worth, Table.sum, Table.sum, List.map_map]
  rfl

/-- Smaller quantities are worth at most as much. -/
theorem worth_mono (hquantity : ∀ row ∈ rows, quantity row ≤ limit row)
    (hvalue : ∀ row ∈ rows, 0 ≤ unitValue row) :
    worth quantity unitValue rows ≤ worth limit unitValue rows := by
  have hsum : Table.sum (fun row ↦ quantity row * unitValue row) rows ≤
      Table.sum (fun row ↦ limit row * unitValue row) rows :=
    Table.sum_le_sum fun row hrow ↦
      mul_le_mul_of_nonneg_right (hquantity row hrow) (hvalue row hrow)
  refine halfEven_mono ?_
  gcongr

end Worth

/-! ## The invariant of the contents -/

/-- The statuses that only an acceptance leads to. -/
def settledStatuses : List DeliveryStatus := [.delivered, .partiallyAccepted, .rejected]

/-- The way of an item from the order to the delivery. -/
structure ItemSound (item : DeliveryItem) : Prop where
  delivered_nonneg : 0 ≤ item.deliveredQuantity
  delivered_le : item.deliveredQuantity ≤ item.dispatchedQuantity
  dispatched_le : item.dispatchedQuantity ≤ item.orderedQuantity
  unitValue_nonneg : 0 ≤ item.supportedUnitValue

structure ContentsOpen (contents : Contents) : Prop where
  status : contents.delivery.status ∉ settledStatuses
  items : ∀ item ∈ contents.items, item.acceptedQuantity = 0 ∧ item.rejectedQuantity = 0
  value : contents.delivery.verifiedDeliveredValue = 0
  acceptances : contents.acceptances = []

structure ContentsSettled (contents : Contents) : Prop where
  status : contents.delivery.status ∈ settledStatuses
  items : ∀ item ∈ contents.items, 0 ≤ item.acceptedQuantity ∧ 0 ≤ item.rejectedQuantity ∧
    item.acceptedQuantity + item.rejectedQuantity = item.deliveredQuantity
  value : contents.delivery.verifiedDeliveredValue =
    worth DeliveryItem.acceptedQuantity DeliveryItem.supportedUnitValue contents.items
  proof : ∃ proof ∈ contents.proofs, proof.verificationStatus = .verified
  acceptance : ∃ acceptance, contents.acceptances = [acceptance] ∧
    acceptance.acceptedValue = contents.delivery.verifiedDeliveredValue

structure Sound (contents : Contents) : Prop where
  items : ∀ item ∈ contents.items, ItemSound item
  undelivered : contents.delivery.status = .created ∨ contents.delivery.status = .readyToDispatch →
    ∀ item ∈ contents.items, item.deliveredQuantity = 0
  declared : worth DeliveryItem.orderedQuantity DeliveryItem.supportedUnitValue contents.items =
    contents.delivery.declaredValue
  standing : ContentsOpen contents ∨ ContentsSettled contents

theorem Sound.value_le {contents : Contents} (h : Sound contents) :
    contents.delivery.verifiedDeliveredValue ≤ contents.delivery.declaredValue := by
  have hvalue (item : DeliveryItem) (hitem : item ∈ contents.items) : 0 ≤ item.supportedUnitValue :=
    (h.items item hitem).unitValue_nonneg
  rcases h.standing with hopen | hsettled
  · rw [hopen.value, ← h.declared]
    calc (0 : Int) = worth (fun _ ↦ 0) DeliveryItem.supportedUnitValue contents.items := by
          simp [worth, Table.sum, halfEven, divHalfEven]
      _ ≤ worth DeliveryItem.orderedQuantity DeliveryItem.supportedUnitValue contents.items := by
          refine worth_mono (fun item hitem ↦ ?_) hvalue
          have hitem := h.items item hitem
          exact hitem.delivered_nonneg.trans (hitem.delivered_le.trans hitem.dispatched_le)
  · rw [hsettled.value, ← h.declared]
    refine worth_mono (fun item hitem ↦ ?_) hvalue
    obtain ⟨-, hrejected, hsplit⟩ := hsettled.items item hitem
    have hitem := h.items item hitem
    have haccepted : item.acceptedQuantity ≤ item.deliveredQuantity := by omega
    exact haccepted.trans (hitem.delivered_le.trans hitem.dispatched_le)

/-! ## Steps keep it -/

section Steps

variable {before after : Contents}

theorem transitions_status {status target : DeliveryStatus} {eventType : TransitEventType}
    (h : transitions status eventType = some target) :
    status ∉ settledStatuses ∧ target ∉ settledStatuses ∧ target ≠ .created ∧ target ≠ .readyToDispatch := by
  cases status <;> cases eventType <;> simp only [transitions, reduceCtorEq, Option.some.injEq] at h <;>
    subst h <;> decide

theorem acceptedStatus_mem (anyAccepted anyRejected : Bool) :
    acceptedStatus anyAccepted anyRejected ∈ settledStatuses := by
  cases anyAccepted <;> cases anyRejected <;> decide

/-- A contents whose delivery has moved on without its items. -/
theorem Sound.moved (h : Sound before) {delivery : Delivery}
    (hdeclared : delivery.declaredValue = before.delivery.declaredValue)
    (hvalue : delivery.verifiedDeliveredValue = before.delivery.verifiedDeliveredValue)
    (hundelivered : delivery.status = .created ∨ delivery.status = .readyToDispatch →
      before.delivery.status = .created ∨ before.delivery.status = .readyToDispatch)
    (hstatus : delivery.status ∈ settledStatuses ↔ before.delivery.status ∈ settledStatuses) :
    Sound { before with delivery := delivery } where
  items := h.items
  undelivered hearly := h.undelivered (hundelivered hearly)
  declared := h.declared.trans hdeclared.symm
  standing := h.standing.imp
    (fun hopen ↦ ⟨fun hmem ↦ hopen.status (hstatus.mp hmem), hopen.items, hvalue.trans hopen.value,
      hopen.acceptances⟩)
    fun hsettled ↦ by
      obtain ⟨acceptance, hacceptances, haccepted⟩ := hsettled.acceptance
      exact ⟨hstatus.mpr hsettled.status, hsettled.items, hvalue.trans hsettled.value, hsettled.proof,
        acceptance, hacceptances, haccepted.trans hvalue.symm⟩

/-- A proof that has been verified stays so, whatever the pending ones become. -/
theorem Sound.proved (h : Sound before) {proofs : List ProofOfDelivery}
    (hkept : ∀ proof ∈ before.proofs, proof.verificationStatus = .verified → proof ∈ proofs) :
    Sound { before with delivery := before.delivery.note, proofs := proofs } where
  items := h.items
  undelivered := h.undelivered
  declared := h.declared
  standing := h.standing.imp (fun hopen ↦ ⟨hopen.status, hopen.items, hopen.value, hopen.acceptances⟩)
    fun hsettled ↦ by
      obtain ⟨proof, hproof, hverified⟩ := hsettled.proof
      exact ⟨hsettled.status, hsettled.items, hsettled.value,
        ⟨proof, hkept proof hproof hverified, hverified⟩, hsettled.acceptance⟩

/-- The items of an open delivery have got other quantities on their way. -/
theorem Sound.shipped (h : Sound before) {delivery : Delivery} {change : DeliveryItem → DeliveryItem}
    (hopen : before.delivery.status ∉ settledStatuses) (hstatus : delivery.status ∉ settledStatuses)
    (hearly : delivery.status ≠ .created ∧ delivery.status ≠ .readyToDispatch)
    (hdeclared : delivery.declaredValue = before.delivery.declaredValue)
    (hvalue : delivery.verifiedDeliveredValue = before.delivery.verifiedDeliveredValue)
    (hsound : ∀ item ∈ before.items, ItemSound (change item))
    (hchange : ∀ item, (change item).orderedQuantity = item.orderedQuantity ∧
      (change item).supportedUnitValue = item.supportedUnitValue ∧
      (change item).acceptedQuantity = item.acceptedQuantity ∧
      (change item).rejectedQuantity = item.rejectedQuantity) :
    Sound { before with delivery := delivery, items := before.items.map change } where
  items := List.forall_mem_map.mpr hsound
  undelivered h := absurd h (not_or.mpr hearly)
  declared := by
    have hordered : (fun item ↦ (change item).orderedQuantity) = DeliveryItem.orderedQuantity :=
      funext fun item ↦ (hchange item).1
    have hunit : (fun item ↦ (change item).supportedUnitValue) = DeliveryItem.supportedUnitValue :=
      funext fun item ↦ (hchange item).2.1
    rw [worth_map, hordered, hunit, h.declared, hdeclared]
  standing := by
    rcases h.standing with hbefore | hsettled
    · refine Or.inl ⟨hstatus, List.forall_mem_map.mpr fun item hitem ↦ ?_, hvalue.trans hbefore.value,
        hbefore.acceptances⟩
      rw [(hchange item).2.2.1, (hchange item).2.2.2]
      exact hbefore.items item hitem
    · exact absurd hsettled.status hopen

theorem Sound.settled (h : Sound before) {delivery : Delivery} {entry : DeliveryItem → ItemAcceptance}
    {acceptance : BuyerAcceptance} (hpending : before.delivery.status ∈ pendingAcceptanceStatuses)
    (hverified : ∃ proof ∈ before.proofs, proof.verificationStatus = .verified)
    (hsplit : ∀ item ∈ before.items,
      (entry item).acceptedQuantity + (entry item).rejectedQuantity = item.deliveredQuantity)
    (hdelivery : delivery = before.delivery.accept (before.items.map fun item ↦ (item, entry item)))
    (hvalue : acceptance.acceptedValue = delivery.verifiedDeliveredValue) :
    Sound
      { before with
        delivery := delivery
        items := before.items.map fun item ↦ item.settle (entry item)
        acceptances := before.acceptances ++ [acceptance] } := by
  subst hdelivery
  have hstatus := acceptedStatus_mem
    ((before.items.map fun item ↦ (item, entry item)).any fun item ↦ decide (0 < item.2.acceptedQuantity))
    ((before.items.map fun item ↦ (item, entry item)).any fun item ↦ decide (0 < item.2.rejectedQuantity))
  have hopen : before.delivery.status ∉ settledStatuses := by
    intro hmem
    cases hcase : before.delivery.status <;> rw [hcase] at hmem hpending <;>
      simp [settledStatuses, pendingAcceptanceStatuses] at hmem hpending
  exact {
    items := List.forall_mem_map.mpr fun item hitem ↦
      ⟨(h.items item hitem).delivered_nonneg, (h.items item hitem).delivered_le,
        (h.items item hitem).dispatched_le, (h.items item hitem).unitValue_nonneg⟩
    undelivered := by
      intro hearly
      simp only [Delivery.accept] at hearly
      rcases hearly with hearly | hearly <;> rw [hearly] at hstatus <;>
        simp [settledStatuses] at hstatus
    declared := by
      rw [worth_map]
      exact h.declared
    standing := by
      rcases h.standing with hbefore | hsettled
      · refine Or.inr ⟨hstatus, List.forall_mem_map.mpr fun item hitem ↦ ?_, ?_, hverified, acceptance, ?_,
          hvalue⟩
        · exact ⟨(entry item).acceptedQuantity_digits.1, (entry item).rejectedQuantity_digits.1,
            hsplit item hitem⟩
        · simp only [Delivery.accept, worth_map]
          rfl
        · simp only [hbefore.acceptances, List.nil_append]
      · exact absurd hsettled.status hopen }

/-- One step keeps the contents of a dossier sound. -/
theorem Sound.step (h : Sound before) (hstep : Step before after) : Sound after := by
  cases hstep with
  | readied tracking hstatus =>
    exact h.moved rfl rfl (fun _ ↦ Or.inl hstatus)
      (iff_of_false (by simp [Delivery.ready, settledStatuses]) (by rw [hstatus]; decide))
  | dispatched carrierId now quantity hstatus hquantity =>
    refine h.shipped (by rw [hstatus]; decide) (by simp [Delivery.dispatch, settledStatuses])
      ⟨by simp [Delivery.dispatch], by simp [Delivery.dispatch]⟩ rfl rfl (fun item hitem ↦ ?_)
      fun item ↦ ⟨rfl, rfl, rfl, rfl⟩
    have hdelivered := h.undelivered (Or.inr hstatus) item hitem
    have hleast := (hquantity item hitem).1
    refine ⟨(h.items item hitem).delivered_nonneg, ?_, (hquantity item hitem).2,
      (h.items item hitem).unitValue_nonneg⟩
    simp only [DeliveryItem.dispatch]
    omega
  | transited eventType target htarget =>
    obtain ⟨hbefore, hafter, hcreated, hready⟩ := transitions_status htarget
    exact h.moved rfl rfl (fun hearly ↦ absurd hearly (not_or.mpr ⟨hcreated, hready⟩))
      (iff_of_false hafter hbefore)
  | succeeded quantity partly hstatus hquantity =>
    have hafter : (before.delivery.succeed partly).status ∉ settledStatuses ∧
        (before.delivery.succeed partly).status ≠ .created ∧
        (before.delivery.succeed partly).status ≠ .readyToDispatch := by
      cases partly <;> simp [Delivery.succeed, settledStatuses]
    refine h.shipped ?_ hafter.1 hafter.2 rfl rfl (fun item hitem ↦ ?_) fun item ↦ ⟨rfl, rfl, rfl, rfl⟩
    · rcases hstatus with hstatus | hstatus <;> rw [hstatus] <;> decide
    · exact ⟨(hquantity item hitem).1, (hquantity item hitem).2, (h.items item hitem).dispatched_le,
        (h.items item hitem).unitValue_nonneg⟩
  | failed hstatus =>
    refine h.moved rfl rfl (by simp [Delivery.fail])
      (iff_of_false (by simp [Delivery.fail, settledStatuses]) ?_)
    rcases hstatus with hstatus | hstatus <;> rw [hstatus] <;> decide
  | captured proof =>
    refine h.proved fun other hother hverified ↦ List.mem_append_left _ (List.mem_map.mpr ⟨other, hother, ?_⟩)
    rw [hverified]
    rfl
  | reviewed proof verified verifier hproof hunique hpending =>
    refine h.proved fun other hother hverified ↦ Table.mem_replace_of_ne hother fun hsame ↦ ?_
    rw [hunique other hother hsame, hpending] at hverified
    cases hverified
  | accepted entry acceptance hpending hverified hsplit hvalue =>
    exact h.settled hpending hverified hsplit rfl hvalue
  | cancelled role hopen =>
    refine h.moved rfl rfl (by simp [Delivery.cancel])
      (iff_of_false (by simp [Delivery.cancel, settledStatuses]) fun hmem ↦ hopen ?_)
    simp only [settledStatuses, terminalStatuses, List.mem_cons, List.not_mem_nil, or_false] at hmem ⊢
    tauto
  | noted => exact h.moved rfl rfl id Iff.rfl
  | corrected corrected hsame =>
    have hstatus : corrected.note.status = before.delivery.status := hsame.status
    refine h.moved hsame.declaredValue hsame.verifiedDeliveredValue ?_ ?_
    · rw [hstatus]
      exact id
    · rw [hstatus]
  | marked code hopen => exact h.moved rfl rfl id Iff.rfl

end Steps

theorem opening_sound (platform : DeliveryPlatform) (call : DeliveryCall) (actor : ActorScope)
    (body : DeliveryCreate) : Sound (opening platform call actor body).toContents where
  items := by
    refine List.forall_mem_map.mpr fun item hitem ↦ ?_
    have hbody := List.fst_mem_of_mem_zipIdx hitem
    exact ⟨le_rfl, le_rfl, item.1.orderedQuantity_digits.1.le, item.1.supportedUnitValue_digits.1⟩
  undelivered _ := List.forall_mem_map.mpr fun _ _ ↦ rfl
  declared := by
    have hbody : worth DeliveryItemCreate.orderedQuantity DeliveryItemCreate.supportedUnitValue
        ((body.items.zipIdx 1).map Prod.fst) = _ := worth_map Prod.fst (body.items.zipIdx 1)
    rw [List.zipIdx_map_fst] at hbody
    calc worth DeliveryItem.orderedQuantity DeliveryItem.supportedUnitValue (newItems call body)
      _ = worth DeliveryItemCreate.orderedQuantity DeliveryItemCreate.supportedUnitValue body.items := by
          rw [hbody, newItems, worth_map]
          rfl
      _ = body.declaredValue := body.declaredValue_total
  standing := Or.inl
    { status := by
        change DeliveryStatus.created ∉ settledStatuses
        decide
      items := List.forall_mem_map.mpr fun _ _ ↦ ⟨rfl, rfl⟩
      value := rfl
      acceptances := rfl }

/-! ## Every reachable database -/

/-- Sound contents are all that the source promises. -/
theorem Sound.fulfilled {db : DeliveryDb} {delivery : Delivery} (h : Sound (dossier db delivery).toContents) :
    Fulfilled db delivery := by
  have hitem {item : DeliveryItem} (hstored : item ∈ db.items) (howner : item.deliveryId = delivery.id) :
      item ∈ (dossier db delivery).items := List.mem_filter.mpr ⟨hstored, beq_iff_eq.mpr howner⟩
  have hsettled : ContentsSettled (dossier db delivery).toContents ↔ Settled db delivery := by
    constructor
    · intro hsettled
      obtain ⟨acceptance, hacceptances, -⟩ := hsettled.acceptance
      have hmem : acceptance ∈ (dossier db delivery).acceptances := by
        rw [hacceptances]
        exact List.mem_singleton_self acceptance
      obtain ⟨hstored, howner⟩ := List.mem_filter.mp hmem
      exact ⟨acceptance, hstored, beq_iff_eq.mp howner⟩
    · rintro ⟨acceptance, hstored, howner⟩
      refine h.standing.resolve_left fun hopen ↦ ?_
      have hmem : acceptance ∈ (dossier db delivery).acceptances :=
        List.mem_filter.mpr ⟨hstored, beq_iff_eq.mpr howner⟩
      rw [hopen.acceptances] at hmem
      cases hmem
  have hopen (hnone : ¬Settled db delivery) : ContentsOpen (dossier db delivery).toContents :=
    h.standing.resolve_right fun hcontents ↦ hnone (hsettled.mp hcontents)
  have hfinal (hstatus : delivery.status = .delivered ∨ delivery.status = .partiallyAccepted) :
      ContentsSettled (dossier db delivery).toContents := by
    refine h.standing.resolve_left fun hopen ↦ hopen.status ?_
    simp only [dossier, settledStatuses, List.mem_cons, List.not_mem_nil, or_false]
    tauto
  exact {
    quantities := fun item hstored howner ↦
      have hsound := h.items item (hitem hstored howner)
      ⟨hsound.delivered_nonneg, hsound.delivered_le, hsound.dispatched_le⟩
    open_quantities := fun hnone item hstored howner ↦ by
      obtain ⟨haccepted, hrejected⟩ := (hopen hnone).items item (hitem hstored howner)
      rw [haccepted, hrejected, add_zero]
    settled_quantities := fun hstored item hitems howner ↦
      ((hsettled.mpr hstored).items item (hitem hitems howner)).2.2
    open_value := fun hnone ↦ (hopen hnone).value
    settled_value := fun hstored ↦ (hsettled.mpr hstored).value
    value_le := h.value_le
    proof := fun hstatus ↦ by
      obtain ⟨proof, hproof, hverified⟩ := (hfinal hstatus).proof
      obtain ⟨hstored, howner⟩ := List.mem_filter.mp hproof
      exact ⟨proof, hstored, beq_iff_eq.mp howner, hverified⟩
    acceptance := fun hstatus ↦ (hfinal hstatus).acceptance }

/-- No step changes a terminal status. -/
theorem Step.status_final {before after : Contents} (h : Step before after)
    (hterminal : before.delivery.status ∈ terminalStatuses) :
    after.delivery.status = before.delivery.status := by
  have hnot {status : DeliveryStatus} (hstatus : before.delivery.status = status)
      (hopen : status ∉ terminalStatuses) : False := hopen (hstatus ▸ hterminal)
  cases h with
  | readied _ hstatus => exact (hnot hstatus (by decide)).elim
  | dispatched _ _ _ hstatus => exact (hnot hstatus (by decide)).elim
  | transited eventType target htarget =>
    refine (hnot rfl fun hmem ↦ ?_).elim
    cases hcase : before.delivery.status <;> rw [hcase] at hmem htarget <;>
      simp [terminalStatuses, transitions] at hmem htarget
  | succeeded _ _ hstatus =>
    rcases hstatus with hstatus | hstatus
    · exact (hnot hstatus (by decide)).elim
    · exact (hnot hstatus (by decide)).elim
  | failed hstatus =>
    rcases hstatus with hstatus | hstatus
    · exact (hnot hstatus (by decide)).elim
    · exact (hnot hstatus (by decide)).elim
  | captured => rfl
  | reviewed => rfl
  | accepted _ _ hpending =>
    refine (hnot rfl fun hmem ↦ ?_).elim
    cases hcase : before.delivery.status <;> rw [hcase] at hmem hpending <;>
      simp [terminalStatuses, pendingAcceptanceStatuses] at hmem hpending
  | cancelled _ hopen => exact absurd hterminal hopen
  | noted => rfl
  | corrected corrected hsame => exact hsame.status
  | marked => rfl

theorem statusOf_mem {db : DeliveryDb} (hkeyed : db.WellKeyed) {delivery : Delivery}
    (hstored : delivery ∈ db.deliveries) : statusOf delivery.id db = some delivery.status := by
  have hfind : (db.deliveries.find? fun row ↦ row.id == delivery.id) = some delivery :=
    Table.find?_eq_some_of_unique hstored (beq_self_eq_true _) fun other hother hsame ↦
      Table.eq_of_key hkeyed.deliveries.keys hother hstored (beq_iff_eq.mp hsame)
  rw [statusOf, hfind, Option.map_some]

theorem statusOf_eq_some {db : DeliveryDb} {deliveryId : String} {status : DeliveryStatus}
    (h : statusOf deliveryId db = some status) :
    ∃ delivery ∈ db.deliveries, delivery.id = deliveryId ∧ delivery.status = status := by
  obtain ⟨delivery, hfind, hstatus⟩ := Option.map_eq_some_iff.mp h
  have hselected := List.find?_some hfind
  exact ⟨delivery, List.mem_of_find?_eq_some hfind, beq_iff_eq.mp hselected, hstatus⟩

section Final

variable (platform : DeliveryPlatform) {db : DeliveryDb} (call : DeliveryCall)

/-- No call removes a delivery. -/
theorem ids_kept {id : String} (hid : id ∈ db.deliveries.map Delivery.id) :
    id ∈ ((deliveryService platform).step db call).2.deliveries.map Delivery.id :=
  (sessions platform).step_kept (fun after ↦ id ∈ after.deliveries.map Delivery.id) hid
    fun _ _ _ _ _ ↦ RowWrite.key_mem_applyAll deliveryConstraints _ hid

theorem status_step (hregular : Regular db) {deliveryId : String}
    (hterminal : Terminal (statusOf deliveryId db)) :
    statusOf deliveryId ((deliveryService platform).step db call).2 = statusOf deliveryId db := by
  obtain ⟨status, hlast, hstatus⟩ := hterminal
  obtain ⟨old, hold, rfl, rfl⟩ := statusOf_eq_some hstatus
  obtain ⟨current, hcurrent, hid⟩ := List.mem_map.mp
    (ids_kept platform call (List.mem_map_of_mem hold))
  rw [hstatus, ← hid, statusOf_mem (hregular.step platform call).keyed hcurrent, Option.some.injEq]
  have hsame {stored : Delivery} (hstored : stored ∈ db.deliveries) (hid' : stored.id = current.id) :
      stored = old := Table.eq_of_key hregular.keyed.deliveries.keys hstored hold (hid'.trans hid)
  cases continues_step hregular current hcurrent with
  | kept hstored => exact congrArg Delivery.status (hsame hstored rfl)
  | stepped stored hstored hmade hrecorded =>
    obtain rfl := hsame hstored hrecorded.id.symm
    exact hmade.status_final hlast
  | opened actor body hrequest hfresh => exact absurd hid.symm (hfresh old hold)

end Final

/-- In every reachable database every delivery is fulfilled as promised, and terminal statuses are final. -/
theorem deliveries_fulfilled (platform : DeliveryPlatform) (calls : List DeliveryCall) :
    (∀ delivery ∈ ((deliveryService platform).run {} calls).deliveries,
      Fulfilled ((deliveryService platform).run {} calls) delivery) ∧
    ∀ deliveryId, (deliveryService platform).Final (statusOf deliveryId) Terminal {} calls := by
  constructor
  · intro delivery hdelivery
    exact (dossier_invariant platform (fun dossier ↦ Sound dossier.toContents) (opening_sound platform)
      (fun _ _ h hstep _ ↦ h.step hstep) calls delivery hdelivery).fulfilled
  · intro deliveryId
    refine ((deliveryService platform).final_iff _ _ _ _).mpr fun e he hterminal ↦ ?_
    have hregular := (deliveryService platform).invariant_before Regular Regular.empty
      (fun _ call h ↦ h.step platform call) calls he
    obtain ⟨earlier, call, later, -, rfl⟩ := ((deliveryService platform).mem_log_iff _ _ e).mp he
    exact status_step platform call hregular hterminal

end Xyena.Deliveries
