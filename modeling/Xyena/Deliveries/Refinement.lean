import Xyena.Deliveries.Dossiers

/-!
# Every commit makes steps of dossiers

The loops of the service over the items of a delivery change each item by the
entry that the request has for it. With that every move of the service is
recorded in the dossiers of the deliveries that it changes, makes one step of
each, and leaves the others alone.
-/

namespace Xyena.Deliveries

open Xyena.Foundation Xyena.Foundation.Session

/-! ## The loops over items -/

/-- The quantity that a request has for an item. -/
def quantityOf {least : Int} (quantities : Quantities least) (item : DeliveryItem) : Int :=
  (quantities.entries.lookup item.sku).getD 0

theorem takeQuantities_ok {least : Int} {quantities : Quantities least} {limit : DeliveryItem → Int}
    {refusal : String → String} {items : List DeliveryItem} {taken : List (DeliveryItem × Int)}
    (h : takeQuantities quantities limit refusal items = .ok taken) :
    taken = items.map (fun item ↦ (item, quantityOf quantities item)) ∧
      ∀ item ∈ items, least ≤ quantityOf quantities item ∧ quantityOf quantities item ≤ limit item := by
  induction items generalizing taken with
  | nil =>
    obtain rfl := Except.ok.inj h
    simp
  | cons item rest ih =>
    unfold takeQuantities at h
    split at h
    · cases h
    next quantity hlookup =>
      obtain ⟨hlimit, h⟩ := ensure_bind_ok.mp h
      obtain ⟨others, hothers, h⟩ := bind_ok.mp h
      obtain rfl := Except.ok.inj h
      obtain ⟨rfl, hrest⟩ := ih hothers
      have hquantity : quantityOf quantities item = quantity := by rw [quantityOf, hlookup, Option.getD_some]
      have hentry := (Json.lookup_eq_some quantities.skus_distinct).mp hlookup
      refine ⟨by rw [List.map_cons, hquantity], List.forall_mem_cons.mpr ⟨?_, hrest⟩⟩
      rw [hquantity]
      exact ⟨(quantities.digits _ hentry).1, of_decide_eq_true hlimit⟩

def emptyEntry : ItemAcceptance where
  sku := ""
  acceptedQuantity := 0
  rejectedQuantity := 0
  acceptedQuantity_digits := by decide
  rejectedQuantity_digits := by decide

/-- The entry of the buyer for an item. -/
def entryOf (entries : List ItemAcceptance) (item : DeliveryItem) : ItemAcceptance :=
  (entries.find? fun entry ↦ entry.sku == item.sku).getD emptyEntry

theorem settleItems_ok {entries : List ItemAcceptance} {items : List DeliveryItem}
    {settled : List (DeliveryItem × ItemAcceptance)} (h : settleItems entries items = .ok settled) :
    settled = items.map (fun item ↦ (item, entryOf entries item)) ∧ ∀ item ∈ items,
      (entryOf entries item).acceptedQuantity + (entryOf entries item).rejectedQuantity =
        item.deliveredQuantity := by
  induction items generalizing settled with
  | nil =>
    obtain rfl := Except.ok.inj h
    simp
  | cons item rest ih =>
    unfold settleItems at h
    split at h
    · cases h
    next entry hfind =>
      obtain ⟨hsplit, h⟩ := ensure_bind_ok.mp h
      obtain ⟨-, h⟩ := ensure_bind_ok.mp h
      obtain ⟨others, hothers, h⟩ := bind_ok.mp h
      obtain rfl := Except.ok.inj h
      obtain ⟨rfl, hrest⟩ := ih hothers
      have hentry : entryOf entries item = entry := by rw [entryOf, hfind, Option.getD_some]
      refine ⟨by rw [List.map_cons, hentry], List.forall_mem_cons.mpr ⟨?_, hrest⟩⟩
      rw [hentry]
      exact beq_iff_eq.mp hsplit

theorem assign_sameStanding (delivery : Delivery) (field value : String) :
    SameStanding (delivery.assign field value) delivery := by
  unfold Delivery.assign
  split <;> exact ⟨rfl, rfl, rfl, rfl, rfl, rfl⟩

/-- A correction changes nothing but the fields that corrections may name. -/
theorem assignAll_sameStanding {platform : DeliveryPlatform} {delivery corrected : Delivery}
    {changes : List (String × String)} (h : assignAll platform delivery changes = .ok corrected) :
    SameStanding corrected delivery := by
  induction changes generalizing delivery with
  | nil =>
    obtain rfl := Except.ok.inj h
    exact ⟨rfl, rfl, rfl, rfl, rfl, rfl⟩
  | cons change rest ih =>
    obtain ⟨-, h⟩ := ensure_bind_ok.mp h
    have hfirst := assign_sameStanding delivery change.1 change.2
    have hrest := ih h
    exact ⟨hrest.id.trans hfirst.id, hrest.status.trans hfirst.status,
      hrest.declaredValue.trans hfirst.declaredValue,
      hrest.verifiedDeliveredValue.trans hfirst.verifiedDeliveredValue,
      hrest.exceptionCode.trans hfirst.exceptionCode, hrest.version.trans hfirst.version⟩

/-! ## Rows of one delivery -/

section Rows

variable {db : DeliveryDb} (id : String)

/-- Storing changed versions of the items of a delivery. -/
theorem about_items {change : DeliveryItem → DeliveryItem}
    (hchange : ∀ item, (change item).id = item.id ∧ (change item).deliveryId = item.deliveryId) :
    About itemConstraints DeliveryItem.deliveryId db.items [id]
      ((itemsOf db id).map fun item ↦ .update (change item)) := by
  intro write hwrite
  obtain ⟨item, hitem, rfl⟩ := List.mem_map.mp hwrite
  obtain ⟨hstored, howner⟩ := List.mem_filter.mp hitem
  have hid : item.deliveryId ∈ [id] := List.mem_singleton.mpr (beq_iff_eq.mp howner)
  refine ⟨(hchange item).2 ▸ hid, ?_⟩
  rintro changed ⟨⟩
  exact ⟨item, hstored, (hchange item).1.symm, hid⟩

theorem filter_update_selected {Row : Type} {selected : Row → Bool} {change : Row → Row} {rows : List Row}
    (hselected : ∀ row, selected (change row) = selected row) :
    (Table.update selected change rows).filter selected = (rows.filter selected).map change := by
  induction rows with
  | nil => rfl
  | cons row rest ih =>
    have hcons : Table.update selected change (row :: rest) =
        (if selected row then change row else row) :: Table.update selected change rest := rfl
    cases hrow : selected row with
    | true => simp [hcons, hrow, hselected, ih]
    | false => simp [hcons, hrow, ih]

theorem items_changed (hregular : Regular db) {change : DeliveryItem → DeliveryItem}
    (hchange : ∀ item, (change item).id = item.id ∧ (change item).deliveryId = item.deliveryId) :
    (RowWrite.applyAll itemConstraints db.items
        ((itemsOf db id).map fun item ↦ .update (change item))).filter (fun row ↦ row.deliveryId == id) =
      (itemsOf db id).map change := by
  have hkeys : (db.items.map itemConstraints.key).Nodup := hregular.keyed.items.keys
  have hwritten := RowWrite.applyAll_update_filter (fun item ↦ (hchange item).1)
    (fun row ↦ row.deliveryId == id) hkeys
  rw [itemsOf, hwritten, filter_update_selected fun item ↦ by rw [(hchange item).2]]

end Rows

/-! ## What a commit makes of the dossiers -/

section Continues

variable (platform : DeliveryPlatform) (db : DeliveryDb) (call : DeliveryCall)

/-- The dossier of a new delivery. -/
def opening (actor : ActorScope) (body : DeliveryCreate) : Dossier where
  delivery := newDelivery call actor body
  items := newItems call body
  events := [timeline (call.trailId 0) (newDelivery call actor body) "delivery.created" actor none]
  audits := [recordAudit platform (call.trailId 1) (newDelivery call actor body) "delivery.created" actor none
    (snapshot (newDelivery call actor body) "0")]
  outbox := [recordOutbox (call.trailId 2) (newDelivery call actor body) "delivery.created"]

/-- How the dossier `after` of a stored delivery comes out of the dossiers of `db`. -/
inductive Continues (after : Dossier) : Prop
  | kept (hstored : after.delivery ∈ db.deliveries) (hsame : after = dossier db after.delivery)
  | stepped (old : Delivery) (hstored : old ∈ db.deliveries)
      (hstep : Step (dossier db old).toContents after.toContents)
      (hrecorded : Recorded platform (dossier db old) after)
  | opened (actor : ActorScope) (body : DeliveryCreate) (hrequest : call.request = .createDelivery actor body)
      (hfresh : ∀ old ∈ db.deliveries, old.id ≠ after.delivery.id)
      (hopening : after = opening platform call actor body)

variable {platform db call} {actor : ActorScope} {changes : List Change} {writes : Writes}

theorem Carries.continues (h : Carries platform db call actor changes writes) (hregular : Regular db)
    (hstep : ∀ change ∈ changes, Step (dossier db change.old).toContents
      (dossier (writes.apply db) change.new).toContents) :
    ∀ delivery ∈ (writes.apply db).deliveries,
      Continues platform db call (dossier (writes.apply db) delivery) := by
  intro delivery hdelivery
  rcases h.delivery_cases hdelivery with ⟨change, hchange, rfl⟩ | ⟨hold, hid⟩
  · exact .stepped change.old (h.stored change hchange).1 (hstep change hchange) (h.recorded hchange)
  · exact .kept hold (h.dossier_other hregular hid)

/-- Changes that write nothing else change nothing else in the contents. -/
theorem contents_kept {change : Change} (hid : change.new.id = change.old.id) (hitems : writes.items = [])
    (hproofs : writes.proofs = []) (hacceptances : writes.acceptances = []) :
    (dossier (writes.apply db) change.new).toContents =
      { (dossier db change.old).toContents with delivery := change.new } := by
  simp only [dossier, Writes.apply, itemsOf, hitems, hproofs, hacceptances, hid, RowWrite.applyAll_nil]

theorem single_stored {change : Change} (hstored : change.old ∈ db.deliveries)
    (hid : change.new.id = change.old.id) (hversion : change.new.version = change.old.version + 1) :
    ∀ other ∈ [change], other.old ∈ db.deliveries ∧ other.new.id = other.old.id ∧
      other.new.version = other.old.version + 1 :=
  List.forall_mem_singleton.mpr ⟨hstored, hid, hversion⟩

/-- The commit records changes of stored deliveries, each of which is a step. -/
def Steps (platform : DeliveryPlatform) (db : DeliveryDb) (call : DeliveryCall) (writes : Writes) : Prop :=
  ∃ actor changes, Carries platform db call actor changes writes ∧ ∀ change ∈ changes,
    Step (dossier db change.old).toContents (dossier (writes.apply db) change.new).toContents

/-- A commit with one change and no rows beside its trail that steps depend on. -/
theorem steps_of_plain {change : Change} (hstored : change.old ∈ db.deliveries)
    (hid : change.new.id = change.old.id) (hversion : change.new.version = change.old.version + 1)
    (hrecords : writes = { recordWrites platform call actor [change] with corrections := writes.corrections })
    (hstep : Step (dossier db change.old).toContents
      { (dossier db change.old).toContents with delivery := change.new }) :
    Steps platform db call writes := by
  have hcarries : Carries platform db call actor [change] writes := by
    rw [hrecords]
    exact ⟨rfl, rfl, rfl, rfl, single_stored hstored hid hversion, List.nodup_singleton _, about_nil,
      about_nil, about_nil⟩
  refine ⟨actor, [change], hcarries, List.forall_mem_singleton.mpr ?_⟩
  rw [contents_kept hid (by rw [hrecords]; rfl) (by rw [hrecords]; rfl) (by rw [hrecords]; rfl)]
  exact hstep

/-- A dispatch or a successful attempt gives every item the quantity that the request has for it. -/
theorem Move.steps_dispatched {body : DispatchRequest} {delivery : Delivery}
    {taken : List (DeliveryItem × Int)} (hregular : Regular db) (hstored : delivery ∈ db.deliveries)
    (hstatus : delivery.status = .readyToDispatch)
    (htaken : takeQuantities body.itemQuantities DeliveryItem.orderedQuantity
      (fun sku ↦ "Dispatch for " ++ sku ++ " exceeds ordered quantity.") (itemsOf db delivery.id) = .ok taken) :
    Steps platform db call
      { recordWrites platform call actor
          [⟨delivery, delivery.dispatch body.carrierId (call.clock 0), "delivery.dispatched"⟩] with
        items := taken.map fun item ↦ .update (item.1.dispatch item.2) } := by
  obtain ⟨rfl, hbounds⟩ := takeQuantities_ok htaken
  have hchange (item : DeliveryItem) : (item.dispatch (quantityOf body.itemQuantities item)).id = item.id ∧
      (item.dispatch (quantityOf body.itemQuantities item)).deliveryId = item.deliveryId := ⟨rfl, rfl⟩
  rw [List.map_map]
  refine ⟨actor, _, ⟨rfl, rfl, rfl, rfl, single_stored hstored rfl rfl, List.nodup_singleton _,
    about_items delivery.id hchange, about_nil, about_nil⟩, List.forall_mem_singleton.mpr ?_⟩
  have hstep := Step.dispatched (dossier db delivery).toContents body.carrierId (call.clock 0)
    (quantityOf body.itemQuantities) hstatus hbounds
  have hitems := items_changed delivery.id hregular hchange
  simp only [dossier] at hstep ⊢
  rw [← hitems] at hstep
  exact hstep

theorem Move.steps_succeeded {body : DeliveryAttemptRequest} {delivery : Delivery}
    {taken : List (DeliveryItem × Int)} (hregular : Regular db)
    (h : Succeeds db call actor body delivery taken) :
    Steps platform db call
      { recordWrites platform call actor [successChange delivery taken] with
        items := taken.map fun item ↦ .update (item.1.deliver item.2) } := by
  obtain ⟨_, _, -, hheld⟩ := h.request
  obtain ⟨rfl, hbounds⟩ := takeQuantities_ok h.taken
  have hchange (item : DeliveryItem) : (item.deliver (quantityOf body.itemQuantities item)).id = item.id ∧
      (item.deliver (quantityOf body.itemQuantities item)).deliveryId = item.deliveryId := ⟨rfl, rfl⟩
  rw [List.map_map]
  refine ⟨actor, _, ⟨rfl, rfl, rfl, rfl, single_stored (lockedDelivery_mem hheld) rfl rfl,
    List.nodup_singleton _, about_items delivery.id hchange, about_nil, about_nil⟩,
    List.forall_mem_singleton.mpr ?_⟩
  have hstep := Step.succeeded (dossier db delivery).toContents (quantityOf body.itemQuantities)
    (((itemsOf db delivery.id).map fun item ↦ (item, quantityOf body.itemQuantities item)).any fun item ↦
      decide (item.2 < item.1.dispatchedQuantity)) h.onRoad hbounds
  have hitems := items_changed delivery.id hregular hchange
  simp only [dossier] at hstep ⊢
  rw [← hitems] at hstep
  exact hstep

theorem Move.steps_captured {delivery : Delivery} {proof : ProofOfDelivery} (hregular : Regular db)
    (hstored : delivery ∈ db.deliveries) (howner : proof.deliveryId = delivery.id) :
    Steps platform db call
      { recordWrites platform call actor [⟨delivery, delivery.note, "delivery.proof_captured"⟩] with
        proofs := (pendingProofs db delivery.id).map (fun row ↦ .update (row.supersede proof.id)) ++
          [.insert proof] } := by
  have habout : About proofConstraints ProofOfDelivery.deliveryId db.proofs [delivery.id]
      ((pendingProofs db delivery.id).map (fun row ↦ .update (row.supersede proof.id)) ++
        [.insert proof]) := by
    intro write hwrite
    rcases List.mem_append.mp hwrite with hupdate | hinsert
    · obtain ⟨row, hrow, rfl⟩ := List.mem_map.mp hupdate
      obtain ⟨hrow, hselected⟩ := List.mem_filter.mp hrow
      simp only [Bool.and_eq_true, beq_iff_eq] at hselected
      refine ⟨List.mem_singleton.mpr hselected.1, ?_⟩
      rintro changed ⟨⟩
      exact ⟨row, hrow, rfl, List.mem_singleton.mpr hselected.1⟩
    · obtain rfl := List.mem_singleton.mp hinsert
      exact ⟨List.mem_singleton.mpr howner, nofun⟩
  refine ⟨actor, _, ⟨rfl, rfl, rfl, rfl, single_stored hstored rfl rfl, List.nodup_singleton _, about_nil,
    habout, about_nil⟩, List.forall_mem_singleton.mpr ?_⟩
  have hstep := Step.captured (dossier db delivery).toContents proof
  have hproofs : (RowWrite.applyAll proofConstraints db.proofs
      ((pendingProofs db delivery.id).map (fun row ↦ .update (row.supersede proof.id)) ++
        [.insert proof])).filter (fun row ↦ row.deliveryId == delivery.id) =
      (db.proofs.filter fun row ↦ row.deliveryId == delivery.id).map (fun row ↦
        if row.verificationStatus == .pendingVerification then row.supersede proof.id else row) ++ [proof] := by
    have hkey (row : ProofOfDelivery) :
        proofConstraints.key (row.supersede proof.id) = proofConstraints.key row := rfl
    have hwritten := RowWrite.applyAll_update_filter hkey
      (fun row ↦ row.deliveryId == delivery.id && row.verificationStatus == .pendingVerification)
      hregular.keyed.proofs.keys
    rw [RowWrite.applyAll_append, pendingProofs, hwritten, RowWrite.applyAll_cons, RowWrite.applyAll_nil,
      RowWrite.apply, List.filter_append, Table.update, List.filter_map]
    have hnew : [proof].filter (fun row ↦ row.deliveryId == delivery.id) = [proof] := by
      simp [howner]
    have hselected : ((fun row : ProofOfDelivery ↦ row.deliveryId == delivery.id) ∘ fun row ↦
        if (row.deliveryId == delivery.id && row.verificationStatus == .pendingVerification) = true then
          row.supersede proof.id else row) = fun row ↦ row.deliveryId == delivery.id := by
      funext row
      simp only [Function.comp_apply]
      split <;> rfl
    rw [hnew, hselected]
    refine congrArg (· ++ [proof]) (List.map_congr_left fun row hrow ↦ ?_)
    simp only [(List.mem_filter.mp hrow).2, Bool.true_and]
  simp only [dossier] at hstep ⊢
  rw [← hproofs] at hstep
  exact hstep

theorem Move.steps_reviewed {delivery : Delivery} {proof : ProofOfDelivery} {verified : Bool}
    {eventType : String} (hregular : Regular db) (hstored : delivery ∈ db.deliveries)
    (hproof : proof ∈ db.proofs) (howner : proof.deliveryId = delivery.id)
    (hpending : proof.verificationStatus = .pendingVerification) :
    Steps platform db call
      { recordWrites platform call actor [⟨delivery, delivery.note, eventType⟩] with
        proofs := [.update (proof.review verified actor.actorId)] } := by
  have habout : About proofConstraints ProofOfDelivery.deliveryId db.proofs [delivery.id]
      [.update (proof.review verified actor.actorId)] := by
    intro write hwrite
    obtain rfl := List.mem_singleton.mp hwrite
    refine ⟨List.mem_singleton.mpr howner, ?_⟩
    rintro changed ⟨⟩
    exact ⟨proof, hproof, rfl, List.mem_singleton.mpr howner⟩
  refine ⟨actor, _, ⟨rfl, rfl, rfl, rfl, single_stored hstored rfl rfl, List.nodup_singleton _, about_nil,
    habout, about_nil⟩, List.forall_mem_singleton.mpr ?_⟩
  have hstep := Step.reviewed (dossier db delivery).toContents proof verified actor.actorId
    (List.mem_filter.mpr ⟨hproof, beq_iff_eq.mpr howner⟩)
    (fun other hother hsame ↦ Table.eq_of_key hregular.keyed.proofs.keys (List.mem_filter.mp hother).1
      hproof hsame) hpending
  have hproofs : (Table.replace ProofOfDelivery.id (proof.review verified actor.actorId) db.proofs).filter
      (fun row ↦ row.deliveryId == delivery.id) = Table.replace ProofOfDelivery.id
        (proof.review verified actor.actorId)
          (db.proofs.filter fun row ↦ row.deliveryId == delivery.id) := by
    rw [Table.replace, Table.update, List.filter_map]
    refine congrArg (List.map _) (List.filter_congr fun row hrow ↦ ?_)
    simp only [Function.comp_apply]
    split
    next hsame =>
      obtain rfl := Table.eq_of_key hregular.keyed.proofs.keys hrow hproof (beq_iff_eq.mp hsame)
      rfl
    · rfl
  simp only [dossier] at hstep ⊢
  rw [← hproofs] at hstep
  exact hstep

theorem Move.steps_accepted {body : AcceptanceCreate} {delivery : Delivery}
    {settled : List (DeliveryItem × ItemAcceptance)} (hregular : Regular db)
    (h : Accepts db body delivery settled) :
    Steps platform db call
      { recordWrites platform call actor [⟨delivery, delivery.accept settled, "delivery.accepted"⟩] with
        items := settled.map fun item ↦ .update (item.1.settle item.2)
        acceptances := [.insert (newAcceptance call actor (delivery.accept settled))] } := by
  obtain ⟨rfl, hsplit⟩ := settleItems_ok h.settled
  have hchange (item : DeliveryItem) : (item.settle (entryOf body.items item)).id = item.id ∧
      (item.settle (entryOf body.items item)).deliveryId = item.deliveryId := ⟨rfl, rfl⟩
  obtain ⟨proof, hproof, howner, hverified⟩ := h.verified
  rw [List.map_map]
  set acceptance := newAcceptance call actor
    (delivery.accept ((itemsOf db delivery.id).map fun item ↦ (item, entryOf body.items item)))
  have habout : About acceptanceConstraints BuyerAcceptance.deliveryId db.acceptances [delivery.id]
      [.insert acceptance] := by
    intro write hwrite
    obtain rfl := List.mem_singleton.mp hwrite
    exact ⟨List.mem_singleton.mpr rfl, nofun⟩
  refine ⟨actor, _, ⟨rfl, rfl, rfl, rfl, single_stored h.stored rfl rfl, List.nodup_singleton _,
    about_items delivery.id hchange, about_nil, habout⟩, List.forall_mem_singleton.mpr ?_⟩
  have hstep := Step.accepted (dossier db delivery).toContents (entryOf body.items) acceptance h.pending
    ⟨proof, List.mem_filter.mpr ⟨hproof, beq_iff_eq.mpr howner⟩, hverified⟩ hsplit rfl
  have hitems := items_changed delivery.id hregular hchange
  have hacceptances : (RowWrite.applyAll acceptanceConstraints db.acceptances [.insert acceptance]).filter
      (fun row ↦ row.deliveryId == delivery.id) =
      (db.acceptances.filter fun row ↦ row.deliveryId == delivery.id) ++ [acceptance] := by
    have hnew : [acceptance].filter (fun row ↦ row.deliveryId == delivery.id) = [acceptance] :=
      List.filter_eq_self.mpr (List.forall_mem_singleton.mpr (beq_self_eq_true delivery.id))
    rw [RowWrite.applyAll_cons, RowWrite.applyAll_nil, RowWrite.apply, List.filter_append, hnew]
  simp only [dossier] at hstep ⊢
  rw [← hitems, ← hacceptances] at hstep
  exact hstep

theorem Move.steps_consumed {envelope : ExternalEventEnvelope}
    {aggregates : List (RowWrite ExternalAggregateVersion)} {inboxEvents : List (RowWrite InboxEvent)}
    (hregular : Regular db) :
    Steps platform db call
      { recordWrites platform call (sourceActor envelope) (marks db envelope) with
        aggregates := aggregates
        inboxEvents := inboxEvents } := by
  have hmarks (change : Change) (hchange : change ∈ marks db envelope) : change.old ∈ db.deliveries ∧
      change.new = change.old.mark envelope.eventType.exceptionCode ∧
        change.old.status ∉ terminalStatuses := by
    obtain ⟨row, hrow, rfl⟩ := List.mem_map.mp hchange
    obtain ⟨hstored, hselected⟩ := List.mem_filter.mp hrow
    simp only [Bool.and_eq_true, Bool.not_eq_true', List.contains_eq_mem, decide_eq_false_iff_not] at hselected
    exact ⟨hstored, rfl, hselected.2⟩
  have hdistinct : ((marks db envelope).map fun change ↦ change.new.id).Nodup := by
    rw [marks, List.map_map]
    exact hregular.keyed.deliveries.keys.sublist (List.filter_sublist.map Delivery.id)
  refine ⟨sourceActor envelope, marks db envelope, ⟨rfl, rfl, rfl, rfl, fun change hchange ↦ ?_, hdistinct,
    about_nil, about_nil, about_nil⟩, fun change hchange ↦ ?_⟩
  · obtain ⟨hstored, hnew, -⟩ := hmarks change hchange
    exact ⟨hstored, by rw [hnew]; rfl, by rw [hnew]; rfl⟩
  · obtain ⟨hstored, hnew, hopen⟩ := hmarks change hchange
    rw [contents_kept (by rw [hnew]; rfl) rfl rfl rfl, hnew]
    exact .marked _ _ hopen

/-- A move creates a delivery or makes steps of stored ones. -/
theorem Move.steps (hmove : Move platform db call writes) (hregular : Regular db) :
    (∃ actor body, call.request = .createDelivery actor body ∧
      writes = creationWrites platform call actor body) ∨ Steps platform db call writes := by
  cases hmove with
  | created actor body hrequest => exact Or.inl ⟨actor, body, hrequest, rfl⟩
  | readied actor delivery tracking hstored hstatus =>
    exact Or.inr (steps_of_plain hstored rfl rfl rfl (.readied _ tracking hstatus))
  | dispatched actor body delivery taken hstored hstatus htaken =>
    exact Or.inr (Move.steps_dispatched hregular hstored hstatus htaken)
  | transited actor body delivery target h =>
    obtain ⟨_, _, -, hheld⟩ := h.request
    exact Or.inr (steps_of_plain (lockedDelivery_mem hheld) rfl rfl rfl (.transited _ _ target h.target))
  | succeeded actor body delivery taken h => exact Or.inr (Move.steps_succeeded hregular h)
  | failed actor body delivery h =>
    obtain ⟨_, _, -, hheld⟩ := h.request
    exact Or.inr (steps_of_plain (lockedDelivery_mem hheld) rfl rfl rfl (.failed _ h.onRoad))
  | captured actor delivery proof hstored howner =>
    exact Or.inr (Move.steps_captured hregular hstored howner)
  | reviewed actor delivery proof verified eventType hstored hproof howner hpending =>
    exact Or.inr (Move.steps_reviewed hregular hstored hproof howner hpending)
  | accepted actor body delivery settled h => exact Or.inr (Move.steps_accepted hregular h)
  | cancelled actor delivery hstored hstatus =>
    exact Or.inr (steps_of_plain hstored rfl rfl rfl (.cancelled _ actor.role hstatus))
  | noted actor delivery eventType corrections hstored =>
    exact Or.inr (steps_of_plain hstored rfl rfl rfl (.noted _))
  | corrected actor delivery corrected changes corrections hstored hassigned =>
    have hsame := assignAll_sameStanding hassigned
    exact Or.inr (steps_of_plain hstored hsame.id (congrArg (· + 1) hsame.version) rfl
      (.corrected _ corrected hsame))
  | staled envelope =>
    refine Or.inr ⟨sourceActor envelope, [], ⟨rfl, rfl, rfl, rfl, by simp, List.nodup_nil, about_nil,
      about_nil, about_nil⟩, by simp⟩
  | consumed envelope aggregates => exact Or.inr (Move.steps_consumed hregular)

/-! ## Creation -/

/-- The rows of a new delivery, and none about it before. -/
theorem creation_filter {Row : Type} {constraints : Constraints Row String} {owner : Row → String}
    {rows : List Row} {id : String} {ids : List String} (new : List Row) (hrows : ∀ row ∈ rows, owner row ∈ ids)
    (hfresh : id ∉ ids) (hnew : ∀ row ∈ new, owner row = id) :
    (RowWrite.applyAll constraints rows (new.map .insert)).filter (fun row ↦ owner row == id) = new := by
  have hnone : rows.filter (fun row ↦ owner row == id) = [] :=
    List.filter_eq_nil_iff.mpr fun row hrow hsame ↦ hfresh (beq_iff_eq.mp hsame ▸ hrows row hrow)
  rw [RowWrite.applyAll_insert, List.filter_append, hnone, List.nil_append]
  exact List.filter_eq_self.mpr fun row hrow ↦ beq_iff_eq.mpr (hnew row hrow)

theorem creation_filter_other {Row : Type} {constraints : Constraints Row String} {owner : Row → String}
    {rows : List Row} {id other : String} (new : List Row) (hother : other ≠ id)
    (hnew : ∀ row ∈ new, owner row = id) :
    (RowWrite.applyAll constraints rows (new.map .insert)).filter (fun row ↦ owner row == other) =
      rows.filter fun row ↦ owner row == other := by
  have hnone : new.filter (fun row ↦ owner row == other) = [] :=
    List.filter_eq_nil_iff.mpr fun row hrow hsame ↦ hother ((beq_iff_eq.mp hsame).symm.trans (hnew row hrow))
  rw [RowWrite.applyAll_insert, List.filter_append, hnone, List.append_nil]

theorem newItems_owner {body : DeliveryCreate} :
    ∀ row ∈ newItems call body, row.deliveryId = call.uuid 0 := by
  intro row hrow
  obtain ⟨item, -, rfl⟩ := List.mem_map.mp hrow
  rfl

section Creation

variable {body : DeliveryCreate} (haccepted : (creationWrites platform call actor body).Accepted db)
include haccepted

theorem creation_fresh : ∀ old ∈ db.deliveries, old.id ≠ call.uuid 0 := by
  intro old hold
  have hnew := RowWrite.accepted_insert.mp (RowWrite.accepted_of_singleton haccepted.deliveries)
  exact Ne.symm (hnew old hold).1

omit haccepted in
theorem creation_deliveries : ((creationWrites platform call actor body).apply db).deliveries =
    db.deliveries ++ [newDelivery call actor body] := rfl

theorem creation_regular (hregular : Regular db) :
    Regular ((creationWrites platform call actor body).apply db) := by
  have hids : ((creationWrites platform call actor body).apply db).deliveries.map Delivery.id =
      db.deliveries.map Delivery.id ++ [call.uuid 0] := by
    rw [creation_deliveries, List.map_append]
    rfl
  have howned {Row : Type} {owner : Row → String} {rows : List Row} (constraints : Constraints Row String)
      (new : List Row) (hrows : ∀ row ∈ rows, owner row ∈ db.deliveries.map Delivery.id)
      (hnew : ∀ row ∈ new, owner row = call.uuid 0) :
      ∀ row ∈ RowWrite.applyAll constraints rows (new.map .insert), owner row ∈
        ((creationWrites platform call actor body).apply db).deliveries.map Delivery.id := by
    intro row hrow
    rw [RowWrite.applyAll_insert] at hrow
    rw [hids]
    rcases List.mem_append.mp hrow with hold | hnewRow
    · exact List.mem_append_left _ (hrows row hold)
    · exact List.mem_append_right _ (List.mem_singleton.mpr (hnew row hnewRow))
  exact {
    keyed := hregular.keyed.apply haccepted
    items := howned itemConstraints _ hregular.items newItems_owner
    proofs := howned proofConstraints [] hregular.proofs (by simp)
    acceptances := howned acceptanceConstraints [] hregular.acceptances (by simp)
    events := howned eventConstraints [_] hregular.events (List.forall_mem_singleton.mpr rfl)
    audits := howned auditConstraints [_] hregular.audits (List.forall_mem_singleton.mpr rfl)
    outbox := howned outboxConstraints [_] hregular.outbox (List.forall_mem_singleton.mpr rfl) }

theorem creation_opening (hregular : Regular db) :
    dossier ((creationWrites platform call actor body).apply db) (newDelivery call actor body) =
      opening platform call actor body := by
  have hfresh : call.uuid 0 ∉ db.deliveries.map Delivery.id := by
    intro hmem
    obtain ⟨old, hold, hid⟩ := List.mem_map.mp hmem
    exact creation_fresh haccepted old hold hid
  simp only [dossier, Writes.apply, itemsOf, opening, Dossier.mk.injEq, Contents.mk.injEq, true_and]
  refine ⟨⟨?_, ?_, ?_⟩, ?_, ?_, ?_⟩
  · exact creation_filter (newItems call body) hregular.items hfresh newItems_owner
  · exact creation_filter [] hregular.proofs hfresh (by simp)
  · exact creation_filter [] hregular.acceptances hfresh (by simp)
  · exact creation_filter [_] hregular.events hfresh (List.forall_mem_singleton.mpr rfl)
  · exact creation_filter [_] hregular.audits hfresh (List.forall_mem_singleton.mpr rfl)
  · exact creation_filter [_] hregular.outbox hfresh (List.forall_mem_singleton.mpr rfl)

theorem creation_other {delivery : Delivery} (hstored : delivery ∈ db.deliveries) :
    dossier ((creationWrites platform call actor body).apply db) delivery = dossier db delivery := by
  have hother := creation_fresh haccepted delivery hstored
  simp only [dossier, Writes.apply, itemsOf, Dossier.mk.injEq, Contents.mk.injEq, true_and]
  refine ⟨⟨?_, ?_, ?_⟩, ?_, ?_, ?_⟩
  · exact creation_filter_other (newItems call body) hother newItems_owner
  · exact creation_filter_other [] hother (by simp)
  · exact creation_filter_other [] hother (by simp)
  · exact creation_filter_other [_] hother (List.forall_mem_singleton.mpr rfl)
  · exact creation_filter_other [_] hother (List.forall_mem_singleton.mpr rfl)
  · exact creation_filter_other [_] hother (List.forall_mem_singleton.mpr rfl)

end Creation

/-! ## One call, and runs -/

theorem Regular.step (platform : DeliveryPlatform) (h : Regular db) (call : DeliveryCall) :
    Regular ((deliveryService platform).step db call).2 := by
  refine (sessions platform).step_kept Regular h ?_
  intro answer writes hserve _ haccepted
  have haccepted := Writes.accepted_iff.mp haccepted
  rcases (move_of_serve hserve).steps h with ⟨actor, body, -, rfl⟩ | ⟨actor, changes, hcarries, -⟩
  · exact creation_regular haccepted h
  · exact hcarries.regular h haccepted

/-- Every dossier after a call is an old one, a new one, or one step further than an old one. -/
theorem continues_step (h : Regular db) : ∀ delivery ∈ ((deliveryService platform).step db call).2.deliveries,
    Continues platform db call (dossier ((deliveryService platform).step db call).2 delivery) := by
  refine (sessions platform).step_kept
    (fun after ↦ ∀ delivery ∈ after.deliveries, Continues platform db call (dossier after delivery))
    (fun delivery hstored ↦ .kept hstored rfl) ?_
  intro answer writes hserve _ haccepted
  have haccepted := Writes.accepted_iff.mp haccepted
  rcases (move_of_serve hserve).steps h with ⟨actor, body, hrequest, rfl⟩ | ⟨actor, changes, hcarries, hsteps⟩
  · intro delivery hdelivery
    have hdelivery : delivery ∈ db.deliveries ++ [newDelivery call actor body] := hdelivery
    rcases List.mem_append.mp hdelivery with hold | hnew
    · exact .kept hold (creation_other haccepted hold)
    · obtain rfl := List.mem_singleton.mp hnew
      exact .opened actor body hrequest (creation_fresh haccepted) (creation_opening haccepted h)
  · exact hcarries.continues h hsteps

/-- What openings have and recorded steps keep holds of every dossier of every reachable database. -/
theorem dossier_invariant (platform : DeliveryPlatform) (P : Dossier → Prop)
    (hopening : ∀ call actor body, P (opening platform call actor body))
    (hstep : ∀ before after : Dossier, P before → Step before.toContents after.toContents →
      Recorded platform before after → P after) (calls : List DeliveryCall) :
    ∀ delivery ∈ ((deliveryService platform).run {} calls).deliveries,
      P (dossier ((deliveryService platform).run {} calls) delivery) := by
  have hrun := (deliveryService platform).run_invariant
    (fun db ↦ Regular db ∧ ∀ delivery ∈ db.deliveries, P (dossier db delivery))
    ⟨Regular.empty, by simp⟩ ?_ calls
  · exact hrun.2
  · rintro db call ⟨hregular, hinv⟩
    refine ⟨hregular.step platform call, fun delivery hdelivery ↦ ?_⟩
    cases continues_step hregular delivery hdelivery with
    | kept hstored hsame =>
      rw [hsame]
      exact hinv _ hstored
    | stepped old hstored hmade hrecorded => exact hstep _ _ (hinv old hstored) hmade hrecorded
    | opened actor body _ _ hopened =>
      rw [hopened]
      exact hopening call actor body

end Continues

end Xyena.Deliveries
