import Xyena.Deliveries.Moves

/-!
# The dossier of a delivery

A dossier is everything that is stored about one delivery. `Step` says how the
contents of a dossier can change, whatever else the database holds, and
`Recorded` says what the trail of a change is. Every commit of the service
leaves a dossier alone, opens a new one, or makes one recorded step of it.
-/

namespace Xyena.Deliveries

open Xyena.Foundation Xyena.Foundation.Session

/-! ## Dossiers -/

/-- A delivery with the rows that operations read of it. -/
structure Contents where
  delivery : Delivery
  items : List DeliveryItem := []
  proofs : List ProofOfDelivery := []
  acceptances : List BuyerAcceptance := []

structure Dossier extends Contents where
  events : List DeliveryEvent := []
  audits : List AuditEvent := []
  outbox : List OutboxEvent := []

def dossier (db : DeliveryDb) (delivery : Delivery) : Dossier where
  delivery := delivery
  items := itemsOf db delivery.id
  proofs := db.proofs.filter fun row ↦ row.deliveryId == delivery.id
  acceptances := db.acceptances.filter fun row ↦ row.deliveryId == delivery.id
  events := db.events.filter fun row ↦ row.deliveryId == delivery.id
  audits := db.audits.filter fun row ↦ row.aggregateId == delivery.id
  outbox := db.outbox.filter fun row ↦ row.aggregateId == delivery.id

/-- Two versions of a delivery that differ only in what a correction may name. -/
structure SameStanding (first second : Delivery) : Prop where
  id : first.id = second.id
  status : first.status = second.status
  declaredValue : first.declaredValue = second.declaredValue
  verifiedDeliveredValue : first.verifiedDeliveredValue = second.verifiedDeliveredValue
  exceptionCode : first.exceptionCode = second.exceptionCode
  version : first.version = second.version

/-- One step of the contents of a dossier. -/
inductive Step : Contents → Contents → Prop
  | readied (contents : Contents) (tracking : String) (h : contents.delivery.status = .created) :
      Step contents { contents with delivery := contents.delivery.ready tracking }
  | dispatched (contents : Contents) (carrierId : String) (now : Int) (quantity : DeliveryItem → Int)
      (h : contents.delivery.status = .readyToDispatch)
      (hquantity : ∀ item ∈ contents.items, 1 ≤ quantity item ∧ quantity item ≤ item.orderedQuantity) :
      Step contents
        { contents with
          delivery := contents.delivery.dispatch carrierId now
          items := contents.items.map fun item ↦ item.dispatch (quantity item) }
  | transited (contents : Contents) (eventType : TransitEventType) (target : DeliveryStatus)
      (h : transitions contents.delivery.status eventType = some target) :
      Step contents { contents with delivery := contents.delivery.transit target }
  | succeeded (contents : Contents) (quantity : DeliveryItem → Int) (partly : Bool)
      (h : contents.delivery.status = .inTransit ∨ contents.delivery.status = .outForDelivery)
      (hquantity : ∀ item ∈ contents.items, 0 ≤ quantity item ∧ quantity item ≤ item.dispatchedQuantity) :
      Step contents
        { contents with
          delivery := contents.delivery.succeed partly
          items := contents.items.map fun item ↦ item.deliver (quantity item) }
  | failed (contents : Contents)
      (h : contents.delivery.status = .inTransit ∨ contents.delivery.status = .outForDelivery) :
      Step contents { contents with delivery := contents.delivery.fail }
  | captured (contents : Contents) (proof : ProofOfDelivery) :
      Step contents
        { contents with
          delivery := contents.delivery.note
          proofs := contents.proofs.map (fun row ↦
            if row.verificationStatus == .pendingVerification then row.supersede proof.id else row) ++
              [proof] }
  | reviewed (contents : Contents) (proof : ProofOfDelivery) (verified : Bool) (verifier : String)
      (hproof : proof ∈ contents.proofs)
      (hunique : ∀ other ∈ contents.proofs, other.id = proof.id → other = proof)
      (hpending : proof.verificationStatus = .pendingVerification) :
      Step contents
        { contents with
          delivery := contents.delivery.note
          proofs := Table.replace ProofOfDelivery.id (proof.review verified verifier) contents.proofs }
  | accepted (contents : Contents) (entry : DeliveryItem → ItemAcceptance) (acceptance : BuyerAcceptance)
      (h : contents.delivery.status ∈ pendingAcceptanceStatuses)
      (hverified : ∃ proof ∈ contents.proofs, proof.verificationStatus = .verified)
      (hsplit : ∀ item ∈ contents.items,
        (entry item).acceptedQuantity + (entry item).rejectedQuantity = item.deliveredQuantity)
      (hvalue : acceptance.acceptedValue = (contents.delivery.accept
        (contents.items.map fun item ↦ (item, entry item))).verifiedDeliveredValue) :
      Step contents
        { contents with
          delivery := contents.delivery.accept (contents.items.map fun item ↦ (item, entry item))
          items := contents.items.map fun item ↦ item.settle (entry item)
          acceptances := contents.acceptances ++ [acceptance] }
  | cancelled (contents : Contents) (role : Role) (h : contents.delivery.status ∉ terminalStatuses) :
      Step contents { contents with delivery := contents.delivery.cancel role }
  | noted (contents : Contents) : Step contents { contents with delivery := contents.delivery.note }
  | corrected (contents : Contents) (corrected : Delivery)
      (h : SameStanding corrected contents.delivery) :
      Step contents { contents with delivery := corrected.note }
  | marked (contents : Contents) (code : ExceptionCode) (h : contents.delivery.status ∉ terminalStatuses) :
      Step contents { contents with delivery := contents.delivery.mark code }

/-- The trail of a change: a timeline event, an audit event with the hashes of the delivery before and after
the change, and an outbox event. -/
structure Recorded (platform : DeliveryPlatform) (before after : Dossier) : Prop where
  id : after.delivery.id = before.delivery.id
  version : after.delivery.version = before.delivery.version + 1
  events : ∃ row : DeliveryEvent, after.events = before.events ++ [row] ∧ row.version = after.delivery.version
  audits : ∃ row : AuditEvent, after.audits = before.audits ++ [row] ∧
    row.aggregateVersion = after.delivery.version ∧
    row.beforeHash = some (snapshotHash platform (storedSnapshot before.delivery)) ∧
    row.afterHash = snapshotHash platform (storedSnapshot after.delivery)
  outbox : ∃ row : OutboxEvent, after.outbox = before.outbox ++ [row] ∧
    row.aggregateVersion = after.delivery.version

/-! ## Tables that belong together -/

/-- The tables meet their keys, and every row is about a stored delivery. -/
structure Regular (db : DeliveryDb) : Prop where
  keyed : db.WellKeyed
  items : ∀ row ∈ db.items, row.deliveryId ∈ db.deliveries.map Delivery.id
  proofs : ∀ row ∈ db.proofs, row.deliveryId ∈ db.deliveries.map Delivery.id
  acceptances : ∀ row ∈ db.acceptances, row.deliveryId ∈ db.deliveries.map Delivery.id
  events : ∀ row ∈ db.events, row.deliveryId ∈ db.deliveries.map Delivery.id
  audits : ∀ row ∈ db.audits, row.aggregateId ∈ db.deliveries.map Delivery.id
  outbox : ∀ row ∈ db.outbox, row.aggregateId ∈ db.deliveries.map Delivery.id

theorem Regular.empty : Regular {} where
  keyed := ⟨meets_nil _, meets_nil _, meets_nil _, meets_nil _⟩
  items := by simp
  proofs := by simp
  acceptances := by simp
  events := by simp
  audits := by simp
  outbox := by simp

/-- The writes are about the deliveries `ids`, and no changed row was about another one. -/
def About {Row : Type} (constraints : Constraints Row String) (owner : Row → String) (rows : List Row)
    (ids : List String) (writes : List (RowWrite Row)) : Prop :=
  ∀ write ∈ writes, owner write.row ∈ ids ∧ ∀ changed, write = .update changed →
    ∃ row ∈ rows, constraints.key row = constraints.key changed ∧ owner row ∈ ids

section About

variable {Row : Type} {constraints : Constraints Row String} {owner : Row → String} {rows : List Row}
  {ids : List String} {writes : List (RowWrite Row)} {id : String}

@[simp] theorem about_nil : About constraints owner rows ids [] := by
  intro write hwrite
  cases hwrite

/-- Rows about other deliveries are left alone. -/
theorem About.filter (h : About constraints owner rows ids writes) (hkeys : (rows.map constraints.key).Nodup)
    (hid : id ∉ ids) : (RowWrite.applyAll constraints rows writes).filter (fun row ↦ owner row == id) =
      rows.filter fun row ↦ owner row == id := by
  refine RowWrite.filter_applyAll_other (fun write hwrite ↦ ?_) fun changed hchanged row hrow hkey ↦ ?_
  · exact beq_false_of_ne fun hsame ↦ hid (hsame ▸ (h write hwrite).1)
  · obtain ⟨old, hold, hsame, howner⟩ := (h _ hchanged).2 changed rfl
    obtain rfl := Table.eq_of_key hkeys hrow hold (hkey.trans hsame.symm)
    exact beq_false_of_ne fun hsame ↦ hid (hsame ▸ howner)

/-- Every row stays about a delivery. -/
theorem About.owned (h : About constraints owner rows ids writes) {all : List String}
    (hrows : ∀ row ∈ rows, owner row ∈ all) (hids : ∀ id ∈ ids, id ∈ all) :
    ∀ row ∈ RowWrite.applyAll constraints rows writes, owner row ∈ all := by
  intro row hrow
  rcases RowWrite.mem_applyAll hrow with ⟨write, hwrite, rfl⟩ | ⟨hold, -⟩
  · exact hids _ (h write hwrite).1
  · exact hrows row hold

end About

/-! ## What the trail of changes adds to the tables -/

section Trail

variable {Row : Type} (constraints : Constraints Row String) (owner : Row → String) (rows : List Row)
  (new : Change × Nat → Row) {changes : List Change}

/-- The rows that one event is written by for each change. -/
theorem filter_trail (howner : ∀ change, owner (new change) = change.1.new.id) (id : String) :
    (RowWrite.applyAll constraints rows (changes.zipIdx.map fun change ↦ .insert (new change))).filter
        (fun row ↦ owner row == id) =
      rows.filter (fun row ↦ owner row == id) ++
        (changes.zipIdx.filter fun change ↦ change.1.new.id == id).map new := by
  have hinsert : (changes.zipIdx.map fun change ↦ RowWrite.insert (new change)) =
      (changes.zipIdx.map new).map .insert := by
    rw [List.map_map]
    rfl
  have hselected : ((fun row ↦ owner row == id) ∘ new) = fun change ↦ change.1.new.id == id := by
    funext change
    rw [Function.comp_apply, howner]
  rw [hinsert, RowWrite.applyAll_insert, List.filter_append, List.filter_map, hselected]

theorem trail_other (howner : ∀ change, owner (new change) = change.1.new.id) {id : String}
    (hid : id ∉ changes.map fun change ↦ change.new.id) :
    (RowWrite.applyAll constraints rows (changes.zipIdx.map fun change ↦ .insert (new change))).filter
        (fun row ↦ owner row == id) = rows.filter fun row ↦ owner row == id := by
  have hnone : (changes.zipIdx.filter fun change ↦ change.1.new.id == id) = [] := by
    refine List.filter_eq_nil_iff.mpr fun change hchange hsame ↦ hid ?_
    exact List.mem_map.mpr ⟨change.1, List.fst_mem_of_mem_zipIdx hchange, beq_iff_eq.mp hsame⟩
  rw [filter_trail constraints owner rows new howner, hnone, List.map_nil, List.append_nil]

/-- With one change for each delivery its events are followed by just one new one. -/
theorem trail_self (howner : ∀ change, owner (new change) = change.1.new.id)
    (hdistinct : (changes.map fun change ↦ change.new.id).Nodup) {change : Change}
    (hchange : change ∈ changes) :
    ∃ index, (RowWrite.applyAll constraints rows
        (changes.zipIdx.map fun change ↦ .insert (new change))).filter (fun row ↦ owner row == change.new.id) =
      rows.filter (fun row ↦ owner row == change.new.id) ++ [new (change, index)] := by
  have hfst : changes.zipIdx.map (fun change ↦ change.1.new.id) =
      changes.map fun change ↦ change.new.id := by
    have hmap := congrArg (List.map fun change : Change ↦ change.new.id) (List.zipIdx_map_fst 0 changes)
    rwa [List.map_map] at hmap
  obtain ⟨index, hindexed⟩ : ∃ index, (change, index) ∈ changes.zipIdx := by
    rw [← List.zipIdx_map_fst 0 changes] at hchange
    obtain ⟨indexed, hmem, rfl⟩ := List.mem_map.mp hchange
    exact ⟨indexed.2, hmem⟩
  refine ⟨index, ?_⟩
  rw [filter_trail constraints owner rows new howner]
  congr 1
  exact congrArg (List.map new) (Table.filter_eq_singleton (hfst ▸ hdistinct) hindexed)

end Trail

/-! ## Commits that change stored deliveries -/

section Carries

variable (platform : DeliveryPlatform) (db : DeliveryDb) (call : DeliveryCall)

/-- The writes record changes of stored deliveries, and their other rows are about these. -/
structure Carries (actor : ActorScope) (changes : List Change) (writes : Writes) : Prop where
  deliveries : writes.deliveries = (recordWrites platform call actor changes).deliveries
  events : writes.events = (recordWrites platform call actor changes).events
  audits : writes.audits = (recordWrites platform call actor changes).audits
  outbox : writes.outbox = (recordWrites platform call actor changes).outbox
  stored : ∀ change ∈ changes, change.old ∈ db.deliveries ∧ change.new.id = change.old.id ∧
    change.new.version = change.old.version + 1
  distinct : (changes.map fun change ↦ change.new.id).Nodup
  items : About itemConstraints DeliveryItem.deliveryId db.items (changes.map fun change ↦ change.new.id)
    writes.items
  proofs : About proofConstraints ProofOfDelivery.deliveryId db.proofs
    (changes.map fun change ↦ change.new.id) writes.proofs
  acceptances : About acceptanceConstraints BuyerAcceptance.deliveryId db.acceptances
    (changes.map fun change ↦ change.new.id) writes.acceptances

variable {platform db call} {actor : ActorScope} {changes : List Change} {writes : Writes}

theorem about_trail {Row : Type} (constraints : Constraints Row String) (owner : Row → String)
    (rows : List Row) (new : Change × Nat → Row) (changes : List Change)
    (howner : ∀ change, owner (new change) = change.1.new.id) :
    About constraints owner rows (changes.map fun change ↦ change.new.id)
      (changes.zipIdx.map fun change ↦ .insert (new change)) := by
  intro write hwrite
  obtain ⟨change, hchange, rfl⟩ := List.mem_map.mp hwrite
  refine ⟨List.mem_map.mpr ⟨change.1, List.fst_mem_of_mem_zipIdx hchange, (howner change).symm⟩, ?_⟩
  rintro changed ⟨⟩

theorem Carries.regular (h : Carries platform db call actor changes writes) (hregular : Regular db)
    (haccepted : writes.Accepted db) : Regular (writes.apply db) := by
  have hkept (id : String) (hid : id ∈ db.deliveries.map Delivery.id) :
      id ∈ (writes.apply db).deliveries.map Delivery.id :=
    RowWrite.key_mem_applyAll deliveryConstraints _ hid
  have hids : ∀ id ∈ changes.map (fun change ↦ change.new.id),
      id ∈ (writes.apply db).deliveries.map Delivery.id := by
    intro id hid
    obtain ⟨change, hchange, rfl⟩ := List.mem_map.mp hid
    obtain ⟨hstored, hsame, -⟩ := h.stored change hchange
    exact hkept _ (hsame ▸ List.mem_map_of_mem hstored)
  exact {
    keyed := hregular.keyed.apply haccepted
    items := h.items.owned (fun row hrow ↦ hkept _ (hregular.items row hrow)) hids
    proofs := h.proofs.owned (fun row hrow ↦ hkept _ (hregular.proofs row hrow)) hids
    acceptances := h.acceptances.owned (fun row hrow ↦ hkept _ (hregular.acceptances row hrow)) hids
    events := by
      have habout := about_trail eventConstraints DeliveryEvent.deliveryId db.events
        (changeTimeline call actor) changes fun _ ↦ rfl
      simp only [Writes.apply, h.events]
      exact habout.owned (fun row hrow ↦ hkept _ (hregular.events row hrow)) hids
    audits := by
      have habout := about_trail auditConstraints AuditEvent.aggregateId db.audits
        (changeAudit platform call actor) changes fun _ ↦ rfl
      simp only [Writes.apply, h.audits]
      exact habout.owned (fun row hrow ↦ hkept _ (hregular.audits row hrow)) hids
    outbox := by
      have habout := about_trail outboxConstraints OutboxEvent.aggregateId db.outbox
        (changeOutbox call) changes fun _ ↦ rfl
      simp only [Writes.apply, h.outbox]
      exact habout.owned (fun row hrow ↦ hkept _ (hregular.outbox row hrow)) hids }

/-- A delivery after the commit is the new version of a changed one or an old one without a change. -/
theorem Carries.delivery_cases (h : Carries platform db call actor changes writes) {delivery : Delivery}
    (hdelivery : delivery ∈ (writes.apply db).deliveries) :
    (∃ change ∈ changes, delivery = change.new) ∨
      delivery ∈ db.deliveries ∧ delivery.id ∉ changes.map fun change ↦ change.new.id := by
  simp only [Writes.apply, h.deliveries, recordWrites] at hdelivery
  rcases RowWrite.mem_applyAll hdelivery with ⟨write, hwrite, rfl⟩ | ⟨hold, hunchanged⟩
  · obtain ⟨change, hchange, rfl⟩ := List.mem_map.mp hwrite
    exact Or.inl ⟨change, hchange, rfl⟩
  · refine Or.inr ⟨hold, fun hid ↦ ?_⟩
    obtain ⟨change, hchange, hsame⟩ := List.mem_map.mp hid
    exact hunchanged change.new (List.mem_map.mpr ⟨change, hchange, rfl⟩) hsame

/-- The dossier of a delivery without a change is left alone. -/
theorem Carries.dossier_other (h : Carries platform db call actor changes writes) (hregular : Regular db)
    {delivery : Delivery} (hid : delivery.id ∉ changes.map fun change ↦ change.new.id) :
    dossier (writes.apply db) delivery = dossier db delivery := by
  simp only [dossier, Writes.apply, itemsOf, h.events, h.audits, h.outbox, recordWrites]
  rw [h.items.filter hregular.keyed.items.keys hid, h.proofs.filter hregular.keyed.proofs.keys hid,
    h.acceptances.filter hregular.keyed.acceptances.keys hid,
    trail_other eventConstraints DeliveryEvent.deliveryId db.events (changeTimeline call actor)
      (fun _ ↦ rfl) hid,
    trail_other auditConstraints AuditEvent.aggregateId db.audits (changeAudit platform call actor)
      (fun _ ↦ rfl) hid,
    trail_other outboxConstraints OutboxEvent.aggregateId db.outbox (changeOutbox call) (fun _ ↦ rfl) hid]

/-- A changed delivery has a recorded change. -/
theorem Carries.recorded (h : Carries platform db call actor changes writes) {change : Change}
    (hchange : change ∈ changes) :
    Recorded platform (dossier db change.old) (dossier (writes.apply db) change.new) := by
  obtain ⟨-, hid, hversion⟩ := h.stored change hchange
  refine ⟨hid, hversion, ?_, ?_, ?_⟩
  · obtain ⟨index, hrows⟩ := trail_self eventConstraints DeliveryEvent.deliveryId db.events
      (changeTimeline call actor) (fun _ ↦ rfl) h.distinct hchange
    refine ⟨changeTimeline call actor (change, index), ?_, rfl⟩
    simp only [dossier, Writes.apply, h.events, recordWrites]
    rw [← hid]
    exact hrows
  · obtain ⟨index, hrows⟩ := trail_self auditConstraints AuditEvent.aggregateId db.audits
      (changeAudit platform call actor) (fun _ ↦ rfl) h.distinct hchange
    refine ⟨changeAudit platform call actor (change, index), ?_, rfl, rfl, rfl⟩
    simp only [dossier, Writes.apply, h.audits, recordWrites]
    rw [← hid]
    exact hrows
  · obtain ⟨index, hrows⟩ := trail_self outboxConstraints OutboxEvent.aggregateId db.outbox
      (changeOutbox call) (fun _ ↦ rfl) h.distinct hchange
    refine ⟨changeOutbox call (change, index), ?_, rfl⟩
    simp only [dossier, Writes.apply, h.outbox, recordWrites]
    rw [← hid]
    exact hrows

end Carries

end Xyena.Deliveries
