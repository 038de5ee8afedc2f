import Xyena.Erp.Service

/-!
# What one call of the ERP can do

`Move` lists the ways in which a session ends with rows to commit, each with the
guards that led to it. An invariant is kept when every move keeps it. A session
whose guards hold returns the rows of its move, so that the guards also say
exactly when the move is made.
-/

namespace Xyena.Erp

open Xyena.Foundation Xyena.Foundation.Session

theorem matchModel_id {db : ErpDb} {tenantId matchId : String} {value : InvoiceMatch}
    (h : matchModel db tenantId matchId = .ok value) : value.id = matchId := by
  have hselected := findRow_selected h
  simp only [Bool.and_eq_true, beq_iff_eq] at hselected
  exact hselected.2

/-! ## Guards -/

section Guards

variable (rounding : Rounding) (db : ErpDb) (call : ErpCall) (tenantId : String)

/-- A new purchase order between two approved counterparties. -/
structure Creates (body : PurchaseOrderCreate) (buyer supplier : Counterparty) : Prop where
  unused : (db.orders.any fun row ↦ row.tenantId == tenantId && row.poNumber == body.poNumber) = false
  heldBuyer : counterpartyModel db tenantId body.buyerId = .ok buyer
  heldSupplier : counterpartyModel db tenantId body.supplierBusinessId = .ok supplier
  buyerApproved : buyer.role = .buyer ∧ buyer.relationshipStatus = .approved
  supplierApproved : supplier.role = .supplier ∧ supplier.relationshipStatus = .approved

/-- The lines that a query selects by their receipt. -/
def linesOf (receiptId : String) : List ReceiptLine :=
  db.receiptLines.filter fun row ↦ row.receiptId == receiptId

/-- The posting of a draft receipt: its order lines are changed and the invoices of its order are
matched again. -/
structure Posts (receipt : GoodsServiceReceipt) (order : PurchaseOrder)
    (lineWrites : List (RowWrite PurchaseOrderLine)) (recalculated : List Recalculated) : Prop where
  held : ∃ receiptId, call.request = .postReceipt tenantId receiptId receipt.version ∧
    receiptModel db tenantId receiptId = .ok receipt
  draft : receipt.status = .draft
  heldOrder : purchaseOrderModel db tenantId receipt.purchaseOrderId = .ok order
  received : receiveLines db.orderLines (linesOf db receipt.id) = .ok lineWrites
  matched : recalculateAll rounding db call tenantId
    (RowWrite.applyAll orderConstraints db.orders [.update
      (order.fulfil (RowWrite.applyAll orderLineConstraints db.orderLines lineWrites))])
    receipt.post 0 (invoicesOf db tenantId order.id) = .ok recalculated

/-- The acceptance of a match that supports the amount and has no acceptance. -/
structure Accepts (value : InvoiceMatch) (body : AcceptanceCreate) (invoice : SupplierInvoice) : Prop where
  request : call.request = .acceptMatch tenantId value.id value.version body
  held : matchModel db tenantId value.id = .ok value
  acceptable : value.status = .matched ∨ value.status = .partialMatch
  supported : body.acceptedAmount ≤ value.supportedValue
  unaccepted : acceptanceOf db value.id = none
  heldInvoice : invoiceModel db tenantId value.invoiceId = .ok invoice

/-- An event that has not been consumed, with the snapshot that it carries. -/
structure Carries (event : GstEventEnvelope) (snapshot : Option GstInvoiceSnapshot) : Prop where
  request : call.request = .consumeGstEvent event
  unseen : (db.inboxEvents.any fun row ↦
    row.sourceApplication == gstSource && row.eventId == event.eventId) = false
  snapshotRead : event.invoiceSnapshot.read = .ok snapshot
  sameAggregate : (snapshot.any fun value ↦ value.id != event.aggregateId) = false

/-- An event that is newer than the invoice it is about. -/
structure Follows (event : GstEventEnvelope) (snapshot : Option GstInvoiceSnapshot)
    (invoice : SupplierInvoice) : Prop extends Carries db call event snapshot where
  held : eventInvoice db event = some invoice
  newer : invoice.sourceVersion < event.aggregateVersion

/-- What an event makes of the match of an invoice and of the status of the invoice. -/
inductive Settles (event : GstEventEnvelope) (followed : SupplierInvoice) (claimed : Rat) :
    SupplierInvoice → List (RowWrite InvoiceMatch) → Prop
  | unmatched (hnone : ∀ row ∈ db.invoiceMatches, row.invoiceId ≠ followed.id)
      (hcancelled : event.eventType = .cancelled) :
      Settles event followed claimed followed []
  | reviewed (value : InvoiceMatch) (found : Discrepancy) (again : Bool)
      (hstored : value ∈ db.invoiceMatches) (hinvoice : value.invoiceId = followed.id)
      (hreviewed : event.eventType = .cancelled ∨ value.status.isAccepted = true) :
      Settles event followed claimed (followed.setMatching .reviewRequired)
        [.update (value.review found again)]
  | recalculated (done : Recalculated)
      (h : recalculate rounding db event.tenantId db.orders db.receipts (call.token 1) followed claimed =
        .ok done) (hregistered : event.eventType = .registered) :
      Settles event followed claimed done.invoice [done.write]

end Guards

/-! ## Moves -/

/-- The rows of a created purchase order. -/
def creationWrites (rounding : Rounding) (call : ErpCall) (tenantId : String) (body : PurchaseOrderCreate)
    (buyer supplier : Counterparty) : Writes where
  orders := [.insert (newOrder call tenantId body buyer supplier)]
  orderLines := (newOrderLines rounding call body).map .insert

/-- The rows of a drafted receipt. -/
def draftWrites (rounding : Rounding) (call : ErpCall) (tenantId : String) (body : ReceiptCreate)
    (order : PurchaseOrder) (checked : List (ReceiptLineCreate × PurchaseOrderLine)) : Writes where
  receipts := [.insert (newReceipt call tenantId body order checked)]
  receiptLines := (newReceiptLines rounding call checked).map .insert

/-- How a session ends with rows to commit. -/
inductive Move (rounding : Rounding) (db : ErpDb) (call : ErpCall) : Writes → Prop
  | orderCreated (tenantId : String) (body : PurchaseOrderCreate) (buyer supplier : Counterparty)
      (hrequest : call.request = .createPurchaseOrder tenantId body)
      (h : Creates db tenantId body buyer supplier) :
      Move rounding db call (creationWrites rounding call tenantId body buyer supplier)
  | orderMoved (order : PurchaseOrder) (status : OrderStatus) (actor : String)
      (hstored : order ∈ db.orders) (haction : ∃ action, transitions order.status action = some status) :
      Move rounding db call { orders := [.update (order.move status actor)] }
  | receiptCreated (tenantId : String) (body : ReceiptCreate) (order : PurchaseOrder)
      (checked : List (ReceiptLineCreate × PurchaseOrderLine)) (hstored : order ∈ db.orders)
      (hchecked : checkLines (db.orderLines.filter fun line ↦ line.purchaseOrderId == order.id)
        body.lines = .ok checked) (htenant : order.tenantId = tenantId) :
      Move rounding db call (draftWrites rounding call tenantId body order checked)
  | receiptPosted (tenantId : String) (receipt : GoodsServiceReceipt) (order : PurchaseOrder)
      (lineWrites : List (RowWrite PurchaseOrderLine)) (recalculated : List Recalculated)
      (h : Posts rounding db call tenantId receipt order lineWrites recalculated) :
      Move rounding db call (postingWrites receipt.post
        (order.fulfil (RowWrite.applyAll orderLineConstraints db.orderLines lineWrites)) lineWrites
        recalculated)
  | recalculated (tenantId : String) (invoice : SupplierInvoice) (done : Recalculated)
      (hstored : invoice ∈ db.invoices)
      (h : recalculate rounding db tenantId db.orders db.receipts (call.token 0) invoice
        invoice.claimedTotal = .ok done)
      (hrequest : ∃ invoiceId, call.request = .recalculateMatch tenantId invoiceId) :
      Move rounding db call { invoices := [.update done.invoice], invoiceMatches := [done.write] }
  | accepted (tenantId : String) (value : InvoiceMatch) (body : AcceptanceCreate)
      (invoice : SupplierInvoice) (h : Accepts db call tenantId value body invoice) :
      Move rounding db call (acceptanceWrites rounding call tenantId value body invoice)
  | disputed (value : InvoiceMatch) (body : DisputeCreate) (invoice : SupplierInvoice)
      (hstored : value ∈ db.invoiceMatches) (hinvoice : invoice ∈ db.invoices)
      (hrequest : ∃ tenantId, call.request = .disputeMatch tenantId value.id value.version body) :
      Move rounding db call
        { invoices := [.update (invoice.setMatching .disputed)]
          invoiceMatches := [.update (value.dispute body)] }
  | eventNoted (event : GstEventEnvelope) (status : InboxStatus) (lastError : Option String)
      (hrequest : call.request = .consumeGstEvent event) :
      Move rounding db call { inboxEvents := [.insert (newInbox call event status lastError)] }
  | invoiceAdded (event : GstEventEnvelope) (snapshot : GstInvoiceSnapshot) (settled : SupplierInvoice)
      (changed : List (RowWrite InvoiceMatch))
      (h : Settles rounding db call event ((newInvoice rounding snapshot).follow rounding event
        (some snapshot)) snapshot.totalInvoiceValue settled changed)
      (hcarries : Carries db call event (some snapshot)) :
      Move rounding db call (eventWrites call event (.insert settled) changed)
  | invoiceFollowed (event : GstEventEnvelope) (snapshot : Option GstInvoiceSnapshot)
      (invoice settled : SupplierInvoice) (changed : List (RowWrite InvoiceMatch))
      (hfollows : Follows db call event snapshot invoice)
      (h : Settles rounding db call event (invoice.follow rounding event snapshot)
        (claimedBy invoice snapshot) settled changed) :
      Move rounding db call (eventWrites call event (.update settled) changed)

/-! ## Inversion, one operation after the other -/

section Inversion

variable {rounding : Rounding} {db : ErpDb} {call : ErpCall} {tenantId : String} {answer : ErpAnswer}
  {writes : Writes}

/-- An operation that returns an outcome returns just this one. -/
theorem returned {value answer : ErpAnswer} {rows : Option Writes} {writes : Writes}
    (h : (pure (value, rows) : Except ErpError Outcome) = .ok (answer, some writes)) :
    value = answer ∧ rows = some writes :=
  Prod.mk.inj (Except.ok.inj h)

theorem expectVersion_bind_ok {aggregate : String} {current expected : Int}
    {next : Unit → Except ErpError Outcome} {outcome : Outcome} :
    (expectVersion aggregate current expected >>= next) = .ok outcome ↔
      current = expected ∧ next () = .ok outcome := by
  rw [expectVersion, ensure_bind_ok, beq_iff_eq]

theorem move_createPurchaseOrder {body : PurchaseOrderCreate}
    (hrequest : call.request = .createPurchaseOrder tenantId body)
    (h : createPurchaseOrder rounding db call tenantId body = .ok (answer, some writes)) :
    Move rounding db call writes := by
  obtain ⟨hunused, h⟩ := ensure_bind_ok.mp h
  obtain ⟨buyer, hbuyer, h⟩ := bind_ok.mp h
  obtain ⟨supplier, hsupplier, h⟩ := bind_ok.mp h
  obtain ⟨hbuyerApproved, h⟩ := ensure_bind_ok.mp h
  obtain ⟨hsupplierApproved, h⟩ := ensure_bind_ok.mp h
  obtain ⟨-, ⟨⟩⟩ := returned h
  simp only [Bool.and_eq_true, beq_iff_eq] at hbuyerApproved hsupplierApproved
  exact .orderCreated tenantId body buyer supplier hrequest
    ⟨by simpa using hunused, hbuyer, hsupplier, hbuyerApproved, hsupplierApproved⟩

theorem move_transitionPurchaseOrder {orderId actor : String} {action : OrderAction} {expectedVersion : Int}
    (h : transitionPurchaseOrder db tenantId orderId action expectedVersion actor =
      .ok (answer, some writes)) : Move rounding db call writes := by
  obtain ⟨order, horder, h⟩ := bind_ok.mp h
  obtain ⟨-, h⟩ := expectVersion_bind_ok.mp h
  split at h
  · cases h
  next status haction =>
    obtain ⟨-, ⟨⟩⟩ := returned h
    exact .orderMoved order status actor (findRow_mem horder) ⟨action, haction⟩

theorem move_createReceipt {body : ReceiptCreate}
    (h : createReceipt rounding db call tenantId body = .ok (answer, some writes)) :
    Move rounding db call writes := by
  obtain ⟨order, horder, h⟩ := bind_ok.mp h
  obtain ⟨-, h⟩ := ensure_bind_ok.mp h
  obtain ⟨-, h⟩ := ensure_bind_ok.mp h
  obtain ⟨checked, hchecked, h⟩ := bind_ok.mp h
  obtain ⟨-, ⟨⟩⟩ := returned h
  have hselected := findRow_selected horder
  simp only [Bool.and_eq_true, beq_iff_eq] at hselected
  exact .receiptCreated tenantId body order checked (findRow_mem horder) hchecked hselected.1

/-- A posting that returns has made all checks, and it has rows to commit. -/
theorem posts_of_postReceipt {receiptId : String} {expectedVersion : Int} {rows : Option Writes}
    (hrequest : call.request = .postReceipt tenantId receiptId expectedVersion)
    (h : postReceipt rounding db call tenantId receiptId expectedVersion = .ok (answer, rows)) :
    ∃ receipt order lineWrites recalculated,
      Posts rounding db call tenantId receipt order lineWrites recalculated ∧
        rows = some (postingWrites receipt.post
          (order.fulfil (RowWrite.applyAll orderLineConstraints db.orderLines lineWrites)) lineWrites
          recalculated) := by
  obtain ⟨receipt, hreceipt, h⟩ := bind_ok.mp h
  obtain ⟨hversion, h⟩ := expectVersion_bind_ok.mp h
  obtain ⟨hdraft, h⟩ := ensure_bind_ok.mp h
  obtain ⟨order, horder, h⟩ := bind_ok.mp h
  obtain ⟨lineWrites, hlines, h⟩ := bind_ok.mp h
  obtain ⟨recalculated, hrecalculated, h⟩ := bind_ok.mp h
  obtain ⟨-, hrows⟩ := Prod.mk.inj (Except.ok.inj h)
  obtain rfl := hversion
  exact ⟨receipt, order, lineWrites, recalculated,
    ⟨⟨receiptId, hrequest, hreceipt⟩, beq_iff_eq.mp hdraft, horder, hlines, hrecalculated⟩, hrows.symm⟩

theorem move_postReceipt {receiptId : String} {expectedVersion : Int}
    (hrequest : call.request = .postReceipt tenantId receiptId expectedVersion)
    (h : postReceipt rounding db call tenantId receiptId expectedVersion = .ok (answer, some writes)) :
    Move rounding db call writes := by
  obtain ⟨receipt, order, lineWrites, recalculated, hposts, hrows⟩ := posts_of_postReceipt hrequest h
  rw [Option.some.inj hrows]
  exact .receiptPosted tenantId receipt order lineWrites recalculated hposts

theorem move_recalculateMatch {invoiceId : String}
    (hrequest : call.request = .recalculateMatch tenantId invoiceId)
    (h : recalculateMatch rounding db call tenantId invoiceId = .ok (answer, some writes)) :
    Move rounding db call writes := by
  obtain ⟨invoice, hinvoice, h⟩ := bind_ok.mp h
  obtain ⟨done, hdone, h⟩ := bind_ok.mp h
  obtain ⟨-, ⟨⟩⟩ := returned h
  exact .recalculated tenantId invoice done (findRow_mem hinvoice) hdone ⟨invoiceId, hrequest⟩

theorem move_acceptMatch {matchId : String} {expectedVersion : Int} {body : AcceptanceCreate}
    (hrequest : call.request = .acceptMatch tenantId matchId expectedVersion body)
    (h : acceptMatch rounding db call tenantId matchId expectedVersion body = .ok (answer, some writes)) :
    Move rounding db call writes := by
  obtain ⟨value, hvalue, h⟩ := bind_ok.mp h
  obtain ⟨hversion, h⟩ := expectVersion_bind_ok.mp h
  obtain ⟨hacceptable, h⟩ := ensure_bind_ok.mp h
  obtain ⟨hsupported, h⟩ := ensure_bind_ok.mp h
  obtain ⟨hunaccepted, h⟩ := ensure_bind_ok.mp h
  obtain ⟨invoice, hinvoice, h⟩ := bind_ok.mp h
  obtain ⟨-, ⟨⟩⟩ := returned h
  obtain rfl := hversion
  obtain rfl := matchModel_id hvalue
  simp only [Bool.or_eq_true, beq_iff_eq] at hacceptable
  exact .accepted tenantId value body invoice
    ⟨hrequest, hvalue, hacceptable, of_decide_eq_true hsupported, Option.isNone_iff_eq_none.mp hunaccepted,
      hinvoice⟩

theorem move_disputeMatch {matchId : String} {expectedVersion : Int} {body : DisputeCreate}
    (hrequest : call.request = .disputeMatch tenantId matchId expectedVersion body)
    (h : disputeMatch db tenantId matchId expectedVersion body = .ok (answer, some writes)) :
    Move rounding db call writes := by
  obtain ⟨value, hvalue, h⟩ := bind_ok.mp h
  obtain ⟨hversion, h⟩ := expectVersion_bind_ok.mp h
  obtain ⟨-, h⟩ := ensure_bind_ok.mp h
  obtain ⟨invoice, hinvoice, h⟩ := bind_ok.mp h
  obtain ⟨-, ⟨⟩⟩ := returned h
  obtain rfl := hversion
  obtain rfl := matchModel_id hvalue
  exact .disputed value body invoice (findRow_mem hvalue) (findRow_mem hinvoice) ⟨tenantId, hrequest⟩

/-- An event that is followed settles the match of its invoice. -/
theorem settles_of_followInvoice {event : GstEventEnvelope} {invoice : SupplierInvoice}
    {store : SupplierInvoice → RowWrite SupplierInvoice} {snapshot : Option GstInvoiceSnapshot}
    (h : followInvoice rounding db call event invoice store snapshot = .ok (answer, some writes)) :
    ∃ settled changed, writes = eventWrites call event (store settled) changed ∧
      Settles rounding db call event (invoice.follow rounding event snapshot) (claimedBy invoice snapshot)
        settled changed := by
  unfold followInvoice at h
  simp only at h
  split at h
  next hcancelled hnone =>
    obtain ⟨-, ⟨⟩⟩ := returned h
    exact ⟨_, _, rfl,
      .unmatched (fun row hrow ↦ by simpa using List.find?_eq_none.mp hnone row hrow) hcancelled⟩
  next value hcancelled hvalue =>
    obtain ⟨-, ⟨⟩⟩ := returned h
    have hinvoice := List.find?_some hvalue
    exact ⟨_, _, rfl, .reviewed value _ _ (List.mem_of_find?_eq_some hvalue) (beq_iff_eq.mp hinvoice)
      (Or.inl hcancelled)⟩
  next found hregistered =>
    split at h
    next value hvalue =>
      obtain ⟨-, ⟨⟩⟩ := returned h
      obtain ⟨hfound, haccepted⟩ := Option.filter_eq_some_iff.mp hvalue
      have hinvoice := List.find?_some hfound
      exact ⟨_, _, rfl, .reviewed value _ _ (List.mem_of_find?_eq_some hfound) (beq_iff_eq.mp hinvoice)
        (Or.inr haccepted)⟩
    · obtain ⟨done, hdone, h⟩ := bind_ok.mp h
      obtain ⟨-, ⟨⟩⟩ := returned h
      exact ⟨_, _, rfl, .recalculated done hdone hregistered⟩

theorem move_consumeGstEvent {event : GstEventEnvelope}
    (hrequest : call.request = .consumeGstEvent event)
    (h : consumeGstEvent rounding db call event = .ok (answer, some writes)) :
    Move rounding db call writes := by
  unfold consumeGstEvent at h
  split at h
  · obtain ⟨-, ⟨⟩⟩ := returned h
  next hunseen =>
    obtain ⟨snapshot, hsnapshot, h⟩ := bind_ok.mp h
    split at h
    · obtain ⟨-, ⟨⟩⟩ := returned h
      exact .eventNoted event _ _ hrequest
    next hsame =>
      have hcarries : Carries db call event snapshot :=
        ⟨hrequest, by simpa using hunseen, hsnapshot, by simpa using hsame⟩
      split at h
      · obtain ⟨-, ⟨⟩⟩ := returned h
        exact .eventNoted event _ _ hrequest
      next detail _ hdetail =>
        obtain ⟨rfl, -⟩ := Option.filter_eq_some_iff.mp hdetail
        obtain ⟨settled, changed, rfl, hsettles⟩ := settles_of_followInvoice h
        exact .invoiceAdded event detail settled changed hsettles hcarries
      next invoice hinvoice =>
        split at h
        · obtain ⟨-, ⟨⟩⟩ := returned h
          exact .eventNoted event _ _ hrequest
        next hnewer =>
          obtain ⟨settled, changed, rfl, hsettles⟩ := settles_of_followInvoice h
          exact .invoiceFollowed event snapshot invoice settled changed
            ⟨hcarries, hinvoice, Int.not_le.mp hnewer⟩ hsettles

/-- Every session that ends with rows to commit has made one of the listed moves. -/
theorem move_of_serve (h : serve rounding db call = .ok (answer, some writes)) :
    Move rounding db call writes := by
  unfold serve at h
  split at h
  next hrequest => exact move_createPurchaseOrder hrequest h
  · exact move_transitionPurchaseOrder h
  · exact move_createReceipt h
  next hrequest => exact move_postReceipt hrequest h
  next hrequest => exact move_recalculateMatch hrequest h
  next hrequest => exact move_acceptMatch hrequest h
  next hrequest => exact move_disputeMatch hrequest h
  next hrequest => exact move_consumeGstEvent hrequest h

end Inversion

end Xyena.Erp
