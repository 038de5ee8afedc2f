import Xyena.Erp.Decisions
import Xyena.Gst.Exactness

/-!
# Orders that were delivered and invoiced in full

The order rounds the sum of its lines, half to even; the receipts round what each
of their lines is worth, half to even; the invoice rounds every line and its tax,
half up. The match compares the three totals exactly. An order that was delivered
in full is matched exactly when the invoice comes out no higher than the others.
-/

namespace Xyena.Erp

open Xyena.Foundation Xyena.Foundation.Session

/-! ## The lines of an order -/

def orderLinesOf (db : ErpDb) (orderId : String) : List PurchaseOrderLine :=
  db.orderLines.filter fun row ↦ row.purchaseOrderId == orderId

theorem mem_orderLinesOf {db : ErpDb} {orderId : String} {line : PurchaseOrderLine} :
    line ∈ orderLinesOf db orderId ↔ line ∈ db.orderLines ∧ line.purchaseOrderId = orderId := by
  simp [orderLinesOf]

section Lines

variable {rounding : Rounding} {db : ErpDb} {call : ErpCall} {tenantId : String} {body : PurchaseOrderCreate}
  {buyer supplier : Counterparty} {orderId : String}

theorem orderLines_created :
    ((creationWrites rounding call tenantId body buyer supplier).apply db).orderLines =
      db.orderLines ++ newOrderLines rounding call body :=
  RowWrite.applyAll_insert _ _

/-- A new order leaves the lines of the others. -/
theorem orderLinesOf_other (hother : orderId ≠ (newOrder call tenantId body buyer supplier).id) :
    orderLinesOf ((creationWrites rounding call tenantId body buyer supplier).apply db) orderId =
      orderLinesOf db orderId := by
  have hnone : (newOrderLines rounding call body).filter (fun row ↦ row.purchaseOrderId == orderId) = [] := by
    refine List.filter_eq_nil_iff.mpr fun row hrow hof ↦ ?_
    obtain ⟨line, -, rfl⟩ := List.mem_map.mp hrow
    exact hother (beq_iff_eq.mp hof).symm
  rw [orderLinesOf, orderLines_created, List.filter_append, hnone, List.append_nil, orderLinesOf]

/-- A new order has the lines that are added with it. -/
theorem orderLinesOf_new (howned : Owned db)
    (hfresh : ∀ old ∈ db.orders, (newOrder call tenantId body buyer supplier).id ≠ old.id) :
    orderLinesOf ((creationWrites rounding call tenantId body buyer supplier).apply db)
      (newOrder call tenantId body buyer supplier).id = newOrderLines rounding call body := by
  have hold : db.orderLines.filter (fun row ↦
      row.purchaseOrderId == (newOrder call tenantId body buyer supplier).id) = [] := by
    refine List.filter_eq_nil_iff.mpr fun row hrow hof ↦ ?_
    obtain ⟨order, horder, hid⟩ := List.mem_map.mp (howned.placed row hrow)
    exact hfresh order horder ((beq_iff_eq.mp hof).symm.trans hid.symm)
  have hnew : (newOrderLines rounding call body).filter (fun row ↦
      row.purchaseOrderId == (newOrder call tenantId body buyer supplier).id) =
        newOrderLines rounding call body := by
    refine List.filter_eq_self.mpr (List.forall_mem_map.mpr fun line _ ↦ ?_)
    exact beq_self_eq_true _
  rw [orderLinesOf, orderLines_created, List.filter_append, hold, hnew, List.nil_append]

/-- A posting receives what the receipt lists. -/
theorem orderLinesOf_posted {receipt : GoodsServiceReceipt} {order : PurchaseOrder}
    {lineWrites : List (RowWrite PurchaseOrderLine)} {recalculated : List Recalculated}
    (hregular : Regular db) (hpost : Posts rounding db call tenantId receipt order lineWrites recalculated)
    (changed : PurchaseOrder) (orderId : String) :
    orderLinesOf ((postingWrites receipt.post changed lineWrites recalculated).apply db) orderId =
      (orderLinesOf db orderId).map (PurchaseOrderLine.receiveAll (linesOf db receipt.id)) := by
  rw [orderLinesOf, orderLines_post hregular hpost changed, List.filter_map]
  rfl

end Lines

/-! ## Fulfilled orders -/

/-- The sum of the accepted quantities of an order line over the posted receipts. -/
def postedAccepted (db : ErpDb) (lineId : String) : Int := postedSum ReceiptLine.acceptedQuantity db lineId

/-- Order lines count what was accepted, a receipt is of the tenant of its order, and an order that was
accepted in full is fulfilled. -/
structure Fulfils (db : ErpDb) : Prop where
  accepted : ∀ line ∈ db.orderLines, line.acceptedQuantity = postedAccepted db line.id
  tenants : ∀ row ∈ db.receipts, ∀ order ∈ db.orders, order.id = row.purchaseOrderId →
    order.tenantId = row.tenantId
  fulfilled : ∀ order ∈ db.orders, (∃ line ∈ orderLinesOf db order.id, 0 < line.quantity) →
    (∀ line ∈ orderLinesOf db order.id, line.quantity ≤ line.acceptedQuantity) → order.status = .fulfilled

theorem Fulfils.of_counterparties (counterparties : List Counterparty) :
    Fulfils { counterparties := counterparties } :=
  ⟨by simp, by simp, by simp⟩

section Step

variable {rounding : Rounding} {db : ErpDb} {call : ErpCall} {writes : Writes}

theorem Fulfils.of_same {after : ErpDb} (h : Fulfils db) (horders : after.orders = db.orders)
    (hlines : after.orderLines = db.orderLines) (hreceipts : after.receipts = db.receipts)
    (hlisted : after.receiptLines = db.receiptLines) : Fulfils after := by
  refine ⟨fun line hline ↦ ?_, ?_, ?_⟩
  · exact (h.accepted line (hlines ▸ hline)).trans (postedSum_congr _ hreceipts hlisted line.id).symm
  · rw [hreceipts, horders]
    exact h.tenants
  · simp only [orderLinesOf, horders, hlines]
    exact h.fulfilled

/-- A stored change of an order keeps the tenants. -/
theorem tenants_update {order : PurchaseOrder} (changed : PurchaseOrder) (h : Fulfils db)
    (hstored : order ∈ db.orders) (hid : changed.id = order.id) (htenant : changed.tenantId = order.tenantId) :
    ∀ row ∈ db.receipts, ∀ other ∈ RowWrite.applyAll orderConstraints db.orders [.update changed],
      other.id = row.purchaseOrderId → other.tenantId = row.tenantId := by
  intro row hrow other hother hrefers
  rcases Table.mem_replace hother with rfl | ⟨hold, -⟩
  · exact htenant.trans (h.tenants row hrow order hstored (hid.symm.trans hrefers))
  · exact h.tenants row hrow other hold hrefers

/-- No transition starts at a fulfilled order. -/
theorem transitions_fulfilled (action : OrderAction) : transitions .fulfilled action = none := by
  cases action <;> rfl

theorem Fulfils.post {tenantId : String} {receipt : GoodsServiceReceipt} {order : PurchaseOrder}
    {lineWrites : List (RowWrite PurchaseOrderLine)} {recalculated : List Recalculated} (h : Fulfils db)
    (hregular : Regular db) (howned : Owned db)
    (hpost : Posts rounding db call tenantId receipt order lineWrites recalculated) :
    Fulfils ((postingWrites receipt.post
      (order.fulfil (RowWrite.applyAll orderLineConstraints db.orderLines lineWrites)) lineWrites
      recalculated).apply db) := by
  obtain ⟨_, -, hheld⟩ := hpost.held
  have hreceipt : receipt ∈ db.receipts := findRow_mem hheld
  have horder : order ∈ db.orders := findRow_mem hpost.heldOrder
  have hlines := orderLines_post hregular hpost
    (order.fulfil (RowWrite.applyAll orderLineConstraints db.orderLines lineWrites))
  refine ⟨?_, ?_, fun row hrow hpositive hfull ↦ ?_⟩
  · rw [hlines]
    refine List.forall_mem_map.mpr fun line hline ↦ ?_
    have hposted := postedSum_post ReceiptLine.acceptedQuantity ((postingWrites receipt.post
      (order.fulfil (RowWrite.applyAll orderLineConstraints db.orderLines lineWrites)) lineWrites
      recalculated).apply db) hregular hreceipt hpost.draft rfl rfl line.id
    exact (congrArg (· + _) (h.accepted line hline)).trans hposted.symm
  · have hkept := tenants_update (order.fulfil
      (RowWrite.applyAll orderLineConstraints db.orderLines lineWrites)) h horder rfl rfl
    intro row hrow
    rcases Table.mem_replace hrow with rfl | ⟨hold, -⟩
    · exact hkept receipt hreceipt
    · exact hkept row hold
  · rcases Table.mem_replace hrow with rfl | ⟨hold, hother⟩
    · -- the status of the posted order is set from these lines
      have hall : ((RowWrite.applyAll orderLineConstraints db.orderLines lineWrites).filter fun line ↦
          line.purchaseOrderId == order.id).all fun line ↦ decide (line.quantity ≤ line.acceptedQuantity) := by
        rw [List.all_eq_true]
        exact fun line hline ↦ decide_eq_true (hfull line hline)
      simp only [PurchaseOrder.fulfil, hall, if_true]
    · have hsame : orderLinesOf ((postingWrites receipt.post
          (order.fulfil (RowWrite.applyAll orderLineConstraints db.orderLines lineWrites)) lineWrites
          recalculated).apply db) row.id = orderLinesOf db row.id := by
        rw [orderLinesOf_posted hregular hpost]
        refine (List.map_congr_left fun line hline ↦ ?_).trans (List.map_id _)
        obtain ⟨hstored, hof⟩ := mem_orderLinesOf.mp hline
        refine receiveAll_other howned hreceipt hstored fun hrefers ↦ hother ?_
        exact hof.symm.trans (hrefers.trans (hpost.order_id hregular howned).symm)
      rw [hsame] at hpositive hfull
      exact h.fulfilled row hold hpositive hfull

theorem Fulfils.apply (h : Fulfils db) (hmove : Move rounding db call writes) (hregular : Regular db)
    (howned : Owned db) (haccepted : writes.Accepted db) : Fulfils (writes.apply db) := by
  cases hmove with
  | orderCreated tenantId body buyer supplier hrequest hcreates =>
    have hfresh (old) (hold : old ∈ db.orders) : (newOrder call tenantId body buyer supplier).id ≠ old.id :=
      RowWrite.key_ne_of_insert haccepted.orders List.mem_cons_self old hold
    have hfreshLines := newOrderLines_fresh haccepted
    have hnew := newOrderLines_unreceived rounding call body
    refine ⟨?_, fun row hrow order horder hid ↦ ?_, fun order horder hpositive hfull ↦ ?_⟩
    · rw [orderLines_created]
      refine List.forall_mem_append.mpr ⟨h.accepted, fun line hline ↦ ?_⟩
      rw [(hnew line hline).2]
      exact (postedSum_fresh ReceiptLine.acceptedQuantity hregular (hfreshLines line hline)).symm
    · rcases List.mem_append.mp horder with hold | hlast
      · exact h.tenants row hrow order hold hid
      · obtain rfl := List.mem_singleton.mp hlast
        obtain ⟨old, hold, holdId⟩ := List.mem_map.mp (hregular.ordered row hrow)
        exact absurd (hid.trans holdId.symm) (hfresh old hold)
    · rcases List.mem_append.mp horder with hold | hlast
      · rw [orderLinesOf_other (hfresh order hold).symm] at hpositive hfull
        exact h.fulfilled order hold hpositive hfull
      · obtain rfl := List.mem_singleton.mp hlast
        rw [orderLinesOf_new howned hfresh] at hpositive hfull
        obtain ⟨line, hline, hquantity⟩ := hpositive
        have hle := hfull line hline
        rw [(hnew line hline).2] at hle
        exact absurd hquantity (Int.not_lt.mpr hle)
  | orderMoved order status actor hstored haction =>
    refine ⟨h.accepted, tenants_update _ h hstored rfl rfl, fun row hrow hpositive hfull ↦ ?_⟩
    rcases Table.mem_replace hrow with rfl | ⟨hold, -⟩
    · obtain ⟨action, haction⟩ := haction
      rw [h.fulfilled order hstored hpositive hfull, transitions_fulfilled] at haction
      cases haction
    · exact h.fulfilled row hold hpositive hfull
  | receiptCreated tenantId body order checked hstored hchecked htenant =>
    have hfresh := RowWrite.key_ne_of_insert haccepted.receipts List.mem_cons_self
    refine ⟨fun line hline ↦ ?_, fun row hrow other hother hid ↦ ?_, h.fulfilled⟩
    · exact (h.accepted line hline).trans
        (postedSum_draft rounding ReceiptLine.acceptedQuantity hfresh line.id).symm
    · rcases List.mem_append.mp hrow with hold | hlast
      · exact h.tenants row hold other hother hid
      · obtain rfl := List.mem_singleton.mp hlast
        obtain rfl := Table.eq_of_key hregular.keyed.orders.keys hother hstored hid
        exact htenant
  | receiptPosted tenantId receipt order lineWrites recalculated hpost => exact h.post hregular howned hpost
  | recalculated => exact h.of_same rfl rfl rfl rfl
  | accepted => exact h.of_same rfl rfl rfl rfl
  | disputed => exact h.of_same rfl rfl rfl rfl
  | eventNoted => exact h.of_same rfl rfl rfl rfl
  | invoiceAdded => exact h.of_same rfl rfl rfl rfl
  | invoiceFollowed => exact h.of_same rfl rfl rfl rfl

/-! ## The terms of a placed order -/

/-- The order has the total and the lines of its request. -/
structure Placed (rounding : Rounding) (db : ErpDb) (tenantId : String) (body : PurchaseOrderCreate)
    (order : PurchaseOrder) : Prop where
  stored : order ∈ db.orders
  tenant : order.tenantId = tenantId
  total : order.total = subtotalOf body.lines + taxOf body.lines
  quantities : (orderLinesOf db order.id).map PurchaseOrderLine.quantity =
    body.lines.map fun line ↦ rounding.round line.quantity

theorem newOrderLines_quantities (rounding : Rounding) (call : ErpCall) (body : PurchaseOrderCreate) :
    (newOrderLines rounding call body).map PurchaseOrderLine.quantity =
      body.lines.map fun line ↦ rounding.round line.quantity := by
  have hlines : body.lines = (body.lines.zipIdx 1).map Prod.fst := by simp
  rw [newOrderLines, List.map_map]
  conv_rhs => rw [hlines, List.map_map]
  rfl

/-- A created order is placed. -/
theorem placed_of_created {tenantId : String} {body : PurchaseOrderCreate} {buyer supplier : Counterparty}
    (howned : Owned db) (haccepted : (creationWrites rounding call tenantId body buyer supplier).Accepted db) :
    Placed rounding ((creationWrites rounding call tenantId body buyer supplier).apply db) tenantId body
      (newOrder call tenantId body buyer supplier) := by
  have hfresh (old) (hold : old ∈ db.orders) : (newOrder call tenantId body buyer supplier).id ≠ old.id :=
    RowWrite.key_ne_of_insert haccepted.orders List.mem_cons_self old hold
  refine ⟨List.mem_append_right db.orders (List.mem_singleton.mpr rfl), rfl, rfl, ?_⟩
  rw [orderLinesOf_new howned hfresh]
  exact newOrderLines_quantities rounding call body

/-- A placed order stays placed. -/
theorem Placed.apply {tenantId : String} {body : PurchaseOrderCreate} {order : PurchaseOrder}
    (h : Placed rounding db tenantId body order) (hmove : Move rounding db call writes)
    (hregular : Regular db) (haccepted : writes.Accepted db) :
    ∃ current, current.id = order.id ∧ Placed rounding (writes.apply db) tenantId body current := by
  have hupdate (old changed : PurchaseOrder) (hold : old ∈ db.orders) (hid : changed.id = old.id)
      (htenant : changed.tenantId = old.tenantId) (htotal : changed.total = old.total) :
      ∃ current ∈ RowWrite.applyAll orderConstraints db.orders [.update changed],
        current.id = order.id ∧ current.tenantId = tenantId ∧
          current.total = subtotalOf body.lines + taxOf body.lines :=
    Table.exists_replace (P := fun other ↦ other.id = order.id ∧ other.tenantId = tenantId ∧
      other.total = subtotalOf body.lines + taxOf body.lines) changed hregular.keyed.orders.keys hold hid
      (fun hterms ↦ ⟨hid.trans hterms.1, htenant.trans hterms.2.1, htotal.trans hterms.2.2⟩)
      ⟨order, h.stored, rfl, h.tenant, h.total⟩
  cases hmove with
  | orderCreated tenantId body buyer supplier hrequest hcreates =>
    have hfresh (old) (hold : old ∈ db.orders) : (newOrder call tenantId body buyer supplier).id ≠ old.id :=
      RowWrite.key_ne_of_insert haccepted.orders List.mem_cons_self old hold
    refine ⟨order, rfl, List.mem_append_left _ h.stored, h.tenant, h.total, ?_⟩
    rw [orderLinesOf_other (hfresh order h.stored).symm]
    exact h.quantities
  | orderMoved old status actor hstored haction =>
    obtain ⟨current, hcurrent, hid, htenant, htotal⟩ :=
      hupdate old (old.move status actor) hstored rfl rfl rfl
    exact ⟨current, hid, hcurrent, htenant, htotal, hid ▸ h.quantities⟩
  | receiptPosted _ receipt old lineWrites recalculated hpost =>
    obtain ⟨current, hcurrent, hid, htenant, htotal⟩ :=
      hupdate old (old.fulfil _) (findRow_mem hpost.heldOrder) rfl rfl rfl
    refine ⟨current, hid, hcurrent, htenant, htotal, ?_⟩
    rw [hid, orderLinesOf_posted hregular hpost, List.map_map]
    exact h.quantities
  | receiptCreated => exact ⟨order, rfl, h.stored, h.tenant, h.total, h.quantities⟩
  | recalculated => exact ⟨order, rfl, h.stored, h.tenant, h.total, h.quantities⟩
  | accepted => exact ⟨order, rfl, h.stored, h.tenant, h.total, h.quantities⟩
  | disputed => exact ⟨order, rfl, h.stored, h.tenant, h.total, h.quantities⟩
  | eventNoted => exact ⟨order, rfl, h.stored, h.tenant, h.total, h.quantities⟩
  | invoiceAdded => exact ⟨order, rfl, h.stored, h.tenant, h.total, h.quantities⟩
  | invoiceFollowed => exact ⟨order, rfl, h.stored, h.tenant, h.total, h.quantities⟩

end Step

/-! ## Runs -/

/-- An ERP whose orders are fulfilled as they are accepted, as one with counterparties only is. -/
structure Fulfilments where
  db : ErpDb
  regular : Regular db
  owned : Owned db
  fulfils : Fulfils db

/-- The answer of a call that created an order. -/
def CreatedBy (e : Entry ErpDb ErpCall (Except ErpError ErpAnswer)) (tenantId : String)
    (body : PurchaseOrderCreate) (created : PurchaseOrder) : Prop :=
  e.input.request = .createPurchaseOrder tenantId body ∧ e.output = .ok (.order created)

section Run

variable {rounding : Rounding}

theorem createPurchaseOrder_answer {db : ErpDb} {call : ErpCall} {tenantId : String}
    {body : PurchaseOrderCreate} {answer : ErpAnswer} {rows : Option Writes}
    (h : createPurchaseOrder rounding db call tenantId body = .ok (answer, rows)) :
    ∃ buyer supplier, answer = .order (newOrder call tenantId body buyer supplier) ∧
      rows = some (creationWrites rounding call tenantId body buyer supplier) := by
  obtain ⟨-, h⟩ := ensure_bind_ok.mp h
  obtain ⟨buyer, -, h⟩ := bind_ok.mp h
  obtain ⟨supplier, -, h⟩ := bind_ok.mp h
  obtain ⟨-, h⟩ := ensure_bind_ok.mp h
  obtain ⟨-, h⟩ := ensure_bind_ok.mp h
  obtain ⟨rfl, rfl⟩ := Prod.mk.inj (Except.ok.inj h)
  exact ⟨buyer, supplier, rfl, rfl⟩

/-- Every order that a run has created is placed at its end. -/
theorem placed_run (rounding : Rounding) (start : Fulfilments) (calls : List ErpCall) :
    (Regular ((erp rounding).run start.db calls) ∧ Owned ((erp rounding).run start.db calls) ∧
      Fulfils ((erp rounding).run start.db calls)) ∧
    ∀ e ∈ (erp rounding).log start.db calls, ∀ tenantId body created, CreatedBy e tenantId body created →
      ∃ order, order.id = created.id ∧
        Placed rounding ((erp rounding).run start.db calls) tenantId body order := by
  refine (erp rounding).history_invariant_all (fun history db ↦ (Regular db ∧ Owned db ∧ Fulfils db) ∧
    ∀ e ∈ history, ∀ tenantId body created, CreatedBy e tenantId body created →
      ∃ order, order.id = created.id ∧ Placed rounding db tenantId body order)
    ⟨⟨start.regular, start.owned, start.fulfils⟩, by simp⟩ ?_ calls
  rintro history db call ⟨⟨hregular, howned, hfulfils⟩, hplaced⟩
  have hkept : Fulfils ((erp rounding).step db call).2 := by
    refine (sessions rounding).step_kept Fulfils hfulfils fun answer writes hserve _ haccepted ↦ ?_
    exact hfulfils.apply (move_of_serve hserve) hregular howned (Writes.accepted_iff.mp haccepted)
  obtain ⟨hregularAfter, hownedAfter⟩ := Owned.step rounding ⟨hregular, howned⟩ call
  refine ⟨⟨hregularAfter, hownedAfter, hkept⟩, fun e he tenantId body created hcreated ↦ ?_⟩
  rcases List.mem_append.mp he with hearlier | hlast
  · obtain ⟨order, hid, horder⟩ := hplaced e hearlier tenantId body created hcreated
    refine (sessions rounding).step_kept (fun after ↦ ∃ current, current.id = created.id ∧
      Placed rounding after tenantId body current) ⟨order, hid, horder⟩
      fun answer writes hserve _ haccepted ↦ ?_
    obtain ⟨current, hcurrent, hterms⟩ :=
      horder.apply (move_of_serve hserve) hregular (Writes.accepted_iff.mp haccepted)
    exact ⟨current, hcurrent.trans hid, hterms⟩
  · obtain rfl := List.mem_singleton.mp hlast
    obtain ⟨hrequest, houtput⟩ := hcreated
    have hrequest : call.request = .createPurchaseOrder tenantId body := hrequest
    have houtput : ((erp rounding).step db call).1 = .ok (.order created) := houtput
    have hserve : serve rounding db call = createPurchaseOrder rounding db call tenantId body := by
      simp only [serve, hrequest]
    obtain ⟨rows, hreturns, hcommitted⟩ := (sessions rounding).served_of_output houtput
    obtain ⟨buyer, supplier, hanswer, rfl⟩ := createPurchaseOrder_answer (hserve.symm.trans hreturns)
    obtain rfl := ErpAnswer.order.inj hanswer
    refine ⟨newOrder call tenantId body buyer supplier, rfl, ?_⟩
    obtain ⟨haccepted, hstep⟩ := hcommitted _ rfl
    have hafter : ((erp rounding).step db call).2 =
        (creationWrites rounding call tenantId body buyer supplier).apply db := hstep
    rw [hafter]
    exact placed_of_created howned (Writes.accepted_iff.mp haccepted)

end Run

/-! ## The match of a fully delivered order -/

/-- An invoice without discounts has the lines of an order. -/
structure SameLines (ordered : List PurchaseOrderLineCreate) (invoiced : List Gst.InvoiceLineCreate) :
    Prop where
  terms : (ordered.map fun line ↦ (line.quantity, line.unitPrice, line.taxRate)) =
    invoiced.map fun line ↦ ((line.quantity : Rat), (line.unitPrice : Rat), (line.gstRate : Rat))
  undiscounted : ∀ line ∈ invoiced, line.discount = 0

/-- A registered invoice of an order between its parties, with the total that was created for its lines. -/
structure Invoices (invoice : SupplierInvoice) (order : PurchaseOrder) (lines : List Gst.InvoiceLineCreate)
    (intraState : Bool) : Prop where
  refers : invoice.purchaseOrderId = some order.id
  seller : invoice.sellerGstin = order.sellerGstin
  buyer : invoice.buyerGstin = order.buyerGstin
  registered : invoice.gstStatus = .registered
  total : ∃ amounts, Gst.createInvoice lines intraState = .ok amounts ∧
    invoice.claimedTotal = amounts.totalInvoiceValue

/-- The total that the portal has computed in its decimal context. -/
theorem Invoices.of_portal {invoice : SupplierInvoice} {order : PurchaseOrder}
    {lines : List Gst.Portal.LineCreate} {intraState : Bool} {values : List Gst.LineAmounts}
    {amounts : Gst.InvoiceAmounts} (hlength : lines.length ≤ 100)
    (hcontext : ∀ line ∈ lines, Gst.Portal.InContext line.toInvoiceLineCreate)
    (hnonneg : ∀ line ∈ lines, 0 ≤ Gst.Portal.taxableOf line.toInvoiceLineCreate)
    (hcalculated : Gst.Portal.calculateInvoice (lines.map Gst.Portal.LineCreate.toInvoiceLineCreate) intraState =
      .ok (values, amounts)) (hrefers : invoice.purchaseOrderId = some order.id)
    (hseller : invoice.sellerGstin = order.sellerGstin) (hbuyer : invoice.buyerGstin = order.buyerGstin)
    (hregistered : invoice.gstStatus = .registered) (hclaimed : invoice.claimedTotal = amounts.totalInvoiceValue) :
    Invoices invoice order (lines.map Gst.Portal.LineCreate.toInvoiceLineCreate) intraState where
  refers := hrefers
  seller := hseller
  buyer := hbuyer
  registered := hregistered
  total := ⟨amounts, Gst.Portal.createInvoice_agrees hlength hcontext hnonneg hcalculated, hclaimed⟩

/-- The posted receipts have accepted the ordered quantity of every line. -/
def FullyAccepted (db : ErpDb) (order : PurchaseOrder) : Prop :=
  ∀ line ∈ orderLinesOf db order.id, postedAccepted db line.id = line.quantity

section Match

variable {rounding : Rounding} {db : ErpDb} {tenantId : String} {body : PurchaseOrderCreate}
  {order : PurchaseOrder} {invoice : SupplierInvoice} {lines : List Gst.InvoiceLineCreate} {intraState : Bool}

theorem findOrder_eq_some (hregular : Regular db) (howned : Owned db) (horder : order ∈ db.orders)
    (htenant : order.tenantId = tenantId) (hrefers : invoice.purchaseOrderId = some order.id) :
    findOrder tenantId db.orders invoice = some order := by
  have hnonempty : order.id.isEmpty = false := by
    obtain ⟨digits, hid⟩ := (howned.named order horder).2
    rw [hid, Bool.eq_false_iff]
    simp [String.isEmpty_iff]
  have hfind : (db.orders.find? fun row ↦ row.id == order.id && row.tenantId == tenantId) = some order :=
    Table.find?_eq_some_of_unique horder (by simp [htenant]) fun other hother hselected ↦
      Table.eq_of_key hregular.keyed.orders.keys hother horder
        (beq_iff_eq.mp (Bool.and_eq_true_iff.mp hselected).1)
  simp only [findOrder, hrefers, hnonempty, Bool.false_eq_true, if_false, hfind]

/-- The tenant of an order sees all of its posted receipts. -/
theorem findReceipts_eq (hfulfils : Fulfils db) (horder : order ∈ db.orders)
    (htenant : order.tenantId = tenantId) :
    findReceipts tenantId db.receipts (some order) =
      db.receipts.filter fun row ↦ row.purchaseOrderId == order.id && row.status == .posted := by
  refine List.filter_congr fun row hrow ↦ ?_
  by_cases hrefers : row.purchaseOrderId = order.id
  · have hsame := hfulfils.tenants row hrow order horder hrefers.symm
    simp [← hsame, htenant, hrefers]
  · rw [beq_eq_false_iff_ne.mpr hrefers, Bool.and_false]

/-- An accepted quantity was posted by a receipt of the order. -/
theorem exists_receipt (howned : Owned db) {line : PurchaseOrderLine} (hline : line ∈ db.orderLines)
    (hposted : postedAccepted db line.id ≠ 0) :
    ∃ receipt ∈ db.receipts, receipt.purchaseOrderId = line.purchaseOrderId ∧ receipt.status = .posted := by
  have hrows : db.receiptLines.filter (fun row ↦
      row.purchaseOrderLineId == line.id && isPosted db.receipts row.receiptId) ≠ [] := fun hnone ↦
    hposted (by rw [postedAccepted, postedSum, hnone, Table.sum_nil])
  obtain ⟨row, hrow⟩ := List.exists_mem_of_ne_nil _ hrows
  obtain ⟨hstored, hselected⟩ := List.mem_filter.mp hrow
  rw [Bool.and_eq_true, beq_iff_eq, isPosted_iff] at hselected
  obtain ⟨hlists, receipt, hreceipt, hid, hstatus⟩ := hselected
  exact ⟨receipt, hreceipt, (howned.lined row hstored receipt hreceipt hid line hline hlists.symm).symm,
    hstatus⟩

/-- The quantities of an order with the lines of an invoice are those of the invoice. -/
theorem Placed.quantity_pos (h : Placed rounding db tenantId body order) (hlines : SameLines body.lines lines) :
    ∃ line ∈ orderLinesOf db order.id, 0 < line.quantity := by
  have hquantities : (body.lines.map fun line ↦ rounding.round line.quantity) =
      lines.map Gst.InvoiceLineCreate.quantity := by
    have hterms := congrArg (List.map fun terms : Rat × Rat × Rat ↦ rounding.round terms.1) hlines.terms
    rw [List.map_map, List.map_map] at hterms
    refine hterms.trans (List.map_congr_left fun line _ ↦ ?_)
    exact rounding.round_whole line.quantity
  have hstored := h.quantities.trans hquantities
  cases hfirst : orderLinesOf db order.id with
  | nil =>
    have hlength := congrArg List.length h.quantities
    rw [hfirst, List.map_nil, List.length_nil, List.length_map] at hlength
    exact absurd body.lines_given.1 (by omega)
  | cons line rest =>
    refine ⟨line, List.mem_cons_self, ?_⟩
    rw [hfirst] at hstored
    cases lines with
    | nil => cases hstored
    | cons invoiced others =>
      have hquantity : line.quantity = invoiced.quantity := (List.cons.inj hstored).1
      rw [hquantity]
      exact invoiced.quantity_pos

theorem recalculate_status {orders : List PurchaseOrder} {receipts : List GoodsServiceReceipt}
    {token : String} {claimed : Rat} {done : Recalculated}
    (h : recalculate rounding db tenantId orders receipts token invoice claimed = .ok done) :
    done.write.row.status = (matching tenantId orders receipts invoice claimed).status := by
  unfold recalculate at h
  simp only at h
  split at h
  · obtain rfl := Except.ok.inj h
    rfl
  · obtain ⟨-, h⟩ := ensure_bind_ok.mp h
    obtain rfl := Except.ok.inj h
    rfl

/-- A delivered order and its registered invoice agree in all but their totals. -/
theorem matching_matched_iff (hregular : Regular db) (howned : Owned db) (hfulfils : Fulfils db)
    (horder : Placed rounding db tenantId body order) (hlines : SameLines body.lines lines)
    (haccepted : FullyAccepted db order) (hinvoice : Invoices invoice order lines intraState) (claimed : Rat) :
    (matching tenantId db.orders db.receipts invoice claimed).status = .matched ↔
      claimed ≤ order.total ∧ claimed ≤ postedValue db.receipts order.id := by
  have hfound := findOrder_eq_some hregular howned horder.stored horder.tenant hinvoice.refers
  have hseen := findReceipts_eq hfulfils horder.stored horder.tenant
  have hpositive := horder.quantity_pos hlines
  have hstatus : order.status = .fulfilled := by
    refine hfulfils.fulfilled order horder.stored hpositive fun line hline ↦ ?_
    rw [hfulfils.accepted line (mem_orderLinesOf.mp hline).1, haccepted line hline]
  have hreceipts : (db.receipts.filter fun row ↦
      row.purchaseOrderId == order.id && row.status == .posted).isEmpty = false := by
    obtain ⟨line, hline, hquantity⟩ := hpositive
    obtain ⟨hstored, hof⟩ := mem_orderLinesOf.mp hline
    obtain ⟨receipt, hreceipt, hrefers, hposted⟩ := exists_receipt howned hstored
      (by rw [haccepted line hline]; exact hquantity.ne')
    rw [List.isEmpty_eq_false_iff_exists_mem]
    exact ⟨receipt, List.mem_filter.mpr ⟨hreceipt, by simp [hrefers, hof, hposted]⟩⟩
  have hagree : disagreements invoice (some order) (db.receipts.filter fun row ↦
      row.purchaseOrderId == order.id && row.status == .posted) = [] := by
    simp [disagreements, hinvoice.seller, hinvoice.buyer, hstatus, hreceipts, hinvoice.registered]
  simp only [matching, hfound, hseen, hagree, List.any_nil, Bool.false_eq_true, if_false, Option.map_some,
    Option.getD_some]
  have hshort : (min claimed (min (order.total : Rat) (postedValue db.receipts order.id : Int)) < claimed) ↔
      ¬(claimed ≤ order.total ∧ claimed ≤ postedValue db.receipts order.id) := by
    rw [← le_min_iff, not_le, min_lt_iff, lt_self_iff_false, false_or]
  rw [postedValue] at hshort
  simp only [hshort, decide_not]
  by_cases hwithin : claimed ≤ order.total ∧ claimed ≤ postedValue db.receipts order.id
  · rw [postedValue] at hwithin
    simp [hwithin, postedValue]
  · rw [postedValue] at hwithin
    simp [hwithin, postedValue]

end Match

/-- The match of a fully delivered and correctly invoiced order comes out as matched exactly when it was
not accepted before and the rounded total of the invoice is no higher than those of the order and of its
receipts. -/
theorem full_delivery_matched_iff (rounding : Rounding) (start : Fulfilments) (calls : List ErpCall)
    (tenantId token : String) (body : PurchaseOrderCreate) (lines : List Gst.InvoiceLineCreate)
    (intraState : Bool) (order : PurchaseOrder) (invoice : SupplierInvoice)
    (hcreated : ∃ e ∈ (erp rounding).log start.db calls, ∃ created,
      CreatedBy e tenantId body created ∧ order.id = created.id)
    (horder : order ∈ ((erp rounding).run start.db calls).orders)
    (hlines : SameLines body.lines lines)
    (haccepted : FullyAccepted ((erp rounding).run start.db calls) order)
    (hinvoice : Invoices invoice order lines intraState) :
    (∃ done, recalculate rounding ((erp rounding).run start.db calls) tenantId
        ((erp rounding).run start.db calls).orders ((erp rounding).run start.db calls).receipts token invoice
        invoice.claimedTotal = .ok done ∧ done.write.row.status = .matched) ↔
      (∀ value, (((erp rounding).run start.db calls).invoiceMatches.find? fun row ↦
        row.invoiceId == invoice.id) = some value → value.status.isAccepted = false) ∧
      Table.sum Gst.billed lines ≤ subtotalOf body.lines + taxOf body.lines ∧
      Table.sum Gst.billed lines ≤ postedValue ((erp rounding).run start.db calls).receipts order.id := by
  obtain ⟨⟨hregular, howned, hfulfils⟩, hplaced⟩ := placed_run rounding start calls
  obtain ⟨e, he, created, hcreated, hid⟩ := hcreated
  obtain ⟨placed, hplacedId, hterms⟩ := hplaced e he tenantId body created hcreated
  obtain rfl := Table.eq_of_key hregular.keyed.orders.keys hterms.stored horder (hplacedId.trans hid.symm)
  obtain ⟨amounts, hamounts, htotal⟩ := Gst.createInvoice_total intraState hlines.undiscounted
  obtain ⟨billed, hbilled, hclaimed⟩ := hinvoice.total
  rw [hamounts] at hbilled
  obtain rfl := Except.ok.inj hbilled
  have hmatched := matching_matched_iff hregular howned hfulfils hterms hlines haccepted hinvoice
    invoice.claimedTotal
  rw [hclaimed, htotal, hterms.total, Int.cast_le, Int.cast_le] at hmatched
  rw [← hmatched, ← htotal, ← hclaimed]
  constructor
  · rintro ⟨done, hdone, hstatus⟩
    unfold recalculate at hdone
    simp only at hdone
    split at hdone
    next hnone =>
      obtain rfl := Except.ok.inj hdone
      exact ⟨fun value hvalue ↦ absurd hvalue (by rw [hnone]; nofun), hstatus⟩
    next found hfound =>
      obtain ⟨hopen, hdone⟩ := ensure_bind_ok.mp hdone
      obtain rfl := Except.ok.inj hdone
      refine ⟨fun value hvalue ↦ ?_, hstatus⟩
      rw [hfound] at hvalue
      obtain rfl := Option.some.inj hvalue
      simpa using hopen
  · rintro ⟨hopen, hstatus⟩
    obtain ⟨done, hdone⟩ := recalculate_returns rounding ((erp rounding).run start.db calls) tenantId
      ((erp rounding).run start.db calls).orders ((erp rounding).run start.db calls).receipts token invoice
      invoice.claimedTotal hopen
    refine ⟨done, hdone, ?_⟩
    rw [recalculate_status hdone, hstatus]

/-! ## Rounding up and rounding to even -/

section Pump

def Fulfilments.ofCounterparties (counterparties : List Counterparty) : Fulfilments where
  db := { counterparties := counterparties }
  regular := .of_counterparties counterparties
  owned := .of_counterparties counterparties
  fulfils := .of_counterparties counterparties

/-- One pump at 10.10 with a tax of 5 percent. -/
def pumpOrder : PurchaseOrderCreate where
  poNumber := "PO-2"
  buyerId := "northstar"
  supplierBusinessId := "meridian"
  lines := [⟨1000, 1010, 500, by decide, by decide, by decide⟩]
  number_form := by decide
  lines_given := by decide

def pumpReceipt : ReceiptCreate where
  receiptNumber := "GRN-2"
  purchaseOrderId := "PO-2"
  lines := [⟨"pol_demo_order-1", 1000, 1000, 0, by decide, by decide, none_rejected⟩]
  number_form := secondNumber_valid
  lines_given := by decide

def pumpDelivered : List ErpCall :=
  [drawing "order" (.createPurchaseOrder "tenant" pumpOrder),
    drawing "" (.transitionPurchaseOrder "tenant" "PO-2" .submit 1 "clerk"),
    drawing "" (.transitionPurchaseOrder "tenant" "PO-2" .approve 2 "reviewer"),
    drawing "receipt" (.createReceipt "tenant" pumpReceipt),
    drawing "" (.postReceipt "tenant" "GRN-2" 1)]

def pumpLine : Gst.InvoiceLineCreate where
  quantity := 1000
  unitPrice := 1010
  gstRate := 500
  quantity_pos := by decide
  unitPrice_pos := by decide
  gstRate_range := by decide

/-- The invoice of an order, with a total in hundredths. -/
def invoiceFor (claimedTotal : Int) : SupplierInvoice where
  id := "inv_1"
  tenantId := "tenant"
  invoiceNumber := "inv_1"
  sellerGstin := "29AABCS5678K1Z2"
  buyerGstin := "29AABCB1234F1Z5"
  purchaseOrderId := some "po_demo_order-0"
  claimedTotal := claimedTotal
  gstStatus := .registered
  sourceVersion := 1

/-- The tax of 0.505 is 0.51 in the invoice, and 0.50 in the order and in the receipt. -/
theorem pump_partially_matched :
    SameLines pumpOrder.lines [pumpLine] ∧
      ∃ order ∈ ((erp .halfUp).run counterpartiesOnly.db pumpDelivered).orders,
        Invoices (invoiceFor 1061) order [pumpLine] true ∧
        FullyAccepted ((erp .halfUp).run counterpartiesOnly.db pumpDelivered) order ∧
        ¬∃ done, recalculate .halfUp ((erp .halfUp).run counterpartiesOnly.db pumpDelivered) "tenant"
          ((erp .halfUp).run counterpartiesOnly.db pumpDelivered).orders
          ((erp .halfUp).run counterpartiesOnly.db pumpDelivered).receipts "match" (invoiceFor 1061)
          (invoiceFor 1061).claimedTotal = .ok done ∧ done.write.row.status = .matched := by
  have hbilled : Gst.createInvoice [pumpLine] true = .ok ⟨1010, 26, 25, 0, 1061⟩ := by decide +kernel
  have hstatus : (recalculate .halfUp ((erp .halfUp).run counterpartiesOnly.db pumpDelivered) "tenant"
      ((erp .halfUp).run counterpartiesOnly.db pumpDelivered).orders
      ((erp .halfUp).run counterpartiesOnly.db pumpDelivered).receipts "match" (invoiceFor 1061)
      (invoiceFor 1061).claimedTotal).toOption.map (fun done ↦ done.write.row.status) =
        some .partialMatch := by
    decide +kernel
  have horder : ∃ order ∈ ((erp .halfUp).run counterpartiesOnly.db pumpDelivered).orders,
      order.id = "po_demo_order-0" ∧ order.sellerGstin = "29AABCS5678K1Z2" ∧
        order.buyerGstin = "29AABCB1234F1Z5" ∧
        ∀ line ∈ orderLinesOf ((erp .halfUp).run counterpartiesOnly.db pumpDelivered) order.id,
          postedAccepted ((erp .halfUp).run counterpartiesOnly.db pumpDelivered) line.id = line.quantity := by
    decide +kernel
  obtain ⟨order, horder, hid, hseller, hbuyer, haccepted⟩ := horder
  refine ⟨⟨by decide +kernel, by decide⟩, order, horder, ?_, haccepted, ?_⟩
  · exact ⟨hid ▸ rfl, hseller.symm, hbuyer.symm, rfl, _, hbilled, rfl⟩
  · rintro ⟨done, hdone, hmatched⟩
    rw [hdone] at hstatus
    have hstandsPartly : done.write.row.status = .partialMatch := Option.some.inj hstatus
    rw [hstandsPartly] at hmatched
    cases hmatched

/-- Six motors with a tax of 18 percent and four pumps with one of 12 percent. -/
def machineOrder : PurchaseOrderCreate where
  poNumber := "PO-3"
  buyerId := "northstar"
  supplierBusinessId := "meridian"
  lines :=
    [⟨6000, 25000, 1800, by decide, by decide, by decide⟩, ⟨4000, 12550, 1200, by decide, by decide, by decide⟩]
  number_form := by decide
  lines_given := by decide

def motorsReceipt : ReceiptCreate where
  receiptNumber := "GRN-3"
  purchaseOrderId := "PO-3"
  lines := [⟨"pol_demo_order-1", 6000, 6000, 0, by decide, by decide, none_rejected⟩]
  number_form := by decide
  lines_given := by decide

def pumpsReceipt : ReceiptCreate where
  receiptNumber := "GRN-4"
  purchaseOrderId := "PO-3"
  lines := [⟨"pol_demo_order-2", 4000, 4000, 0, by decide, by decide, none_rejected⟩]
  number_form := by decide
  lines_given := by decide

def machinesDelivered : List ErpCall :=
  [drawing "order" (.createPurchaseOrder "tenant" machineOrder),
    drawing "" (.transitionPurchaseOrder "tenant" "PO-3" .submit 1 "clerk"),
    drawing "" (.transitionPurchaseOrder "tenant" "PO-3" .approve 2 "reviewer"),
    drawing "first" (.createReceipt "tenant" motorsReceipt),
    drawing "second" (.createReceipt "tenant" pumpsReceipt),
    drawing "" (.postReceipt "tenant" "GRN-3" 1),
    drawing "" (.postReceipt "tenant" "GRN-4" 1)]

theorem undiscounted_digits : (0 : Int) < 10 ^ 18 := by decide

/-- The lines of the order as the portal is asked to invoice them. -/
def machineLines : List Gst.Portal.LineCreate :=
  [{ quantity := 6000, unitPrice := 25000, gstRate := 1800, description := "Motor", hsnSac := "8501"
     unit := "NOS", quantity_pos := by decide, unitPrice_pos := by decide, gstRate_range := by decide
     discount_digits := undiscounted_digits },
    { quantity := 4000, unitPrice := 12550, gstRate := 1200, description := "Pump", hsnSac := "8413"
      unit := "NOS", quantity_pos := by decide, unitPrice_pos := by decide, gstRate_range := by decide
      discount_digits := undiscounted_digits }]

theorem machineLines_inContext : ∀ line ∈ machineLines, Gst.Portal.InContext line.toInvoiceLineCreate :=
  List.forall_mem_cons.mpr ⟨⟨by decide, by decide +kernel⟩,
    List.forall_mem_singleton.mpr ⟨by decide, by decide +kernel⟩⟩

/-- Two lines with a tax, delivered one after the other, are matched. -/
theorem machines_matched :
    ∃ done, recalculate .halfUp ((erp .halfUp).run counterpartiesOnly.db machinesDelivered) "tenant"
      ((erp .halfUp).run counterpartiesOnly.db machinesDelivered).orders
      ((erp .halfUp).run counterpartiesOnly.db machinesDelivered).receipts "match" (invoiceFor 233224)
      (invoiceFor 233224).claimedTotal = .ok done ∧ done.write.row.status = .matched := by
  have hbilled : Gst.Portal.calculateInvoice
      (machineLines.map Gst.Portal.LineCreate.toInvoiceLineCreate) true =
        .ok ([⟨150000, 13500, 13500, 0, 177000⟩, ⟨50200, 3012, 3012, 0, 56224⟩],
          ⟨200200, 16512, 16512, 0, 233224⟩) := by
    decide +kernel
  have hnone : (((erp .halfUp).run counterpartiesOnly.db machinesDelivered).invoiceMatches.find? fun row ↦
      row.invoiceId == (invoiceFor 233224).id) = none := by
    decide +kernel
  have horder : ∃ order ∈ ((erp .halfUp).run counterpartiesOnly.db machinesDelivered).orders,
      order.id = "po_demo_order-0" ∧ order.sellerGstin = "29AABCS5678K1Z2" ∧
        order.buyerGstin = "29AABCB1234F1Z5" ∧
        (∀ line ∈ orderLinesOf ((erp .halfUp).run counterpartiesOnly.db machinesDelivered) order.id,
          postedAccepted ((erp .halfUp).run counterpartiesOnly.db machinesDelivered) line.id = line.quantity) ∧
        Table.sum Gst.billed (machineLines.map Gst.Portal.LineCreate.toInvoiceLineCreate) ≤
          postedValue ((erp .halfUp).run counterpartiesOnly.db machinesDelivered).receipts order.id := by
    decide +kernel
  obtain ⟨order, horder, hid, hseller, hbuyer, haccepted, hreceipts⟩ := horder
  have hinvoice : Invoices (invoiceFor 233224) order
      (machineLines.map Gst.Portal.LineCreate.toInvoiceLineCreate) true :=
    .of_portal (by decide) machineLines_inContext (by decide +kernel) hbilled (hid ▸ rfl) hseller.symm
      hbuyer.symm rfl rfl
  refine (full_delivery_matched_iff .halfUp (.ofCounterparties [northstar, meridian]) machinesDelivered "tenant"
    "match" machineOrder _ true order (invoiceFor 233224)
    ⟨_, List.mem_cons_self, newOrder (drawing "order" (.createPurchaseOrder "tenant" machineOrder)) "tenant"
      machineOrder northstar meridian, ⟨rfl, rfl⟩, hid.trans (by decide)⟩ horder
    ⟨by decide +kernel, by decide⟩ haccepted hinvoice).mpr
      ⟨fun value hvalue ↦ ?_, by decide +kernel, hreceipts⟩
  have hfound : none = some value := hnone.symm.trans hvalue
  cases hfound

end Pump

end Xyena.Erp
