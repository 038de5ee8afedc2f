import Xyena.Erp.Receipts

/-!
# Cancelled and rejected orders

An order is cancelled or rejected by a transition that leaves no way back, but
posting a receipt sets its status as well, and a draft receipt may be older than
the cancellation. Such an order is final exactly when no receipt of it is posted.
-/

namespace Xyena.Erp

open Xyena.Foundation Xyena.Foundation.Session

/-! ## Orders, receipts and their lines -/

/-- Lines belong to orders that exist, a receipt lists lines of its own order, and no order number is the
identifier of an order. -/
structure Owned (db : ErpDb) : Prop where
  named : ∀ row ∈ db.orders, documentNumber row.poNumber = true ∧ ∃ digits, row.id = "po_demo_" ++ digits
  placed : ∀ row ∈ db.orderLines, row.purchaseOrderId ∈ db.orders.map PurchaseOrder.id
  listed : ∀ row ∈ db.receiptLines, row.receiptId ∈ db.receipts.map GoodsServiceReceipt.id
  lined : ∀ row ∈ db.receiptLines, ∀ receipt ∈ db.receipts, receipt.id = row.receiptId →
    ∀ line ∈ db.orderLines, line.id = row.purchaseOrderLineId →
      line.purchaseOrderId = receipt.purchaseOrderId

theorem Owned.of_counterparties (counterparties : List Counterparty) :
    Owned { counterparties := counterparties } :=
  ⟨by simp, by simp, by simp, by simp⟩

theorem documentNumber_id (digits : String) : documentNumber ("po_demo_" ++ digits) = false := by
  have hchars : ("po_demo_" ++ digits).toList = 'p' :: ("o_demo_".toList ++ digits.toList) := by
    simp
  have hfirst : ('p'.isUpper || 'p'.isDigit) = false := by decide
  rw [documentNumber, hchars]
  simp only [hfirst, Bool.false_and]

section Step

variable {rounding : Rounding} {db : ErpDb} {call : ErpCall} {writes : Writes}

/-- A posting changes the order of its receipt. -/
theorem Posts.order_id {tenantId : String} {receipt : GoodsServiceReceipt} {order : PurchaseOrder}
    {lineWrites : List (RowWrite PurchaseOrderLine)} {recalculated : List Recalculated}
    (h : Posts rounding db call tenantId receipt order lineWrites recalculated) (hregular : Regular db)
    (howned : Owned db) : order.id = receipt.purchaseOrderId := by
  obtain ⟨_, -, hheld⟩ := h.held
  obtain ⟨own, hown, hownId⟩ := List.mem_map.mp (hregular.ordered receipt (findRow_mem hheld))
  have hselected := findRow_selected h.heldOrder
  simp only [Bool.and_eq_true, Bool.or_eq_true, beq_iff_eq] at hselected
  rcases hselected.2 with hid | hnumber
  · exact hid
  · -- the identifier of an order has lower-case letters, its number has none
    obtain ⟨digits, hdigits⟩ := (howned.named own hown).2
    have hform := (howned.named order (findRow_mem h.heldOrder)).1
    rw [hnumber, ← hownId, hdigits, documentNumber_id] at hform
    cases hform

/-- The order lines after a posting differ in those that the receipt lists. -/
theorem receiveAll_other {receipt : GoodsServiceReceipt} {line : PurchaseOrderLine} (howned : Owned db)
    (hreceipt : receipt ∈ db.receipts) (hline : line ∈ db.orderLines)
    (hother : line.purchaseOrderId ≠ receipt.purchaseOrderId) :
    line.receiveAll (linesOf db receipt.id) = line := by
  have hnone : (linesOf db receipt.id).filter (fun value ↦ value.purchaseOrderLineId == line.id) = [] := by
    refine List.filter_eq_nil_iff.mpr fun row hrow hnamed ↦ ?_
    obtain ⟨hstored, hlisted⟩ := List.mem_filter.mp hrow
    exact hother (howned.lined row hstored receipt hreceipt (beq_iff_eq.mp hlisted).symm line hline
      (beq_iff_eq.mp hnamed).symm)
  simp [PurchaseOrderLine.receiveAll, hnone]

/-- Changed rows keep what refers to them. -/
theorem Owned.of_columns {after : ErpDb} (h : Owned db)
    (horders : ∀ row ∈ after.orders, ∃ old ∈ db.orders, row.id = old.id ∧ row.poNumber = old.poNumber)
    (hids : ∀ id ∈ db.orders.map PurchaseOrder.id, id ∈ after.orders.map PurchaseOrder.id)
    (hlines : ∀ row ∈ after.orderLines, ∃ old ∈ db.orderLines,
      row.id = old.id ∧ row.purchaseOrderId = old.purchaseOrderId)
    (hreceipts : ∀ row ∈ after.receipts, ∃ old ∈ db.receipts,
      row.id = old.id ∧ row.purchaseOrderId = old.purchaseOrderId)
    (hreceiptIds : ∀ id ∈ db.receipts.map GoodsServiceReceipt.id,
      id ∈ after.receipts.map GoodsServiceReceipt.id)
    (hlisted : after.receiptLines = db.receiptLines) : Owned after := by
  refine ⟨fun row hrow ↦ ?_, fun row hrow ↦ ?_, fun row hrow ↦ ?_, ?_⟩
  · obtain ⟨old, hold, hid, hnumber⟩ := horders row hrow
    rw [hid, hnumber]
    exact h.named old hold
  · obtain ⟨old, hold, -, hplaced⟩ := hlines row hrow
    rw [hplaced]
    exact hids _ (h.placed old hold)
  · rw [hlisted] at hrow
    exact hreceiptIds _ (h.listed row hrow)
  · intro row hrow receipt hreceipt hid line hline hlineId
    rw [hlisted] at hrow
    obtain ⟨oldReceipt, holdReceipt, hsame, hrefers⟩ := hreceipts receipt hreceipt
    obtain ⟨oldLine, holdLine, hsameLine, hplaced⟩ := hlines line hline
    rw [hrefers, hplaced]
    exact h.lined row hrow oldReceipt holdReceipt (hsame.symm.trans hid) oldLine holdLine
      (hsameLine.symm.trans hlineId)

theorem Owned.of_same {after : ErpDb} (h : Owned db) (horders : after.orders = db.orders)
    (hlines : after.orderLines = db.orderLines) (hreceipts : after.receipts = db.receipts)
    (hlisted : after.receiptLines = db.receiptLines) : Owned after :=
  h.of_columns (fun row hrow ↦ ⟨row, horders ▸ hrow, rfl, rfl⟩) (fun _ hid ↦ horders ▸ hid)
    (fun row hrow ↦ ⟨row, hlines ▸ hrow, rfl, rfl⟩) (fun row hrow ↦ ⟨row, hreceipts ▸ hrow, rfl, rfl⟩)
    (fun _ hid ↦ hreceipts ▸ hid) hlisted

/-- A stored change of an order keeps its identifier and its number. -/
theorem orders_update {order changed : PurchaseOrder} (hstored : order ∈ db.orders)
    (hid : changed.id = order.id) (hnumber : changed.poNumber = order.poNumber) :
    ∀ row ∈ RowWrite.applyAll orderConstraints db.orders [.update changed],
      ∃ old ∈ db.orders, row.id = old.id ∧ row.poNumber = old.poNumber := by
  intro row hrow
  rcases Table.mem_replace hrow with rfl | ⟨hold, -⟩
  · exact ⟨order, hstored, hid, hnumber⟩
  · exact ⟨row, hold, rfl, rfl⟩

/-- A move keeps rows with the orders that they belong to. -/
theorem Owned.apply (h : Owned db) (hmove : Move rounding db call writes) (hregular : Regular db)
    (haccepted : writes.Accepted db) : Owned (writes.apply db) := by
  cases hmove with
  | orderCreated tenantId body buyer supplier hrequest hcreates =>
    have hfresh := RowWrite.accepted_insert.mp (RowWrite.accepted_of_singleton haccepted.orders)
    have hfreshLines := newOrderLines_fresh haccepted
    have hlines : ((creationWrites rounding call tenantId body buyer supplier).apply db).orderLines =
        db.orderLines ++ newOrderLines rounding call body := RowWrite.applyAll_insert _ _
    refine ⟨?_, ?_, h.listed, ?_⟩
    · exact RowWrite.forall_written h.named haccepted.orders ⟨body.number_form, call.token 0, rfl⟩
    · rw [hlines]
      refine List.forall_mem_append.mpr ⟨fun row hrow ↦ order_kept _ (h.placed row hrow), ?_⟩
      refine List.forall_mem_map.mpr fun line hline ↦ ?_
      exact List.mem_map_of_mem (List.mem_append_right db.orders (List.mem_singleton.mpr rfl))
    · intro row hrow receipt hreceipt hid line hline hlineId
      rw [hlines] at hline
      rcases List.mem_append.mp hline with hold | hnew
      · exact h.lined row hrow receipt hreceipt hid line hold hlineId
      · obtain ⟨old, hold, holdId⟩ := List.mem_map.mp (hregular.delivered row hrow)
        exact absurd (hlineId.trans holdId.symm) (hfreshLines line hnew old hold)
  | orderMoved order status actor hstored haction =>
    exact h.of_columns (orders_update hstored rfl rfl) (fun _ hid ↦ order_kept _ hid)
      (fun row hrow ↦ ⟨row, hrow, rfl, rfl⟩) (fun row hrow ↦ ⟨row, hrow, rfl, rfl⟩) (fun _ hid ↦ hid) rfl
  | receiptCreated tenantId body order checked hstored hchecked =>
    have hfresh := RowWrite.accepted_insert.mp (RowWrite.accepted_of_singleton haccepted.receipts)
    have hlines : ((draftWrites rounding call tenantId body order checked).apply db).receiptLines =
        db.receiptLines ++ newReceiptLines rounding call checked := RowWrite.applyAll_insert _ _
    refine ⟨h.named, h.placed, ?_, ?_⟩
    · rw [hlines]
      refine List.forall_mem_append.mpr ⟨fun row hrow ↦ ?_, List.forall_mem_map.mpr fun line hline ↦ ?_⟩
      · exact RowWrite.key_mem_applyAll receiptConstraints _ (h.listed row hrow)
      · exact List.mem_map_of_mem (List.mem_append_right db.receipts (List.mem_singleton.mpr rfl))
    · intro row hrow receipt hreceipt hid line hline hlineId
      rw [hlines] at hrow
      rcases List.mem_append.mp hrow with hold | hnew
      · obtain ⟨old, hstoredReceipt, holdId⟩ := List.mem_map.mp (h.listed row hold)
        rcases List.mem_append.mp hreceipt with hother | hdraft
        · exact h.lined row hold receipt hother hid line hline hlineId
        · obtain rfl := List.mem_singleton.mp hdraft
          exact absurd (hid.trans holdId.symm) (hfresh old hstoredReceipt).1
      · obtain ⟨checkedLine, hcheckedLine, rfl⟩ := List.mem_map.mp hnew
        have hfits := fits_of_checkLines hchecked checkedLine.1 (List.fst_mem_of_mem_zipIdx hcheckedLine)
        obtain ⟨hstoredLine, hofOrder⟩ := List.mem_filter.mp hfits.stored
        obtain rfl : line = checkedLine.1.2 :=
          Table.eq_of_key hregular.keyed.orderLines.keys hline hstoredLine (hlineId.trans hfits.id.symm)
        rcases List.mem_append.mp hreceipt with hother | hdraft
        · exact absurd hid.symm (hfresh receipt hother).1
        · obtain rfl := List.mem_singleton.mp hdraft
          exact beq_iff_eq.mp hofOrder
  | receiptPosted tenantId receipt order lineWrites recalculated hpost =>
    obtain ⟨_, -, hheld⟩ := hpost.held
    have hreceipt : receipt ∈ db.receipts := findRow_mem hheld
    have hlines := orderLines_post hregular hpost
      (order.fulfil (RowWrite.applyAll orderLineConstraints db.orderLines lineWrites))
    refine h.of_columns (orders_update (findRow_mem hpost.heldOrder) rfl rfl) (fun _ hid ↦ order_kept _ hid)
      (fun row hrow ↦ ?_) (fun row hrow ↦ ?_)
      (fun _ hid ↦ RowWrite.key_mem_applyAll receiptConstraints _ hid) rfl
    · rw [hlines] at hrow
      obtain ⟨old, hold, rfl⟩ := List.mem_map.mp hrow
      exact ⟨old, hold, rfl, rfl⟩
    · rcases Table.mem_replace hrow with rfl | ⟨hold, -⟩
      · exact ⟨receipt, hreceipt, rfl, rfl⟩
      · exact ⟨row, hold, rfl, rfl⟩
  | recalculated => exact h.of_same rfl rfl rfl rfl
  | accepted => exact h.of_same rfl rfl rfl rfl
  | disputed => exact h.of_same rfl rfl rfl rfl
  | eventNoted => exact h.of_same rfl rfl rfl rfl
  | invoiceAdded => exact h.of_same rfl rfl rfl rfl
  | invoiceFollowed => exact h.of_same rfl rfl rfl rfl

end Step

theorem Owned.step (rounding : Rounding) {db : ErpDb} (h : Regular db ∧ Owned db) (call : ErpCall) :
    Regular ((erp rounding).step db call).2 ∧ Owned ((erp rounding).step db call).2 := by
  refine ⟨h.1.step rounding call, (sessions rounding).step_kept Owned h.2 ?_⟩
  intro answer writes hserve _ haccepted
  exact h.2.apply (move_of_serve hserve) h.1 (Writes.accepted_iff.mp haccepted)

/-! ## The standing of an order -/

/-- The status of an order, and what was received and accepted of its lines. -/
structure Standing where
  status : Option OrderStatus
  quantities : List (String × Int × Int)

def standing (orderId : String) (db : ErpDb) : Standing where
  status := (db.orders.find? fun row ↦ row.id == orderId).map PurchaseOrder.status
  quantities := (db.orderLines.filter fun row ↦ row.purchaseOrderId == orderId).map fun row ↦
    (row.id, row.receivedQuantity, row.acceptedQuantity)

def OrderStatus.Ended (status : OrderStatus) : Prop := status = .cancelled ∨ status = .rejected

def Standing.Ended (value : Standing) : Prop := ∃ status, value.status = some status ∧ status.Ended

section Standing

variable {rounding : Rounding} {db : ErpDb} {call : ErpCall} {writes : Writes} {orderId : String}

theorem findOrder_eq (hkeyed : db.WellKeyed) {order : PurchaseOrder} (horder : order ∈ db.orders) :
    (db.orders.find? fun row ↦ row.id == order.id) = some order :=
  Table.find?_eq_some_of_unique horder (beq_self_eq_true _) fun _ hother hsame ↦
    Table.eq_of_key hkeyed.orders.keys hother horder (beq_iff_eq.mp hsame)

theorem standing_status (hkeyed : db.WellKeyed) {order : PurchaseOrder} (horder : order ∈ db.orders) :
    (standing order.id db).status = some order.status := by
  rw [standing, findOrder_eq hkeyed horder, Option.map_some]

/-- The order with an ended standing. -/
theorem Standing.Ended.order (h : (standing orderId db).Ended) :
    ∃ order ∈ db.orders, order.id = orderId ∧ order.status.Ended := by
  obtain ⟨status, hstatus, hended⟩ := h
  obtain ⟨order, hfind, rfl⟩ := Option.map_eq_some_iff.mp hstatus
  have hid := List.find?_some hfind
  exact ⟨order, List.mem_of_find?_eq_some hfind, beq_iff_eq.mp hid, hended⟩

/-- No transition starts at an ended order. -/
theorem transitions_ended {status next : OrderStatus} {action : OrderAction} (h : status.Ended) :
    transitions status action ≠ some next := by
  rcases h with rfl | rfl <;> cases action <;> nofun

/-- The status of an order stays when no written order with its identifier has another one. -/
theorem status_kept (hkeyed : (writes.apply db).WellKeyed) {order : PurchaseOrder}
    (horder : order ∈ db.orders)
    (hkept : ∀ changed, RowWrite.update changed ∈ writes.orders → changed.id = order.id →
      changed.status = order.status) :
    (standing order.id (writes.apply db)).status = some order.status := by
  obtain ⟨current, hcurrent, hid, hstatus⟩ := RowWrite.exists_applyAll orderConstraints
    (fun row ↦ row.status = order.status) horder rfl hkept
  have hsame : current.id = order.id := hid
  rw [← hsame, standing_status hkeyed hcurrent, hstatus]

/-- The lines of a new order are none of another one. -/
theorem quantities_created {tenantId : String} {body : PurchaseOrderCreate} {buyer supplier : Counterparty}
    (haccepted : (creationWrites rounding call tenantId body buyer supplier).Accepted db)
    {order : PurchaseOrder} (horder : order ∈ db.orders) :
    (standing order.id ((creationWrites rounding call tenantId body buyer supplier).apply db)).quantities =
      (standing order.id db).quantities := by
  have hfresh := RowWrite.accepted_insert.mp (RowWrite.accepted_of_singleton haccepted.orders)
  have hlines : ((creationWrites rounding call tenantId body buyer supplier).apply db).orderLines =
      db.orderLines ++ newOrderLines rounding call body := RowWrite.applyAll_insert _ _
  have hnone : (newOrderLines rounding call body).filter (fun row ↦ row.purchaseOrderId == order.id) =
      [] := by
    refine List.filter_eq_nil_iff.mpr fun row hrow hof ↦ ?_
    obtain ⟨line, -, rfl⟩ := List.mem_map.mp hrow
    exact (hfresh order horder).1 (beq_iff_eq.mp hof)
  rw [standing, hlines, List.filter_append, hnone, List.append_nil]
  rfl

/-- A posting changes no line of another order. -/
theorem quantities_posted {tenantId : String} {receipt : GoodsServiceReceipt} {order : PurchaseOrder}
    {lineWrites : List (RowWrite PurchaseOrderLine)} {recalculated : List Recalculated}
    (hpost : Posts rounding db call tenantId receipt order lineWrites recalculated) (hregular : Regular db)
    (howned : Owned db) (changed : PurchaseOrder) (hother : orderId ≠ order.id) :
    (standing orderId ((postingWrites receipt.post changed lineWrites recalculated).apply db)).quantities =
      (standing orderId db).quantities := by
  obtain ⟨_, -, hheld⟩ := hpost.held
  simp only [standing, orderLines_post hregular hpost changed]
  rw [List.filter_map, List.map_map]
  have hselected : ((fun row : PurchaseOrderLine ↦ row.purchaseOrderId == orderId) ∘
      PurchaseOrderLine.receiveAll (linesOf db receipt.id)) = fun row ↦ row.purchaseOrderId == orderId := rfl
  rw [hselected]
  refine List.map_congr_left fun line hline ↦ ?_
  obtain ⟨hstored, hof⟩ := List.mem_filter.mp hline
  have hsame : line.receiveAll (linesOf db receipt.id) = line := by
    refine receiveAll_other howned (findRow_mem hheld) hstored ?_
    rw [beq_iff_eq.mp hof, ← hpost.order_id hregular howned]
    exact hother
  rw [Function.comp_apply, hsame]

end Standing

/-! ## The exact condition -/

/-- A posting to an order that passes its checks and whose rows the database admits. -/
def PostableTo (rounding : Rounding) (db : ErpDb) (call : ErpCall) (order : PurchaseOrder) : Prop :=
  call.refused = false ∧ ∃ tenantId receipt lineWrites recalculated,
    Posts rounding db call tenantId receipt order lineWrites recalculated ∧
    (postingWrites receipt.post
      (order.fulfil (RowWrite.applyAll orderLineConstraints db.orderLines lineWrites)) lineWrites
      recalculated).Accepted db

/-- No receipt of a cancelled or rejected order is posted. -/
def SparesEnded (rounding : Rounding) (db : ErpDb) (call : ErpCall) : Prop :=
  ∀ order, PostableTo rounding db call order → ¬order.status.Ended

section Condition

variable {rounding : Rounding} {db : ErpDb} {call : ErpCall} {writes : Writes}

theorem fulfil_not_ended (order : PurchaseOrder) (orderLines : List PurchaseOrderLine) :
    ¬(order.fulfil orderLines).status.Ended := by
  simp only [PurchaseOrder.fulfil, OrderStatus.Ended]
  split <;> simp

/-- A move that spares ended orders keeps the standing of each. -/
theorem Move.standing_kept (hmove : Move rounding db call writes) (hregular : Regular db)
    (howned : Owned db) (hrefused : call.refused = false) (haccepted : writes.Accepted db)
    (hspares : SparesEnded rounding db call) {orderId : String} (hended : (standing orderId db).Ended) :
    standing orderId (writes.apply db) = standing orderId db := by
  obtain ⟨order, horder, rfl, hstatus⟩ := hended.order
  have hkeyed := hregular.keyed.apply haccepted
  have hbefore := standing_status hregular.keyed horder
  suffices hparts : (standing order.id (writes.apply db)).status = some order.status ∧
      (standing order.id (writes.apply db)).quantities = (standing order.id db).quantities by
    rw [← hbefore] at hparts
    exact Standing.mk.injEq _ _ _ _ ▸ hparts
  cases hmove with
  | orderCreated tenantId body buyer supplier hrequest hcreates =>
    refine ⟨status_kept hkeyed horder fun changed hchanged ↦ ?_, quantities_created haccepted horder⟩
    cases List.mem_singleton.mp hchanged
  | orderMoved moved status actor hstored haction =>
    refine ⟨status_kept hkeyed horder fun changed hchanged hid ↦ ?_, rfl⟩
    obtain rfl := RowWrite.update.inj (List.mem_singleton.mp hchanged)
    obtain rfl := Table.eq_of_key hregular.keyed.orders.keys hstored horder hid
    obtain ⟨action, haction⟩ := haction
    exact absurd haction (transitions_ended hstatus)
  | receiptPosted tenantId receipt found lineWrites recalculated hpost =>
    have hother : order.id ≠ found.id := by
      intro hsame
      obtain rfl := Table.eq_of_key hregular.keyed.orders.keys horder (findRow_mem hpost.heldOrder) hsame
      exact hspares order ⟨hrefused, _, _, _, _, hpost, haccepted⟩ hstatus
    refine ⟨status_kept hkeyed horder fun changed hchanged hid ↦ ?_,
      quantities_posted hpost hregular howned _ hother⟩
    obtain rfl := RowWrite.update.inj (List.mem_singleton.mp hchanged)
    exact absurd hid.symm hother
  | receiptCreated => exact ⟨status_kept hkeyed horder fun _ h ↦ (List.not_mem_nil h).elim, rfl⟩
  | recalculated => exact ⟨status_kept hkeyed horder fun _ h ↦ (List.not_mem_nil h).elim, rfl⟩
  | accepted => exact ⟨status_kept hkeyed horder fun _ h ↦ (List.not_mem_nil h).elim, rfl⟩
  | disputed => exact ⟨status_kept hkeyed horder fun _ h ↦ (List.not_mem_nil h).elim, rfl⟩
  | eventNoted => exact ⟨status_kept hkeyed horder fun _ h ↦ (List.not_mem_nil h).elim, rfl⟩
  | invoiceAdded => exact ⟨status_kept hkeyed horder fun _ h ↦ (List.not_mem_nil h).elim, rfl⟩
  | invoiceFollowed => exact ⟨status_kept hkeyed horder fun _ h ↦ (List.not_mem_nil h).elim, rfl⟩

/-- A call keeps the standing of all ended orders exactly when it posts no receipt of one. -/
theorem standing_step_iff (hregular : Regular db) (howned : Owned db) :
    (∀ orderId, (standing orderId db).Ended →
      standing orderId ((erp rounding).step db call).2 = standing orderId db) ↔
      SparesEnded rounding db call := by
  constructor
  · rintro hkept order ⟨hrefused, tenantId, receipt, lineWrites, recalculated, hpost, haccepted⟩ hended
    have hstored : order ∈ db.orders := findRow_mem hpost.heldOrder
    have hbefore := standing_status hregular.keyed hstored
    have hstep := hkept order.id ⟨order.status, hbefore, hended⟩
    rw [step_of_posts hpost hrefused haccepted] at hstep
    have hreplaced : order.fulfil (RowWrite.applyAll orderLineConstraints db.orderLines lineWrites) ∈
        Table.replace PurchaseOrder.id (order.fulfil
          (RowWrite.applyAll orderLineConstraints db.orderLines lineWrites)) db.orders :=
      Table.changed_mem_replace hstored rfl
    have hafter := standing_status (hregular.keyed.apply haccepted) hreplaced
    have hid : (order.fulfil (RowWrite.applyAll orderLineConstraints db.orderLines lineWrites)).id =
        order.id := rfl
    rw [hid, hstep, hbefore] at hafter
    exact fulfil_not_ended order _ (Option.some.inj hafter ▸ hended)
  · intro hspares orderId hended
    refine (sessions rounding).step_kept (fun after ↦ standing orderId after = standing orderId db) rfl ?_
    intro answer writes hserve hrefused haccepted
    exact (move_of_serve hserve).standing_kept hregular howned hrefused (Writes.accepted_iff.mp haccepted)
      hspares hended

end Condition

/-- An ERP whose rows belong together, as one with counterparties only does. -/
structure Procurement where
  db : ErpDb
  regular : Regular db
  owned : Owned db

/-- Cancelled and rejected orders are final in a run exactly when no receipt of one is posted. -/
theorem ended_orders_final_iff (rounding : Rounding) (start : Procurement) (calls : List ErpCall) :
    (∀ orderId, (erp rounding).Final (standing orderId) Standing.Ended start.db calls) ↔
      ∀ e ∈ (erp rounding).log start.db calls, SparesEnded rounding e.before e.input := by
  simp only [Machine.final_iff]
  rw [forall_comm]
  simp only [forall_comm (α := String)]
  exact (erp rounding).forall_log_iff (fun db ↦ Regular db ∧ Owned db) ⟨start.regular, start.owned⟩
    (fun _ call h ↦ Owned.step rounding h call) (fun _ _ h ↦ standing_step_iff h.1 h.2) calls

def Procurement.ofCounterparties (counterparties : List Counterparty) : Procurement where
  db := { counterparties := counterparties }
  regular := .of_counterparties counterparties
  owned := .of_counterparties counterparties

def openProcurement : Procurement := .ofCounterparties [northstar, meridian]

/-- The order is cancelled while a draft for it is open, and the draft is posted. -/
def motorsCancelled : List ErpCall :=
  [drawing "order" (.createPurchaseOrder "tenant" (motorOrder "PO-1" orderNumber_valid)),
    drawing "" (.transitionPurchaseOrder "tenant" "PO-1" .submit 1 "clerk"),
    drawing "" (.transitionPurchaseOrder "tenant" "PO-1" .approve 2 "reviewer"),
    drawing "draft" (.createReceipt "tenant" (motorReceipt "GRN-1" firstNumber_valid)),
    drawing "" (.transitionPurchaseOrder "tenant" "PO-1" .cancel 3 "reviewer")]

theorem cancelled_order_fulfilled :
    ¬ ∀ orderId, (erp .halfUp).Final (standing orderId) Standing.Ended openProcurement.db
      (motorsCancelled ++ [drawing "" (.postReceipt "tenant" "GRN-1" 1)]) := by
  intro h
  have hbefore : (standing "po_demo_order-0" ((erp .halfUp).run openProcurement.db
      motorsCancelled)).status = some .cancelled := by
    decide +kernel
  have hafter : (standing "po_demo_order-0" ((erp .halfUp).run openProcurement.db
      (motorsCancelled ++ [drawing "" (.postReceipt "tenant" "GRN-1" 1)]))).status = some .fulfilled := by
    decide +kernel
  have hsame := h "po_demo_order-0" motorsCancelled [drawing "" (.postReceipt "tenant" "GRN-1" 1)] []
    (by simp) ⟨.cancelled, hbefore, Or.inl rfl⟩
  rw [hsame, hbefore] at hafter
  cases hafter

end Xyena.Erp
