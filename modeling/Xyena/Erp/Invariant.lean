import Xyena.Erp.Moves

/-!
# What every commit of the ERP keeps

The tables refer to each other: a receipt to its order, a receipt line to an
order line, a match to its invoice and an acceptance to its match. Rows are
never deleted and these columns never change. Prices, quantities and values are
never negative.
-/

namespace Xyena.Erp

open Xyena.Foundation Xyena.Foundation.Session

/-- The tables meet their keys, refer to rows that exist, and have no negative amounts. -/
structure Regular (db : ErpDb) : Prop where
  keyed : db.WellKeyed
  prices : ∀ row ∈ db.orderLines, 0 ≤ row.quantity ∧ 0 ≤ row.unitPrice ∧ 0 ≤ row.taxRate
  values : ∀ row ∈ db.receipts, 0 ≤ row.acceptedValue
  amounts : ∀ row ∈ db.acceptances, 0 ≤ row.acceptedAmount
  ordered : ∀ row ∈ db.receipts, row.purchaseOrderId ∈ db.orders.map PurchaseOrder.id
  delivered : ∀ row ∈ db.receiptLines,
    row.purchaseOrderLineId ∈ db.orderLines.map PurchaseOrderLine.id
  invoiced : ∀ row ∈ db.invoiceMatches, row.invoiceId ∈ db.invoices.map SupplierInvoice.id
  matched : ∀ row ∈ db.acceptances, row.matchId ∈ db.invoiceMatches.map InvoiceMatch.id

/-- An ERP with counterparties and nothing else. -/
theorem Regular.of_counterparties (counterparties : List Counterparty) :
    Regular { counterparties := counterparties } where
  keyed := ⟨meets_nil _, meets_nil _, meets_nil _, meets_nil _, meets_nil _, meets_nil _, meets_nil _,
    meets_nil _⟩
  prices := by simp
  values := by simp
  amounts := by simp
  ordered := by simp
  delivered := by simp
  invoiced := by simp
  matched := by simp

/-! ## Checked receipt lines -/

/-- A requested receipt line fits the order line that it is about. -/
structure Fits (orderLines : List PurchaseOrderLine) (requested : ReceiptLineCreate)
    (line : PurchaseOrderLine) : Prop where
  stored : line ∈ orderLines
  id : line.id = requested.purchaseOrderLineId
  split : requested.acceptedQuantity + requested.rejectedQuantity = requested.receivedQuantity
  within : requested.receivedQuantity ≤ (line.quantity - line.receivedQuantity : Int)

theorem Fits.accepted_le {orderLines : List PurchaseOrderLine} {requested : ReceiptLineCreate}
    {line : PurchaseOrderLine} (h : Fits orderLines requested line) :
    requested.acceptedQuantity ≤ requested.receivedQuantity := by
  rw [← h.split]
  linarith [requested.rejectedQuantity_nonneg]

theorem fits_of_checkLine {orderLines : List PurchaseOrderLine} {requested : ReceiptLineCreate}
    {line : PurchaseOrderLine} (h : checkLine orderLines requested = .ok line) :
    Fits orderLines requested line := by
  unfold checkLine at h
  split at h
  · cases h
  next found hfind =>
    obtain ⟨hsplit, h⟩ := ensure_bind_ok.mp h
    obtain ⟨hwithin, h⟩ := ensure_bind_ok.mp h
    obtain rfl := Except.ok.inj h
    have hid := List.find?_some hfind
    exact ⟨List.mem_of_find?_eq_some hfind, beq_iff_eq.mp hid, beq_iff_eq.mp hsplit,
      of_decide_eq_true hwithin⟩

/-- Every line of a checked receipt fits. -/
theorem fits_of_checkLines {orderLines : List PurchaseOrderLine} {lines : List ReceiptLineCreate}
    {checked : List (ReceiptLineCreate × PurchaseOrderLine)}
    (h : checkLines orderLines lines = .ok checked) :
    ∀ line ∈ checked, Fits orderLines line.1 line.2 := by
  induction lines generalizing checked with
  | nil =>
    obtain rfl := Except.ok.inj h
    simp
  | cons requested rest ih =>
    obtain ⟨line, hline, h⟩ := bind_ok.mp h
    obtain ⟨others, hothers, h⟩ := bind_ok.mp h
    obtain rfl := Except.ok.inj h
    exact List.forall_mem_cons.mpr ⟨fits_of_checkLine hline, ih hothers⟩

theorem lineValue_nonneg {line : PurchaseOrderLine} {quantity : Rat} (hprice : 0 ≤ line.unitPrice)
    (htax : 0 ≤ line.taxRate) (hquantity : 0 ≤ quantity) : 0 ≤ lineValue line quantity := by
  have hprice' : (0 : Rat) ≤ line.unitPrice := by exact_mod_cast hprice
  have htax' : (0 : Rat) ≤ line.taxRate := by exact_mod_cast htax
  exact halfEven_nonneg (by positivity)

theorem sum_nonneg {Row : Type} {column : Row → Int} {rows : List Row}
    (h : ∀ row ∈ rows, 0 ≤ column row) : 0 ≤ Table.sum column rows := by
  rw [← Table.sum_zero rows]
  exact Table.sum_le_sum h

/-! ## Received order lines -/

/-- An order line after the lines of a receipt: what they add to it are the sums of those that name it. -/
def PurchaseOrderLine.receiveAll (values : List ReceiptLine) (line : PurchaseOrderLine) :
    PurchaseOrderLine :=
  { line with
    receivedQuantity := line.receivedQuantity + Table.sum ReceiptLine.receivedQuantity
      (values.filter fun value ↦ value.purchaseOrderLineId == line.id)
    acceptedQuantity := line.acceptedQuantity + Table.sum ReceiptLine.acceptedQuantity
      (values.filter fun value ↦ value.purchaseOrderLineId == line.id) }

theorem receive_id (value : ReceiptLine) (line : PurchaseOrderLine) : (line.receive value).id = line.id := rfl

theorem receiveAll_receive (value : ReceiptLine) (rest : List ReceiptLine) (line : PurchaseOrderLine) :
    (if line.id == value.purchaseOrderLineId then line.receive value else line).receiveAll rest =
      line.receiveAll (value :: rest) := by
  by_cases hid : line.id = value.purchaseOrderLineId
  · simp [PurchaseOrderLine.receiveAll, PurchaseOrderLine.receive, hid, Int.add_assoc]
  · simp [PurchaseOrderLine.receiveAll, hid, Ne.symm hid]

@[simp] theorem receiveAll_nil (line : PurchaseOrderLine) : line.receiveAll [] = line := by
  simp [PurchaseOrderLine.receiveAll]

/-- The loop over the lines of a receipt adds these sums to every order line. -/
theorem receiveLines_apply {orderLines : List PurchaseOrderLine} {values : List ReceiptLine}
    {writes : List (RowWrite PurchaseOrderLine)} (hkeys : (orderLines.map PurchaseOrderLine.id).Nodup)
    (h : receiveLines orderLines values = .ok writes) :
    RowWrite.applyAll orderLineConstraints orderLines writes =
      orderLines.map (PurchaseOrderLine.receiveAll values) := by
  induction values generalizing orderLines writes with
  | nil =>
    obtain rfl := Except.ok.inj h
    have hid : PurchaseOrderLine.receiveAll [] = id := funext receiveAll_nil
    rw [hid, List.map_id, RowWrite.applyAll_nil]
  | cons value rest ih =>
    unfold receiveLines at h
    split at h
    · cases h
    next line hfind =>
      obtain ⟨others, hothers, h⟩ := bind_ok.mp h
      obtain rfl := Except.ok.inj h
      have hid : line.id = value.purchaseOrderLineId := by simpa using List.find?_some hfind
      have hstored := List.mem_of_find?_eq_some hfind
      have hwritten : RowWrite.apply orderLineConstraints orderLines (.update (line.receive value)) =
          Table.update (fun row ↦ row.id == line.id) (fun row ↦ row.receive value) orderLines :=
        Table.replace_eq_update hkeys hstored (fun row ↦ row.receive value) rfl
      have hsame : (Table.update (fun row ↦ row.id == line.id) (fun row ↦ row.receive value)
          orderLines).map PurchaseOrderLine.id = orderLines.map PurchaseOrderLine.id :=
        Table.map_update PurchaseOrderLine.id (receive_id value) orderLines
      rw [hwritten] at hothers
      rw [RowWrite.applyAll_cons, hwritten, ih (hsame ▸ hkeys) hothers, Table.update, List.map_map, hid]
      exact List.map_congr_left fun row _ ↦ receiveAll_receive value rest row

/-! ## Written matches -/

/-- A written match is a new one of an invoice or the one that the invoice has. -/
structure MatchOf (db : ErpDb) (invoiceId : String) (write : RowWrite InvoiceMatch) : Prop where
  ofInvoice : write.row.invoiceId = invoiceId
  stored : ∀ changed, write = .update changed →
    ∃ value ∈ db.invoiceMatches, value.id = changed.id ∧ value.invoiceId = invoiceId

theorem MatchOf.of_update {db : ErpDb} {value changed : InvoiceMatch} (hstored : value ∈ db.invoiceMatches)
    (hid : value.id = changed.id) (hinvoice : changed.invoiceId = value.invoiceId) :
    MatchOf db value.invoiceId (.update changed) :=
  ⟨hinvoice, fun _ h ↦ ⟨value, hstored, hid.trans (congrArg InvoiceMatch.id (RowWrite.update.inj h)), rfl⟩⟩

section Written

variable {rounding : Rounding} {db : ErpDb} {call : ErpCall} {tenantId token : String}
  {orders : List PurchaseOrder} {receipts : List GoodsServiceReceipt} {invoice : SupplierInvoice}
  {claimed : Rat} {done : Recalculated}

theorem recalculate_matchOf
    (h : recalculate rounding db tenantId orders receipts token invoice claimed = .ok done) :
    MatchOf db invoice.id done.write := by
  unfold recalculate at h
  simp only at h
  split at h
  · obtain rfl := Except.ok.inj h
    refine ⟨rfl, fun changed hchanged ↦ ?_⟩
    cases hchanged
  next value hfind =>
    obtain ⟨-, h⟩ := ensure_bind_ok.mp h
    obtain rfl := Except.ok.inj h
    have hinvoice : value.invoiceId = invoice.id := by simpa using List.find?_some hfind
    rw [← hinvoice]
    exact .of_update (List.mem_of_find?_eq_some hfind) rfl rfl

/-- A recalculation changes only the status of the invoice. -/
theorem recalculate_invoice
    (h : recalculate rounding db tenantId orders receipts token invoice claimed = .ok done) :
    done.invoice = invoice.setMatching done.write.row.status := by
  unfold recalculate at h
  simp only at h
  split at h
  · obtain rfl := Except.ok.inj h
    rfl
  · obtain ⟨-, h⟩ := ensure_bind_ok.mp h
    obtain rfl := Except.ok.inj h
    rfl

/-- A posting recalculates the matches of invoices of its order, over the receipts as they were or with
the posted one. -/
theorem recalculateAll_mem {receipt : GoodsServiceReceipt} {added : Nat} {invoices : List SupplierInvoice}
    {recalculated : List Recalculated}
    (h : recalculateAll rounding db call tenantId orders receipt added invoices = .ok recalculated) :
    ∀ done ∈ recalculated, ∃ invoice ∈ invoices, ∃ token seen,
      (seen = db.receipts ∨ seen = RowWrite.applyAll receiptConstraints db.receipts [.update receipt]) ∧
      recalculate rounding db tenantId orders seen token invoice invoice.claimedTotal = .ok done := by
  induction invoices generalizing added recalculated with
  | nil =>
    obtain rfl := Except.ok.inj h
    simp
  | cons invoice rest ih =>
    obtain ⟨first, hfirst, h⟩ := bind_ok.mp h
    obtain ⟨others, hothers, h⟩ := bind_ok.mp h
    obtain rfl := Except.ok.inj h
    refine List.forall_mem_cons.mpr ⟨⟨invoice, List.mem_cons_self, _, _, ?_, hfirst⟩, ?_⟩
    · split
      · exact Or.inl rfl
      · exact Or.inr rfl
    · intro done hdone
      obtain ⟨other, hother, hrest⟩ := ih hothers done hdone
      exact ⟨other, List.mem_cons_of_mem _ hother, hrest⟩

theorem Settles.id {event : GstEventEnvelope} {settled : SupplierInvoice}
    {changed : List (RowWrite InvoiceMatch)}
    (h : Settles rounding db call event invoice claimed settled changed) : settled.id = invoice.id := by
  cases h with
  | unmatched => rfl
  | reviewed => rfl
  | recalculated done h => rw [recalculate_invoice h, SupplierInvoice.setMatching]

theorem Settles.purchaseOrderId {event : GstEventEnvelope} {settled : SupplierInvoice}
    {changed : List (RowWrite InvoiceMatch)}
    (h : Settles rounding db call event invoice claimed settled changed) :
    settled.purchaseOrderId = invoice.purchaseOrderId := by
  cases h with
  | unmatched => rfl
  | reviewed => rfl
  | recalculated done h => rw [recalculate_invoice h, SupplierInvoice.setMatching]

theorem Settles.matchOf {event : GstEventEnvelope} {settled : SupplierInvoice}
    {changed : List (RowWrite InvoiceMatch)}
    (h : Settles rounding db call event invoice claimed settled changed) :
    ∀ write ∈ changed, MatchOf db invoice.id write := by
  cases h with
  | unmatched => simp
  | reviewed value found again hstored hinvoice =>
    rw [List.forall_mem_singleton, ← hinvoice]
    exact .of_update hstored rfl rfl
  | recalculated done h => exact List.forall_mem_singleton.mpr (recalculate_matchOf h)

end Written

@[simp] theorem follow_id (rounding : Rounding) (event : GstEventEnvelope) (invoice : SupplierInvoice)
    (snapshot : Option GstInvoiceSnapshot) : (invoice.follow rounding event snapshot).id = invoice.id := by
  cases snapshot <;> rfl

theorem eventInvoice_mem {db : ErpDb} {event : GstEventEnvelope} {invoice : SupplierInvoice}
    (h : eventInvoice db event = some invoice) : invoice ∈ db.invoices :=
  List.mem_of_find?_eq_some (Option.filter_eq_some_iff.mp h).1

/-! ## Moves -/

section Step

variable {rounding : Rounding} {db : ErpDb} {call : ErpCall} {writes : Writes}

theorem order_kept (writes : Writes) {id : String} (h : id ∈ db.orders.map PurchaseOrder.id) :
    id ∈ (writes.apply db).orders.map PurchaseOrder.id :=
  RowWrite.key_mem_applyAll orderConstraints writes.orders h

theorem orderLine_kept (writes : Writes) {id : String}
    (h : id ∈ db.orderLines.map PurchaseOrderLine.id) :
    id ∈ (writes.apply db).orderLines.map PurchaseOrderLine.id :=
  RowWrite.key_mem_applyAll orderLineConstraints writes.orderLines h

theorem invoice_kept (writes : Writes) {id : String} (h : id ∈ db.invoices.map SupplierInvoice.id) :
    id ∈ (writes.apply db).invoices.map SupplierInvoice.id :=
  RowWrite.key_mem_applyAll invoiceConstraints writes.invoices h

theorem match_kept (writes : Writes) {id : String} (h : id ∈ db.invoiceMatches.map InvoiceMatch.id) :
    id ∈ (writes.apply db).invoiceMatches.map InvoiceMatch.id :=
  RowWrite.key_mem_applyAll matchConstraints writes.invoiceMatches h

/-- A move writes matches of invoices that are stored when it is done. -/
theorem Move.matchOf (hmove : Move rounding db call writes) (h : Regular db) :
    ∀ write ∈ writes.invoiceMatches, MatchOf db write.row.invoiceId write ∧
      write.row.invoiceId ∈ (writes.apply db).invoices.map SupplierInvoice.id := by
  cases hmove with
  | orderCreated => simp [creationWrites]
  | orderMoved => simp
  | receiptCreated => simp [draftWrites]
  | eventNoted => simp
  | receiptPosted tenantId receipt order lineWrites recalculated hpost =>
    intro write hwrite
    obtain ⟨done, hdone, rfl⟩ := List.mem_map.mp hwrite
    obtain ⟨invoice, hinvoice, token, seen, -, hdone⟩ := recalculateAll_mem hpost.matched done hdone
    have hmatch := recalculate_matchOf hdone
    rw [hmatch.ofInvoice]
    exact ⟨hmatch, invoice_kept _ (List.mem_map_of_mem (List.mem_filter.mp hinvoice).1)⟩
  | recalculated tenantId invoice done hstored hdone =>
    rw [List.forall_mem_singleton]
    have hmatch := recalculate_matchOf hdone
    rw [hmatch.ofInvoice]
    exact ⟨hmatch, invoice_kept _ (List.mem_map_of_mem hstored)⟩
  | accepted tenantId value body invoice haccept =>
    have hstored : value ∈ db.invoiceMatches := findRow_mem haccept.held
    have hmatch : MatchOf db value.invoiceId (.update (value.accept body)) :=
      .of_update hstored rfl rfl
    exact List.forall_mem_singleton.mpr ⟨hmatch, invoice_kept _ (h.invoiced value hstored)⟩
  | disputed value body invoice hstored hinvoice =>
    have hmatch : MatchOf db value.invoiceId (.update (value.dispute body)) :=
      .of_update hstored rfl rfl
    exact List.forall_mem_singleton.mpr ⟨hmatch, invoice_kept _ (h.invoiced value hstored)⟩
  | invoiceAdded event snapshot settled changed hsettles =>
    intro write hwrite
    have hmatch := hsettles.matchOf write hwrite
    rw [hmatch.ofInvoice, ← hsettles.id]
    refine ⟨hsettles.id ▸ hmatch, List.mem_map_of_mem ?_⟩
    exact List.mem_append_right _ (List.mem_singleton.mpr rfl)
  | invoiceFollowed event snapshot invoice settled changed hfollows hsettles =>
    intro write hwrite
    have hmatch := hsettles.matchOf write hwrite
    rw [hmatch.ofInvoice]
    refine ⟨hmatch, invoice_kept _ ?_⟩
    rw [follow_id]
    exact List.mem_map_of_mem (eventInvoice_mem hfollows.held)

/-- Every row of a table after a session is an old row or a written one. -/
theorem Regular.invoiced_apply (h : Regular db) (hmove : Move rounding db call writes) :
    ∀ row ∈ (writes.apply db).invoiceMatches,
      row.invoiceId ∈ (writes.apply db).invoices.map SupplierInvoice.id := by
  intro row hrow
  rcases RowWrite.mem_applyAll hrow with ⟨write, hwrite, rfl⟩ | ⟨hold, -⟩
  · exact (hmove.matchOf h write hwrite).2
  · exact invoice_kept writes (h.invoiced row hold)

theorem newOrderLines_prices (body : PurchaseOrderCreate) : ∀ row ∈ newOrderLines rounding call body,
    0 ≤ row.quantity ∧ 0 ≤ row.unitPrice ∧ 0 ≤ row.taxRate := by
  intro row hrow
  obtain ⟨line, -, rfl⟩ := List.mem_map.mp hrow
  exact ⟨rounding.round_nonneg line.1.quantity_pos.le, rounding.round_nonneg line.1.unitPrice_pos.le,
    rounding.round_nonneg line.1.taxRate_percentage.1⟩

/-- A draft is worth nothing negative. -/
theorem newReceipt_value {tenantId : String} {body : ReceiptCreate} {order : PurchaseOrder}
    {checked : List (ReceiptLineCreate × PurchaseOrderLine)} {selected : PurchaseOrderLine → Bool}
    (h : Regular db) (hchecked : checkLines (db.orderLines.filter selected) body.lines = .ok checked) :
    0 ≤ (newReceipt call tenantId body order checked).acceptedValue := by
  refine sum_nonneg fun line hline ↦ ?_
  have hstored := (List.mem_filter.mp (fits_of_checkLines hchecked line hline).stored).1
  obtain ⟨-, hprice, htax⟩ := h.prices line.2 hstored
  exact lineValue_nonneg hprice htax line.1.acceptedQuantity_nonneg

/-- The lines of a new receipt are about lines of its order. -/
theorem newReceiptLines_delivered {body : ReceiptCreate} {selected : PurchaseOrderLine → Bool}
    {checked : List (ReceiptLineCreate × PurchaseOrderLine)}
    (hchecked : checkLines (db.orderLines.filter selected) body.lines = .ok checked) :
    ∀ row ∈ newReceiptLines rounding call checked,
      row.purchaseOrderLineId ∈ db.orderLines.map PurchaseOrderLine.id := by
  intro row hrow
  obtain ⟨line, hline, rfl⟩ := List.mem_map.mp hrow
  have hfits := fits_of_checkLines hchecked line.1 (List.fst_mem_of_mem_zipIdx hline)
  exact List.mem_map.mpr ⟨line.1.2, (List.mem_filter.mp hfits.stored).1, hfits.id⟩

/-- A move keeps the tables regular. -/
theorem Regular.apply (h : Regular db) (hmove : Move rounding db call writes)
    (haccepted : writes.Accepted db) : Regular (writes.apply db) := by
  have hkeyed := h.keyed.apply haccepted
  have hinvoiced := h.invoiced_apply hmove
  have hordered : ∀ row ∈ db.receipts, row.purchaseOrderId ∈ (writes.apply db).orders.map PurchaseOrder.id :=
    fun row hrow ↦ order_kept writes (h.ordered row hrow)
  have hdelivered : ∀ row ∈ db.receiptLines,
      row.purchaseOrderLineId ∈ (writes.apply db).orderLines.map PurchaseOrderLine.id :=
    fun row hrow ↦ orderLine_kept writes (h.delivered row hrow)
  have hmatched : ∀ row ∈ db.acceptances,
      row.matchId ∈ (writes.apply db).invoiceMatches.map InvoiceMatch.id :=
    fun row hrow ↦ match_kept writes (h.matched row hrow)
  cases hmove with
  | orderCreated tenantId body buyer supplier hrequest hcreates =>
    refine ⟨hkeyed, ?_, h.values, h.amounts, hordered, hdelivered, hinvoiced, hmatched⟩
    simp only [Writes.apply, creationWrites, RowWrite.applyAll_insert]
    exact List.forall_mem_append.mpr ⟨h.prices, newOrderLines_prices body⟩
  | orderMoved order status actor hstored =>
    exact ⟨hkeyed, h.prices, h.values, h.amounts, hordered, hdelivered, hinvoiced, hmatched⟩
  | receiptCreated tenantId body order checked hstored hchecked =>
    refine ⟨hkeyed, h.prices, ?_, h.amounts, ?_, ?_, hinvoiced, hmatched⟩
    · exact RowWrite.forall_written h.values haccepted.receipts (newReceipt_value h hchecked)
    · exact RowWrite.forall_written hordered haccepted.receipts (List.mem_map_of_mem hstored)
    · simp only [Writes.apply, draftWrites, RowWrite.applyAll_insert]
      exact List.forall_mem_append.mpr ⟨h.delivered, newReceiptLines_delivered hchecked⟩
  | receiptPosted tenantId receipt order lineWrites recalculated hpost =>
    obtain ⟨_, -, hheld⟩ := hpost.held
    have hreceipt : receipt ∈ db.receipts := findRow_mem hheld
    refine ⟨hkeyed, ?_, ?_, h.amounts, ?_, hdelivered, hinvoiced, hmatched⟩
    · simp only [Writes.apply, postingWrites, receiveLines_apply h.keyed.orderLines.keys hpost.received]
      exact List.forall_mem_map.mpr h.prices
    · exact RowWrite.forall_written h.values haccepted.receipts (h.values receipt hreceipt)
    · exact RowWrite.forall_written hordered haccepted.receipts (hordered receipt hreceipt)
  | recalculated tenantId invoice done hstored hdone =>
    exact ⟨hkeyed, h.prices, h.values, h.amounts, hordered, hdelivered, hinvoiced, hmatched⟩
  | accepted tenantId value body invoice haccept =>
    refine ⟨hkeyed, h.prices, h.values, ?_, hordered, hdelivered, hinvoiced, ?_⟩
    · exact RowWrite.forall_written h.amounts haccepted.acceptances
        (rounding.round_nonneg body.acceptedAmount_pos.le)
    · exact RowWrite.forall_written hmatched haccepted.acceptances
        (match_kept _ (List.mem_map_of_mem (findRow_mem haccept.held)))
  | disputed value body invoice hstored hinvoice =>
    exact ⟨hkeyed, h.prices, h.values, h.amounts, hordered, hdelivered, hinvoiced, hmatched⟩
  | eventNoted event status lastError =>
    exact ⟨hkeyed, h.prices, h.values, h.amounts, hordered, hdelivered, hinvoiced, hmatched⟩
  | invoiceAdded event snapshot settled changed hsettles =>
    exact ⟨hkeyed, h.prices, h.values, h.amounts, hordered, hdelivered, hinvoiced, hmatched⟩
  | invoiceFollowed event snapshot invoice settled changed hfollows hsettles =>
    exact ⟨hkeyed, h.prices, h.values, h.amounts, hordered, hdelivered, hinvoiced, hmatched⟩

end Step

/-- Every call keeps the tables regular. -/
theorem Regular.step (rounding : Rounding) {db : ErpDb} (h : Regular db) (call : ErpCall) :
    Regular ((erp rounding).step db call).2 :=
  (sessions rounding).step_kept Regular h fun _ _ hserve _ haccepted ↦
    h.apply (move_of_serve hserve) (Writes.accepted_iff.mp haccepted)

end Xyena.Erp
