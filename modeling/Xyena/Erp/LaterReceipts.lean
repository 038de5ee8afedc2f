import Xyena.Erp.FullDelivery

/-!
# Receipts after an acceptance

Posting a receipt matches every invoice of its order again, in the session that
posts it. A match that was accepted is not matched again: the recalculation
raises, and the posting is lost with it. A draft receipt that fits its order is
posted exactly when no invoice of the order has an accepted match.
-/

namespace Xyena.Erp

open Xyena.Foundation Xyena.Foundation.Session

/-! ## Receipt numbers -/

/-- No receipt number is the identifier of a receipt. -/
def Numbered (db : ErpDb) : Prop :=
  ∀ row ∈ db.receipts, documentNumber row.receiptNumber = true ∧ ∃ digits, row.id = "rcpt_demo_" ++ digits

theorem Numbered.of_counterparties (counterparties : List Counterparty) :
    Numbered { counterparties := counterparties } := by
  simp [Numbered]

theorem documentNumber_receiptId (digits : String) : documentNumber ("rcpt_demo_" ++ digits) = false := by
  have hchars : ("rcpt_demo_" ++ digits).toList = 'r' :: ("cpt_demo_".toList ++ digits.toList) := by
    simp
  have hfirst : ('r'.isUpper || 'r'.isDigit) = false := by decide
  rw [documentNumber, hchars]
  simp only [hfirst, Bool.false_and]

theorem Numbered.apply {rounding : Rounding} {db : ErpDb} {call : ErpCall} {writes : Writes}
    (h : Numbered db) (hmove : Move rounding db call writes) (haccepted : writes.Accepted db) :
    Numbered (writes.apply db) := by
  cases hmove with
  | receiptCreated tenantId body order checked =>
    exact RowWrite.forall_written h haccepted.receipts ⟨body.number_form, call.token 0, rfl⟩
  | receiptPosted tenantId receipt order lineWrites recalculated hpost =>
    obtain ⟨_, -, hheld⟩ := hpost.held
    exact RowWrite.forall_written h haccepted.receipts (h receipt (findRow_mem hheld))
  | orderCreated => exact h
  | orderMoved => exact h
  | recalculated => exact h
  | accepted => exact h
  | disputed => exact h
  | eventNoted => exact h
  | invoiceAdded => exact h
  | invoiceFollowed => exact h

/-! ## Postings that should go through -/

/-- The posting of a draft receipt with its current version, by its identifier or its number. Its order
is approved and not yet fulfilled, its quantities fit the order, the identifiers that are drawn for new
matches are new, and the database takes the rows. -/
structure Attempts (db : ErpDb) (call : ErpCall) (receipt : GoodsServiceReceipt) (order : PurchaseOrder) :
    Prop where
  request : ∃ receiptId, (receiptId = receipt.id ∨ receiptId = receipt.receiptNumber) ∧
    call.request = .postReceipt receipt.tenantId receiptId receipt.version
  stored : receipt ∈ db.receipts
  draft : receipt.status = .draft
  storedOrder : order ∈ db.orders
  ofOrder : receipt.purchaseOrderId = order.id
  unfulfilled : order.status = .approved ∨ order.status = .partiallyFulfilled
  fits : ∀ line ∈ db.orderLines, line.receivedQuantity +
    Table.sum ReceiptLine.receivedQuantity (listed db receipt.id line.id) ≤ line.quantity
  admitted : call.refused = false
  drawn : ∀ first < (invoicesOf db receipt.tenantId order.id).length,
    ∀ second < (invoicesOf db receipt.tenantId order.id).length,
      call.token first = call.token second → first = second
  fresh : ∀ index < (invoicesOf db receipt.tenantId order.id).length, ∀ old ∈ db.invoiceMatches,
    old.id ≠ "match_demo_" ++ call.token index

/-- A posting that should go through returns the posted receipt and leaves accepted matches alone. -/
def Unblocked (e : Entry ErpDb ErpCall (Except ErpError ErpAnswer)) : Prop :=
  ∀ receipt order, Attempts e.before e.input receipt order →
    e.output = .ok (.receipt receipt.post) ∧
      ∀ value ∈ e.before.invoiceMatches, value.status.isAccepted = true → value ∈ e.after.invoiceMatches

/-- No invoice of an order has an accepted match. -/
def Undecided (db : ErpDb) (tenantId orderId : String) : Prop :=
  ∀ invoice ∈ invoicesOf db tenantId orderId, ∀ value ∈ db.invoiceMatches,
    value.invoiceId = invoice.id → value.status.isAccepted = false

/-- A posting that should go through finds no accepted match of its order. -/
def FindsUndecided (db : ErpDb) (call : ErpCall) : Prop :=
  ∀ receipt order, Attempts db call receipt order → Undecided db receipt.tenantId order.id

/-! ## Lookups -/

section Lookup

variable {db : ErpDb} {call : ErpCall} {receipt : GoodsServiceReceipt} {order : PurchaseOrder}

/-- A receipt is found by its identifier and by its number. -/
theorem receiptModel_eq (hregular : Regular db) (hnumbered : Numbered db) (hstored : receipt ∈ db.receipts)
    {receiptId : String} (hid : receiptId = receipt.id ∨ receiptId = receipt.receiptNumber) :
    receiptModel db receipt.tenantId receiptId = .ok receipt := by
  refine findRow_ok.mpr (Table.find?_eq_some_of_unique hstored ?_ fun other hother hselected ↦ ?_)
  · rcases hid with rfl | rfl <;> simp
  · have hform := hnumbered other hother
    have hownForm := hnumbered receipt hstored
    simp only [Bool.and_eq_true, Bool.or_eq_true, beq_iff_eq] at hselected
    obtain ⟨hsame, hnamed⟩ := hselected
    rcases hid with rfl | rfl
    · rcases hnamed with hotherId | hotherNumber
      · exact Table.eq_of_key hregular.keyed.receipts.keys hother hstored hotherId
      · obtain ⟨digits, hdigits⟩ := hownForm.2
        rw [hotherNumber, hdigits, documentNumber_receiptId] at hform
        cases hform.1
    · rcases hnamed with hotherId | hotherNumber
      · obtain ⟨digits, hdigits⟩ := hform.2
        rw [← hotherId, hdigits, documentNumber_receiptId] at hownForm
        cases hownForm.1
      · by_contra hne
        have hids : other.id ≠ receipt.id := fun hsameId ↦
          hne (Table.eq_of_key hregular.keyed.receipts.keys hother hstored hsameId)
        have hclash := hregular.keyed.receipts.unique other hother receipt hstored hids
        simp [receiptConstraints, hsame, hotherNumber] at hclash

/-- An order is found by its identifier. -/
theorem purchaseOrderModel_eq (hregular : Regular db) (howned : Owned db) (hstored : order ∈ db.orders) :
    purchaseOrderModel db order.tenantId order.id = .ok order := by
  refine findRow_ok.mpr (Table.find?_eq_some_of_unique hstored (by simp) fun other hother hselected ↦ ?_)
  simp only [Bool.and_eq_true, Bool.or_eq_true, beq_iff_eq] at hselected
  rcases hselected.2 with hid | hnumber
  · exact Table.eq_of_key hregular.keyed.orders.keys hother hstored hid
  · obtain ⟨digits, hdigits⟩ := (howned.named order hstored).2
    have hform := (howned.named other hother).1
    rw [hnumber, hdigits, documentNumber_id] at hform
    cases hform

end Lookup

/-! ## The rows of a posting -/

section Rows

variable {rounding : Rounding} {db : ErpDb} {call : ErpCall} {tenantId token : String}
  {orders : List PurchaseOrder} {receipts : List GoodsServiceReceipt}

/-- The lines of a receipt are received when all order lines that they name exist. -/
theorem receiveLines_returns {values : List ReceiptLine} {orderLines : List PurchaseOrderLine}
    (hmeets : orderLineConstraints.Meets orderLines)
    (hnamed : ∀ value ∈ values, value.purchaseOrderLineId ∈ orderLines.map PurchaseOrderLine.id) :
    ∃ writes, receiveLines orderLines values = .ok writes ∧
      RowWrite.acceptedAll orderLineConstraints orderLines writes = true := by
  induction values generalizing orderLines with
  | nil => exact ⟨[], rfl, rfl⟩
  | cons value rest ih =>
    obtain ⟨hfirst, hrest⟩ := List.forall_mem_cons.mp hnamed
    obtain ⟨line, hline, hid⟩ := List.mem_map.mp hfirst
    have hfind : (orderLines.find? fun row ↦ row.id == value.purchaseOrderLineId) = some line :=
      Table.find?_eq_some_of_unique hline (by simp [hid]) fun other hother hsame ↦
        Table.eq_of_key hmeets.keys hother hline ((beq_iff_eq.mp hsame).trans hid.symm)
    have hwrite : RowWrite.acceptedAll orderLineConstraints orderLines [.update (line.receive value)] = true :=
      RowWrite.acceptedAll_update hmeets hline rfl fun _ ↦ rfl
    have haccepted := RowWrite.accepted_of_singleton hwrite
    obtain ⟨others, hothers, hlater⟩ := ih (RowWrite.meets_apply hmeets haccepted) fun other hother ↦
      RowWrite.key_mem_applyAll orderLineConstraints [.update (line.receive value)] (hrest other hother)
    refine ⟨.update (line.receive value) :: others, ?_, RowWrite.acceptedAll_cons.mpr ⟨haccepted, hlater⟩⟩
    rw [receiveLines, hfind]
    exact bind_ok.mpr ⟨others, hothers, rfl⟩

/-- What a recalculation of an invoice without an accepted match writes. -/
inductive Rematches (db : ErpDb) (token : String) (invoice : SupplierInvoice) : RowWrite InvoiceMatch → Prop
  | new (row : InvoiceMatch) (hid : row.id = "match_demo_" ++ token) (hinvoice : row.invoiceId = invoice.id)
      (hnone : ∀ value ∈ db.invoiceMatches, value.invoiceId ≠ invoice.id) :
      Rematches db token invoice (.insert row)
  | again (value row : InvoiceMatch) (hstored : value ∈ db.invoiceMatches) (hid : row.id = value.id)
      (hinvoice : value.invoiceId = invoice.id) (hsame : row.invoiceId = value.invoiceId) :
      Rematches db token invoice (.update row)

theorem recalculate_rematches (rounding : Rounding) (tenantId : String) (orders : List PurchaseOrder)
    (receipts : List GoodsServiceReceipt) (token : String) (claimed : Rat) {invoice : SupplierInvoice}
    (h : ∀ value ∈ db.invoiceMatches, value.invoiceId = invoice.id → value.status.isAccepted = false) :
    ∃ done, recalculate rounding db tenantId orders receipts token invoice claimed = .ok done ∧
      Rematches db token invoice done.write := by
  simp only [recalculate]
  cases hfound : db.invoiceMatches.find? fun row ↦ row.invoiceId == invoice.id with
  | none =>
    refine ⟨_, rfl, .new _ rfl rfl fun value hvalue hid ↦ ?_⟩
    exact List.find?_eq_none.mp hfound value hvalue (beq_iff_eq.mpr hid)
  | some value =>
    have hstored := List.mem_of_find?_eq_some hfound
    have hinvoice : value.invoiceId = invoice.id := by simpa using List.find?_some hfound
    have hopen : (!value.status.isAccepted) = true := by rw [h value hstored hinvoice, Bool.not_false]
    exact ⟨_, ensure_bind_ok.mpr ⟨hopen, rfl⟩, .again value _ hstored rfl hinvoice rfl⟩

/-- A recalculation that returns has found no accepted match. -/
theorem recalculate_undecided (hkeyed : db.WellKeyed) {invoice : SupplierInvoice} {claimed : Rat}
    {done : Recalculated}
    (h : recalculate rounding db tenantId orders receipts token invoice claimed = .ok done) :
    ∀ value ∈ db.invoiceMatches, value.invoiceId = invoice.id → value.status.isAccepted = false := by
  intro value hvalue hid
  have hfind : (db.invoiceMatches.find? fun row ↦ row.invoiceId == invoice.id) = some value :=
    Table.find?_eq_some_of_unique hvalue (by simp [hid]) fun other hother hsame ↦
      match_of_invoice hkeyed hvalue hother ((beq_iff_eq.mp hsame).trans hid.symm)
  simp only [recalculate, hfind] at h
  simpa using (ensure_bind_ok.mp h).1

/-- Where a table of matches agrees with the stored one: on the matches of some invoices. -/
def AgreesOn (db : ErpDb) (rows : List InvoiceMatch) (invoices : List SupplierInvoice) : Prop :=
  ∀ invoice ∈ invoices, ∀ row : InvoiceMatch, row.invoiceId = invoice.id →
    (row ∈ rows ↔ row ∈ db.invoiceMatches)

/-- A written match of one invoice is admitted, and it leaves the matches of the other invoices. -/
theorem Rematches.admitted {invoice : SupplierInvoice} {rest : List SupplierInvoice}
    {rows : List InvoiceMatch} {write : RowWrite InvoiceMatch} (h : Rematches db token invoice write)
    (hmeets : matchConstraints.Meets rows) (hagrees : AgreesOn db rows (invoice :: rest))
    (hfresh : ∀ row ∈ rows, row.id ≠ "match_demo_" ++ token)
    (hother : ∀ other ∈ rest, other.id ≠ invoice.id) :
    write.accepted matchConstraints rows = true ∧
      AgreesOn db (write.apply matchConstraints rows) rest := by
  have hown := hagrees invoice List.mem_cons_self
  cases h with
  | new row hid hinvoice hnone =>
    refine ⟨RowWrite.accepted_insert.mpr fun old hold ↦ ⟨?_, ?_⟩, fun other hother' kept hkept ↦ ?_⟩
    · exact fun hsame ↦ hfresh old hold (hsame.symm.trans hid)
    · refine beq_eq_false_iff_ne.mpr fun hsame ↦ ?_
      have hof : old.invoiceId = invoice.id := hsame.symm.trans hinvoice
      exact hnone old ((hown old hof).mp hold) hof
    · rw [RowWrite.apply, List.mem_append, List.mem_singleton, or_iff_left]
      · exact hagrees other (List.mem_cons_of_mem _ hother') kept hkept
      · rintro rfl
        exact hother other hother' (hkept.symm.trans hinvoice)
  | again value row hstored hid hinvoice hsame =>
    have hvalue : value ∈ rows := (hown value hinvoice).mpr hstored
    have hwrite : RowWrite.acceptedAll matchConstraints rows [.update row] = true :=
      RowWrite.acceptedAll_update hmeets hvalue hid fun _ ↦ by simp [matchConstraints, hsame]
    refine ⟨RowWrite.accepted_of_singleton hwrite, fun other hother' kept hkept ↦ ?_⟩
    have hdiffer : other.id ≠ invoice.id := hother other hother'
    refine Iff.trans ⟨fun hmem ↦ ?_, fun hmem ↦ ?_⟩ (hagrees other (List.mem_cons_of_mem _ hother') kept hkept)
    · rcases Table.mem_replace hmem with rfl | ⟨hold, -⟩
      · exact absurd (hkept.symm.trans (hsame.trans hinvoice)) hdiffer
      · exact hold
    · refine Table.mem_replace_of_ne hmem fun hkey ↦ ?_
      obtain rfl := Table.eq_of_key hmeets.keys hmem hvalue (hkey.trans hid)
      exact hdiffer (hkept.symm.trans hinvoice)

/-- The invoices of an order are matched again, with rows that the database admits, when none of them has
an accepted match. -/
theorem recalculateAll_returns (rounding : Rounding) (tenantId : String) (orders : List PurchaseOrder)
    (receipt : GoodsServiceReceipt) (added : Nat) {invoices : List SupplierInvoice}
    {rows : List InvoiceMatch} (hmeets : matchConstraints.Meets rows)
    (hkeys : (invoices.map SupplierInvoice.id).Nodup) (hagrees : AgreesOn db rows invoices)
    (hopen : ∀ invoice ∈ invoices, ∀ value ∈ db.invoiceMatches, value.invoiceId = invoice.id →
      value.status.isAccepted = false)
    (hfresh : ∀ index, added ≤ index → index < added + invoices.length → ∀ row ∈ rows,
      row.id ≠ "match_demo_" ++ call.token index)
    (hdrawn : ∀ first second, first < added + invoices.length → second < added + invoices.length →
      call.token first = call.token second → first = second) :
    ∃ recalculated, recalculateAll rounding db call tenantId orders receipt added invoices =
        .ok recalculated ∧
      RowWrite.acceptedAll matchConstraints rows (recalculated.map Recalculated.write) = true := by
  induction invoices generalizing added rows with
  | nil => exact ⟨[], rfl, rfl⟩
  | cons invoice rest ih =>
    obtain ⟨hnew, hrest⟩ := List.nodup_cons.mp hkeys
    obtain ⟨hundecided, hlater⟩ := List.forall_mem_cons.mp hopen
    simp only [List.length_cons] at hfresh hdrawn
    obtain ⟨done, hdone, hrematches⟩ := recalculate_rematches rounding tenantId orders
      (if added = 0 then db.receipts
        else RowWrite.applyAll receiptConstraints db.receipts [.update receipt])
      (call.token added) invoice.claimedTotal hundecided
    have hother (other : SupplierInvoice) (hmem : other ∈ rest) : other.id ≠ invoice.id :=
      fun hid ↦ hnew (hid ▸ List.mem_map_of_mem hmem)
    obtain ⟨haccepted, hagreesRest⟩ := hrematches.admitted hmeets hagrees
      (hfresh added (Nat.le_refl _) (by omega)) hother
    have hmeetsRest := RowWrite.meets_apply hmeets haccepted
    obtain ⟨write, matched⟩ := done
    cases hrematches with
    | new new hnewId hinvoice hnone =>
      obtain ⟨others, hothers, hacceptedRest⟩ := @ih (added + 1) _ hmeetsRest hrest hagreesRest hlater
        (fun index hle hlt row hrow hid ↦ by
          rcases List.mem_append.mp hrow with hold | hlast
          · exact hfresh index (by omega) (by omega) row hold hid
          · obtain rfl := List.mem_singleton.mp hlast
            have hsame := (String.append_right_inj _).mp (hnewId.symm.trans hid)
            have hindex := hdrawn added index (by omega) (by omega) hsame
            omega)
        fun first second hfirst hsecond ↦ hdrawn first second (by omega) (by omega)
      exact ⟨⟨.insert new, matched⟩ :: others, bind_ok.mpr ⟨_, hdone, bind_ok.mpr ⟨others, hothers, rfl⟩⟩,
        RowWrite.acceptedAll_cons.mpr ⟨haccepted, hacceptedRest⟩⟩
    | again value changed hstored hid hinvoice hsame =>
      obtain ⟨others, hothers, hacceptedRest⟩ := @ih added _ hmeetsRest hrest hagreesRest hlater
        (fun index hle hlt row hrow ↦ by
          rcases Table.mem_replace hrow with rfl | ⟨hold, -⟩
          · rw [hid]
            exact hfresh index (by omega) (by omega) value
              ((hagrees invoice List.mem_cons_self value hinvoice).mpr hstored)
          · exact hfresh index (by omega) (by omega) row hold)
        fun first second hfirst hsecond ↦ hdrawn first second (by omega) (by omega)
      exact ⟨⟨.update changed, matched⟩ :: others, bind_ok.mpr ⟨_, hdone, bind_ok.mpr ⟨others, hothers, rfl⟩⟩,
        RowWrite.acceptedAll_cons.mpr ⟨haccepted, hacceptedRest⟩⟩

/-- Changed invoices are admitted: no column of them is unique. -/
theorem invoices_admitted (rows : List SupplierInvoice) (changed : List SupplierInvoice) :
    RowWrite.acceptedAll invoiceConstraints rows (changed.map .update) = true := by
  induction changed generalizing rows with
  | nil => rfl
  | cons invoice rest ih =>
    exact RowWrite.acceptedAll_cons.mpr ⟨RowWrite.accepted_update.mpr fun _ _ _ ↦ rfl, ih _⟩

end Rows

/-! ## The exact condition -/

section Condition

variable {rounding : Rounding} {db : ErpDb} {call : ErpCall} {receipt : GoodsServiceReceipt}
  {order : PurchaseOrder}

/-- A posting that should go through and finds no accepted match is made. -/
theorem Attempts.posts (rounding : Rounding) (h : Attempts db call receipt order)
    (hregular : Regular db) (howned : Owned db) (hfulfils : Fulfils db) (hnumbered : Numbered db)
    (hundecided : Undecided db receipt.tenantId order.id) :
    ∃ lineWrites recalculated,
      Posts rounding db call receipt.tenantId receipt order lineWrites recalculated ∧
        (postingWrites receipt.post
          (order.fulfil (RowWrite.applyAll orderLineConstraints db.orderLines lineWrites)) lineWrites
          recalculated).Accepted db := by
  obtain ⟨receiptId, hid, hrequest⟩ := h.request
  have hreceipt := receiptModel_eq hregular hnumbered h.stored hid
  have htenant := hfulfils.tenants receipt h.stored order h.storedOrder h.ofOrder.symm
  have horder : purchaseOrderModel db receipt.tenantId receipt.purchaseOrderId = .ok order := by
    rw [← htenant, h.ofOrder]
    exact purchaseOrderModel_eq hregular howned h.storedOrder
  have hnamed : ∀ value ∈ linesOf db receipt.id,
      value.purchaseOrderLineId ∈ db.orderLines.map PurchaseOrderLine.id :=
    fun value hvalue ↦ hregular.delivered value (List.mem_filter.mp hvalue).1
  obtain ⟨lineWrites, hlines, hacceptedLines⟩ := receiveLines_returns hregular.keyed.orderLines hnamed
  have hkeys : ((invoicesOf db receipt.tenantId order.id).map SupplierInvoice.id).Nodup :=
    hregular.keyed.invoices.keys.sublist (List.filter_sublist.map _)
  obtain ⟨recalculated, hrecalculated, hacceptedMatches⟩ := recalculateAll_returns rounding receipt.tenantId
    (RowWrite.applyAll orderConstraints db.orders [.update
      (order.fulfil (RowWrite.applyAll orderLineConstraints db.orderLines lineWrites))])
    receipt.post 0 hregular.keyed.invoiceMatches hkeys (fun _ _ _ _ ↦ Iff.rfl) hundecided
    (fun index _ hlt row hrow ↦ h.fresh index (by omega) row hrow)
    (fun first second hfirst hsecond ↦ h.drawn first (by omega) second (by omega))
  refine ⟨lineWrites, recalculated, ⟨⟨receiptId, hrequest, hreceipt⟩, h.draft, horder, hlines,
    hrecalculated⟩, ?_⟩
  refine ⟨?_, hacceptedLines, ?_, rfl, ?_, hacceptedMatches, rfl, rfl⟩
  · exact RowWrite.acceptedAll_update hregular.keyed.orders h.storedOrder rfl fun _ ↦ rfl
  · exact RowWrite.acceptedAll_update hregular.keyed.receipts h.stored rfl fun _ ↦ rfl
  · have hmap : (recalculated.map fun done ↦ RowWrite.update done.invoice) =
        (recalculated.map Recalculated.invoice).map .update := by rw [List.map_map]; rfl
    simp only [postingWrites, hmap]
    exact invoices_admitted _ _

/-- A posting writes no accepted match when no invoice of its order has one. -/
theorem Posts.accepted_kept {tenantId : String} {lineWrites : List (RowWrite PurchaseOrderLine)}
    {recalculated : List Recalculated}
    (h : Posts rounding db call tenantId receipt order lineWrites recalculated) (hregular : Regular db)
    (hundecided : Undecided db tenantId order.id) (changed : PurchaseOrder) {value : InvoiceMatch}
    (hvalue : value ∈ db.invoiceMatches) (haccepted : value.status.isAccepted = true) :
    value ∈ ((postingWrites receipt.post changed lineWrites recalculated).apply db).invoiceMatches := by
  refine match_untouched hvalue fun row hrow hid ↦ ?_
  obtain ⟨done, hdone, hwrite⟩ := List.mem_map.mp hrow
  obtain ⟨invoice, hinvoice, token, seen, -, hrecalculate⟩ := recalculateAll_mem h.matched done hdone
  obtain ⟨stored, hstored, hstoredId, hof⟩ := (recalculate_matchOf hrecalculate).stored row hwrite
  obtain rfl : stored = value :=
    Table.eq_of_key hregular.keyed.invoiceMatches.keys hstored hvalue (hstoredId.trans hid)
  rw [hundecided invoice hinvoice stored hstored hof] at haccepted
  cases haccepted

/-- A posting that went through has found no accepted match. -/
theorem Attempts.undecided (h : Attempts db call receipt order) (hregular : Regular db) (howned : Owned db)
    (hnumbered : Numbered db)
    (houtput : ((erp rounding).step db call).1 = .ok (.receipt receipt.post)) :
    Undecided db receipt.tenantId order.id := by
  intro invoice hinvoice
  obtain ⟨receiptId, hid, hrequest⟩ := h.request
  have hreceipt := receiptModel_eq hregular hnumbered h.stored hid
  obtain ⟨rows, hserve, -⟩ : ∃ rows, serve rounding db call = .ok (.receipt receipt.post, rows) ∧ _ :=
    (sessions rounding).served_of_output houtput
  simp only [serve, hrequest] at hserve
  obtain ⟨found, foundOrder, lineWrites, recalculated, hposts, -⟩ := posts_of_postReceipt hrequest hserve
  obtain ⟨foundId, hfoundRequest, hfound⟩ := hposts.held
  obtain ⟨-, rfl, -⟩ := Request.postReceipt.inj (hrequest.symm.trans hfoundRequest)
  obtain rfl := Except.ok.inj (hreceipt.symm.trans hfound)
  obtain rfl : foundOrder = order := Table.eq_of_key hregular.keyed.orders.keys
    (findRow_mem hposts.heldOrder) h.storedOrder ((hposts.order_id hregular howned).trans h.ofOrder)
  obtain ⟨done, -, token, seen, hrecalculate⟩ := recalculateAll_each hposts.matched invoice hinvoice
  exact recalculate_undecided hregular.keyed hrecalculate

/-- A posting that should go through does so when it finds no accepted match, and keeps those of others. -/
theorem Attempts.goes_through (h : Attempts db call receipt order) (hregular : Regular db)
    (howned : Owned db) (hfulfils : Fulfils db) (hnumbered : Numbered db)
    (hundecided : Undecided db receipt.tenantId order.id) :
    ((erp rounding).step db call).1 = .ok (.receipt receipt.post) ∧
      ∀ value ∈ db.invoiceMatches, value.status.isAccepted = true →
        value ∈ ((erp rounding).step db call).2.invoiceMatches := by
  obtain ⟨lineWrites, recalculated, hposts, haccepted⟩ :=
    h.posts rounding hregular howned hfulfils hnumbered hundecided
  have hstep := (sessions rounding).step_commit (serve_of_posts hposts) h.admitted
    (Writes.accepted_iff.mpr haccepted)
  refine ⟨congrArg Prod.fst hstep, fun value hvalue hdecided ↦ ?_⟩
  rw [step_of_posts hposts h.admitted haccepted]
  exact hposts.accepted_kept hregular hundecided _ hvalue hdecided

/-- A posting that should go through does so exactly when it finds no accepted match of its order. -/
theorem unblocked_iff (hregular : Regular db) (howned : Owned db) (hfulfils : Fulfils db)
    (hnumbered : Numbered db) :
    Unblocked ((erp rounding).entry db call) ↔ FindsUndecided db call := by
  refine forall₂_congr fun receipt order ↦ forall_congr' fun hattempt ↦ ?_
  constructor
  · exact fun h ↦ hattempt.undecided hregular howned hnumbered h.1
  · exact fun hundecided ↦ hattempt.goes_through hregular howned hfulfils hnumbered hundecided

end Condition

/-! ## Runs -/

/-- An ERP whose rows belong together, as one with counterparties only is. -/
structure Receiving where
  db : ErpDb
  regular : Regular db
  owned : Owned db
  fulfils : Fulfils db
  numbered : Numbered db

theorem Receiving.step (rounding : Rounding) {db : ErpDb}
    (h : Regular db ∧ Owned db ∧ Fulfils db ∧ Numbered db) (call : ErpCall) :
    Regular ((erp rounding).step db call).2 ∧ Owned ((erp rounding).step db call).2 ∧
      Fulfils ((erp rounding).step db call).2 ∧ Numbered ((erp rounding).step db call).2 := by
  obtain ⟨hregular, howned, hfulfils, hnumbered⟩ := h
  obtain ⟨hregularAfter, hownedAfter⟩ := Owned.step rounding ⟨hregular, howned⟩ call
  refine ⟨hregularAfter, hownedAfter, (sessions rounding).step_kept Fulfils hfulfils ?_,
    (sessions rounding).step_kept Numbered hnumbered ?_⟩
  · exact fun _ _ hserve _ haccepted ↦
      hfulfils.apply (move_of_serve hserve) hregular howned (Writes.accepted_iff.mp haccepted)
  · exact fun _ _ hserve _ haccepted ↦
      hnumbered.apply (move_of_serve hserve) (Writes.accepted_iff.mp haccepted)

/-- In every run, all postings that should go through do exactly when each of them finds no accepted match
of an invoice of its order. -/
theorem receipts_unblocked_iff (rounding : Rounding) (start : Receiving) (calls : List ErpCall) :
    (∀ e ∈ (erp rounding).log start.db calls, Unblocked e) ↔
      ∀ e ∈ (erp rounding).log start.db calls, FindsUndecided e.before e.input :=
  (erp rounding).forall_log_iff (fun db ↦ Regular db ∧ Owned db ∧ Fulfils db ∧ Numbered db)
    ⟨start.regular, start.owned, start.fulfils, start.numbered⟩
    (fun _ call h ↦ Receiving.step rounding h call)
    (fun _ _ ⟨hregular, howned, hfulfils, hnumbered⟩ ↦
      unblocked_iff hregular howned hfulfils hnumbered) calls

/-! ## The second half of a delivery -/

section Halves

/-- An accepted delivery of five motors. -/
def motorHalf (receiptNumber : String) (hnumber : documentNumber receiptNumber = true) : ReceiptCreate where
  receiptNumber := receiptNumber
  purchaseOrderId := "PO-1"
  lines := [⟨"pol_demo_order-1", 5000, 5000, 0, by decide, by decide, none_rejected⟩]
  number_form := hnumber
  lines_given := by decide

def Receiving.ofCounterparties (counterparties : List Counterparty) : Receiving where
  db := { counterparties := counterparties }
  regular := .of_counterparties counterparties
  owned := .of_counterparties counterparties
  fulfils := .of_counterparties counterparties
  numbered := .of_counterparties counterparties

def openReceiving : Receiving := .ofCounterparties [northstar, meridian]

/-- Half of the motors are received, and what they are worth is accepted of the invoice. -/
def motorsHalfAccepted : List ErpCall :=
  [drawing "order" (.createPurchaseOrder "tenant" (motorOrder "PO-1" orderNumber_valid)),
    drawing "" (.transitionPurchaseOrder "tenant" "PO-1" .submit 1 "clerk"),
    drawing "" (.transitionPurchaseOrder "tenant" "PO-1" .approve 2 "reviewer"),
    drawing "first" (.createReceipt "tenant" (motorHalf "GRN-1" firstNumber_valid)),
    drawing "second" (.createReceipt "tenant" (motorHalf "GRN-2" secondNumber_valid)),
    drawing "" (.postReceipt "tenant" "GRN-1" 1),
    drawing "a" (.consumeGstEvent (motorInvoiceEvent "inv_1")),
    drawing "c" (.acceptMatch "tenant" "match_demo_a-1" 1 ⟨150000, "half delivered", "reviewer", by decide⟩)]

def postSecondHalf : ErpCall := drawing "" (.postReceipt "tenant" "GRN-2" 1)

theorem second_half_blocked :
    ¬ ∀ e ∈ (erp .halfUp).log openReceiving.db (motorsHalfAccepted ++ [postSecondHalf]),
      Unblocked e := by
  intro h
  generalize hstate : (erp .halfUp).run openReceiving.db motorsHalfAccepted = db
  have hdraft : ∃ receipt ∈ db.receipts, ∃ order ∈ db.orders,
      receipt.tenantId = "tenant" ∧ receipt.receiptNumber = "GRN-2" ∧ receipt.version = 1 ∧
      receipt.status = .draft ∧ receipt.purchaseOrderId = order.id ∧
      order.status = .partiallyFulfilled ∧
      (∀ line ∈ db.orderLines, line.receivedQuantity + Table.sum ReceiptLine.receivedQuantity
        (listed db receipt.id line.id) ≤ line.quantity) ∧
      (invoicesOf db receipt.tenantId order.id).length = 1 ∧
      (∀ old ∈ db.invoiceMatches, old.id ≠ "match_demo_" ++ postSecondHalf.token 0) := by
    rw [← hstate]
    decide +kernel
  have hrejected : ((erp .halfUp).step db postSecondHalf).1.isOk = false := by
    rw [← hstate]
    decide +kernel
  obtain ⟨receipt, hreceipt, order, horder, hrow⟩ := hdraft
  obtain ⟨htenant, hnumber, hversion, hdraft, hof, hpartial, hfits, hone, hfresh⟩ := hrow
  have hattempt : Attempts db postSecondHalf receipt order := by
    refine ⟨⟨"GRN-2", Or.inr hnumber.symm, ?_⟩, hreceipt, hdraft, horder, hof, Or.inr hpartial, hfits, rfl,
      ?_, ?_⟩
    · rw [htenant, hversion]
      rfl
    · rw [hone]
      omega
    · rw [hone]
      intro index hindex
      obtain rfl : index = 0 := by omega
      exact hfresh
  have hlast : (erp .halfUp).entry db postSecondHalf ∈
      (erp .halfUp).log openReceiving.db (motorsHalfAccepted ++ [postSecondHalf]) := by
    rw [Machine.log_snoc, hstate]
    exact List.mem_append_right _ List.mem_cons_self
  have houtput : ((erp .halfUp).step db postSecondHalf).1 = .ok (.receipt receipt.post) :=
    (h _ hlast receipt order hattempt).1
  rw [houtput] at hrejected
  cases hrejected

end Halves

end Xyena.Erp
