import Xyena.Erp.Invariant

/-!
# What a match supports

A match that can be accepted supports no more than the total of the order that
its invoice refers to and no more than the accepted value of the posted receipts
of this order. Totals never change and posted receipts stay posted, so that a
match stays supported until it is recalculated.
-/

namespace Xyena.Erp

open Xyena.Foundation Xyena.Foundation.Session

/-! ## Posted values -/

/-- The accepted value of the posted receipts of an order. -/
def postedValue (receipts : List GoodsServiceReceipt) (orderId : String) : Int :=
  Table.sum GoodsServiceReceipt.acceptedValue
    (receipts.filter fun row ↦ row.purchaseOrderId == orderId && row.status == .posted)

/-- What a receipt adds to the posted value of an order. -/
def GoodsServiceReceipt.share (orderId : String) (row : GoodsServiceReceipt) : Int :=
  if row.purchaseOrderId == orderId && row.status == .posted then row.acceptedValue else 0

theorem postedValue_eq (receipts : List GoodsServiceReceipt) (orderId : String) :
    postedValue receipts orderId = Table.sum (GoodsServiceReceipt.share orderId) receipts :=
  Table.sum_filter _ _ _

theorem postedValue_nonneg {receipts : List GoodsServiceReceipt}
    (h : ∀ row ∈ receipts, 0 ≤ row.acceptedValue) (orderId : String) : 0 ≤ postedValue receipts orderId :=
  sum_nonneg fun row hrow ↦ h row (List.mem_filter.mp hrow).1

/-- A selection has at most the sum of a wider one. -/
theorem sum_filter_le {Row : Type} {column : Row → Int} {rows : List Row} {narrow wide : Row → Bool}
    (hcolumn : ∀ row ∈ rows, 0 ≤ column row)
    (h : ∀ row ∈ rows, narrow row = true → wide row = true) :
    Table.sum column (rows.filter narrow) ≤ Table.sum column (rows.filter wide) := by
  rw [Table.sum_filter, Table.sum_filter]
  refine Table.sum_le_sum fun row hrow ↦ ?_
  cases hnarrow : narrow row with
  | true => simp [h row hrow hnarrow]
  | false =>
    cases hwide : wide row with
    | true => simpa using hcolumn row hrow
    | false => simp

/-- What a query sees of the posted receipts of an order is part of them. -/
theorem findReceipts_le {tenantId : String} {receipts : List GoodsServiceReceipt}
    (h : ∀ row ∈ receipts, 0 ≤ row.acceptedValue) (order : PurchaseOrder) :
    Table.sum GoodsServiceReceipt.acceptedValue (findReceipts tenantId receipts (some order)) ≤
      postedValue receipts order.id := by
  refine sum_filter_le h fun row _ hrow ↦ ?_
  simp only [Bool.and_eq_true, beq_iff_eq] at hrow ⊢
  exact ⟨hrow.1.2, hrow.2⟩

/-- Posting a receipt takes no value away. -/
theorem postedValue_post {receipts : List GoodsServiceReceipt} {receipt : GoodsServiceReceipt}
    (hkeyed : receiptConstraints.Meets receipts) (hreceipt : receipt ∈ receipts)
    (hvalue : 0 ≤ receipt.acceptedValue) (orderId : String) :
    postedValue receipts orderId ≤
      postedValue (RowWrite.applyAll receiptConstraints receipts [.update receipt.post]) orderId := by
  rw [postedValue_eq, postedValue_eq]
  have hsum : Table.sum (GoodsServiceReceipt.share orderId)
      (RowWrite.applyAll receiptConstraints receipts [.update receipt.post]) =
        Table.sum (GoodsServiceReceipt.share orderId) receipts - receipt.share orderId +
          receipt.post.share orderId :=
    Table.sum_replace _ hkeyed.keys hreceipt rfl
  have hshare : receipt.share orderId ≤ receipt.post.share orderId := by
    unfold GoodsServiceReceipt.share GoodsServiceReceipt.post
    by_cases horder : receipt.purchaseOrderId = orderId
    · by_cases hposted : receipt.status = .posted
      · simp [horder, hposted]
      · simpa [horder, hposted] using hvalue
    · simp [horder]
  rw [hsum]
  omega

/-! ## Support -/

/-- The statuses in which a match can be accepted. -/
def MatchStatus.acceptable (status : MatchStatus) : Prop := status = .matched ∨ status = .partialMatch

/-- A match supports no more than the order of its invoice and the posted receipts of it. -/
def Supports (orders : List PurchaseOrder) (receipts : List GoodsServiceReceipt)
    (purchaseOrderId : Option String) (value : InvoiceMatch) : Prop :=
  value.status.acceptable → ∃ order ∈ orders, purchaseOrderId = some order.id ∧
    value.supportedValue ≤ order.total ∧ value.supportedValue ≤ postedValue receipts order.id

/-- Every match that can be accepted is supported. -/
def Supported (db : ErpDb) : Prop :=
  ∀ value ∈ db.invoiceMatches, ∀ invoice ∈ db.invoices, invoice.id = value.invoiceId →
    Supports db.orders db.receipts invoice.purchaseOrderId value

theorem Supported.of_counterparties (counterparties : List Counterparty) :
    Supported { counterparties := counterparties } := by
  simp [Supported]

theorem Supports.mono {orders after : List PurchaseOrder} {receipts received : List GoodsServiceReceipt}
    {purchaseOrderId : Option String} {value : InvoiceMatch}
    (h : Supports orders receipts purchaseOrderId value)
    (horders : ∀ order ∈ orders, ∃ other ∈ after, other.id = order.id ∧ other.total = order.total)
    (hreceipts : ∀ orderId, postedValue receipts orderId ≤ postedValue received orderId) :
    Supports after received purchaseOrderId value := by
  intro hstatus
  obtain ⟨order, horder, hrefers, htotal, hposted⟩ := h hstatus
  obtain ⟨other, hother, hid, hsame⟩ := horders order horder
  refine ⟨other, hother, hid ▸ hrefers, hsame ▸ htotal, ?_⟩
  rw [hid]
  exact Int.le_trans hposted (hreceipts order.id)

section Recalculation

variable {rounding : Rounding} {db : ErpDb} {tenantId token : String} {orders : List PurchaseOrder}
  {receipts : List GoodsServiceReceipt} {invoice : SupplierInvoice} {claimed : Rat}

theorem findOrder_some {order : PurchaseOrder} (h : findOrder tenantId orders invoice = some order) :
    order ∈ orders ∧ invoice.purchaseOrderId = some order.id := by
  unfold findOrder at h
  split at h
  · cases h
  next orderId hrefers =>
    split at h
    · cases h
    · have hid := List.find?_some h
      simp only [Bool.and_eq_true, beq_iff_eq] at hid
      rw [hid.1]
      exact ⟨List.mem_of_find?_eq_some h, hrefers⟩

/-- Matching finds nothing that can be accepted without an order. -/
theorem matching_mismatched (h : findOrder tenantId orders invoice = none) :
    (matching tenantId orders receipts invoice claimed).status = .mismatched := by
  simp [matching, h, findReceipts, disagreements, identityErrors]

theorem matching_supported (rounding : Rounding) (hvalues : ∀ row ∈ receipts, 0 ≤ row.acceptedValue)
    (hstatus : (matching tenantId orders receipts invoice claimed).status.acceptable) :
    ∃ order ∈ orders, invoice.purchaseOrderId = some order.id ∧
      rounding.round (matching tenantId orders receipts invoice claimed).supported ≤ order.total ∧
      rounding.round (matching tenantId orders receipts invoice claimed).supported ≤
        postedValue receipts order.id := by
  cases hfound : findOrder tenantId orders invoice with
  | none =>
    rw [matching_mismatched hfound] at hstatus
    simp [MatchStatus.acceptable] at hstatus
  | some order =>
    obtain ⟨horder, hrefers⟩ := findOrder_some hfound
    have hsupported : (matching tenantId orders receipts invoice claimed).supported =
        min claimed (min (order.total : Rat) (Table.sum GoodsServiceReceipt.acceptedValue
          (findReceipts tenantId receipts (some order)) : Int)) := by
      simp only [matching, hfound, Option.map_some, Option.getD_some]
    rw [hsupported]
    refine ⟨order, horder, hrefers, ?_, ?_⟩
    · exact rounding.round_le ((min_le_right _ _).trans (min_le_left _ _))
    · exact (rounding.round_le ((min_le_right _ _).trans (min_le_right _ _))).trans
        (findReceipts_le hvalues order)

/-- A recalculated match is supported by what the session saw. -/
theorem recalculate_supports {done : Recalculated} (hvalues : ∀ row ∈ receipts, 0 ≤ row.acceptedValue)
    (h : recalculate rounding db tenantId orders receipts token invoice claimed = .ok done) :
    Supports orders receipts invoice.purchaseOrderId done.write.row := by
  unfold recalculate at h
  simp only at h
  split at h
  · obtain rfl := Except.ok.inj h
    exact matching_supported rounding hvalues
  · obtain ⟨-, h⟩ := ensure_bind_ok.mp h
    obtain rfl := Except.ok.inj h
    exact matching_supported rounding hvalues

/-- A recalculation adds a match only to an invoice without one. -/
theorem recalculate_insert {done : Recalculated} {row : InvoiceMatch}
    (h : recalculate rounding db tenantId orders receipts token invoice claimed = .ok done)
    (hinsert : done.write = .insert row) : ∀ value ∈ db.invoiceMatches, value.invoiceId ≠ invoice.id := by
  unfold recalculate at h
  simp only at h
  split at h
  next hnone =>
    exact fun value hvalue hid ↦ List.find?_eq_none.mp hnone value hvalue (beq_iff_eq.mpr hid)
  · obtain ⟨-, h⟩ := ensure_bind_ok.mp h
    obtain rfl := Except.ok.inj h
    cases hinsert

/-- A recalculation raises only on an accepted match. -/
theorem recalculate_returns (rounding : Rounding) (db : ErpDb) (tenantId : String)
    (orders : List PurchaseOrder) (receipts : List GoodsServiceReceipt) (token : String)
    (invoice : SupplierInvoice) (claimed : Rat)
    (h : ∀ value, (db.invoiceMatches.find? fun row ↦ row.invoiceId == invoice.id) = some value →
      value.status.isAccepted = false) :
    ∃ done, recalculate rounding db tenantId orders receipts token invoice claimed = .ok done := by
  simp only [recalculate]
  cases hfound : db.invoiceMatches.find? fun row ↦ row.invoiceId == invoice.id with
  | none => exact ⟨_, rfl⟩
  | some value =>
    have hopen : (!value.status.isAccepted) = true := by rw [h value hfound, Bool.not_false]
    exact ⟨_, ensure_bind_ok.mpr ⟨hopen, rfl⟩⟩

end Recalculation

/-! ## Orders and receipts over a move -/

section Step

variable {rounding : Rounding} {db : ErpDb} {call : ErpCall} {writes : Writes}

/-- No order is lost and no total changes. -/
theorem Move.order_kept (hmove : Move rounding db call writes) (hregular : Regular db) :
    ∀ order ∈ db.orders, ∃ other ∈ (writes.apply db).orders,
      other.id = order.id ∧ other.total = order.total := by
  have hupdate (old changed : PurchaseOrder) (hold : old ∈ db.orders) (hid : changed.id = old.id)
      (htotal : changed.total = old.total) : ∀ order ∈ db.orders,
      ∃ other ∈ RowWrite.applyAll orderConstraints db.orders [.update changed],
        other.id = order.id ∧ other.total = order.total := by
    intro order horder
    have hexists := Table.exists_replace (P := fun other ↦ other.id = order.id ∧ other.total = order.total)
      changed hregular.keyed.orders.keys hold hid (fun h ↦ ⟨hid.trans h.1, htotal.trans h.2⟩)
      ⟨order, horder, rfl, rfl⟩
    exact hexists
  cases hmove with
  | orderCreated tenantId body buyer supplier =>
    exact fun order horder ↦ ⟨order, List.mem_append_left _ horder, rfl, rfl⟩
  | orderMoved order status actor hstored => exact hupdate order (order.move status actor) hstored rfl rfl
  | receiptPosted tenantId receipt order lineWrites recalculated hpost =>
    exact hupdate order (order.fulfil _) (findRow_mem hpost.heldOrder) rfl rfl
  | receiptCreated => exact fun order horder ↦ ⟨order, horder, rfl, rfl⟩
  | recalculated => exact fun order horder ↦ ⟨order, horder, rfl, rfl⟩
  | accepted => exact fun order horder ↦ ⟨order, horder, rfl, rfl⟩
  | disputed => exact fun order horder ↦ ⟨order, horder, rfl, rfl⟩
  | eventNoted => exact fun order horder ↦ ⟨order, horder, rfl, rfl⟩
  | invoiceAdded => exact fun order horder ↦ ⟨order, horder, rfl, rfl⟩
  | invoiceFollowed => exact fun order horder ↦ ⟨order, horder, rfl, rfl⟩

/-- Posted values never shrink. -/
theorem Move.postedValue_le (hmove : Move rounding db call writes) (hregular : Regular db)
    (orderId : String) : postedValue db.receipts orderId ≤ postedValue (writes.apply db).receipts orderId := by
  cases hmove with
  | receiptCreated tenantId body order checked =>
    have hdraft : postedValue (db.receipts ++ [newReceipt call tenantId body order checked]) orderId =
        postedValue db.receipts orderId := by
      simp [postedValue, newReceipt]
    exact hdraft.symm.le
  | receiptPosted tenantId receipt order lineWrites recalculated hpost =>
    obtain ⟨_, -, hheld⟩ := hpost.held
    have hreceipt : receipt ∈ db.receipts := findRow_mem hheld
    exact postedValue_post hregular.keyed.receipts hreceipt (hregular.values receipt hreceipt) orderId
  | orderCreated => exact Int.le_refl _
  | orderMoved => exact Int.le_refl _
  | recalculated => exact Int.le_refl _
  | accepted => exact Int.le_refl _
  | disputed => exact Int.le_refl _
  | eventNoted => exact Int.le_refl _
  | invoiceAdded => exact Int.le_refl _
  | invoiceFollowed => exact Int.le_refl _

/-! ## Invoices over a move -/

/-- The session changes no order that an invoice refers to. -/
def Writes.KeepsReferences (writes : Writes) (db : ErpDb) : Prop :=
  ∀ changed, RowWrite.update changed ∈ writes.invoices → ∃ invoice ∈ db.invoices,
    invoice.id = changed.id ∧ invoice.purchaseOrderId = changed.purchaseOrderId

theorem keepsReferences_singleton {changed invoice : SupplierInvoice} {writes : Writes}
    (hwrites : writes.invoices = [.update changed]) (hinvoice : invoice ∈ db.invoices)
    (hid : invoice.id = changed.id) (hrefers : invoice.purchaseOrderId = changed.purchaseOrderId) :
    writes.KeepsReferences db := by
  intro other hother
  rw [hwrites, List.mem_singleton] at hother
  obtain rfl := RowWrite.update.inj hother
  exact ⟨invoice, hinvoice, hid, hrefers⟩

theorem keepsReferences_posting {tenantId : String} {receipt : GoodsServiceReceipt}
    {order changed : PurchaseOrder} {lineWrites : List (RowWrite PurchaseOrderLine)}
    {recalculated : List Recalculated}
    (h : Posts rounding db call tenantId receipt order lineWrites recalculated) :
    (postingWrites receipt.post changed lineWrites recalculated).KeepsReferences db := by
  intro other hother
  obtain ⟨done, hdone, hwrite⟩ := List.mem_map.mp hother
  obtain rfl := RowWrite.update.inj hwrite
  obtain ⟨invoice, hinvoice, token, seen, -, hdone⟩ := recalculateAll_mem h.matched done hdone
  rw [recalculate_invoice hdone]
  exact ⟨invoice, (List.mem_filter.mp hinvoice).1, rfl, rfl⟩

/-- Only an event for a known invoice can change the order that an invoice refers to. -/
theorem Move.keepsReferences (hmove : Move rounding db call writes) :
    writes.KeepsReferences db ∨ ∃ event snapshot invoice settled changed,
      writes = eventWrites call event (.update settled) changed ∧
      Follows db call event snapshot invoice ∧
      Settles rounding db call event (invoice.follow rounding event snapshot)
        (claimedBy invoice snapshot) settled changed := by
  cases hmove with
  | receiptPosted tenantId receipt order lineWrites recalculated hpost =>
    exact Or.inl (keepsReferences_posting hpost)
  | recalculated tenantId invoice done hstored hdone =>
    rw [recalculate_invoice hdone]
    exact Or.inl (keepsReferences_singleton rfl hstored rfl rfl)
  | accepted tenantId value body invoice haccept =>
    exact Or.inl (keepsReferences_singleton rfl (findRow_mem haccept.heldInvoice) rfl rfl)
  | disputed value body invoice hstored hinvoice =>
    exact Or.inl (keepsReferences_singleton rfl hinvoice rfl rfl)
  | invoiceFollowed event snapshot invoice settled changed hfollows hsettles =>
    exact Or.inr ⟨event, snapshot, invoice, settled, changed, rfl, hfollows, hsettles⟩
  | orderCreated => exact Or.inl nofun
  | orderMoved => exact Or.inl nofun
  | receiptCreated => exact Or.inl nofun
  | eventNoted => exact Or.inl nofun
  | invoiceAdded event snapshot settled changed hsettles =>
    refine Or.inl fun other hother ↦ ?_
    simp [eventWrites] at hother

/-- An invoice after such a session is a new one or refers to the order that it referred to. -/
theorem Writes.KeepsReferences.origin {writes : Writes} (hkeeps : writes.KeepsReferences db)
    (haccepted : writes.Accepted db) {invoice : SupplierInvoice}
    (hinvoice : invoice ∈ (writes.apply db).invoices) :
    (∃ old ∈ db.invoices, old.id = invoice.id ∧ old.purchaseOrderId = invoice.purchaseOrderId) ∨
      ∀ old ∈ db.invoices, invoice.id ≠ old.id := by
  rcases RowWrite.mem_applyAll hinvoice with ⟨write, hwrite, rfl⟩ | ⟨hold, -⟩
  · cases write with
    | insert row => exact Or.inr (RowWrite.key_ne_of_insert haccepted.invoices hwrite)
    | update row => exact Or.inl (hkeeps row hwrite)
  · exact Or.inl ⟨invoice, hold, rfl, rfl⟩

/-- The invoice with the identifier of a known one refers to the order of the known one. -/
theorem Writes.KeepsReferences.same {writes : Writes} (hkeeps : writes.KeepsReferences db)
    (hregular : Regular db) (haccepted : writes.Accepted db) {invoice known : SupplierInvoice}
    (hinvoice : invoice ∈ (writes.apply db).invoices) (hknown : known ∈ db.invoices)
    (hid : invoice.id = known.id) : invoice.purchaseOrderId = known.purchaseOrderId := by
  rcases hkeeps.origin haccepted hinvoice with ⟨old, hold, holdId, hrefers⟩ | hfresh
  · obtain rfl := Table.eq_of_key hregular.keyed.invoices.keys hold hknown (holdId.trans hid)
    exact hrefers.symm
  · exact absurd hid (hfresh known hknown)

/-! ## Support over a move -/

section Settled

variable {event : GstEventEnvelope} {followed settled : SupplierInvoice} {claimed : Rat}
  {changed : List (RowWrite InvoiceMatch)}

/-- What an event stores for the match of its invoice is supported by the order of the invoice. -/
theorem Settles.supports (hregular : Regular db)
    (h : Settles rounding db call event followed claimed settled changed) :
    ∀ write ∈ changed, Supports db.orders db.receipts followed.purchaseOrderId write.row := by
  cases h with
  | unmatched => simp
  | reviewed value found again =>
    refine List.forall_mem_singleton.mpr fun hstatus ↦ ?_
    simp [RowWrite.row, InvoiceMatch.review, MatchStatus.acceptable] at hstatus
  | recalculated done h => exact List.forall_mem_singleton.mpr (recalculate_supports hregular.values h)

/-- An event stores the match that its invoice has. -/
theorem Settles.written (hregular : Regular db)
    (h : Settles rounding db call event followed claimed settled changed) {value : InvoiceMatch}
    (hvalue : value ∈ db.invoiceMatches) (hid : value.invoiceId = followed.id) :
    ∃ row, changed = [.update row] ∧ row.id = value.id ∧ row.invoiceId = value.invoiceId := by
  have hsame {other : InvoiceMatch} (hother : other ∈ db.invoiceMatches)
      (hotherId : other.invoiceId = followed.id) : other.id = value.id := by
    by_contra hne
    have hclash := hregular.keyed.invoiceMatches.unique other hother value hvalue hne
    simp [matchConstraints, hid, hotherId] at hclash
  cases h with
  | unmatched hnone => exact absurd hid (hnone value hvalue)
  | reviewed other found again hother hotherId =>
    have hotherSame := hsame hother hotherId
    exact ⟨other.review found again, rfl, hotherSame, hotherId.trans hid.symm⟩
  | recalculated done hdone =>
    have hmatch := recalculate_matchOf hdone
    cases hwrite : done.write with
    | insert row => exact absurd hid (recalculate_insert hdone hwrite value hvalue)
    | update row =>
      obtain ⟨other, hother, hotherId, hinvoice⟩ := hmatch.stored row hwrite
      refine ⟨row, rfl, hotherId.symm.trans (hsame hother hinvoice), ?_⟩
      rw [hid, ← hmatch.ofInvoice, hwrite, RowWrite.row]

end Settled

theorem acceptanceStatus_not_acceptable (value : InvoiceMatch) (body : AcceptanceCreate) :
    ¬ (acceptanceStatus value body).acceptable := by
  unfold acceptanceStatus
  split <;> simp [MatchStatus.acceptable]

/-- A written match is supported by the order of the invoice as it is stored. -/
theorem Move.supports {writes : Writes} (hmove : Move rounding db call writes) (hregular : Regular db)
    (haccepted : writes.Accepted db) :
    ∀ write ∈ writes.invoiceMatches, ∀ invoice ∈ (writes.apply db).invoices,
      invoice.id = write.row.invoiceId →
        Supports (writes.apply db).orders (writes.apply db).receipts invoice.purchaseOrderId write.row := by
  have hreceipts := hmove.postedValue_le hregular
  cases hmove with
  | orderCreated => simp [creationWrites]
  | orderMoved => simp
  | receiptCreated => simp [draftWrites]
  | eventNoted => simp
  | receiptPosted tenantId receipt order lineWrites recalculated hpost =>
    intro write hwrite invoice hinvoice hid
    obtain ⟨done, hdone, rfl⟩ := List.mem_map.mp hwrite
    obtain ⟨known, hknown, token, seen, hseen, hdone⟩ := recalculateAll_mem hpost.matched done hdone
    have hrefers := (keepsReferences_posting hpost).same hregular haccepted hinvoice
      (List.mem_filter.mp hknown).1 (hid.trans (recalculate_matchOf hdone).ofInvoice)
    have hvalues : ∀ row ∈ seen, 0 ≤ row.acceptedValue := by
      obtain ⟨_, -, hheld⟩ := hpost.held
      rcases hseen with rfl | rfl
      · exact hregular.values
      · exact RowWrite.forall_written hregular.values haccepted.receipts
          (hregular.values receipt (findRow_mem hheld))
    rw [hrefers]
    refine (recalculate_supports hvalues hdone).mono (fun order horder ↦ ⟨order, horder, rfl, rfl⟩) ?_
    rcases hseen with rfl | rfl
    · exact hreceipts
    · exact fun _ ↦ Int.le_refl _
  | recalculated tenantId known done hstored hdone =>
    have hkeeps : Writes.KeepsReferences
        { invoices := [.update done.invoice], invoiceMatches := [done.write] } db :=
      keepsReferences_singleton rfl hstored (by rw [recalculate_invoice hdone]; rfl)
        (by rw [recalculate_invoice hdone]; rfl)
    refine List.forall_mem_singleton.mpr fun invoice hinvoice hid ↦ ?_
    rw [hkeeps.same hregular haccepted hinvoice hstored
      (hid.trans (recalculate_matchOf hdone).ofInvoice)]
    exact recalculate_supports hregular.values hdone
  | accepted tenantId value body invoice haccept =>
    exact List.forall_mem_singleton.mpr fun _ _ _ hstatus ↦
      absurd hstatus (acceptanceStatus_not_acceptable value body)
  | disputed value body invoice hstored hinvoice =>
    refine List.forall_mem_singleton.mpr fun _ _ _ hstatus ↦ ?_
    simp [RowWrite.row, InvoiceMatch.dispute, MatchStatus.acceptable] at hstatus
  | invoiceAdded event snapshot settled changed hsettles =>
    intro write hwrite invoice hinvoice hid
    have hmatch := hsettles.matchOf write hwrite
    have hfresh := RowWrite.accepted_insert.mp (RowWrite.accepted_of_singleton haccepted.invoices)
    have hsettled : settled.id = invoice.id := hsettles.id.trans (hmatch.ofInvoice.symm.trans hid.symm)
    rcases List.mem_append.mp hinvoice with hold | hnew
    · exact absurd hsettled (hfresh invoice hold).1
    · rw [List.mem_singleton.mp hnew, hsettles.purchaseOrderId]
      exact hsettles.supports hregular write hwrite
  | invoiceFollowed event snapshot known settled changed hfollows hsettles =>
    intro write hwrite invoice hinvoice hid
    have hmatch := hsettles.matchOf write hwrite
    have hsettled : invoice.id = settled.id := hid.trans (hmatch.ofInvoice.trans hsettles.id.symm)
    rcases RowWrite.mem_written haccepted.invoices hinvoice with hsame | ⟨-, hne⟩
    · have hrefers : invoice.purchaseOrderId = settled.purchaseOrderId :=
        congrArg SupplierInvoice.purchaseOrderId hsame
      rw [hrefers, hsettles.purchaseOrderId]
      exact hsettles.supports hregular write hwrite
    · exact absurd hsettled hne

/-- A move keeps every match supported. -/
theorem Supported.apply {writes : Writes} (h : Supported db) (hmove : Move rounding db call writes)
    (hregular : Regular db) (haccepted : writes.Accepted db) : Supported (writes.apply db) := by
  intro value hvalue invoice hinvoice hid
  rcases RowWrite.mem_applyAll hvalue with ⟨write, hwrite, rfl⟩ | ⟨hold, hunwritten⟩
  · exact hmove.supports hregular haccepted write hwrite invoice hinvoice hid
  · obtain ⟨known, hknown, hknownId⟩ := List.mem_map.mp (hregular.invoiced value hold)
    have hrefers : invoice.purchaseOrderId = known.purchaseOrderId := by
      rcases hmove.keepsReferences with
        hkeeps | ⟨event, snapshot, own, settled, changed, rfl, hfollows, hsettles⟩
      · exact hkeeps.same hregular haccepted hinvoice hknown (hid.trans hknownId.symm)
      · have hsettledId := hsettles.id
        rcases RowWrite.mem_written haccepted.invoices hinvoice with rfl | ⟨hother, -⟩
        · -- the match of the invoice of the event would have been written
          obtain ⟨row, rfl, hrow, -⟩ :=
            hsettles.written hregular hold (hid.symm.trans hsettledId)
          exact absurd hrow (hunwritten row (List.mem_singleton.mpr rfl))
        · rw [Table.eq_of_key hregular.keyed.invoices.keys hother hknown (hid.trans hknownId.symm)]
    rw [hrefers]
    exact (h value hold known hknown hknownId).mono (hmove.order_kept hregular)
      (hmove.postedValue_le hregular)

end Step

end Xyena.Erp
