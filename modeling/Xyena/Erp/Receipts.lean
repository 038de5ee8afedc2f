import Xyena.Erp.Invariant

/-!
# The received quantities of order lines

A draft receipt is checked against what its order has not received yet, but the
quantities move when it is posted. Every order line counts what the posted
receipts list for it, and it stays within its ordered quantity exactly when
every posting that could go beyond it finds the room.
-/

namespace Xyena.Erp

open Xyena.Foundation Xyena.Foundation.Session

/-! ## Posted quantities -/

def isPosted (receipts : List GoodsServiceReceipt) (receiptId : String) : Bool :=
  receipts.any fun row ↦ row.id == receiptId && row.status == .posted

/-- The sum of a column of the lines that posted receipts list for an order line. -/
def postedSum (column : ReceiptLine → Int) (db : ErpDb) (lineId : String) : Int :=
  Table.sum column (db.receiptLines.filter fun row ↦
    row.purchaseOrderLineId == lineId && isPosted db.receipts row.receiptId)

/-- The sum of the received quantities of an order line over the posted receipts. -/
def postedQuantity (db : ErpDb) (lineId : String) : Int :=
  Table.sum ReceiptLine.receivedQuantity (db.receiptLines.filter fun row ↦
    row.purchaseOrderLineId == lineId && isPosted db.receipts row.receiptId)

/-- The quantities of an order line are in order and count what was posted. -/
structure LineHolds (db : ErpDb) (line : PurchaseOrderLine) : Prop where
  accepted_nonneg : 0 ≤ line.acceptedQuantity
  accepted_le : line.acceptedQuantity ≤ line.receivedQuantity
  received_le : line.receivedQuantity ≤ line.quantity
  received_eq : line.receivedQuantity = postedQuantity db line.id

def LinesHold (db : ErpDb) : Prop := ∀ line ∈ db.orderLines, LineHolds db line

/-- What a receipt lists for an order line. -/
def listed (db : ErpDb) (receiptId lineId : String) : List ReceiptLine :=
  (linesOf db receiptId).filter fun row ↦ row.purchaseOrderLineId == lineId

/-- All but the bound by the ordered quantity, which every call keeps. -/
structure Counted (db : ErpDb) : Prop where
  posted : ∀ line ∈ db.orderLines, line.receivedQuantity = postedQuantity db line.id
  accepted : ∀ line ∈ db.orderLines,
    0 ≤ line.acceptedQuantity ∧ line.acceptedQuantity ≤ line.receivedQuantity
  split : ∀ row ∈ db.receiptLines,
    0 ≤ row.acceptedQuantity ∧ row.acceptedQuantity ≤ row.receivedQuantity
  drafted : ∀ row ∈ db.receiptLines, ∀ line ∈ db.orderLines, line.id = row.purchaseOrderLineId →
    row.receivedQuantity ≤ line.quantity

theorem isPosted_iff {receipts : List GoodsServiceReceipt} {receiptId : String} :
    isPosted receipts receiptId = true ↔ ∃ row ∈ receipts, row.id = receiptId ∧ row.status = .posted := by
  simp [isPosted]

section Columns

variable {db after : ErpDb}

/-- Posted sums depend on two tables only. -/
theorem postedSum_congr (column : ReceiptLine → Int) (hreceipts : after.receipts = db.receipts)
    (hlines : after.receiptLines = db.receiptLines) (lineId : String) :
    postedSum column after lineId = postedSum column db lineId := by
  rw [postedSum, postedSum, hreceipts, hlines]

/-- A session that writes none of the three tables keeps the count. -/
theorem Counted.of_same (h : Counted db) (horders : after.orderLines = db.orderLines)
    (hreceipts : after.receipts = db.receipts) (hlines : after.receiptLines = db.receiptLines) :
    Counted after := by
  refine ⟨fun line hline ↦ ?_, ?_, ?_, ?_⟩
  · exact (h.posted line (horders ▸ hline)).trans (postedSum_congr _ hreceipts hlines line.id).symm
  · exact horders ▸ h.accepted
  · exact hlines ▸ h.split
  · exact horders ▸ hlines ▸ h.drafted

theorem LinesHold.iff_within (h : Counted db) :
    LinesHold db ↔ ∀ line ∈ db.orderLines, line.receivedQuantity ≤ line.quantity := by
  constructor
  · exact fun hold line hline ↦ (hold line hline).received_le
  · intro hwithin line hline
    obtain ⟨hnonneg, hle⟩ := h.accepted line hline
    exact ⟨hnonneg, hle, hwithin line hline, h.posted line hline⟩

end Columns

/-! ## A draft -/

section Draft

variable {rounding : Rounding} {db : ErpDb} {call : ErpCall} {tenantId : String} {body : ReceiptCreate}
  {order : PurchaseOrder} {checked : List (ReceiptLineCreate × PurchaseOrderLine)}

/-- A new draft posts nothing: its identifier is new. -/
theorem postedSum_draft (rounding : Rounding) (column : ReceiptLine → Int)
    (hfresh : ∀ old ∈ db.receipts, (newReceipt call tenantId body order checked).id ≠ old.id)
    (lineId : String) :
    postedSum column ((draftWrites rounding call tenantId body order checked).apply db) lineId =
      postedSum column db lineId := by
  have hlines : ((draftWrites rounding call tenantId body order checked).apply db).receiptLines =
      db.receiptLines ++ newReceiptLines rounding call checked := RowWrite.applyAll_insert _ _
  have hreceipts : ((draftWrites rounding call tenantId body order checked).apply db).receipts =
      db.receipts ++ [newReceipt call tenantId body order checked] := rfl
  have hposted (receiptId : String) :
      isPosted (db.receipts ++ [newReceipt call tenantId body order checked]) receiptId =
        isPosted db.receipts receiptId := by
    simp [isPosted, newReceipt]
  have hnone : (newReceiptLines rounding call checked).filter (fun row ↦
      row.purchaseOrderLineId == lineId && isPosted db.receipts row.receiptId) = [] := by
    refine List.filter_eq_nil_iff.mpr fun row hrow ↦ ?_
    obtain ⟨line, -, rfl⟩ := List.mem_map.mp hrow
    have hunposted : isPosted db.receipts ("rcpt_demo_" ++ call.token 0) ≠ true := fun hposted ↦ by
      obtain ⟨old, hold, hid, -⟩ := isPosted_iff.mp hposted
      exact hfresh old hold hid.symm
    simp [newReceiptLine, hunposted]
  simp only [postedSum, hlines, hreceipts, hposted, List.filter_append, hnone, List.append_nil]

/-- A requested line that fits splits its quantity and lists no more than was ordered. -/
theorem newReceiptLine_fits {orderLines : List PurchaseOrderLine} {requested : ReceiptLineCreate}
    {line : PurchaseOrderLine} {receiptId : String} {index : Nat} (h : Fits orderLines requested line)
    (hreceived : 0 ≤ line.receivedQuantity) :
    0 ≤ (newReceiptLine rounding call receiptId requested line index).acceptedQuantity ∧
      (newReceiptLine rounding call receiptId requested line index).acceptedQuantity ≤
        (newReceiptLine rounding call receiptId requested line index).receivedQuantity ∧
      (newReceiptLine rounding call receiptId requested line index).receivedQuantity ≤ line.quantity := by
  refine ⟨rounding.round_nonneg requested.acceptedQuantity_nonneg, rounding.round_mono h.accepted_le, ?_⟩
  have hround : rounding.round requested.receivedQuantity ≤ line.quantity - line.receivedQuantity :=
    rounding.round_le h.within
  have hbound : rounding.round requested.receivedQuantity ≤ line.quantity := by omega
  exact hbound

end Draft

/-! ## A posting -/

section Posting

variable {db : ErpDb} {receipt : GoodsServiceReceipt}

/-- Posting a receipt posts just this one. -/
theorem isPosted_post (hregular : Regular db) (hreceipt : receipt ∈ db.receipts) (receiptId : String) :
    isPosted (RowWrite.applyAll receiptConstraints db.receipts [.update receipt.post]) receiptId =
      (isPosted db.receipts receiptId || receiptId == receipt.id) := by
  rw [Bool.eq_iff_iff, Bool.or_eq_true, isPosted_iff, isPosted_iff, beq_iff_eq]
  constructor
  · rintro ⟨row, hrow, rfl, hposted⟩
    rcases Table.mem_replace hrow with rfl | ⟨hold, -⟩
    · exact Or.inr rfl
    · exact Or.inl ⟨row, hold, rfl, hposted⟩
  · rintro (⟨row, hrow, rfl, hposted⟩ | rfl)
    · exact Table.exists_replace receipt.post hregular.keyed.receipts.keys hreceipt rfl
        (fun h ↦ ⟨h.1, rfl⟩) ⟨row, hrow, rfl, hposted⟩
    · exact ⟨receipt.post, Table.changed_mem_replace hreceipt rfl, rfl, rfl⟩

/-- A posted receipt adds what it lists. -/
theorem postedSum_post (column : ReceiptLine → Int) (after : ErpDb) (hregular : Regular db)
    (hreceipt : receipt ∈ db.receipts) (hdraft : receipt.status = .draft)
    (hreceipts : after.receipts = RowWrite.applyAll receiptConstraints db.receipts [.update receipt.post])
    (hlines : after.receiptLines = db.receiptLines) (lineId : String) :
    postedSum column after lineId =
      postedSum column db lineId + Table.sum column (listed db receipt.id lineId) := by
  have hunposted : isPosted db.receipts receipt.id = false := by
    rw [← Bool.not_eq_true, isPosted_iff]
    rintro ⟨row, hrow, hid, hposted⟩
    obtain rfl := Table.eq_of_key hregular.keyed.receipts.keys hrow hreceipt hid
    rw [hdraft] at hposted
    cases hposted
  have hlisted : listed db receipt.id lineId = db.receiptLines.filter fun row ↦
      row.purchaseOrderLineId == lineId && row.receiptId == receipt.id := by
    rw [listed, linesOf, List.filter_filter]
  rw [postedSum, hreceipts, hlines, hlisted, postedSum, ← Table.sum_append]
  simp only [isPosted_post hregular hreceipt, Bool.and_or_distrib_left]
  refine Table.sum_perm _ (Table.filter_or_perm fun row hrow hfirst ↦ ?_)
  simp only [Bool.and_eq_true, beq_iff_eq] at hfirst
  rw [Bool.and_eq_false_iff]
  refine Or.inr (beq_eq_false_iff_ne.mpr fun hsame ↦ ?_)
  rw [hsame, hunposted] at hfirst
  cases hfirst.2

end Posting

/-! ## Every call keeps the count -/

section Step

variable {rounding : Rounding} {db : ErpDb} {call : ErpCall} {writes : Writes}

theorem newOrderLines_fresh {tenantId : String} {body : PurchaseOrderCreate} {buyer supplier : Counterparty}
    (haccepted : (creationWrites rounding call tenantId body buyer supplier).Accepted db) :
    ∀ row ∈ newOrderLines rounding call body, ∀ old ∈ db.orderLines, row.id ≠ old.id :=
  fun row hrow old hold ↦ ((RowWrite.acceptedAll_insert.mp haccepted.orderLines).1 row hrow old hold).1

theorem newOrderLines_unreceived (rounding : Rounding) (call : ErpCall) (body : PurchaseOrderCreate) :
    ∀ row ∈ newOrderLines rounding call body, row.receivedQuantity = 0 ∧ row.acceptedQuantity = 0 := by
  intro row hrow
  obtain ⟨line, -, rfl⟩ := List.mem_map.mp hrow
  exact ⟨rfl, rfl⟩

/-- Nothing was posted for an order line that is new. -/
theorem postedSum_fresh (column : ReceiptLine → Int) (hregular : Regular db) {lineId : String}
    (hfresh : ∀ old ∈ db.orderLines, lineId ≠ old.id) : postedSum column db lineId = 0 := by
  have hnone : db.receiptLines.filter (fun row ↦
      row.purchaseOrderLineId == lineId && isPosted db.receipts row.receiptId) = [] := by
    refine List.filter_eq_nil_iff.mpr fun row hrow hselected ↦ ?_
    obtain ⟨old, hold, hid⟩ := List.mem_map.mp (hregular.delivered row hrow)
    simp only [Bool.and_eq_true, beq_iff_eq] at hselected
    exact hfresh old hold (hselected.1.symm.trans hid.symm)
  rw [postedSum, hnone, Table.sum_nil]

/-- The order lines after a posting. -/
theorem orderLines_post {tenantId : String} {receipt : GoodsServiceReceipt} {order : PurchaseOrder}
    {lineWrites : List (RowWrite PurchaseOrderLine)} {recalculated : List Recalculated}
    (hregular : Regular db) (h : Posts rounding db call tenantId receipt order lineWrites recalculated)
    (changed : PurchaseOrder) :
    ((postingWrites receipt.post changed lineWrites recalculated).apply db).orderLines =
      db.orderLines.map (PurchaseOrderLine.receiveAll (linesOf db receipt.id)) :=
  receiveLines_apply hregular.keyed.orderLines.keys h.received

/-- A posting adds to an order line what its receipt lists. -/
theorem Counted.post {tenantId : String} {receipt : GoodsServiceReceipt} {order : PurchaseOrder}
    {lineWrites : List (RowWrite PurchaseOrderLine)} {recalculated : List Recalculated} (h : Counted db)
    (hregular : Regular db) (hpost : Posts rounding db call tenantId receipt order lineWrites recalculated)
    (changed : PurchaseOrder) :
    Counted ((postingWrites receipt.post changed lineWrites recalculated).apply db) := by
  obtain ⟨_, -, hheld⟩ := hpost.held
  have hreceipt : receipt ∈ db.receipts := findRow_mem hheld
  have hlines := orderLines_post hregular hpost changed
  have hposted (lineId : String) :
      postedQuantity ((postingWrites receipt.post changed lineWrites recalculated).apply db) lineId =
        postedQuantity db lineId +
          Table.sum ReceiptLine.receivedQuantity (listed db receipt.id lineId) :=
    postedSum_post ReceiptLine.receivedQuantity
      ((postingWrites receipt.post changed lineWrites recalculated).apply db) hregular hreceipt hpost.draft
      rfl rfl lineId
  refine ⟨?_, ?_, h.split, ?_⟩
  · rw [hlines]
    refine List.forall_mem_map.mpr fun line hline ↦ ?_
    rw [hposted]
    exact congrArg (· + _) (h.posted line hline)
  · rw [hlines]
    refine List.forall_mem_map.mpr fun line hline ↦ ?_
    obtain ⟨hnonneg, hle⟩ := h.accepted line hline
    have hstored (row : ReceiptLine) (hrow : row ∈ listed db receipt.id line.id) : row ∈ db.receiptLines :=
      (List.mem_filter.mp (List.mem_filter.mp hrow).1).1
    have hsum : 0 ≤ Table.sum ReceiptLine.acceptedQuantity (listed db receipt.id line.id) :=
      sum_nonneg fun row hrow ↦ (h.split row (hstored row hrow)).1
    have hsums : Table.sum ReceiptLine.acceptedQuantity (listed db receipt.id line.id) ≤
        Table.sum ReceiptLine.receivedQuantity (listed db receipt.id line.id) :=
      Table.sum_le_sum fun row hrow ↦ (h.split row (hstored row hrow)).2
    exact ⟨Int.add_nonneg hnonneg hsum, Int.add_le_add hle hsums⟩
  · rw [hlines]
    exact fun row hrow ↦ List.forall_mem_map.mpr (h.drafted row hrow)

/-- A move keeps the count. -/
theorem Counted.apply (h : Counted db) (hmove : Move rounding db call writes) (hregular : Regular db)
    (haccepted : writes.Accepted db) : Counted (writes.apply db) := by
  cases hmove with
  | orderCreated tenantId body buyer supplier hrequest hcreates =>
    have hfresh := newOrderLines_fresh haccepted
    have hnew := newOrderLines_unreceived rounding call body
    have hlines : ((creationWrites rounding call tenantId body buyer supplier).apply db).orderLines =
        db.orderLines ++ newOrderLines rounding call body := RowWrite.applyAll_insert _ _
    refine ⟨?_, ?_, h.split, fun row hrow ↦ ?_⟩
    · rw [hlines]
      refine List.forall_mem_append.mpr ⟨h.posted, fun line hline ↦ ?_⟩
      rw [(hnew line hline).1]
      exact (postedSum_fresh ReceiptLine.receivedQuantity hregular (hfresh line hline)).symm
    · rw [hlines]
      refine List.forall_mem_append.mpr ⟨h.accepted, fun line hline ↦ ?_⟩
      obtain ⟨hreceived, haccepted⟩ := hnew line hline
      rw [hreceived, haccepted]
      exact ⟨Int.le_refl 0, Int.le_refl 0⟩
    · rw [hlines]
      refine List.forall_mem_append.mpr ⟨h.drafted row hrow, fun line hline hid ↦ ?_⟩
      obtain ⟨old, hold, holdId⟩ := List.mem_map.mp (hregular.delivered row hrow)
      exact absurd (hid.trans holdId.symm) (hfresh line hline old hold)
  | receiptCreated tenantId body order checked hstored hchecked =>
    have hfresh := RowWrite.accepted_insert.mp (RowWrite.accepted_of_singleton haccepted.receipts)
    have hfits := fits_of_checkLines hchecked
    have hrows (line : (ReceiptLineCreate × PurchaseOrderLine) × Nat) (hline : line ∈ checked.zipIdx 1) :=
      hfits line.1 (List.fst_mem_of_mem_zipIdx hline)
    have hlines : ((draftWrites rounding call tenantId body order checked).apply db).receiptLines =
        db.receiptLines ++ newReceiptLines rounding call checked := RowWrite.applyAll_insert _ _
    refine ⟨fun line hline ↦ ?_, h.accepted, ?_, ?_⟩
    · exact (h.posted line hline).trans (postedSum_draft rounding ReceiptLine.receivedQuantity
        (fun old hold ↦ (hfresh old hold).1) line.id).symm
    · rw [hlines]
      refine List.forall_mem_append.mpr ⟨h.split, List.forall_mem_map.mpr fun line hline ↦ ?_⟩
      have hfit := hrows line hline
      obtain ⟨hnonneg, hle⟩ := h.accepted line.1.2 (List.mem_filter.mp hfit.stored).1
      obtain ⟨hfirst, hsecond, -⟩ := newReceiptLine_fits hfit (Int.le_trans hnonneg hle)
      exact ⟨hfirst, hsecond⟩
    · rw [hlines]
      refine List.forall_mem_append.mpr ⟨h.drafted, List.forall_mem_map.mpr ?_⟩
      intro line hline found hfound hid
      have hfit := hrows line hline
      have hstoredLine := (List.mem_filter.mp hfit.stored).1
      obtain rfl : found = line.1.2 :=
        Table.eq_of_key hregular.keyed.orderLines.keys hfound hstoredLine (hid.trans hfit.id.symm)
      obtain ⟨hnonneg, hle⟩ := h.accepted line.1.2 hstoredLine
      exact (newReceiptLine_fits hfit (Int.le_trans hnonneg hle)).2.2
  | receiptPosted tenantId receipt order lineWrites recalculated hpost => exact h.post hregular hpost _
  | orderMoved => exact h.of_same rfl rfl rfl
  | recalculated => exact h.of_same rfl rfl rfl
  | accepted => exact h.of_same rfl rfl rfl
  | disputed => exact h.of_same rfl rfl rfl
  | eventNoted => exact h.of_same rfl rfl rfl
  | invoiceAdded => exact h.of_same rfl rfl rfl
  | invoiceFollowed => exact h.of_same rfl rfl rfl

end Step

theorem Counted.step {rounding : Rounding} {db : ErpDb} (h : Regular db ∧ Counted db) (call : ErpCall) :
    Regular ((erp rounding).step db call).2 ∧ Counted ((erp rounding).step db call).2 := by
  refine ⟨h.1.step rounding call, (sessions rounding).step_kept Counted h.2 ?_⟩
  intro answer writes hserve _ haccepted
  exact h.2.apply (move_of_serve hserve) h.1 (Writes.accepted_iff.mp haccepted)

/-! ## The exact condition -/

/-- A posting that passes its checks and whose rows the database admits. -/
def Postable (rounding : Rounding) (db : ErpDb) (call : ErpCall) (receipt : GoodsServiceReceipt) : Prop :=
  call.refused = false ∧ ∃ tenantId order lineWrites recalculated,
    Posts rounding db call tenantId receipt order lineWrites recalculated ∧
    (postingWrites receipt.post
      (order.fulfil (RowWrite.applyAll orderLineConstraints db.orderLines lineWrites)) lineWrites
      recalculated).Accepted db

/-- A posting finds room for what it lists on every order line that was received before or that it lists
more than once. -/
def LeavesRoom (rounding : Rounding) (db : ErpDb) (call : ErpCall) : Prop :=
  ∀ receipt, Postable rounding db call receipt → ∀ line ∈ db.orderLines,
    line.receivedQuantity ≠ 0 ∨ 1 < (listed db receipt.id line.id).length →
      line.receivedQuantity + Table.sum ReceiptLine.receivedQuantity (listed db receipt.id line.id) ≤
        line.quantity

section Condition

variable {rounding : Rounding} {db : ErpDb} {call : ErpCall} {writes : Writes}

/-- A posting whose guards hold returns the receipt with the rows of it. -/
theorem serve_of_posts {tenantId : String} {receipt : GoodsServiceReceipt} {order : PurchaseOrder}
    {lineWrites : List (RowWrite PurchaseOrderLine)} {recalculated : List Recalculated}
    (h : Posts rounding db call tenantId receipt order lineWrites recalculated) :
    serve rounding db call = .ok (.receipt receipt.post, some (postingWrites receipt.post
      (order.fulfil (RowWrite.applyAll orderLineConstraints db.orderLines lineWrites)) lineWrites
      recalculated)) := by
  obtain ⟨receiptId, hrequest, hreceipt⟩ := h.held
  simp only [serve, hrequest, postReceipt]
  refine bind_ok.mpr ⟨receipt, hreceipt, ?_⟩
  refine expectVersion_bind_ok.mpr ⟨rfl, ?_⟩
  refine ensure_bind_ok.mpr ⟨beq_iff_eq.mpr h.draft, ?_⟩
  refine bind_ok.mpr ⟨order, h.heldOrder, ?_⟩
  refine bind_ok.mpr ⟨lineWrites, h.received, ?_⟩
  exact bind_ok.mpr ⟨recalculated, h.matched, rfl⟩

/-- A posting whose guards hold is committed. -/
theorem step_of_posts {tenantId : String} {receipt : GoodsServiceReceipt} {order : PurchaseOrder}
    {lineWrites : List (RowWrite PurchaseOrderLine)} {recalculated : List Recalculated}
    (h : Posts rounding db call tenantId receipt order lineWrites recalculated)
    (hrefused : call.refused = false)
    (haccepted : (postingWrites receipt.post
      (order.fulfil (RowWrite.applyAll orderLineConstraints db.orderLines lineWrites)) lineWrites
      recalculated).Accepted db) :
    ((erp rounding).step db call).2 = (postingWrites receipt.post
      (order.fulfil (RowWrite.applyAll orderLineConstraints db.orderLines lineWrites)) lineWrites
      recalculated).apply db :=
  congrArg Prod.snd
    ((sessions rounding).step_commit (serve_of_posts h) hrefused (Writes.accepted_iff.mpr haccepted))

/-- A line that was never received and is listed once fits, as its draft was checked. -/
theorem LeavesRoom.room (h : LeavesRoom rounding db call) (hregular : Regular db) (hcounted : Counted db)
    {receipt : GoodsServiceReceipt} (hpost : Postable rounding db call receipt)
    {line : PurchaseOrderLine} (hline : line ∈ db.orderLines) :
    line.receivedQuantity + Table.sum ReceiptLine.receivedQuantity (listed db receipt.id line.id) ≤
      line.quantity := by
  by_cases hcase : line.receivedQuantity ≠ 0 ∨ 1 < (listed db receipt.id line.id).length
  · exact h receipt hpost line hline hcase
  · obtain ⟨hzero, hshort⟩ := not_or.mp hcase
    rw [not_not.mp hzero, Int.zero_add]
    cases hlisted : listed db receipt.id line.id with
    | nil => exact (hregular.prices line hline).1
    | cons row rest =>
      have hrest : rest = [] := by
        rw [hlisted, List.length_cons] at hshort
        exact List.eq_nil_of_length_eq_zero (by omega)
      have hrow : row ∈ listed db receipt.id line.id := hlisted ▸ List.mem_cons_self
      obtain ⟨hofReceipt, hid⟩ := List.mem_filter.mp hrow
      rw [hrest, Table.sum_cons, Table.sum_nil, Int.add_zero]
      exact hcounted.drafted row (List.mem_filter.mp hofReceipt).1 line hline (beq_iff_eq.mp hid).symm

/-- A move that leaves room keeps every order line within its ordered quantity. -/
theorem Move.within (hmove : Move rounding db call writes) (hregular : Regular db) (hcounted : Counted db)
    (hold : LinesHold db) (hrefused : call.refused = false) (haccepted : writes.Accepted db)
    (hroom : LeavesRoom rounding db call) :
    ∀ line ∈ (writes.apply db).orderLines, line.receivedQuantity ≤ line.quantity := by
  have hwithin : ∀ line ∈ db.orderLines, line.receivedQuantity ≤ line.quantity :=
    (LinesHold.iff_within hcounted).mp hold
  cases hmove with
  | orderCreated tenantId body buyer supplier hrequest hcreates =>
    simp only [Writes.apply, creationWrites, RowWrite.applyAll_insert]
    refine List.forall_mem_append.mpr ⟨hwithin, fun line hline ↦ ?_⟩
    rw [(newOrderLines_unreceived rounding call body line hline).1]
    exact (newOrderLines_prices body line hline).1
  | receiptPosted tenantId receipt order lineWrites recalculated hpost =>
    rw [orderLines_post hregular hpost]
    refine List.forall_mem_map.mpr fun line hline ↦ ?_
    exact hroom.room hregular hcounted ⟨hrefused, _, _, _, _, hpost, haccepted⟩ hline
  | orderMoved => exact hwithin
  | receiptCreated => exact hwithin
  | recalculated => exact hwithin
  | accepted => exact hwithin
  | disputed => exact hwithin
  | eventNoted => exact hwithin
  | invoiceAdded => exact hwithin
  | invoiceFollowed => exact hwithin

/-- A call keeps the order lines exactly when it leaves room. -/
theorem linesHold_step_iff (hregular : Regular db) (hcounted : Counted db) (hold : LinesHold db) :
    LinesHold ((erp rounding).step db call).2 ↔ LeavesRoom rounding db call := by
  constructor
  · rintro hafter receipt ⟨hrefused, tenantId, order, lineWrites, recalculated, hpost, haccepted⟩ line hline -
    rw [step_of_posts hpost hrefused haccepted] at hafter
    have hlines := orderLines_post hregular hpost
      (order.fulfil (RowWrite.applyAll orderLineConstraints db.orderLines lineWrites))
    exact (hafter (line.receiveAll (linesOf db receipt.id))
      (hlines ▸ List.mem_map_of_mem hline)).received_le
  · intro hroom
    refine (sessions rounding).step_kept LinesHold hold ?_
    intro answer writes hserve hrefused haccepted
    have hmove := move_of_serve hserve
    have hadmitted := Writes.accepted_iff.mp haccepted
    exact (LinesHold.iff_within (hcounted.apply hmove hregular hadmitted)).mpr
      (hmove.within hregular hcounted hold hrefused hadmitted hroom)

end Condition

/-- An ERP whose order lines hold, as one with counterparties only does. -/
structure Deliveries where
  db : ErpDb
  regular : Regular db
  counted : Counted db
  hold : LinesHold db

/-- The order lines hold all through a run exactly when every posting of it leaves room. -/
theorem received_within_order_iff (rounding : Rounding) (start : Deliveries) (calls : List ErpCall) :
    (∀ e ∈ (erp rounding).log start.db calls, LinesHold e.after) ↔
      ∀ e ∈ (erp rounding).log start.db calls, LeavesRoom rounding e.before e.input :=
  (erp rounding).always_iff (fun db ↦ Regular db ∧ Counted db) LinesHold (LeavesRoom rounding)
    ⟨start.regular, start.counted⟩ start.hold (fun _ call h ↦ Counted.step h call)
    (fun _ _ h hold ↦ linesHold_step_iff h.1 h.2 hold) calls

def Deliveries.ofCounterparties (counterparties : List Counterparty) : Deliveries where
  db := { counterparties := counterparties }
  regular := .of_counterparties counterparties
  counted := ⟨by simp, by simp, by simp, by simp⟩
  hold := by simp [LinesHold]

/-! ## Two drafts for one delivery -/

section Twice

def northstar : Counterparty where
  id := "cp_1"
  tenantId := "tenant"
  businessId := "northstar"
  role := .buyer
  gstin := "29AABCB1234F1Z5"
  relationshipStatus := .approved

def meridian : Counterparty where
  id := "cp_2"
  tenantId := "tenant"
  businessId := "meridian"
  role := .supplier
  gstin := "29AABCS5678K1Z2"
  relationshipStatus := .approved

def counterpartiesOnly : Deliveries := .ofCounterparties [northstar, meridian]

/-- A call that draws the identifiers `draw-0`, `draw-1`, and so on. -/
def drawing (draw : String) (request : Request) : ErpCall where
  request := request
  token index := draw ++ "-" ++ toString index

theorem orderNumber_valid : documentNumber "PO-1" = true := by decide

theorem firstNumber_valid : documentNumber "GRN-1" = true := by decide

theorem secondNumber_valid : documentNumber "GRN-2" = true := by decide

theorem none_rejected : (0 : Rat) ≤ 0 := le_rfl

/-- Ten motors at 300.00 each. -/
def motorOrder (poNumber : String) (hnumber : documentNumber poNumber = true) : PurchaseOrderCreate where
  poNumber := poNumber
  buyerId := "northstar"
  supplierBusinessId := "meridian"
  lines := [⟨10000, 30000, 0, by decide, by decide, by decide⟩]
  number_form := hnumber
  lines_given := by decide

/-- An accepted delivery of all ten. -/
def motorReceipt (receiptNumber : String) (hnumber : documentNumber receiptNumber = true) :
    ReceiptCreate where
  receiptNumber := receiptNumber
  purchaseOrderId := "PO-1"
  lines := [⟨"pol_demo_order-1", 10000, 10000, 0, by decide, by decide, none_rejected⟩]
  number_form := hnumber
  lines_given := by decide

/-- An approved order with two drafts for the whole of it, which are both posted. -/
def motorsTwice : List ErpCall :=
  [drawing "order" (.createPurchaseOrder "tenant" (motorOrder "PO-1" orderNumber_valid)),
    drawing "" (.transitionPurchaseOrder "tenant" "PO-1" .submit 1 "clerk"),
    drawing "" (.transitionPurchaseOrder "tenant" "PO-1" .approve 2 "reviewer"),
    drawing "first" (.createReceipt "tenant" (motorReceipt "GRN-1" firstNumber_valid)),
    drawing "second" (.createReceipt "tenant" (motorReceipt "GRN-2" secondNumber_valid)),
    drawing "" (.postReceipt "tenant" "GRN-1" 1),
    drawing "" (.postReceipt "tenant" "GRN-2" 1)]

theorem order_received_twice :
    ¬ ∀ e ∈ (erp .halfUp).log counterpartiesOnly.db motorsTwice, LinesHold e.after := by
  intro h
  have hbeyond : ∃ e ∈ (erp .halfUp).log counterpartiesOnly.db motorsTwice,
      ∃ line ∈ e.after.orderLines, line.quantity < line.receivedQuantity := by
    decide +kernel
  obtain ⟨e, he, line, hline, hbeyond⟩ := hbeyond
  exact absurd (h e he line hline).received_le (Int.not_le.mpr hbeyond)

end Twice

end Xyena.Erp
