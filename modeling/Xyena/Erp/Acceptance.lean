import Xyena.Erp.Matching
import Xyena.Erp.Receipts

/-!
# The accepted amounts of an order

Every invoice is matched against the whole order that it refers to and all
posted receipts of it, and an event can move an accepted invoice to another
order. The acceptances of all invoices of an order stay within its total and its
posted receipts exactly when every call that brings an amount to an order which
its own check does not cover finds the room.
-/

namespace Xyena.Erp

open Xyena.Foundation Xyena.Foundation.Session

/-! ## Acceptances of an order -/

/-- The invoice of a match. -/
def invoiceOf (db : ErpDb) (matchId : String) : Option String :=
  (db.invoiceMatches.find? fun row ↦ row.id == matchId).map InvoiceMatch.invoiceId

/-- The order that the invoice of a match refers to. -/
def orderOf (db : ErpDb) (matchId : String) : Option String := do
  let invoiceId ← invoiceOf db matchId
  let invoice ← db.invoices.find? fun row ↦ row.id == invoiceId
  invoice.purchaseOrderId

/-- The sum of the acceptances of all invoices that refer to an order. -/
def acceptedFor (db : ErpDb) (orderId : String) : Int :=
  Table.sum InvoiceAcceptance.acceptedAmount
    (db.acceptances.filter fun row ↦ orderOf db row.matchId == some orderId)

/-- The sum of the acceptances of an invoice. -/
def acceptedOn (db : ErpDb) (invoiceId : String) : Int :=
  Table.sum InvoiceAcceptance.acceptedAmount
    (db.acceptances.filter fun row ↦ invoiceOf db row.matchId == some invoiceId)

/-- An amount is covered by the total of an order and by its posted receipts. -/
structure Covered (db : ErpDb) (order : PurchaseOrder) (amount : Int) : Prop where
  total : amount ≤ order.total
  receipts : amount ≤ postedValue db.receipts order.id

/-- The acceptances of every order are covered. -/
def Backed (db : ErpDb) : Prop := ∀ order ∈ db.orders, Covered db order (acceptedFor db order.id)

theorem Backed.of_counterparties (counterparties : List Counterparty) :
    Backed { counterparties := counterparties } := by
  simp [Backed]

section References

variable {db : ErpDb} {value : InvoiceMatch} {invoice : SupplierInvoice}

theorem invoiceOf_eq (hkeyed : db.WellKeyed) (hvalue : value ∈ db.invoiceMatches) :
    invoiceOf db value.id = some value.invoiceId := by
  have hfind : (db.invoiceMatches.find? fun row ↦ row.id == value.id) = some value :=
    Table.find?_eq_some_of_unique hvalue (beq_self_eq_true _) fun other hother hsame ↦
      Table.eq_of_key hkeyed.invoiceMatches.keys hother hvalue (beq_iff_eq.mp hsame)
  rw [invoiceOf, hfind, Option.map_some]

theorem orderOf_eq (hkeyed : db.WellKeyed) (hvalue : value ∈ db.invoiceMatches)
    (hinvoice : invoice ∈ db.invoices) (hid : invoice.id = value.invoiceId) :
    orderOf db value.id = invoice.purchaseOrderId := by
  have hfind : (db.invoices.find? fun row ↦ row.id == value.invoiceId) = some invoice :=
    Table.find?_eq_some_of_unique hinvoice (beq_iff_eq.mpr hid) fun other hother hsame ↦
      Table.eq_of_key hkeyed.invoices.keys hother hinvoice ((beq_iff_eq.mp hsame).trans hid.symm)
  simp only [orderOf, invoiceOf_eq hkeyed hvalue, Option.bind_eq_bind, Option.bind_some, hfind]

/-- An acceptance has a match with an invoice. -/
theorem Regular.chain (h : Regular db) {row : InvoiceAcceptance} (hrow : row ∈ db.acceptances) :
    ∃ value ∈ db.invoiceMatches, ∃ invoice ∈ db.invoices,
      value.id = row.matchId ∧ invoice.id = value.invoiceId := by
  obtain ⟨value, hvalue, hid⟩ := List.mem_map.mp (h.matched row hrow)
  obtain ⟨invoice, hinvoice, hinvoiceId⟩ := List.mem_map.mp (h.invoiced value hvalue)
  exact ⟨value, hvalue, invoice, hinvoice, hid, hinvoiceId⟩

theorem acceptedFor_nonneg (h : Regular db) (orderId : String) : 0 ≤ acceptedFor db orderId :=
  sum_nonneg fun row hrow ↦ h.amounts row (List.mem_filter.mp hrow).1

end References

/-! ## References over a move -/

section Step

variable {rounding : Rounding} {db : ErpDb} {call : ErpCall} {writes : Writes}

/-- A match keeps its invoice. -/
theorem Move.match_kept (hmove : Move rounding db call writes) (hregular : Regular db)
    {value : InvoiceMatch} (hvalue : value ∈ db.invoiceMatches) :
    ∃ current ∈ (writes.apply db).invoiceMatches,
      current.id = value.id ∧ current.invoiceId = value.invoiceId := by
  refine RowWrite.exists_applyAll matchConstraints (fun row ↦ row.invoiceId = value.invoiceId) hvalue rfl ?_
  intro changed hchanged hid
  obtain ⟨⟨-, hstored⟩, -⟩ := hmove.matchOf hregular _ hchanged
  obtain ⟨old, hold, holdId, hinvoice⟩ := hstored changed rfl
  obtain rfl := Table.eq_of_key hregular.keyed.invoiceMatches.keys hold hvalue (holdId.trans hid)
  exact hinvoice.symm

/-- The order of a match is read from the invoice that is stored for it after the move. -/
theorem Move.orderOf_stored (hmove : Move rounding db call writes) (hregular : Regular db)
    (haccepted : writes.Accepted db) {value : InvoiceMatch} (hvalue : value ∈ db.invoiceMatches)
    {invoice : SupplierInvoice} (hinvoice : invoice ∈ (writes.apply db).invoices)
    (hid : invoice.id = value.invoiceId) :
    orderOf (writes.apply db) value.id = invoice.purchaseOrderId := by
  obtain ⟨current, hcurrent, hcurrentId, hsame⟩ := hmove.match_kept hregular hvalue
  rw [← hcurrentId]
  exact orderOf_eq (hregular.keyed.apply haccepted) hcurrent hinvoice (hid.trans hsame.symm)

/-- An invoice whose reference no write changes keeps the order of its match. -/
theorem Move.orderOf_kept (hmove : Move rounding db call writes) (hregular : Regular db)
    (haccepted : writes.Accepted db) {value : InvoiceMatch} (hvalue : value ∈ db.invoiceMatches)
    {invoice : SupplierInvoice} (hinvoice : invoice ∈ db.invoices) (hid : invoice.id = value.invoiceId)
    (hkept : ∀ changed, RowWrite.update changed ∈ writes.invoices → changed.id = invoice.id →
      changed.purchaseOrderId = invoice.purchaseOrderId) :
    orderOf (writes.apply db) value.id = orderOf db value.id := by
  obtain ⟨current, hcurrent, hcurrentId, hrefers⟩ := RowWrite.exists_applyAll
    invoiceConstraints (fun row ↦ row.purchaseOrderId = invoice.purchaseOrderId) hinvoice rfl hkept
  rw [hmove.orderOf_stored hregular haccepted hvalue hcurrent (hcurrentId.trans hid), hrefers,
    orderOf_eq hregular.keyed hvalue hinvoice hid]

/-- A session that changes no reference keeps the orders of all acceptances. -/
theorem Writes.KeepsReferences.orderOf_eq (hkeeps : writes.KeepsReferences db)
    (hmove : Move rounding db call writes) (hregular : Regular db) (haccepted : writes.Accepted db)
    {row : InvoiceAcceptance} (hrow : row ∈ db.acceptances) :
    orderOf (writes.apply db) row.matchId = orderOf db row.matchId := by
  obtain ⟨value, hvalue, invoice, hinvoice, hid, hinvoiceId⟩ := hregular.chain hrow
  rw [← hid]
  refine hmove.orderOf_kept hregular haccepted hvalue hinvoice hinvoiceId fun changed hchanged hsame ↦ ?_
  obtain ⟨old, hold, holdId, hrefers⟩ := hkeeps changed hchanged
  obtain rfl := Table.eq_of_key hregular.keyed.invoices.keys hold hinvoice (holdId.trans hsame)
  exact hrefers.symm

/-- Acceptances that stay with their orders keep the sums. -/
theorem acceptedFor_congr {after : ErpDb} (hacceptances : after.acceptances = db.acceptances)
    (horders : ∀ row ∈ db.acceptances, orderOf after row.matchId = orderOf db row.matchId)
    (orderId : String) : acceptedFor after orderId = acceptedFor db orderId := by
  rw [acceptedFor, acceptedFor, hacceptances]
  refine congrArg _ (List.filter_congr fun row hrow ↦ ?_)
  rw [horders row hrow]

/-! ## What an acceptance adds -/

theorem acceptedFor_accept {tenantId : String} {value : InvoiceMatch} {body : AcceptanceCreate}
    {invoice : SupplierInvoice} (hregular : Regular db) (h : Accepts db call tenantId value body invoice)
    (haccepted : (acceptanceWrites rounding call tenantId value body invoice).Accepted db)
    (orderId : String) :
    acceptedFor ((acceptanceWrites rounding call tenantId value body invoice).apply db) orderId =
      acceptedFor db orderId +
        if orderOf db value.id = some orderId then rounding.round body.acceptedAmount else 0 := by
  have hmove : Move rounding db call (acceptanceWrites rounding call tenantId value body invoice) :=
    .accepted tenantId value body invoice h
  have hkeeps : (acceptanceWrites rounding call tenantId value body invoice).KeepsReferences db :=
    keepsReferences_singleton rfl (findRow_mem h.heldInvoice) rfl rfl
  have hvalue : value ∈ db.invoiceMatches := findRow_mem h.held
  obtain ⟨own, hown, hownId⟩ := List.mem_map.mp (hregular.invoiced value hvalue)
  have hnew : orderOf ((acceptanceWrites rounding call tenantId value body invoice).apply db) value.id =
      orderOf db value.id := by
    refine hmove.orderOf_kept hregular haccepted hvalue hown hownId fun changed hchanged hsame ↦ ?_
    obtain ⟨old, hold, holdId, hrefers⟩ := hkeeps changed hchanged
    obtain rfl := Table.eq_of_key hregular.keyed.invoices.keys hold hown (holdId.trans hsame)
    exact hrefers.symm
  have hrows : ((acceptanceWrites rounding call tenantId value body invoice).apply db).acceptances =
      db.acceptances ++ [newAcceptance rounding call tenantId value body] := rfl
  have hold : db.acceptances.filter (fun row ↦ orderOf
      ((acceptanceWrites rounding call tenantId value body invoice).apply db) row.matchId == some orderId) =
        db.acceptances.filter fun row ↦ orderOf db row.matchId == some orderId :=
    List.filter_congr fun row hrow ↦ by rw [hkeeps.orderOf_eq hmove hregular haccepted hrow]
  rw [acceptedFor, hrows, List.filter_append, Table.sum_append, hold, acceptedFor]
  refine congrArg _ ?_
  have hmatch : (newAcceptance rounding call tenantId value body).matchId = value.id := rfl
  rw [List.filter_singleton, hmatch, hnew]
  by_cases horder : orderOf db value.id = some orderId
  · simp [horder, newAcceptance]
  · rw [if_neg horder, beq_eq_false_iff_ne.mpr horder, cond_false, Table.sum_nil]

/-! ## What an event moves -/

section Event

variable {event : GstEventEnvelope} {snapshot : Option GstInvoiceSnapshot}
  {invoice settled : SupplierInvoice} {changed : List (RowWrite InvoiceMatch)}

/-- The order of an acceptance after an event: that of the snapshot for the invoice of the event. -/
theorem orderOf_follow (hregular : Regular db) (hfollows : Follows db call event snapshot invoice)
    (hsettles : Settles rounding db call event (invoice.follow rounding event snapshot)
      (claimedBy invoice snapshot) settled changed)
    (haccepted : (eventWrites call event (.update settled) changed).Accepted db)
    {row : InvoiceAcceptance} (hrow : row ∈ db.acceptances) :
    orderOf ((eventWrites call event (.update settled) changed).apply db) row.matchId =
      if invoiceOf db row.matchId = some invoice.id then
        (invoice.follow rounding event snapshot).purchaseOrderId
      else orderOf db row.matchId := by
  have hmove : Move rounding db call (eventWrites call event (.update settled) changed) :=
    .invoiceFollowed event snapshot invoice settled changed hfollows hsettles
  have hinvoice := eventInvoice_mem hfollows.held
  have hsettledId : settled.id = invoice.id := hsettles.id.trans (follow_id rounding event invoice snapshot)
  obtain ⟨value, hvalue, own, hown, hid, hownId⟩ := hregular.chain hrow
  rw [← hid, invoiceOf_eq hregular.keyed hvalue]
  by_cases hsame : value.invoiceId = invoice.id
  · have hstored : settled ∈ ((eventWrites call event (.update settled) changed).apply db).invoices :=
      Table.changed_mem_replace hinvoice hsettledId.symm
    rw [if_pos (congrArg some hsame), ← hsettles.purchaseOrderId]
    exact hmove.orderOf_stored hregular haccepted hvalue hstored (hsettledId.trans hsame.symm)
  · rw [if_neg fun h ↦ hsame (Option.some.inj h)]
    refine hmove.orderOf_kept hregular haccepted hvalue hown hownId fun other hother hotherId ↦ ?_
    obtain rfl := RowWrite.update.inj (List.mem_singleton.mp hother)
    exact absurd (hownId.symm.trans (hotherId.symm.trans hsettledId)) hsame

/-- An acceptance of an invoice belongs to the order of the invoice. -/
theorem orderOf_of_invoiceOf (hregular : Regular db) (hinvoice : invoice ∈ db.invoices)
    {row : InvoiceAcceptance} (hrow : row ∈ db.acceptances)
    (h : invoiceOf db row.matchId = some invoice.id) :
    orderOf db row.matchId = invoice.purchaseOrderId := by
  obtain ⟨value, hvalue, -, -, hid, -⟩ := hregular.chain hrow
  rw [← hid, invoiceOf_eq hregular.keyed hvalue] at h
  rw [← hid]
  exact orderOf_eq hregular.keyed hvalue hinvoice (Option.some.inj h).symm

/-- An event brings the acceptances of its invoice to the order that the invoice refers to now. -/
theorem acceptedFor_moved (hregular : Regular db) (hfollows : Follows db call event snapshot invoice)
    (hsettles : Settles rounding db call event (invoice.follow rounding event snapshot)
      (claimedBy invoice snapshot) settled changed)
    (haccepted : (eventWrites call event (.update settled) changed).Accepted db) {orderId : String}
    (hrefers : (invoice.follow rounding event snapshot).purchaseOrderId = some orderId)
    (hmoved : invoice.purchaseOrderId ≠ some orderId) :
    acceptedFor ((eventWrites call event (.update settled) changed).apply db) orderId =
      acceptedFor db orderId + acceptedOn db invoice.id := by
  have hinvoice := eventInvoice_mem hfollows.held
  have hselected : db.acceptances.filter (fun row ↦ orderOf
      ((eventWrites call event (.update settled) changed).apply db) row.matchId == some orderId) =
        db.acceptances.filter fun row ↦ orderOf db row.matchId == some orderId ||
          invoiceOf db row.matchId == some invoice.id := by
    refine List.filter_congr fun row hrow ↦ ?_
    rw [orderOf_follow hregular hfollows hsettles haccepted hrow]
    by_cases hown : invoiceOf db row.matchId = some invoice.id
    · simp [hown, hrefers]
    · simp [hown]
  have hrows : ((eventWrites call event (.update settled) changed).apply db).acceptances =
      db.acceptances := rfl
  rw [acceptedFor, hrows, hselected, acceptedFor, acceptedOn, ← Table.sum_append]
  refine Table.sum_perm _ (Table.filter_or_perm fun row hrow horder ↦ ?_)
  rw [beq_eq_false_iff_ne]
  intro hown
  exact hmoved ((orderOf_of_invoiceOf hregular hinvoice hrow hown).symm.trans (beq_iff_eq.mp horder))

/-- An event takes acceptances away from every other order. -/
theorem acceptedFor_left (hregular : Regular db) (hfollows : Follows db call event snapshot invoice)
    (hsettles : Settles rounding db call event (invoice.follow rounding event snapshot)
      (claimedBy invoice snapshot) settled changed)
    (haccepted : (eventWrites call event (.update settled) changed).Accepted db) {orderId : String}
    (hstays : (invoice.follow rounding event snapshot).purchaseOrderId = some orderId →
      invoice.purchaseOrderId = some orderId) :
    acceptedFor ((eventWrites call event (.update settled) changed).apply db) orderId ≤
      acceptedFor db orderId := by
  have hinvoice := eventInvoice_mem hfollows.held
  refine sum_filter_le hregular.amounts fun row hrow horder ↦ ?_
  rw [orderOf_follow hregular hfollows hsettles haccepted hrow] at horder
  rw [beq_iff_eq] at horder ⊢
  by_cases hown : invoiceOf db row.matchId = some invoice.id
  · rw [if_pos hown] at horder
    rw [orderOf_of_invoiceOf hregular hinvoice hrow hown]
    exact hstays horder
  · rwa [if_neg hown] at horder

end Event

end Step

/-! ## Committed sessions -/

section Commit

variable {db : ErpDb} {call : ErpCall}

/-- An acceptance whose guards hold is committed when its identifier is new. -/
theorem step_of_accepts (rounding : Rounding) {tenantId : String} {value : InvoiceMatch}
    {body : AcceptanceCreate} {invoice : SupplierInvoice} (hkeyed : db.WellKeyed) (h : Accepts db call tenantId value body invoice)
    (hrefused : call.refused = false)
    (hfresh : ∀ row ∈ db.acceptances, "accept_demo_" ++ call.token 0 ≠ row.id) :
    (acceptanceWrites rounding call tenantId value body invoice).Accepted db ∧
      ((erp rounding).step db call).2 =
        (acceptanceWrites rounding call tenantId value body invoice).apply db := by
  have hserve : serve rounding db call = .ok
      (.invoiceMatch (value.accept body) (invoice.setMatching (acceptanceStatus value body))
        (some (newAcceptance rounding call tenantId value body)),
      some (acceptanceWrites rounding call tenantId value body invoice)) := by
    simp only [serve, h.request, acceptMatch]
    refine bind_ok.mpr ⟨value, h.held, ?_⟩
    refine expectVersion_bind_ok.mpr ⟨rfl, ?_⟩
    refine ensure_bind_ok.mpr ⟨by simpa using h.acceptable, ?_⟩
    refine ensure_bind_ok.mpr ⟨decide_eq_true h.supported, ?_⟩
    refine ensure_bind_ok.mpr ⟨Option.isNone_iff_eq_none.mpr h.unaccepted, ?_⟩
    exact bind_ok.mpr ⟨invoice, h.heldInvoice, rfl⟩
  have haccepted : (acceptanceWrites rounding call tenantId value body invoice).Accepted db := by
    refine ⟨rfl, rfl, rfl, rfl, ?_, ?_, ?_, rfl⟩
    · exact RowWrite.acceptedAll_update hkeyed.invoices (findRow_mem h.heldInvoice) rfl fun _ ↦ rfl
    · exact RowWrite.acceptedAll_update hkeyed.invoiceMatches (findRow_mem h.held) rfl fun _ ↦ rfl
    · refine RowWrite.acceptedAll_cons.mpr
        ⟨RowWrite.accepted_insert.mpr fun row hrow ↦ ⟨hfresh row hrow, ?_⟩, rfl⟩
      have hnone := List.find?_eq_none.mp h.unaccepted row hrow
      exact beq_eq_false_iff_ne.mpr fun hsame ↦ hnone (beq_iff_eq.mpr hsame.symm)
  exact ⟨haccepted, congrArg Prod.snd
    ((sessions rounding).step_commit hserve hrefused (Writes.accepted_iff.mpr haccepted))⟩

/-- An event that is followed never raises: an accepted match is set aside for review. -/
theorem followInvoice_returns (rounding : Rounding) (db : ErpDb) (call : ErpCall) (event : GstEventEnvelope)
    (invoice : SupplierInvoice) (store : SupplierInvoice → RowWrite SupplierInvoice)
    (snapshot : Option GstInvoiceSnapshot) :
    ∃ answer writes,
      followInvoice rounding db call event invoice store snapshot = .ok (answer, some writes) := by
  simp only [followInvoice]
  cases event.eventType with
  | cancelled =>
    cases db.invoiceMatches.find? fun row ↦ row.invoiceId == (invoice.follow rounding event snapshot).id with
    | none => exact ⟨_, _, rfl⟩
    | some value => exact ⟨_, _, rfl⟩
  | registered =>
    cases hfound : (db.invoiceMatches.find? fun row ↦
        row.invoiceId == (invoice.follow rounding event snapshot).id).filter fun value ↦
          value.status.isAccepted with
    | some value =>
      simp only [hfound]
      exact ⟨_, _, rfl⟩
    | none =>
      simp only [hfound]
      have hopen (value : InvoiceMatch) (hvalue : (db.invoiceMatches.find? fun row ↦
          row.invoiceId == (invoice.follow rounding event snapshot).id) = some value) :
          value.status.isAccepted = false := by
        rw [hvalue] at hfound
        simpa using hfound
      obtain ⟨done, hdone⟩ := recalculate_returns rounding db event.tenantId db.orders db.receipts
        (call.token 1) (invoice.follow rounding event snapshot) (claimedBy invoice snapshot) hopen
      exact ⟨_, _, bind_ok.mpr ⟨done, hdone, rfl⟩⟩

/-- An event for an invoice with a match is committed when its identifier is new. -/
theorem step_of_follows (rounding : Rounding) {event : GstEventEnvelope} {snapshot : Option GstInvoiceSnapshot}
    {invoice : SupplierInvoice} {value : InvoiceMatch} (hregular : Regular db)
    (h : Follows db call event snapshot invoice) (hvalue : value ∈ db.invoiceMatches)
    (hinvoice : value.invoiceId = invoice.id) (hrefused : call.refused = false)
    (hfresh : ∀ row ∈ db.inboxEvents, call.token 0 ≠ row.id) :
    ∃ settled changed, Settles rounding db call event (invoice.follow rounding event snapshot)
        (claimedBy invoice snapshot) settled changed ∧
      (eventWrites call event (.update settled) changed).Accepted db ∧
      ((erp rounding).step db call).2 = (eventWrites call event (.update settled) changed).apply db := by
  obtain ⟨answer, writes, hreturns⟩ :=
    followInvoice_returns rounding db call event invoice .update snapshot
  obtain ⟨settled, changed, rfl, hsettles⟩ := settles_of_followInvoice hreturns
  have hserve : serve rounding db call =
      .ok (answer, some (eventWrites call event (.update settled) changed)) := by
    simp only [serve, h.request, consumeGstEvent, h.unseen, Bool.false_eq_true, if_false]
    refine bind_ok.mpr ⟨snapshot, h.snapshotRead, ?_⟩
    simp only [h.sameAggregate, Bool.false_eq_true, if_false, h.held, Int.not_le.mpr h.newer]
    exact hreturns
  have haccepted : (eventWrites call event (.update settled) changed).Accepted db := by
    refine ⟨rfl, rfl, rfl, rfl, ?_, ?_, rfl, ?_⟩
    · exact RowWrite.acceptedAll_update hregular.keyed.invoices (eventInvoice_mem h.held)
        (hsettles.id.trans (follow_id rounding event invoice snapshot)) fun _ ↦ rfl
    · obtain ⟨row, rfl, hid, hsame⟩ :=
        hsettles.written hregular hvalue (hinvoice.trans (follow_id rounding event invoice snapshot).symm)
      refine RowWrite.acceptedAll_update hregular.keyed.invoiceMatches hvalue hid fun other ↦ ?_
      simp only [matchConstraints, hsame]
    · refine RowWrite.acceptedAll_cons.mpr
        ⟨RowWrite.accepted_insert.mpr fun row hrow ↦ ⟨hfresh row hrow, ?_⟩, rfl⟩
      have hunseen := List.any_eq_false.mp h.unseen row hrow
      simp only [inboxConstraints, newInbox]
      rw [← Bool.not_eq_true]
      simpa [Bool.beq_comm] using hunseen
  exact ⟨settled, changed, hsettles, haccepted, congrArg Prod.snd
    ((sessions rounding).step_commit hserve hrefused (Writes.accepted_iff.mpr haccepted))⟩

/-- A purchase order whose guards hold is committed. -/
theorem step_of_creates {rounding : Rounding} {tenantId : String} {body : PurchaseOrderCreate}
    {buyer supplier : Counterparty} (hrequest : call.request = .createPurchaseOrder tenantId body)
    (h : Creates db tenantId body buyer supplier) (hrefused : call.refused = false)
    (haccepted : (creationWrites rounding call tenantId body buyer supplier).Accepted db) :
    ((erp rounding).step db call).2 =
      (creationWrites rounding call tenantId body buyer supplier).apply db := by
  have hserve : serve rounding db call = .ok (.order (newOrder call tenantId body buyer supplier),
      some (creationWrites rounding call tenantId body buyer supplier)) := by
    simp only [serve, hrequest, createPurchaseOrder]
    refine ensure_bind_ok.mpr ⟨by rw [h.unused]; rfl, ?_⟩
    refine bind_ok.mpr ⟨buyer, h.heldBuyer, ?_⟩
    refine bind_ok.mpr ⟨supplier, h.heldSupplier, ?_⟩
    refine ensure_bind_ok.mpr ⟨by simp [h.buyerApproved], ?_⟩
    exact ensure_bind_ok.mpr ⟨by simp [h.supplierApproved], rfl⟩
  exact congrArg Prod.snd
    ((sessions rounding).step_commit hserve hrefused (Writes.accepted_iff.mpr haccepted))

end Commit

/-! ## The exact condition -/

/-- A call that passes its checks, draws a new identifier and brings an accepted amount to an order: it
accepts a match whose order has an acceptance already, or moves an accepted invoice to the order. -/
inductive Brings (rounding : Rounding) (db : ErpDb) (call : ErpCall) (orderId : String) : Int → Prop
  | accepted (tenantId : String) (value : InvoiceMatch) (body : AcceptanceCreate)
      (invoice : SupplierInvoice) (h : Accepts db call tenantId value body invoice)
      (hfresh : ∀ row ∈ db.acceptances, "accept_demo_" ++ call.token 0 ≠ row.id)
      (hrefers : orderOf db value.id = some orderId)
      (hother : ∃ row ∈ db.acceptances, orderOf db row.matchId = some orderId) :
      Brings rounding db call orderId (rounding.round body.acceptedAmount)
  | moved (event : GstEventEnvelope) (snapshot : Option GstInvoiceSnapshot) (invoice : SupplierInvoice)
      (h : Follows db call event snapshot invoice)
      (hfresh : ∀ row ∈ db.inboxEvents, call.token 0 ≠ row.id)
      (hrefers : (invoice.follow rounding event snapshot).purchaseOrderId = some orderId)
      (hmoved : invoice.purchaseOrderId ≠ some orderId)
      (haccepted : ∃ row ∈ db.acceptances, invoiceOf db row.matchId = some invoice.id) :
      Brings rounding db call orderId (acceptedOn db invoice.id)

/-- Every call that brings an amount to an order finds it covered there, and no order is created with an
identifier that an accepted invoice refers to. -/
structure FindsCover (rounding : Rounding) (db : ErpDb) (call : ErpCall) : Prop where
  brought : call.refused = false → ∀ order ∈ db.orders, ∀ amount,
    Brings rounding db call order.id amount → Covered db order (acceptedFor db order.id + amount)
  created : call.refused = false → ∀ tenantId body buyer supplier,
    call.request = .createPurchaseOrder tenantId body → Creates db tenantId body buyer supplier →
      (creationWrites rounding call tenantId body buyer supplier).Accepted db →
        acceptedFor db (newOrder call tenantId body buyer supplier).id = 0

section Condition

variable {rounding : Rounding} {db : ErpDb} {call : ErpCall} {writes : Writes}

/-- An order after a move is an old one with its total or a new one. -/
theorem Move.order_origin (hmove : Move rounding db call writes) (haccepted : writes.Accepted db) :
    ∀ order ∈ (writes.apply db).orders,
      (∃ old ∈ db.orders, old.id = order.id ∧ old.total = order.total) ∨
        ∃ tenantId body buyer supplier, call.request = .createPurchaseOrder tenantId body ∧
          Creates db tenantId body buyer supplier ∧
          writes = creationWrites rounding call tenantId body buyer supplier ∧
          order = newOrder call tenantId body buyer supplier := by
  have hkept : ∀ order ∈ db.orders, ∃ old ∈ db.orders, old.id = order.id ∧ old.total = order.total :=
    fun order horder ↦ ⟨order, horder, rfl, rfl⟩
  cases hmove with
  | orderCreated tenantId body buyer supplier hrequest hcreates =>
    intro order horder
    rcases List.mem_append.mp horder with hold | hnew
    · exact Or.inl (hkept order hold)
    · exact Or.inr ⟨tenantId, body, buyer, supplier, hrequest, hcreates, rfl, List.mem_singleton.mp hnew⟩
  | orderMoved old status actor hstored =>
    intro order horder
    rcases RowWrite.mem_written haccepted.orders horder with rfl | ⟨hold, -⟩
    · exact Or.inl ⟨old, hstored, rfl, rfl⟩
    · exact Or.inl (hkept order hold)
  | receiptPosted tenantId receipt old lineWrites recalculated hpost =>
    intro order horder
    rcases RowWrite.mem_written haccepted.orders horder with rfl | ⟨hold, -⟩
    · exact Or.inl ⟨old, findRow_mem hpost.heldOrder, rfl, rfl⟩
    · exact Or.inl (hkept order hold)
  | receiptCreated => exact fun order horder ↦ Or.inl (hkept order horder)
  | recalculated => exact fun order horder ↦ Or.inl (hkept order horder)
  | accepted => exact fun order horder ↦ Or.inl (hkept order horder)
  | disputed => exact fun order horder ↦ Or.inl (hkept order horder)
  | eventNoted => exact fun order horder ↦ Or.inl (hkept order horder)
  | invoiceAdded => exact fun order horder ↦ Or.inl (hkept order horder)
  | invoiceFollowed => exact fun order horder ↦ Or.inl (hkept order horder)

/-- The amount of the first acceptance of an order is covered: the match supports it. -/
theorem Accepts.covered {tenantId : String} {value : InvoiceMatch} {body : AcceptanceCreate}
    {invoice : SupplierInvoice} (h : Accepts db call tenantId value body invoice) (hregular : Regular db)
    (hsupported : Supported db) {order : PurchaseOrder} (horder : order ∈ db.orders)
    (hrefers : orderOf db value.id = some order.id) :
    Covered db order (rounding.round body.acceptedAmount) := by
  have hvalue : value ∈ db.invoiceMatches := findRow_mem h.held
  obtain ⟨own, hown, hownId⟩ := List.mem_map.mp (hregular.invoiced value hvalue)
  obtain ⟨other, hother, hotherId, htotal, hreceipts⟩ := hsupported value hvalue own hown hownId h.acceptable
  have hsame : some order.id = some other.id :=
    hrefers.symm.trans ((orderOf_eq hregular.keyed hvalue hown hownId).trans hotherId)
  obtain rfl := Table.eq_of_key hregular.keyed.orders.keys horder hother (Option.some.inj hsame)
  have hamount : rounding.round body.acceptedAmount ≤ value.supportedValue := rounding.round_le h.supported
  exact ⟨hamount.trans htotal, hamount.trans hreceipts⟩

theorem acceptedFor_of_none {orderId : String}
    (h : ¬ ∃ row ∈ db.acceptances, orderOf db row.matchId = some orderId) : acceptedFor db orderId = 0 := by
  have hnone : db.acceptances.filter (fun row ↦ orderOf db row.matchId == some orderId) = [] :=
    List.filter_eq_nil_iff.mpr fun row hrow hsame ↦ h ⟨row, hrow, beq_iff_eq.mp hsame⟩
  rw [acceptedFor, hnone, Table.sum_nil]

theorem acceptedOn_of_none {invoiceId : String}
    (h : ¬ ∃ row ∈ db.acceptances, invoiceOf db row.matchId = some invoiceId) :
    acceptedOn db invoiceId = 0 := by
  have hnone : db.acceptances.filter (fun row ↦ invoiceOf db row.matchId == some invoiceId) = [] :=
    List.filter_eq_nil_iff.mpr fun row hrow hsame ↦ h ⟨row, hrow, beq_iff_eq.mp hsame⟩
  rw [acceptedOn, hnone, Table.sum_nil]

/-- A move that changes no reference and adds no acceptance keeps the accepted amounts. -/
theorem Move.acceptedFor_kept (hmove : Move rounding db call writes) (hregular : Regular db)
    (haccepted : writes.Accepted db) (hkeeps : writes.KeepsReferences db)
    (hrows : (writes.apply db).acceptances = db.acceptances) (orderId : String) :
    acceptedFor (writes.apply db) orderId = acceptedFor db orderId :=
  acceptedFor_congr hrows (fun _ hrow ↦ hkeeps.orderOf_eq hmove hregular haccepted hrow) orderId

/-- What a move makes of the accepted amount of an order stays covered when the call finds cover. -/
theorem Move.covered (hmove : Move rounding db call writes) (hregular : Regular db)
    (hsupported : Supported db) (hbacked : Backed db) (hrefused : call.refused = false)
    (haccepted : writes.Accepted db) (hcover : FindsCover rounding db call) {order : PurchaseOrder}
    (horder : order ∈ db.orders) : Covered db order (acceptedFor (writes.apply db) order.id) := by
  have hbefore := hbacked order horder
  have hsame (hkeeps : writes.KeepsReferences db)
      (hrows : (writes.apply db).acceptances = db.acceptances) :
      Covered db order (acceptedFor (writes.apply db) order.id) := by
    rw [hmove.acceptedFor_kept hregular haccepted hkeeps hrows]
    exact hbefore
  cases hmove with
  | accepted tenantId value body invoice haccept =>
    rw [acceptedFor_accept hregular haccept haccepted]
    split
    next hrefers =>
      by_cases hother : ∃ row ∈ db.acceptances, orderOf db row.matchId = some order.id
      · refine hcover.brought hrefused order horder _
          (.accepted tenantId value body invoice haccept (fun row hrow ↦ ?_) hrefers hother)
        exact RowWrite.key_ne_of_insert haccepted.acceptances List.mem_cons_self row hrow
      · rw [acceptedFor_of_none hother, Int.zero_add]
        exact haccept.covered hregular hsupported horder hrefers
    · rw [Int.add_zero]
      exact hbefore
  | invoiceFollowed event snapshot invoice settled changed hfollows hsettles =>
    by_cases hcase : (invoice.follow rounding event snapshot).purchaseOrderId = some order.id ∧
        invoice.purchaseOrderId ≠ some order.id
    · obtain ⟨hrefers, hmoved⟩ := hcase
      rw [acceptedFor_moved hregular hfollows hsettles haccepted hrefers hmoved]
      by_cases hany : ∃ row ∈ db.acceptances, invoiceOf db row.matchId = some invoice.id
      · refine hcover.brought hrefused order horder _
          (.moved event snapshot invoice hfollows (fun row hrow ↦ ?_) hrefers hmoved hany)
        exact RowWrite.key_ne_of_insert haccepted.inboxEvents List.mem_cons_self row hrow
      · rw [acceptedOn_of_none hany, Int.add_zero]
        exact hbefore
    · have hle := acceptedFor_left hregular hfollows hsettles haccepted
        fun hrefers ↦ by_contra fun hmoved ↦ hcase ⟨hrefers, hmoved⟩
      exact ⟨hle.trans hbefore.total, hle.trans hbefore.receipts⟩
  | receiptPosted tenantId receipt old lineWrites recalculated hpost =>
    exact hsame (keepsReferences_posting hpost) rfl
  | recalculated tenantId invoice done hstored hdone =>
    refine hsame (keepsReferences_singleton rfl hstored ?_ ?_) rfl
    · rw [recalculate_invoice hdone, SupplierInvoice.setMatching]
    · rw [recalculate_invoice hdone, SupplierInvoice.setMatching]
  | disputed value body invoice hstored hinvoice =>
    exact hsame (keepsReferences_singleton rfl hinvoice rfl rfl) rfl
  | invoiceAdded event snapshot settled changed hsettles =>
    refine hsame (fun other hother ↦ ?_) rfl
    simp [eventWrites] at hother
  | orderCreated => exact hsame (fun _ hnone ↦ absurd hnone List.not_mem_nil) rfl
  | orderMoved => exact hsame (fun _ hnone ↦ absurd hnone List.not_mem_nil) rfl
  | receiptCreated => exact hsame (fun _ hnone ↦ absurd hnone List.not_mem_nil) rfl
  | eventNoted => exact hsame (fun _ hnone ↦ absurd hnone List.not_mem_nil) rfl

theorem total_nonneg (body : PurchaseOrderCreate) : 0 ≤ subtotalOf body.lines + taxOf body.lines := by
  refine Int.add_nonneg (halfEven_nonneg (List.sum_nonneg ?_)) (halfEven_nonneg (List.sum_nonneg ?_))
  · refine List.forall_mem_map.mpr fun line _ ↦ ?_
    have hquantity := line.quantity_pos
    have hprice := line.unitPrice_pos
    positivity
  · refine List.forall_mem_map.mpr fun line _ ↦ ?_
    have hquantity := line.quantity_pos
    have hprice := line.unitPrice_pos
    have htax := line.taxRate_percentage.1
    positivity

/-- Nothing was received for an order that is new. -/
theorem postedValue_fresh (hregular : Regular db) {orderId : String}
    (hfresh : ∀ old ∈ db.orders, orderId ≠ old.id) : postedValue db.receipts orderId = 0 := by
  have hnone : db.receipts.filter (fun row ↦ row.purchaseOrderId == orderId && row.status == .posted) = [] := by
    refine List.filter_eq_nil_iff.mpr fun row hrow hselected ↦ ?_
    obtain ⟨old, hold, hid⟩ := List.mem_map.mp (hregular.ordered row hrow)
    simp only [Bool.and_eq_true, beq_iff_eq] at hselected
    exact hfresh old hold (hselected.1.symm.trans hid.symm)
  rw [postedValue, hnone, Table.sum_nil]

/-- A move keeps every order covered when the call finds cover. -/
theorem Backed.apply (hbacked : Backed db) (hmove : Move rounding db call writes) (hregular : Regular db)
    (hsupported : Supported db) (hrefused : call.refused = false) (haccepted : writes.Accepted db)
    (hcover : FindsCover rounding db call) : Backed (writes.apply db) := by
  intro order horder
  rcases hmove.order_origin haccepted order horder with
    ⟨old, hold, hid, htotal⟩ | ⟨tenantId, body, buyer, supplier, hrequest, hcreates, rfl, rfl⟩
  · have hcovered := hmove.covered hregular hsupported hbacked hrefused haccepted hcover hold
    rw [hid] at hcovered
    refine ⟨htotal ▸ hcovered.total, hcovered.receipts.trans ?_⟩
    rw [hid]
    exact hmove.postedValue_le hregular order.id
  · have hnone := hcover.created hrefused tenantId body buyer supplier hrequest hcreates haccepted
    have hkept := hmove.acceptedFor_kept hregular haccepted nofun rfl
      (newOrder call tenantId body buyer supplier).id
    rw [hkept, hnone]
    exact ⟨total_nonneg body, postedValue_nonneg hregular.values _⟩

/-- A call keeps every order covered exactly when it finds cover. -/
theorem backed_step_iff (hregular : Regular db) (hsupported : Supported db) (hbacked : Backed db) :
    Backed ((erp rounding).step db call).2 ↔ FindsCover rounding db call := by
  constructor
  · intro hafter
    refine ⟨fun hrefused order horder amount hbrings ↦ ?_, ?_⟩
    · cases hbrings with
      | accepted tenantId value body invoice haccept hfresh hrefers hother =>
        obtain ⟨haccepted, hstep⟩ := step_of_accepts rounding hregular.keyed haccept hrefused hfresh
        rw [hstep] at hafter
        have hcovered := hafter order horder
        rw [acceptedFor_accept hregular haccept haccepted, if_pos hrefers] at hcovered
        exact ⟨hcovered.total, hcovered.receipts⟩
      | moved event snapshot invoice hfollows hfresh hrefers hmoved hany =>
        obtain ⟨row, hrow, hinvoice⟩ := hany
        obtain ⟨value, hvalue, -, -, hid, -⟩ := hregular.chain hrow
        rw [← hid, invoiceOf_eq hregular.keyed hvalue] at hinvoice
        obtain ⟨settled, changed, hsettles, haccepted, hstep⟩ := step_of_follows rounding
          hregular hfollows hvalue (Option.some.inj hinvoice) hrefused hfresh
        rw [hstep] at hafter
        have hcovered := hafter order horder
        rw [acceptedFor_moved hregular hfollows hsettles haccepted hrefers hmoved] at hcovered
        exact ⟨hcovered.total, hcovered.receipts⟩
    · intro hrefused tenantId body buyer supplier hrequest hcreates haccepted
      rw [step_of_creates hrequest hcreates hrefused haccepted] at hafter
      have hmove : Move rounding db call (creationWrites rounding call tenantId body buyer supplier) :=
        .orderCreated tenantId body buyer supplier hrequest hcreates
      have hcovered := hafter (newOrder call tenantId body buyer supplier)
        (List.mem_append_right _ (List.mem_singleton.mpr rfl))
      have hfresh := RowWrite.key_ne_of_insert haccepted.orders List.mem_cons_self
      have hreceipts : postedValue db.receipts (newOrder call tenantId body buyer supplier).id = 0 :=
        postedValue_fresh hregular hfresh
      have hle := hcovered.receipts
      rw [hmove.acceptedFor_kept hregular haccepted nofun rfl] at hle
      exact Int.le_antisymm (hle.trans hreceipts.le) (acceptedFor_nonneg hregular _)
  · intro hcover
    refine (sessions rounding).step_kept Backed hbacked ?_
    intro answer writes hserve hrefused haccepted
    exact hbacked.apply (move_of_serve hserve) hregular hsupported hrefused
      (Writes.accepted_iff.mp haccepted) hcover

end Condition

theorem Supported.step {rounding : Rounding} {db : ErpDb} (h : Regular db ∧ Supported db) (call : ErpCall) :
    Regular ((erp rounding).step db call).2 ∧ Supported ((erp rounding).step db call).2 := by
  refine ⟨h.1.step rounding call, (sessions rounding).step_kept Supported h.2 ?_⟩
  intro answer writes hserve _ haccepted
  exact h.2.apply (move_of_serve hserve) h.1 (Writes.accepted_iff.mp haccepted)

/-- An ERP whose orders are covered, as one with counterparties only is. -/
structure Payables where
  db : ErpDb
  regular : Regular db
  supported : Supported db
  backed : Backed db

/-- The acceptances of every order are covered all through a run exactly when every call of it finds
cover. -/
theorem acceptance_backed_iff (rounding : Rounding) (start : Payables) (calls : List ErpCall) :
    (∀ e ∈ (erp rounding).log start.db calls, Backed e.after) ↔
      ∀ e ∈ (erp rounding).log start.db calls, FindsCover rounding e.before e.input :=
  (erp rounding).always_iff (fun db ↦ Regular db ∧ Supported db) Backed (FindsCover rounding)
    ⟨start.regular, start.supported⟩ start.backed (fun _ call h ↦ Supported.step h call)
    (fun _ _ h hbacked ↦ backed_step_iff h.1 h.2 hbacked) calls

def Payables.ofCounterparties (counterparties : List Counterparty) : Payables where
  db := { counterparties := counterparties }
  regular := .of_counterparties counterparties
  supported := .of_counterparties counterparties
  backed := .of_counterparties counterparties

/-! ## Two invoices for one order -/

section Twice

def openPayables : Payables := .ofCounterparties [northstar, meridian]

/-- The delivered order of the motors. -/
def motorsDelivered : List ErpCall :=
  [drawing "order" (.createPurchaseOrder "tenant" (motorOrder "PO-1" orderNumber_valid)),
    drawing "" (.transitionPurchaseOrder "tenant" "PO-1" .submit 1 "clerk"),
    drawing "" (.transitionPurchaseOrder "tenant" "PO-1" .approve 2 "reviewer"),
    drawing "receipt" (.createReceipt "tenant" (motorReceipt "GRN-1" firstNumber_valid)),
    drawing "" (.postReceipt "tenant" "GRN-1" 1)]

/-- An invoice for all of the motors. -/
def motorInvoice (invoiceId : String) : GstInvoiceSnapshot where
  id := invoiceId
  tenantId := "tenant"
  invoiceNumber := invoiceId
  sellerGstin := "29AABCS5678K1Z2"
  buyerGstin := "29AABCB1234F1Z5"
  purchaseOrderId := some "po_demo_order-0"
  totalInvoiceValue := 300000
  status := .registered
  version := 1
  totalInvoiceValue_pos := by decide
  version_pos := by decide

def motorInvoiceEvent (invoiceId : String) : GstEventEnvelope where
  eventId := invoiceId
  eventType := .registered
  tenantId := "tenant"
  aggregateId := invoiceId
  aggregateVersion := 1
  invoiceSnapshot := .valid (motorInvoice invoiceId)
  aggregateVersion_pos := by decide

def motorAcceptance : AcceptanceCreate := ⟨300000, "delivered", "reviewer", by decide⟩

/-- Two invoices for the whole order, which are both accepted in full. -/
def motorsInvoicedTwice : List ErpCall :=
  motorsDelivered ++
    [drawing "a" (.consumeGstEvent (motorInvoiceEvent "inv_1")),
      drawing "b" (.consumeGstEvent (motorInvoiceEvent "inv_2")),
      drawing "c" (.acceptMatch "tenant" "match_demo_a-1" 1 motorAcceptance),
      drawing "d" (.acceptMatch "tenant" "match_demo_b-1" 1 motorAcceptance)]

theorem order_accepted_twice :
    ¬ ∀ e ∈ (erp .halfUp).log openPayables.db motorsInvoicedTwice, Backed e.after := by
  intro h
  have hbeyond : ∃ e ∈ (erp .halfUp).log openPayables.db motorsInvoicedTwice,
      ∃ order ∈ e.after.orders, order.total < acceptedFor e.after order.id := by
    decide +kernel
  obtain ⟨e, he, order, horder, hbeyond⟩ := hbeyond
  exact absurd (h e he order horder).total (Int.not_le.mpr hbeyond)

end Twice

end Xyena.Erp
