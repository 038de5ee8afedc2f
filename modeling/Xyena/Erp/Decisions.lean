import Xyena.Erp.Acceptance
import Xyena.Erp.Fulfilment

/-!
# Decisions about a match

A reviewer disputes a match, and an event sets an accepted match aside for
review. Posting a receipt and following a registered invoice compute the match
again, and the computation guards accepted matches only. The decisions stay
exactly when no such call reaches a match with one.
-/

namespace Xyena.Erp

open Xyena.Foundation Xyena.Foundation.Session

/-! ## Computed statuses -/

/-- The statuses that a computation gives. -/
def MatchStatus.Computed (status : MatchStatus) : Prop :=
  status = .matched ∨ status = .partialMatch ∨ status = .mismatched

/-- The calls that compute a match although they are about something else. -/
def Request.Automatic : Request → Prop
  | .postReceipt _ _ _ => True
  | .consumeGstEvent event => event.eventType = .registered
  | _ => False

/-- A match that was disputed, or that was accepted and then set aside for review. -/
def Decided (db : ErpDb) (value : InvoiceMatch) : Prop :=
  value.status = .disputed ∨
    value.status = .reviewRequired ∧ ∃ row ∈ db.acceptances, row.matchId = value.id

theorem Decided.not_accepted {db : ErpDb} {value : InvoiceMatch} (h : Decided db value) :
    value.status.isAccepted = false := by
  rcases h with hstatus | ⟨hstatus, -⟩ <;> rw [hstatus] <;> rfl

/-- An automatic call changes no disputed match and computes no match that was accepted and set aside; a
match is accepted by the call that names it. -/
structure KeepsDecisions (e : Entry ErpDb ErpCall (Except ErpError ErpAnswer)) : Prop where
  disputed : e.input.request.Automatic → ∀ value ∈ e.before.invoiceMatches, value.status = .disputed →
    ∃ current ∈ e.after.invoiceMatches, current.id = value.id ∧ current.status = .disputed ∧
      ∀ reason, .dispute reason ∈ value.discrepancies → .dispute reason ∈ current.discrepancies
  reviewed : e.input.request.Automatic → ∀ value ∈ e.before.invoiceMatches,
    value.status = .reviewRequired → (∃ row ∈ e.before.acceptances, row.matchId = value.id) →
      ∃ current ∈ e.after.invoiceMatches, current.id = value.id ∧ ¬current.status.Computed
  explicit : ∀ value ∈ e.before.invoiceMatches, value.status.isAccepted = false →
    ∀ current ∈ e.after.invoiceMatches, current.id = value.id → current.status.isAccepted = true →
      ∃ tenantId expectedVersion body,
        e.input.request = .acceptMatch tenantId value.id expectedVersion body

/-! ## What a computation writes -/

section Written

variable {rounding : Rounding} {db : ErpDb} {call : ErpCall} {tenantId token : String}
  {orders : List PurchaseOrder} {receipts : List GoodsServiceReceipt} {invoice : SupplierInvoice}
  {claimed : Rat} {done : Recalculated}

theorem matching_computed (tenantId : String) (orders : List PurchaseOrder)
    (receipts : List GoodsServiceReceipt) (invoice : SupplierInvoice) (claimed : Rat) :
    (matching tenantId orders receipts invoice claimed).status.Computed := by
  simp only [matching, MatchStatus.Computed]
  split
  · exact Or.inr (Or.inr rfl)
  · split
    · exact Or.inr (Or.inl rfl)
    · exact Or.inl rfl

theorem recalculate_computed
    (h : recalculate rounding db tenantId orders receipts token invoice claimed = .ok done) :
    done.write.row.status.Computed := by
  have hcomputed := matching_computed tenantId orders receipts invoice claimed
  unfold recalculate at h
  simp only at h
  split at h
  · obtain rfl := Except.ok.inj h
    exact hcomputed
  · obtain ⟨-, h⟩ := ensure_bind_ok.mp h
    obtain rfl := Except.ok.inj h
    exact hcomputed

/-- An invoice has at most one match. -/
theorem match_of_invoice (hkeyed : db.WellKeyed) {value other : InvoiceMatch}
    (hvalue : value ∈ db.invoiceMatches) (hother : other ∈ db.invoiceMatches)
    (hinvoice : other.invoiceId = value.invoiceId) : other = value := by
  by_contra hne
  have hids : other.id ≠ value.id := fun hid ↦
    hne (Table.eq_of_key hkeyed.invoiceMatches.keys hother hvalue hid)
  have hclash := hkeyed.invoiceMatches.unique other hother value hvalue hids
  simp [matchConstraints, hinvoice] at hclash

/-- A computation stores the match that the invoice has. -/
theorem recalculate_update (hkeyed : db.WellKeyed)
    (h : recalculate rounding db tenantId orders receipts token invoice claimed = .ok done)
    {value : InvoiceMatch} (hvalue : value ∈ db.invoiceMatches) (hid : value.invoiceId = invoice.id) :
    ∃ row, done.write = .update row ∧ row.id = value.id := by
  have hmatch := recalculate_matchOf h
  cases hwrite : done.write with
  | insert row => exact absurd hid (recalculate_insert h hwrite value hvalue)
  | update row =>
    obtain ⟨stored, hstored, hstoredId, hinvoice⟩ := hmatch.stored row hwrite
    obtain rfl := match_of_invoice hkeyed hvalue hstored (hinvoice.trans hid.symm)
    exact ⟨row, rfl, hstoredId.symm⟩

/-- A posting computes the match of every invoice of its order. -/
theorem recalculateAll_each {receipt : GoodsServiceReceipt} {added : Nat} {invoices : List SupplierInvoice}
    {recalculated : List Recalculated}
    (h : recalculateAll rounding db call tenantId orders receipt added invoices = .ok recalculated) :
    ∀ invoice ∈ invoices, ∃ done ∈ recalculated, ∃ token seen,
      recalculate rounding db tenantId orders seen token invoice invoice.claimedTotal = .ok done := by
  induction invoices generalizing added recalculated with
  | nil => simp
  | cons invoice rest ih =>
    obtain ⟨first, hfirst, h⟩ := bind_ok.mp h
    obtain ⟨others, hothers, h⟩ := bind_ok.mp h
    obtain rfl := Except.ok.inj h
    refine List.forall_mem_cons.mpr ⟨⟨first, List.mem_cons_self, _, _, hfirst⟩, ?_⟩
    intro other hother
    obtain ⟨done, hdone, hrest⟩ := ih hothers other hother
    exact ⟨done, List.mem_cons_of_mem _ hdone, hrest⟩

variable {writes : Writes}

/-- A match that a session stores is one of the rows that it has written. -/
theorem match_written (row : InvoiceMatch) {current : InvoiceMatch}
    (hwrite : .update row ∈ writes.invoiceMatches)
    (hcurrent : current ∈ (writes.apply db).invoiceMatches) (hid : current.id = row.id) :
    ∃ write ∈ writes.invoiceMatches, current = write.row := by
  rcases RowWrite.mem_applyAll hcurrent with hwritten | ⟨-, hkept⟩
  · exact hwritten
  · exact absurd hid.symm (hkept row hwrite)

/-- A match that a session does not store stays as it is. -/
theorem match_untouched {value : InvoiceMatch} (hvalue : value ∈ db.invoiceMatches)
    (h : ∀ changed, RowWrite.update changed ∈ writes.invoiceMatches → changed.id ≠ value.id) :
    value ∈ (writes.apply db).invoiceMatches := by
  obtain ⟨current, hcurrent, -, rfl⟩ := RowWrite.exists_applyAll matchConstraints (· = value) hvalue rfl
    fun changed hchanged hid ↦ absurd hid (h changed hchanged)
  exact hcurrent

end Written

/-! ## The exact condition -/

/-- The invoices whose matches an automatic call computes, when it passes its checks and the database
admits its rows. -/
inductive Recalculates (rounding : Rounding) (db : ErpDb) (call : ErpCall) : SupplierInvoice → Prop
  | posted (tenantId : String) (receipt : GoodsServiceReceipt) (order : PurchaseOrder)
      (lineWrites : List (RowWrite PurchaseOrderLine)) (recalculated : List Recalculated)
      (invoice : SupplierInvoice)
      (hpost : Posts rounding db call tenantId receipt order lineWrites recalculated)
      (haccepted : (postingWrites receipt.post
        (order.fulfil (RowWrite.applyAll orderLineConstraints db.orderLines lineWrites)) lineWrites
        recalculated).Accepted db)
      (hinvoice : invoice ∈ invoicesOf db tenantId order.id) : Recalculates rounding db call invoice
  | followed (event : GstEventEnvelope) (snapshot : Option GstInvoiceSnapshot) (invoice : SupplierInvoice)
      (hfollows : Follows db call event snapshot invoice) (hregistered : event.eventType = .registered)
      (hfresh : ∀ row ∈ db.inboxEvents, call.token 0 ≠ row.id) : Recalculates rounding db call invoice

/-- No automatic call computes a match that was decided. -/
def SparesDecisions (rounding : Rounding) (db : ErpDb) (call : ErpCall) : Prop :=
  call.refused = false → ∀ invoice, Recalculates rounding db call invoice →
    ∀ value ∈ db.invoiceMatches, value.invoiceId = invoice.id → ¬Decided db value

section Condition

variable {rounding : Rounding} {db : ErpDb} {call : ErpCall} {writes : Writes}

/-- An automatic call that computes no decided match stores none. -/
theorem Move.decided_untouched (hmove : Move rounding db call writes) (hregular : Regular db)
    (hautomatic : call.request.Automatic) (hrefused : call.refused = false) (haccepted : writes.Accepted db)
    (hspares : SparesDecisions rounding db call) {value : InvoiceMatch}
    (hvalue : value ∈ db.invoiceMatches) (hdecided : Decided db value) :
    value ∈ (writes.apply db).invoiceMatches := by
  -- a written match with the identifier of the decided one is a computed match of its invoice
  have hspared (invoice : SupplierInvoice) (hcomputes : Recalculates rounding db call invoice)
      (write : RowWrite InvoiceMatch) (hmatch : MatchOf db invoice.id write) (changed : InvoiceMatch)
      (hwrite : write = .update changed) : changed.id ≠ value.id := by
    intro hid
    obtain ⟨stored, hstored, hstoredId, hinvoice⟩ := hmatch.stored changed hwrite
    obtain rfl := Table.eq_of_key hregular.keyed.invoiceMatches.keys hstored hvalue (hstoredId.trans hid)
    exact hspares hrefused invoice hcomputes stored hvalue hinvoice hdecided
  refine match_untouched hvalue fun changed hchanged ↦ ?_
  cases hmove with
  | receiptPosted tenantId receipt order lineWrites recalculated hpost =>
    obtain ⟨done, hdone, hwrite⟩ := List.mem_map.mp hchanged
    obtain ⟨invoice, hinvoice, token, seen, -, hcomputed⟩ := recalculateAll_mem hpost.matched done hdone
    exact hspared invoice (.posted _ _ _ _ _ _ hpost haccepted hinvoice) done.write
      (recalculate_matchOf hcomputed) changed hwrite
  | invoiceFollowed event snapshot invoice settled rows hfollows hsettles =>
    have hregistered : event.eventType = .registered := by
      rw [hfollows.request] at hautomatic
      exact hautomatic
    have hfresh := RowWrite.key_ne_of_insert haccepted.inboxEvents List.mem_cons_self
    have hmatch := hsettles.matchOf _ hchanged
    rw [follow_id] at hmatch
    exact hspared invoice (.followed event snapshot invoice hfollows hregistered hfresh) _ hmatch changed rfl
  | invoiceAdded event snapshot settled rows hsettles hcarries =>
    have hfresh := RowWrite.key_ne_of_insert haccepted.invoices List.mem_cons_self
    obtain ⟨stored, hstored, -, hinvoice⟩ := (hsettles.matchOf _ hchanged).stored changed rfl
    obtain ⟨known, hknown, hknownId⟩ := List.mem_map.mp (hregular.invoiced stored hstored)
    exact absurd (hsettles.id.trans (hinvoice.symm.trans hknownId.symm)) (hfresh known hknown)
  | recalculated tenantId invoice done hstored hdone hrequest =>
    obtain ⟨invoiceId, hrequest⟩ := hrequest
    rw [hrequest] at hautomatic
    exact hautomatic.elim
  | accepted tenantId other body invoice haccept =>
    rw [haccept.request] at hautomatic
    exact hautomatic.elim
  | disputed other body invoice hstored hinvoice hrequest =>
    obtain ⟨tenantId, hrequest⟩ := hrequest
    rw [hrequest] at hautomatic
    exact hautomatic.elim
  | orderCreated => cases hchanged
  | orderMoved => cases hchanged
  | receiptCreated => cases hchanged
  | eventNoted => cases hchanged

/-- Only the call that accepts a match gives it an accepted status. -/
theorem Move.accepted_explicit (hmove : Move rounding db call writes) (hregular : Regular db)
    {value current : InvoiceMatch} (hvalue : value ∈ db.invoiceMatches)
    (hopen : value.status.isAccepted = false) (hcurrent : current ∈ (writes.apply db).invoiceMatches)
    (hid : current.id = value.id) (hstatus : current.status.isAccepted = true) :
    ∃ tenantId expectedVersion body, call.request = .acceptMatch tenantId value.id expectedVersion body := by
  have hcomputed {status : MatchStatus} (h : status.Computed) : status.isAccepted = false := by
    rcases h with rfl | rfl | rfl <;> rfl
  rcases RowWrite.mem_applyAll hcurrent with ⟨write, hwrite, rfl⟩ | ⟨hold, -⟩
  · suffices hnot : write.row.status.isAccepted = false ∨ ∃ tenantId expectedVersion body,
        call.request = .acceptMatch tenantId write.row.id expectedVersion body by
      rcases hnot with hnot | hrequest
      · rw [hnot] at hstatus
        cases hstatus
      · rwa [hid] at hrequest
    have hsettled (event : GstEventEnvelope) (followed settled : SupplierInvoice) (claimed : Rat)
        (rows : List (RowWrite InvoiceMatch))
        (h : Settles rounding db call event followed claimed settled rows) (hrow : write ∈ rows) :
        write.row.status.isAccepted = false := by
      cases h with
      | unmatched => cases hrow
      | reviewed other found again =>
        obtain rfl := List.mem_singleton.mp hrow
        rfl
      | recalculated done hdone =>
        obtain rfl := List.mem_singleton.mp hrow
        exact hcomputed (recalculate_computed hdone)
    cases hmove with
    | receiptPosted tenantId receipt order lineWrites recalculated hpost =>
      obtain ⟨done, hdone, rfl⟩ := List.mem_map.mp hwrite
      obtain ⟨invoice, hinvoice, token, seen, -, hdone⟩ := recalculateAll_mem hpost.matched done hdone
      exact Or.inl (hcomputed (recalculate_computed hdone))
    | recalculated tenantId invoice done hstored hdone =>
      obtain rfl := List.mem_singleton.mp hwrite
      exact Or.inl (hcomputed (recalculate_computed hdone))
    | accepted tenantId other body invoice haccept =>
      obtain rfl := List.mem_singleton.mp hwrite
      exact Or.inr ⟨tenantId, other.version, body, haccept.request⟩
    | disputed other body invoice =>
      obtain rfl := List.mem_singleton.mp hwrite
      exact Or.inl rfl
    | invoiceAdded event snapshot settled rows hsettles =>
      exact Or.inl (hsettled _ _ _ _ _ hsettles hwrite)
    | invoiceFollowed event snapshot invoice settled rows hfollows hsettles =>
      exact Or.inl (hsettled _ _ _ _ _ hsettles hwrite)
    | orderCreated => cases hwrite
    | orderMoved => cases hwrite
    | receiptCreated => cases hwrite
    | eventNoted => cases hwrite
  · obtain rfl := Table.eq_of_key hregular.keyed.invoiceMatches.keys hold hvalue hid
    rw [hopen] at hstatus
    cases hstatus

/-- A decided match that an automatic call computes has a computed status afterwards. -/
theorem Recalculates.computed {invoice : SupplierInvoice} (h : Recalculates rounding db call invoice)
    (hregular : Regular db) (hrefused : call.refused = false) {value : InvoiceMatch}
    (hvalue : value ∈ db.invoiceMatches) (hinvoice : value.invoiceId = invoice.id)
    (hdecided : Decided db value) : call.request.Automatic ∧
      ∀ current ∈ ((erp rounding).step db call).2.invoiceMatches, current.id = value.id →
        current.status.Computed := by
  cases h with
  | posted tenantId receipt order lineWrites recalculated _ hpost haccepted hof =>
    obtain ⟨receiptId, hrequest, -⟩ := hpost.held
    refine ⟨by rw [hrequest]; trivial, fun current hcurrent hid ↦ ?_⟩
    rw [step_of_posts hpost hrefused haccepted] at hcurrent
    obtain ⟨done, hdone, token, seen, hcomputed⟩ := recalculateAll_each hpost.matched invoice hof
    obtain ⟨row, hrow, hrowId⟩ := recalculate_update hregular.keyed hcomputed hvalue hinvoice
    obtain ⟨write, hwrite, rfl⟩ := match_written _
      (hrow ▸ List.mem_map_of_mem (f := Recalculated.write) hdone) hcurrent (hid.trans hrowId.symm)
    obtain ⟨other, hother, rfl⟩ := List.mem_map.mp hwrite
    obtain ⟨_, _, _, _, -, hothers⟩ := recalculateAll_mem hpost.matched other hother
    exact recalculate_computed hothers
  | followed event snapshot _ hfollows hregistered hfresh =>
    refine ⟨by rw [hfollows.request]; exact hregistered, fun current hcurrent hid ↦ ?_⟩
    obtain ⟨settled, changed, hsettles, haccepted, hstep⟩ :=
      step_of_follows rounding hregular hfollows hvalue hinvoice hrefused hfresh
    rw [hstep] at hcurrent
    have hfollowed : value.invoiceId = (invoice.follow rounding event snapshot).id := by
      rw [follow_id, hinvoice]
    cases hsettles with
    | unmatched hnone => exact absurd hfollowed (hnone value hvalue)
    | reviewed other found again hother hotherId hreviewed =>
      obtain rfl := match_of_invoice hregular.keyed hvalue hother (hotherId.trans hfollowed.symm)
      rcases hreviewed with hcancelled | haccepted
      · rw [hregistered] at hcancelled
        cases hcancelled
      · rw [hdecided.not_accepted] at haccepted
        cases haccepted
    | recalculated done hdone =>
      obtain ⟨row, hrow, hrowId⟩ := recalculate_update hregular.keyed hdone hvalue hfollowed
      obtain ⟨write, hwrite, rfl⟩ := match_written row (hrow ▸ List.mem_cons_self) hcurrent
        (hid.trans hrowId.symm)
      obtain rfl := List.mem_singleton.mp hwrite
      exact recalculate_computed hdone

/-- A call keeps all decisions exactly when it computes no decided match. -/
theorem keepsDecisions_iff (hregular : Regular db) :
    KeepsDecisions ((erp rounding).entry db call) ↔ SparesDecisions rounding db call := by
  constructor
  · intro hkeeps hrefused invoice hcomputes value hvalue hinvoice hdecided
    obtain ⟨hautomatic, hcomputed⟩ := hcomputes.computed hregular hrefused hvalue hinvoice hdecided
    rcases hdecided with hdisputed | ⟨hreviewed, haccepted⟩
    · obtain ⟨current, hcurrent, hid, hstatus, -⟩ := hkeeps.disputed hautomatic value hvalue hdisputed
      have hcurrentStatus := hcomputed current hcurrent hid
      rw [hstatus] at hcurrentStatus
      simp [MatchStatus.Computed] at hcurrentStatus
    · obtain ⟨current, hcurrent, hid, hstatus⟩ := hkeeps.reviewed hautomatic value hvalue hreviewed haccepted
      exact hstatus (hcomputed current hcurrent hid)
  · intro hspares
    have huntouched (hautomatic : call.request.Automatic) {value : InvoiceMatch}
        (hvalue : value ∈ db.invoiceMatches) (hdecided : Decided db value) :
        value ∈ ((erp rounding).step db call).2.invoiceMatches := by
      refine (sessions rounding).step_kept (fun after ↦ value ∈ after.invoiceMatches) hvalue ?_
      intro answer writes hserve hrefused haccepted
      exact (move_of_serve hserve).decided_untouched hregular hautomatic hrefused
        (Writes.accepted_iff.mp haccepted) hspares hvalue hdecided
    refine ⟨fun hautomatic value hvalue hstatus ↦ ?_, fun hautomatic value hvalue hstatus hrows ↦ ?_, ?_⟩
    · exact ⟨value, huntouched hautomatic hvalue (Or.inl hstatus), rfl, hstatus, fun _ h ↦ h⟩
    · refine ⟨value, huntouched hautomatic hvalue (Or.inr ⟨hstatus, hrows⟩), rfl, ?_⟩
      simp [MatchStatus.Computed, hstatus]
    · intro value hvalue hopen
      refine (sessions rounding).step_kept (fun after ↦ ∀ current ∈ after.invoiceMatches,
        current.id = value.id → current.status.isAccepted = true → ∃ tenantId expectedVersion body,
          call.request = .acceptMatch tenantId value.id expectedVersion body) ?_ ?_
      · intro current hcurrent hid hstatus
        obtain rfl := Table.eq_of_key hregular.keyed.invoiceMatches.keys hcurrent hvalue hid
        rw [hopen] at hstatus
        cases hstatus
      · intro answer writes hserve hrefused haccepted current hcurrent hid hstatus
        exact (move_of_serve hserve).accepted_explicit hregular hvalue hopen hcurrent hid hstatus

end Condition

/-- An ERP whose rows refer to each other. -/
structure Consistent where
  db : ErpDb
  regular : Regular db

/-- All steps of a run keep the decisions exactly when no automatic call of it computes a decided match. -/
theorem decisions_kept_iff (rounding : Rounding) (start : Consistent) (calls : List ErpCall) :
    (∀ e ∈ (erp rounding).log start.db calls, KeepsDecisions e) ↔
      ∀ e ∈ (erp rounding).log start.db calls, SparesDecisions rounding e.before e.input :=
  (erp rounding).forall_log_iff Regular start.regular (fun _ call h ↦ h.step rounding call)
    (fun _ _ h ↦ keepsDecisions_iff h) calls

def Consistent.ofCounterparties (counterparties : List Counterparty) : Consistent where
  db := { counterparties := counterparties }
  regular := .of_counterparties counterparties

def undecided : Consistent := .ofCounterparties [northstar, meridian]

/-- The invoice of the motors is disputed before they are delivered. -/
def motorsDisputed : List ErpCall :=
  [drawing "order" (.createPurchaseOrder "tenant" (motorOrder "PO-1" orderNumber_valid)),
    drawing "" (.transitionPurchaseOrder "tenant" "PO-1" .submit 1 "clerk"),
    drawing "" (.transitionPurchaseOrder "tenant" "PO-1" .approve 2 "reviewer"),
    drawing "receipt" (.createReceipt "tenant" (motorReceipt "GRN-1" firstNumber_valid)),
    drawing "a" (.consumeGstEvent (motorInvoiceEvent "inv_1")),
    drawing "" (.disputeMatch "tenant" "match_demo_a-1" 1 ⟨"wrong price", "reviewer"⟩),
    drawing "" (.postReceipt "tenant" "GRN-1" 1)]

theorem dispute_erased :
    ¬ ∀ e ∈ (erp .halfUp).log undecided.db motorsDisputed, KeepsDecisions e := by
  intro h
  have herased : ∃ e ∈ (erp .halfUp).log undecided.db motorsDisputed,
      (e.input.request matches .postReceipt _ _ _) = true ∧ ∃ value ∈ e.before.invoiceMatches,
        value.status = .disputed ∧ ∀ current ∈ e.after.invoiceMatches, current.status ≠ .disputed := by
    decide +kernel
  obtain ⟨e, he, hposts, value, hvalue, hdisputed, hnone⟩ := herased
  have hautomatic : e.input.request.Automatic := by
    cases hrequest : e.input.request with
    | postReceipt => trivial
    | _ => simp [hrequest] at hposts
  obtain ⟨current, hcurrent, -, hstatus, -⟩ := (h e he).disputed hautomatic value hvalue hdisputed
  exact hnone current hcurrent hstatus

end Xyena.Erp
