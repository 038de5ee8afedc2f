import Xyena.Gst.Exactness
import Xyena.Gst.FilingFolders
import Xyena.Ledger.Invariant

/-!
# The record of an invoice

An invoice that the portal has created carries its whole way through the status
diagram: one history row, one audit event and one outbox event for each of its
versions, each written by a call of a user with the role for it. What a status
says was done to the invoice is what its columns show.
-/

namespace Xyena.Gst.Filing

open Xyena.Foundation Xyena.Foundation.Session
open Portal (InvoiceStatus InvoiceLine InvoiceStatusHistory OutboxEvent InvoiceCreate)

/-! ## What the source promises -/

/-- The arrows of the status diagram from the creation to a status. -/
def path : InvoiceStatus → List (Option InvoiceStatus × InvoiceStatus)
  | .draft => [(none, .draft)]
  | .submitted => [(none, .draft), (some .draft, .submitted)]
  | .registered => [(none, .draft), (some .draft, .submitted), (some .submitted, .registered)]
  | .rejected => [(none, .draft), (some .draft, .submitted), (some .submitted, .rejected)]
  | .cancelled =>
    [(none, .draft), (some .draft, .submitted), (some .submitted, .registered),
    (some .registered, .cancelled)]

/-- Whether an invoice with the status has been registered. -/
def wasRegistered : InvoiceStatus → Bool
  | .registered => true
  | .cancelled => true
  | _ => false

/-- The event of a history row. -/
def historyEvent (row : InvoiceStatusHistory) : String :=
  match row.priorStatus with
  | none => "invoice.created"
  | some _ => eventType row.newStatus

/-- The invoice as it is hashed when it is submitted. -/
def asSubmitted (row : Invoice) (stamp : Int) : Invoice :=
  { toInvoice := { content row with status := .submitted, version := 2 }, updatedAt := stamp }

/-- A text that is given and is not blank. -/
def Stated (reason : Option String) : Prop := ∃ text, reason = some text ∧ blank text = false

/-- The rows of an invoice tell its way from the creation to its status. -/
structure Record (platform : FilingPlatform) (folder : Folder) : Prop where
  version : folder.invoice.version = (path folder.invoice.status).length
  arrows : folder.history.map (fun row ↦ (row.priorStatus, row.newStatus)) = path folder.invoice.status
  versions : folder.history.map InvoiceStatusHistory.version = List.range' 1 folder.invoice.version
  audits : folder.audits.map (fun row ↦ (row.aggregateVersion, row.eventType, row.actorId)) =
    folder.history.map fun row ↦ (row.version, historyEvent row, row.actorId)
  outbox : folder.outbox.map (fun row ↦ (row.aggregateVersion, row.eventType, row.payload)) =
    folder.history.map fun row ↦ (row.version, historyEvent row, (folder.invoice.id, row.version))
  registered : wasRegistered folder.invoice.status = true →
    folder.invoice.irn = some (irnOf platform folder.invoice.id 3) ∧
      folder.invoice.ackNumber.isSome ∧ folder.invoice.ackDate.isSome
  unregistered : wasRegistered folder.invoice.status = false →
    folder.invoice.irn = none ∧ folder.invoice.ackNumber = none ∧ folder.invoice.ackDate = none
  cancelled : folder.invoice.status = .cancelled → Stated folder.invoice.cancellationReason
  uncancelled : folder.invoice.status ≠ .cancelled → folder.invoice.cancellationReason = none
  draft : folder.invoice.status = .draft → folder.invoice.sourceDocumentHash = none
  document : folder.invoice.status ≠ .draft →
    ∃ stamp lines, lines.Perm folder.lines ∧ folder.invoice.sourceDocumentHash =
      some (canonicalHash platform (invoiceProjection (asSubmitted folder.invoice stamp) lines))
  numbered : folder.lines.map InvoiceLine.lineNumber = List.range' 1 folder.lines.length
  given : 0 < folder.lines.length ∧ folder.lines.length ≤ 100
  unflagged : folder.invoice.securityFlags = []
  date : folder.invoice.invoiceDate < 3652059

/-- The role that moves an invoice to a status. -/
def roleFor : InvoiceStatus → String
  | .draft => "GST_OPERATOR"
  | .submitted => "GST_OPERATOR"
  | .registered => "GST_REVIEWER"
  | .rejected => "GST_REVIEWER"
  | .cancelled => "GST_REVIEWER"

/-- A call has written a history row: it has returned the invoice in the version and the status of the row,
its user has the role for that in the enterprise of the invoice, and it has asked for the arrow of the row. -/
structure Wrote (e : FilingEntry) (row : InvoiceStatusHistory) : Prop where
  answered : ∃ invoice lines, e.output = .ok (invoice, lines) ∧ invoice.id = row.invoiceId ∧
    invoice.version = row.version ∧ invoice.status = row.newStatus ∧
    invoice.tenantId = e.input.scope.enterprise.tenantId ∧ invoice.enterpriseId = e.input.scope.enterprise.id
  actor : row.actorId = e.input.scope.userId
  role : e.input.scope.roles.contains (roleFor row.newStatus) = true
  request : match row.priorStatus with
    | none => ∃ body, e.input.request = .createInvoice body
    | some prior => ∃ action : Action, action.expected = prior ∧ action.target = row.newStatus ∧
        e.input.request = .transitionInvoice row.invoiceId action.name ((row.version : Int) - 1) row.reason
  reason : row.newStatus = .rejected ∨ row.newStatus = .cancelled → Stated row.reason

/-! ## Texts of reasons -/

theorem stated_of_needsReason {action : Action} {reason : Option String}
    (h : action.needsReason = true → blank (reason.getD "") = false) (hneeds : action.needsReason = true) :
    Stated reason := by
  have hgiven := h hneeds
  cases reason with
  | none =>
    have hblank : blank "" = true := by decide
    rw [Option.getD_none, hblank] at hgiven
    cases hgiven
  | some text => exact ⟨text, rfl, hgiven⟩

/-! ## Openings and advances -/

section Record

variable {platform : FilingPlatform} {db : FilingDb} {call : FilingCall} {before after : Folder}

theorem path_target (action : Action) :
    path action.target = path action.expected ++ [(some action.expected, action.target)] := by
  cases action <;> rfl

theorem newLines_numbers {creation : Portal.GstCall} {values : List LineAmounts} :
    (Portal.newLines creation values).map InvoiceLine.lineNumber =
      List.range' 1 (Portal.newLines creation values).length := by
  rw [Portal.newLines, List.map_map, List.length_map, List.length_zipIdx]
  exact List.zipIdx_map_snd 1 _

theorem length_mapM {α β Failure : Type} {operation : α → Except Failure β} {inputs : List α}
    {outputs : List β}
    (h : inputs.mapM operation = .ok outputs) : outputs.length = inputs.length := by
  induction inputs generalizing outputs with
  | nil =>
    rw [List.mapM_nil] at h
    obtain rfl := Except.ok.inj h
    rfl
  | cons input rest ih =>
    rw [List.mapM_cons] at h
    obtain ⟨output, -, h⟩ := bind_ok.mp h
    obtain ⟨others, hothers, h⟩ := bind_ok.mp h
    rw [← Except.ok.inj h, List.length_cons, List.length_cons, ih hothers]

/-- A new invoice has the lines of its request. -/
theorem length_newLines {body : InvoiceCreate} {values : List LineAmounts} {amounts : InvoiceAmounts}
    (h : Creates call body values amounts) :
    (Portal.newLines (creation call body) values).length = body.lines.length := by
  obtain ⟨_, hvalues, hrest⟩ := bind_ok.mp h.amounts
  obtain ⟨_, -, hrest⟩ := bind_ok.mp hrest
  obtain ⟨_, -, hrest⟩ := bind_ok.mp hrest
  obtain ⟨_, -, hrest⟩ := bind_ok.mp hrest
  obtain ⟨_, -, hrest⟩ := bind_ok.mp hrest
  obtain ⟨_, -, hrest⟩ := bind_ok.mp hrest
  obtain ⟨rfl, -⟩ := Prod.mk.inj (Except.ok.inj hrest)
  have hlength := length_mapM hvalues
  rw [List.length_map] at hlength
  simp [Portal.newLines, hlength, creation]

theorem record_opening {body : InvoiceCreate} {values : List LineAmounts} {amounts : InvoiceAmounts}
    (h : Creates call body values amounts) : Record platform (opening call body values amounts) where
  version := rfl
  arrows := rfl
  versions := rfl
  audits := rfl
  outbox := rfl
  registered hregistered := by cases hregistered
  unregistered _ := ⟨rfl, rfl, rfl⟩
  cancelled hcancelled := by cases hcancelled
  uncancelled _ := rfl
  draft _ := rfl
  document hnot := absurd rfl hnot
  numbered := newLines_numbers
  given := (length_newLines h).symm ▸ body.lines_given
  unflagged := rfl
  date := lt_of_le_of_lt h.past call.today_year

/-- What is hashed when an invoice is submitted. -/
theorem invoiceProjection_submitted (call : FilingCall) {row : Invoice} (lines : List InvoiceLine)
    (hversion : row.version = 1) (hirn : row.irn = none ∧ row.ackNumber = none ∧ row.ackDate = none)
    (hreason : row.cancellationReason = none) (hhash : row.sourceDocumentHash = none) :
    invoiceProjection (advance call row .submit) lines =
      invoiceProjection (asSubmitted row row.updatedAt) lines := by
  obtain ⟨hirn, hnumber, hdate⟩ := hirn
  simp [invoiceProjection, invoiceFields, invoiceSummary, advance, asSubmitted, content, Action.target,
    hversion, hirn, hnumber, hdate, hreason, hhash]

theorem asSubmitted_congr {first second : Invoice} (h : content first = content second) (stamp : Int) :
    asSubmitted first stamp = asSubmitted second stamp := by
  rw [asSubmitted, asSubmitted, h]

theorem sourceDocumentHash_kept {action : Action} {reason : Option String} (h : action ≠ .submit) :
    (before.advance platform call action reason).invoice.sourceDocumentHash =
      before.invoice.sourceDocumentHash := by
  cases action with
  | submit => exact absurd rfl h
  | _ => rfl

/-- A transition adds its arrow to the record. -/
theorem Record.advance {action : Action} {reason : Option String} (h : Record platform before)
    (htransits : Transits db call before.invoice action reason) :
    Record platform (before.advance platform call action reason) := by
  have hstatus : (before.advance platform call action reason).invoice.status = action.target :=
    moved_status ..
  have hcontent : content (before.advance platform call action reason).invoice = content before.invoice :=
    content_moved ..
  constructor
  case version =>
    have hversion := h.version
    rw [htransits.status] at hversion
    rw [hstatus, path_target, List.length_append, ← hversion]
    exact moved_version ..
  case arrows =>
    have harrows := h.arrows
    rw [htransits.status] at harrows
    rw [hstatus, path_target, ← harrows]
    simp [Folder.advance, transitionWrites, Folder.answer, htransits.status]
  case versions =>
    simp [Folder.advance, transitionWrites, Folder.answer, h.versions, List.range'_1_concat, Nat.add_comm]
  case audits => simp [Folder.advance, transitionWrites, Folder.answer, h.audits, historyEvent]
  case outbox => simp [Folder.advance, transitionWrites, Folder.answer, h.outbox, historyEvent]
  case registered =>
    intro hregistered
    rw [hstatus] at hregistered
    cases action with
    | submit => cases hregistered
    | reject => cases hregistered
    | register =>
      have hversion := h.version
      rw [htransits.status] at hversion
      have hirn : (before.advance platform call .register reason).invoice.irn =
          some (irnOf platform before.invoice.id (before.invoice.version + 1)) := rfl
      exact ⟨by rw [hirn, hversion]; rfl, rfl, rfl⟩
    | cancel => exact h.registered (htransits.status ▸ rfl)
  case unregistered =>
    intro hunregistered
    rw [hstatus] at hunregistered
    cases action with
    | submit => exact h.unregistered (htransits.status ▸ rfl)
    | reject => exact h.unregistered (htransits.status ▸ rfl)
    | register => cases hunregistered
    | cancel => cases hunregistered
  case cancelled =>
    intro hcancelled
    rw [hstatus] at hcancelled
    cases action with
    | cancel => exact stated_of_needsReason htransits.reason rfl
    | _ => cases hcancelled
  case uncancelled =>
    intro huncancelled
    have hbefore : before.invoice.status ≠ .cancelled := by
      rw [htransits.status]
      cases action <;> decide
    cases action with
    | cancel => exact absurd hstatus huncancelled
    | _ => exact h.uncancelled hbefore
  case draft =>
    intro hdraft
    rw [hstatus] at hdraft
    cases action <;> cases hdraft
  case document =>
    intro _
    by_cases haction : action = .submit
    · subst haction
      have hversion := h.version
      rw [htransits.status] at hversion
      have hprojection := invoiceProjection_submitted call (call.arrange before.lines) hversion
        (h.unregistered (htransits.status ▸ rfl)) (h.uncancelled (htransits.status ▸ by decide))
        (h.draft htransits.status)
      refine ⟨before.invoice.updatedAt, call.arrange before.lines, call.arrange_perm _, ?_⟩
      rw [asSubmitted_congr hcontent, ← hprojection]
      rfl
    · have hbefore : before.invoice.status ≠ .draft := by
        rw [htransits.status]
        cases action with
        | submit => exact absurd rfl haction
        | _ => decide
      obtain ⟨stamp, lines, hlines, hhash⟩ := h.document hbefore
      refine ⟨stamp, lines, hlines, ?_⟩
      rw [asSubmitted_congr hcontent, ← hhash]
      exact sourceDocumentHash_kept haction
  case numbered => exact h.numbered
  case given => exact h.given
  case unflagged => exact (congrArg Portal.Invoice.securityFlags hcontent).trans h.unflagged
  case date => exact (congrArg Portal.Invoice.invoiceDate hcontent).trans_lt h.date

theorem Record.hash_given (h : Record platform before) (hstatus : before.invoice.status ≠ .draft) :
    before.invoice.sourceDocumentHash ≠ none := by
  obtain ⟨stamp, lines, -, hhash⟩ := h.document hstatus
  rw [hhash]
  exact Option.some_ne_none _

/-- The folder of an opening has one row, and its call has written it. -/
theorem wrote_opening {e : FilingEntry} {folder : Folder} (h : Opens e folder) :
    ∀ row ∈ folder.history, Wrote e row := by
  obtain ⟨body, values, amounts, hcreates, rfl, houtput⟩ := h
  refine List.forall_mem_singleton.mpr ?_
  constructor
  case answered => exact ⟨_, _, houtput, rfl, rfl, rfl, rfl, rfl⟩
  case actor => rfl
  case role => exact hcreates.role
  case request => exact ⟨body, hcreates.request⟩
  case reason => rintro (hstatus | hstatus) <;> cases hstatus

/-- A row that an advance adds is written by its call. -/
theorem wrote_advance {e : FilingEntry} (h : Advances platform e before after) :
    ∀ row ∈ after.history, row ∈ before.history ∨ Wrote e row := by
  obtain ⟨action, reason, htransits, rfl, houtput⟩ := h
  intro row hrow
  rcases List.mem_append.mp hrow with hold | hnew
  · exact Or.inl hold
  · obtain rfl := List.mem_singleton.mp hnew
    have hrole : roleFor action.target = action.role := by cases action <;> rfl
    refine Or.inr ?_
    constructor
    case answered =>
      refine ⟨_, _, houtput, rfl, rfl, rfl, ?_, ?_⟩
      · exact (transitioned_tenantId ..).trans htransits.tenant
      · exact (transitioned_enterpriseId ..).trans htransits.enterprise
    case actor => rfl
    case role =>
      simp only [Folder.answer, transitioned_status, hrole]
      exact htransits.role
    case request =>
      refine ⟨action, htransits.status.symm, (transitioned_status ..).symm, ?_⟩
      rw [htransits.request]
      simp [Folder.answer]
    case reason =>
      intro hstatus
      simp only [Folder.answer, transitioned_status] at hstatus
      refine stated_of_needsReason htransits.reason ?_
      cases action with
      | submit => rcases hstatus with hstatus | hstatus <;> cases hstatus
      | register => rcases hstatus with hstatus | hstatus <;> cases hstatus
      | reject => rfl
      | cancel => rfl

end Record

/-! ## Every reachable database -/

section Reached

variable (platform : FilingPlatform) {start : FilingDb} (hstart : Regular start) (calls : List FilingCall)
include hstart

/-- The invoices that are new in a run carry what its openings have and its advances keep. -/
theorem folder_of_run {P : Folder → Prop}
    (hopen : ∀ e ∈ (portal platform).log start calls, ∀ folder, Opens e folder → P folder)
    (hadvance : ∀ e before after, e ∈ (portal platform).log start calls → Advances platform e before after →
      P before → P after) :
    ∀ row ∈ ((portal platform).run start calls).invoices, row.id ∉ start.invoices.map (·.id) →
      P (folderOf ((portal platform).run start calls) row) := by
  intro row hrow hnew
  have hnone : folder start row.id = none := by
    rw [folder, Option.map_eq_none_iff]
    exact Table.lookup_eq_none.mpr fun old hold hsame ↦ hnew (List.mem_map.mpr ⟨old, hold, hsame⟩)
  have hlast := folder_of_mem ((folders platform).inv_run hstart calls) hrow
  exact (folders platform).opened_invariant hstart row.id calls hopen hadvance hnone hlast

theorem record_of_run : ∀ row ∈ ((portal platform).run start calls).invoices,
    row.id ∉ start.invoices.map (·.id) → Record platform
      (folderOf ((portal platform).run start calls) row) := by
  refine folder_of_run platform hstart calls ?_ ?_
  · rintro e - folder ⟨body, values, amounts, hcreates, rfl, -⟩
    exact record_opening hcreates
  · rintro e before after - ⟨action, reason, htransits, rfl, -⟩ hrecord
    exact hrecord.advance htransits

theorem wrote_of_run : ∀ row ∈ ((portal platform).run start calls).invoices,
    row.id ∉ start.invoices.map (·.id) →
      ∀ entry ∈ (folderOf ((portal platform).run start calls) row).history,
        ∃ e ∈ (portal platform).log start calls, Wrote e entry := by
  refine folder_of_run platform hstart calls
    (P := fun folder ↦ ∀ entry ∈ folder.history, ∃ e ∈ (portal platform).log start calls, Wrote e entry) ?_ ?_
  · intro e he folder hopen entry hentry
    exact ⟨e, he, wrote_opening hopen entry hentry⟩
  · intro e before after he hadvance hwrote entry hentry
    rcases wrote_advance hadvance entry hentry with hold | hnew
    · exact hwrote entry hold
    · exact ⟨e, he, hnew⟩

/-- Every invoice that a run has created has a complete record, and each of its history rows was written by
a call of the run. -/
theorem filing_record : ∀ row ∈ ((portal platform).run start calls).invoices,
    row.id ∉ start.invoices.map (·.id) →
      Record platform (folderOf ((portal platform).run start calls) row) ∧
        ∀ entry ∈ (folderOf ((portal platform).run start calls) row).history,
          ∃ e ∈ (portal platform).log start calls, Wrote e entry :=
  fun row hrow hnew ↦ ⟨record_of_run platform hstart calls row hrow hnew,
    wrote_of_run platform hstart calls row hrow hnew⟩

end Reached

/-! ## An invoice on its way -/

theorem sample_year : 738944 < 3652059 := by decide

theorem valve_line : 0 < [Portal.valve].length ∧ [Portal.valve].length ≤ 100 := by decide

def filing (draw : String) (scope : Portal.BrowserScope) (request : Request) : FilingCall where
  scope := scope
  request := request
  uuid index := draw ++ "-" ++ toString index
  today := 738944
  today_year := sample_year
  clock _ := 1757000000000000
  stamp := 1757000000000001
  randbelow := 42

def reviewer : Portal.BrowserScope := { Portal.operator with userId := "user_2", roles := ["GST_REVIEWER"] }

/-- The valve is billed, submitted and registered. -/
def filings : List FilingCall :=
  [filing "bill" Portal.operator (.createInvoice (Portal.billing [Portal.valve] valve_line).request),
    filing "submit" Portal.operator (.transitionInvoice "bill-0" "submit" 1 none),
    filing "register" reviewer (.transitionInvoice "bill-0" "register" 2 none)]

def cancelling : List FilingCall :=
  [filing "cancel" reviewer (.transitionInvoice "bill-0" "cancel" 3 (some "Duplicate"))]

def billedDocument : Json :=
  .obj
    [("id", .str "bill-0"), ("invoice_number", .str "INV-1"), ("invoice_date", .str "2024-02-29"),
      ("financial_year", .str "2023-24"), ("buyer_name", .str "Buyer"),
      ("buyer_gstin", .str "29FGHIJ5678K1Z3"), ("total_invoice_value", .str "10.61"),
      ("status", .str "SUBMITTED"), ("irn", .null), ("version", .int 2),
      ("updated_at", .str "2025-09-04T15:33:20.000001+00:00"), ("security_flags", .arr []),
      ("invoice_type", .str "B2B"), ("seller_gstin", .str "29ABCDE1234F1Z5"), ("purchase_order_id", .null),
      ("place_of_supply", .str "29"), ("currency", .str "INR"), ("taxable_value", .str "10.10"),
      ("cgst_amount", .str "0.26"), ("sgst_amount", .str "0.25"), ("igst_amount", .str "0.00"),
      ("cess_amount", .str "0.00"), ("ack_number", .null), ("ack_date", .null),
      ("source_document_hash", .null), ("cancellation_reason", .null),
      ("lines", .arr [.obj
        [("id", .str "bill-1"), ("line_number", .int 1), ("description", .str "Valve"),
          ("hsn_sac", .str "8481"), ("quantity", .str "1.000"), ("unit", .str "NOS"),
          ("unit_price", .str "10.10"), ("discount", .str "0.00"), ("taxable_value", .str "10.10"),
          ("gst_rate", .str "5.00"), ("cgst_amount", .str "0.26"), ("sgst_amount", .str "0.25"),
          ("igst_amount", .str "0.00"), ("total_value", .str "10.61")]]),
      ("history", .arr [])]

/-- The digests of the submitted document and of what the registration number is made from. -/
def filingDigests : List (String × String) :=
  [(billedDocument.dumps true, "7d83d4563e7ce6523bc5cf635594a306c604d3e1a10e28bafd7bb3b434e06552"),
    ((Json.obj [("id", .str "bill-0"), ("v", .int 3)]).dumps true,
      "4296f462b083e7f314ee8f65f6c8938d8680a670d85264f8208a52a0772b112f")]

theorem filingDigests_injective : Function.Injective (Ledger.tableDigest filingDigests) := by
  refine Ledger.tableDigest_injective ?_ ?_
  · decide +kernel
  · decide +kernel

def samplePlatform : FilingPlatform := ⟨Ledger.tableDigest filingDigests⟩

theorem samplePlatform_injective : Function.Injective samplePlatform.sha256 := by
  simp only [samplePlatform]
  exact filingDigests_injective

theorem empty_regular : Regular {} where
  keyed := meets_nil _
  lines := by simp
  history := by simp
  audits := by simp
  outbox := by simp

/-- The registered invoice of the valve has a complete record. -/
theorem registered_record : ∃ row ∈ ((portal samplePlatform).run {} filings).invoices,
    row.irn = some "IRNDEMO4296F462B083E7F314EE8F65" ∧
      Record samplePlatform (folderOf ((portal samplePlatform).run {} filings) row) := by
  have hrow : ∃ row ∈ ((portal samplePlatform).run {} filings).invoices,
      row.irn = some "IRNDEMO4296F462B083E7F314EE8F65" := by
    decide +kernel
  obtain ⟨row, hrow, hirn⟩ := hrow
  exact ⟨row, hrow, hirn, (filing_record samplePlatform empty_regular filings row hrow (by simp)).1⟩

end Xyena.Gst.Filing
