import Xyena.Foundation.JsonAgreement
import Xyena.Gst.FilingRecord

/-!
# What stays of an invoice

Once an invoice is created, its parties, its amounts and its lines stay for good.
Its status moves forward along the diagram, its rows of history are only added
to, and what a registration or a submission has written is not written again.
The hash of the submitted document tells the content and the lines that are
still stored later.
-/

namespace Xyena.Gst.Filing

open Xyena.Foundation Xyena.Foundation.Session
open Portal (InvoiceStatus InvoiceLine InvoiceStatusHistory OutboxEvent InvoiceCreate)

/-! ## What the source promises -/

/-- What becomes of an invoice with its rows. -/
structure Frozen (first last : Folder) : Prop where
  content : content last.invoice = content first.invoice
  lines : last.lines = first.lines
  history : first.history <+: last.history
  audits : first.audits <+: last.audits
  outbox : first.outbox <+: last.outbox
  forward : path first.invoice.status <+: path last.invoice.status
  version : first.invoice.version ≤ last.invoice.version
  final : first.invoice.status = .rejected ∨ first.invoice.status = .cancelled → last = first
  document : first.invoice.status ≠ .draft →
    last.invoice.sourceDocumentHash = first.invoice.sourceDocumentHash
  registration : wasRegistered first.invoice.status = true → last.invoice.irn = first.invoice.irn ∧
    last.invoice.ackNumber = first.invoice.ackNumber ∧ last.invoice.ackDate = first.invoice.ackDate

/-- The columns that the hash of a document covers. -/
def document (row : Invoice) : Portal.Invoice :=
  { content row with tenantId := "", enterpriseId := "", createdBy := "", updatedBy := "" }

/-! ## Advances -/

section Frozen

variable {platform : FilingPlatform} {db : FilingDb} {call : FilingCall} {first before : Folder}

theorem Frozen.refl (folder : Folder) : Frozen folder folder where
  content := rfl
  lines := rfl
  history := List.prefix_rfl
  audits := List.prefix_rfl
  outbox := List.prefix_rfl
  forward := List.prefix_rfl
  version := le_rfl
  final _ := rfl
  document _ := rfl
  registration _ := ⟨rfl, rfl, rfl⟩

/-- Which statuses lead on to another one. -/
theorem path_expected {status : InvoiceStatus} {action : Action} (h : path status <+: path action.expected) :
    (status = .rejected ∨ status = .cancelled → False) ∧ (status ≠ .draft → action ≠ .submit) ∧
      (wasRegistered status = true → action = .cancel) := by
  cases status <;> cases action <;> simp [path, Action.expected, wasRegistered] at h ⊢

theorem Frozen.advance {action : Action} {reason : Option String} (h : Frozen first before)
    (htransits : Transits db call before.invoice action reason) :
    Frozen first (before.advance platform call action reason) := by
  have hforward := h.forward
  rw [htransits.status] at hforward
  obtain ⟨hterminal, hdraft, hregistered⟩ := path_expected hforward
  constructor
  case content => exact (content_moved ..).trans h.content
  case lines => exact h.lines
  case history => exact h.history.trans (List.prefix_append ..)
  case audits => exact h.audits.trans (List.prefix_append ..)
  case outbox => exact h.outbox.trans (List.prefix_append ..)
  case forward =>
    have hstatus : (before.advance platform call action reason).invoice.status = action.target :=
      moved_status ..
    rw [hstatus, path_target]
    exact hforward.trans (List.prefix_append ..)
  case version =>
    have hversion : (before.advance platform call action reason).invoice.version =
        before.invoice.version + 1 := moved_version ..
    rw [hversion]
    exact Nat.le_succ_of_le h.version
  case final => exact fun hfirst ↦ (hterminal hfirst).elim
  case document =>
    intro hfirst
    rw [sourceDocumentHash_kept (hdraft hfirst)]
    exact h.document hfirst
  case registration =>
    intro hfirst
    obtain rfl := hregistered hfirst
    exact h.registration hfirst

theorem frozen_of_chain {log : List FilingEntry} {last : Folder}
    (h : (folders platform).Chain log first last) : Frozen first last := by
  refine h.keeps (.refl first) fun e before after _ hadvance hbefore ↦ ?_
  obtain ⟨action, reason, htransits, rfl, -⟩ := hadvance
  exact hbefore.advance htransits

variable (platform) in
theorem frozen_of_run {start : FilingDb} (hstart : Regular start) (earlier later : List FilingCall) :
    ∀ row ∈ ((portal platform).run start earlier).invoices,
      ∃ last ∈ ((portal platform).run start (earlier ++ later)).invoices, last.id = row.id ∧
        Frozen (folderOf ((portal platform).run start earlier) row)
          (folderOf ((portal platform).run start (earlier ++ later)) last) := by
  intro row hrow
  have hbetween := (folders platform).inv_run hstart earlier
  obtain ⟨last, hlast, hchain⟩ := (folders platform).later_of_found hbetween row.id
    (folder_of_mem hbetween hrow)
    later
  rw [← Machine.run_append] at hlast
  have hfrozen := frozen_of_chain hchain
  obtain ⟨stored, hstored, rfl⟩ := Option.map_eq_some_iff.mp hlast
  obtain ⟨hmem, hid⟩ := Table.lookup_spec hstored
  exact ⟨stored, hmem, hid, hfrozen⟩

/-- Whatever is called later, an invoice keeps what is frozen, and an invoice that was not there has been
created meanwhile. -/
theorem filing_frozen (platform : FilingPlatform) {start : FilingDb} (hstart : Regular start)
    (earlier later : List FilingCall) :
    (∀ row ∈ ((portal platform).run start earlier).invoices,
      ∃ last ∈ ((portal platform).run start (earlier ++ later)).invoices, last.id = row.id ∧
        Frozen (folderOf ((portal platform).run start earlier) row)
          (folderOf ((portal platform).run start (earlier ++ later)) last)) ∧
      ∀ last ∈ ((portal platform).run start (earlier ++ later)).invoices,
        last.id ∉ ((portal platform).run start earlier).invoices.map (·.id) →
          ∃ e ∈ (portal platform).log ((portal platform).run start earlier) later, ∃ opened, Opens e opened ∧
            Frozen opened (folderOf ((portal platform).run start (earlier ++ later)) last) := by
  refine ⟨frozen_of_run platform hstart earlier later, fun last hlast hnew ↦ ?_⟩
  have hbetween := (folders platform).inv_run hstart earlier
  have hfolder := folder_of_mem ((folders platform).inv_run hstart (earlier ++ later)) hlast
  rw [Machine.run_append] at hfolder ⊢
  cases (folders platform).origin hbetween last.id later hfolder with
  | found h _ =>
    obtain ⟨row, hrow, -⟩ := Option.map_eq_some_iff.mp h
    obtain ⟨hmem, hid⟩ := Table.lookup_spec hrow
    exact absurd (List.mem_map.mpr ⟨row, hmem, hid⟩) hnew
  | opened _ he hopened hchain => exact ⟨_, he, _, hopened, frozen_of_chain hchain⟩

end Frozen

/-- The registered invoice of the valve is frozen while it is cancelled. -/
theorem cancelled_frozen : ∃ row ∈ ((portal samplePlatform).run {} filings).invoices,
    ∃ last ∈ ((portal samplePlatform).run {} (filings ++ cancelling)).invoices,
      last.status = .cancelled ∧ Frozen (folderOf ((portal samplePlatform).run {} filings) row)
        (folderOf ((portal samplePlatform).run {} (filings ++ cancelling)) last) := by
  have hrow : ∃ row ∈ ((portal samplePlatform).run {} filings).invoices, row.status = .registered := by
    decide +kernel
  have hlast : ∀ last ∈ ((portal samplePlatform).run {} (filings ++ cancelling)).invoices,
      last.status = .cancelled := by
    decide +kernel
  obtain ⟨row, hrow, -⟩ := hrow
  obtain ⟨last, hmem, -, hfrozen⟩ := (filing_frozen samplePlatform empty_regular filings cancelling).1 row
    hrow
  exact ⟨row, hrow, last, hmem, hlast last hmem, hfrozen⟩

/-! ## The hashed document -/

theorem wellFormed_money (cents : Int) : (money cents).wellFormed = true := rfl

theorem lineProjection_wellFormed (line : InvoiceLine) : (lineProjection line).wellFormed = true := by
  simp [lineProjection, lineFields, Json.wellFormed, Json.wellFormedFields, wellFormed_money]

theorem wellFormedItems_lines (lines : List InvoiceLine) :
    Json.wellFormedItems (lines.map lineProjection) = true := by
  induction lines with
  | nil => rfl
  | cons line rest ih => simp [Json.wellFormedItems, lineProjection_wellFormed, ih]

theorem invoiceProjection_wellFormed (row : Invoice) (lines : List InvoiceLine) :
    (invoiceProjection row lines).wellFormed = true := by
  simp [invoiceProjection, invoiceFields, invoiceSummary, Json.wellFormed, Json.wellFormedFields,
    wellFormed_money, Json.wellFormed_ofOption, Json.wellFormed_strings, wellFormedItems_lines,
    Json.wellFormedItems]

theorem lineFields_keys (line : InvoiceLine) : ((lineFields line).map Prod.fst).Nodup := by
  simp [lineFields]

theorem invoiceFields_keys (row : Invoice) (lines : List InvoiceLine) :
    ((invoiceFields row lines).map Prod.fst).Nodup := by
  simp [invoiceFields, invoiceSummary]

theorem typeText_injective : Function.Injective typeText := by
  intro first second h
  cases first <;> cases second <;> first | rfl | simp [typeText] at h

theorem money_injective : Function.Injective money := fun _ _ h ↦ centsText_injective (Json.str.inj h)

section Fields

variable {first second : List (String × Json)} (hsame : Json.Same (.obj first) (.obj second))
  (hfirst : (first.map Prod.fst).Nodup) (hsecond : (second.map Prod.fst).Nodup)
include hsame hfirst hsecond

/-- Equal documents have the same scalar under a key. -/
theorem scalar_of_same (key : String) {value other : Json} (hvalue : first.lookup key = some value)
    (hother : second.lookup key = some other) (hscalar : value.isScalar = true) : other = value := by
  have hlookup := hsame.lookup hfirst hsecond key
  rw [hvalue, hother, Option.map_some, Option.map_some, Json.normalize_of_isScalar hscalar] at hlookup
  exact Json.eq_of_normalize_isScalar hscalar (Option.some.inj hlookup).symm

end Fields

theorem isScalar_ofOption (value : Option String) : (Json.ofOption value).isScalar = true := by
  cases value <;> rfl

/-- A projected line tells the line of the invoice. -/
theorem line_of_same {first second : InvoiceLine} (howner : first.invoiceId = second.invoiceId)
    (h : Json.Same (lineProjection first) (lineProjection second)) : second = first := by
  have field (key : String) {value other : Json} (hvalue : (lineFields first).lookup key = some value)
      (hother : (lineFields second).lookup key = some other) (hscalar : value.isScalar = true) :
      other = value :=
    scalar_of_same h (lineFields_keys first) (lineFields_keys second) key hvalue hother hscalar
  have hamounts : second.amounts = first.amounts := by
    rw [LineAmounts.mk.injEq]
    refine ⟨?_, ?_, ?_, ?_, ?_⟩
    · exact money_injective (field "taxable_value" rfl rfl rfl)
    · exact money_injective (field "cgst_amount" rfl rfl rfl)
    · exact money_injective (field "sgst_amount" rfl rfl rfl)
    · exact money_injective (field "igst_amount" rfl rfl rfl)
    · exact money_injective (field "total_value" rfl rfl rfl)
  rw [InvoiceLine.mk.injEq]
  refine ⟨?_, howner.symm, ?_, ?_, ?_, ?_, ?_, ?_, ?_, ?_, hamounts⟩
  · exact Json.str.inj (field "id" rfl rfl rfl)
  · exact Int.ofNat.inj (Json.int.inj (field "line_number" rfl rfl rfl))
  · exact Json.str.inj (field "description" rfl rfl rfl)
  · exact Json.str.inj (field "hsn_sac" rfl rfl rfl)
  · exact placesText_injective (Json.str.inj (field "quantity" rfl rfl rfl))
  · exact Json.str.inj (field "unit" rfl rfl rfl)
  · exact money_injective (field "unit_price" rfl rfl rfl)
  · exact money_injective (field "discount" rfl rfl rfl)
  · exact money_injective (field "gst_rate" rfl rfl rfl)

/-- The projections of the lines of one invoice tell them in their order. -/
theorem lines_of_same {first second : List InvoiceLine} (id : String)
    (hfirst : ∀ line ∈ first, line.invoiceId = id) (hsecond : ∀ line ∈ second, line.invoiceId = id)
    (h : Json.Same (.arr (first.map lineProjection)) (.arr (second.map lineProjection))) :
      second = first := by
  rw [Json.same_arr_iff, List.forall₂_map_left_iff, List.forall₂_map_right_iff] at h
  induction h with
  | nil => rfl
  | cons hline _ ih =>
    obtain ⟨hline₁, hfirst⟩ := List.forall_mem_cons.mp hfirst
    obtain ⟨hline₂, hsecond⟩ := List.forall_mem_cons.mp hsecond
    rw [line_of_same (hline₁.trans hline₂.symm) hline, ih hfirst hsecond]

/-- The hash of a submitted document tells the content of the invoice and its lines. -/
theorem document_of_hash {platform : FilingPlatform} (hsha : Function.Injective platform.sha256)
    {first second : Folder} {stamp other : Int} {lines others : List InvoiceLine}
    (hfirst : first.invoice.invoiceDate < 3652059) (hsecond : second.invoice.invoiceDate < 3652059)
    (howner : ∀ line ∈ lines, line.invoiceId = first.invoice.id)
    (howners : ∀ line ∈ others, line.invoiceId = second.invoice.id)
    (h : canonicalHash platform (invoiceProjection (asSubmitted first.invoice stamp) lines) =
      canonicalHash platform (invoiceProjection (asSubmitted second.invoice other) others)) :
    document second.invoice = document first.invoice ∧ others = lines := by
  have hsame := Json.same_of_dumps true (invoiceProjection_wellFormed _ _) (invoiceProjection_wellFormed _ _)
    (hsha h)
  have field (key : String) {value found : Json}
      (hvalue : (invoiceFields (asSubmitted first.invoice stamp) lines).lookup key = some value)
      (hfound : (invoiceFields (asSubmitted second.invoice other) others).lookup key = some found)
      (hscalar : value.isScalar = true) : found = value :=
    scalar_of_same hsame (invoiceFields_keys _ _) (invoiceFields_keys _ _) key hvalue hfound hscalar
  have hid : second.invoice.id = first.invoice.id := Json.str.inj (field "id" rfl rfl rfl)
  constructor
  · rw [document, document, content, content, Portal.Invoice.mk.injEq]
    refine ⟨hid, rfl, rfl, ?_, ?_, ?_, ?_, ?_, ?_, ?_, ?_, ?_, ?_, ?_, ?_, ?_, ?_, ?_, ?_, rfl, ?_, rfl,
      rfl, rfl⟩
    · exact Json.str.inj (field "invoice_number" rfl rfl rfl)
    · exact typeText_injective (Json.str.inj (field "invoice_type" rfl rfl rfl))
    · exact Calendar.dateText_injective hsecond hfirst (Json.str.inj (field "invoice_date" rfl rfl rfl))
    · exact Json.str.inj (field "financial_year" rfl rfl rfl)
    · exact Json.str.inj (field "seller_gstin" rfl rfl rfl)
    · exact Json.str.inj (field "buyer_gstin" rfl rfl rfl)
    · exact Json.str.inj (field "buyer_name" rfl rfl rfl)
    · exact Json.ofOption_inj.mp (field "purchase_order_id" rfl rfl (isScalar_ofOption _))
    · exact Json.str.inj (field "currency" rfl rfl rfl)
    · exact Json.str.inj (field "place_of_supply" rfl rfl rfl)
    · exact money_injective (field "taxable_value" rfl rfl rfl)
    · exact money_injective (field "cgst_amount" rfl rfl rfl)
    · exact money_injective (field "sgst_amount" rfl rfl rfl)
    · exact money_injective (field "igst_amount" rfl rfl rfl)
    · exact money_injective (field "cess_amount" rfl rfl rfl)
    · exact money_injective (field "total_invoice_value" rfl rfl rfl)
    · have hlookup := hsame.lookup (invoiceFields_keys _ _) (invoiceFields_keys _ _) "security_flags"
      have hflags : Json.strings first.invoice.securityFlags = .strings second.invoice.securityFlags := by
        rw [← Json.normalize_strings, ← Json.normalize_strings second.invoice.securityFlags]
        exact Option.some.inj hlookup
      exact (Json.strings_inj.mp hflags).symm
  · refine lines_of_same first.invoice.id howner (fun line hline ↦ (howners line hline).trans hid) ?_
    have hlookup := hsame.lookup (invoiceFields_keys _ _) (invoiceFields_keys _ _) "lines"
    exact Option.some.inj hlookup

/-- Of the invoices that runs of the portal have created, those with one document hash agree in everything
that the hash covers, as it is stored then. -/
theorem sourceDocumentHash_binds (platform : FilingPlatform) (hsha : Function.Injective platform.sha256)
    {start other : FilingDb} (hstart : Regular start) (hother : Regular other)
    (calls others : List FilingCall) :
    ∀ first ∈ ((portal platform).run start calls).invoices,
      ∀ second ∈ ((portal platform).run other others).invoices,
        first.id ∉ start.invoices.map (·.id) → second.id ∉ other.invoices.map (·.id) →
          first.sourceDocumentHash ≠ none → second.sourceDocumentHash = first.sourceDocumentHash →
            document second = document first ∧
              (folderOf ((portal platform).run other others) second).lines.Perm
                (folderOf ((portal platform).run start calls) first).lines := by
  intro first hfirst second hsecond hnew hnewOther hgiven hhash
  have hrecord := record_of_run platform hstart calls first hfirst hnew
  have hrecordOther := record_of_run platform hother others second hsecond hnewOther
  have hstatus : first.status ≠ .draft := fun hdraft ↦ hgiven (hrecord.draft hdraft)
  have hstatusOther : second.status ≠ .draft := by
    intro hdraft
    have hnone : second.sourceDocumentHash = none := hrecordOther.draft hdraft
    exact hgiven (hhash.symm.trans hnone)
  obtain ⟨stamp, lines, hlines, hdocument⟩ := hrecord.document hstatus
  obtain ⟨stampOther, linesOther, hlinesOther, hdocumentOther⟩ := hrecordOther.document hstatusOther
  have howner {folder : Folder} {db : FilingDb} {row : Invoice} (hfolder : folder = folderOf db row)
      {lines : List InvoiceLine} (hlines : lines.Perm folder.lines) :
      ∀ line ∈ lines, line.invoiceId = folder.invoice.id := by
    subst hfolder
    exact fun line hline ↦ (Table.mem_owned.mp (hlines.mem_iff.mp hline)).2
  have hsame : canonicalHash platform (invoiceProjection (asSubmitted first stamp) lines) =
      canonicalHash platform (invoiceProjection (asSubmitted second stampOther) linesOther) :=
    Option.some.inj (hdocument.symm.trans (hhash.symm.trans hdocumentOther))
  obtain ⟨hcontent, rfl⟩ := document_of_hash hsha hrecord.date hrecordOther.date (howner rfl hlines)
    (howner rfl hlinesOther) hsame
  exact ⟨hcontent, hlinesOther.symm.trans hlines⟩

/-- The document of the valve is the same before and after its registration was cancelled. -/
theorem billed_document : ∃ first ∈ ((portal samplePlatform).run {} filings).invoices,
    ∃ second ∈ ((portal samplePlatform).run {} (filings ++ cancelling)).invoices,
      first.status = .registered ∧ document second = document first := by
  have hfirst : ∃ row ∈ ((portal samplePlatform).run {} filings).invoices, row.status = .registered := by
    decide +kernel
  obtain ⟨first, hfirst, hstatus⟩ := hfirst
  obtain ⟨second, hsecond, -, hfrozen⟩ :=
    frozen_of_run samplePlatform empty_regular filings cancelling first hfirst
  have hsubmitted : first.status ≠ .draft := by
    rw [hstatus]
    decide
  have hrecord := record_of_run samplePlatform empty_regular filings first hfirst List.not_mem_nil
  have hgiven := hrecord.hash_given hsubmitted
  have hbinds := sourceDocumentHash_binds samplePlatform samplePlatform_injective empty_regular empty_regular
    filings (filings ++ cancelling) first hfirst second hsecond List.not_mem_nil List.not_mem_nil hgiven
    (hfrozen.document hsubmitted)
  exact ⟨first, hfirst, second, hsecond, hstatus, hbinds.1⟩

end Xyena.Gst.Filing
