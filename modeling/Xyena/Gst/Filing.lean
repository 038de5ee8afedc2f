import Xyena.Foundation.DecimalText
import Xyena.Foundation.JsonText
import Xyena.Foundation.PyText
import Xyena.Gst.Portal

/-!
# Filing invoices

`transition_invoice` of `demos/gst-portal/gst_portal/service.py` beside
`create_invoice`, with all columns of an invoice. The database sets the time of a
row with its own clock and returns the lines of an invoice in any order; both
are inputs of a call, and so is what the call draws. Every call runs in one
transaction.
-/

namespace Xyena.Gst.Filing

open Xyena.Foundation Xyena.Foundation.Session
open Portal (InvoiceType InvoiceStatus InvoiceLine InvoiceStatusHistory OutboxEvent InvoiceCreate
  BrowserScope)

/-! ## Rows -/

/-- An invoice with the columns that its transitions fill. Instants count microseconds. -/
structure Invoice extends Portal.Invoice where
  irn : Option String := none
  ackNumber : Option String := none
  ackDate : Option Int := none
  cancellationReason : Option String := none
  sourceDocumentHash : Option String := none
  updatedAt : Int
deriving DecidableEq, Repr

structure AuditEvent extends Portal.AuditEvent where
  reason : Option String := none
deriving DecidableEq, Repr

structure FilingDb where
  invoices : List Invoice := []
  lines : List InvoiceLine := []
  history : List InvoiceStatusHistory := []
  audits : List AuditEvent := []
  outbox : List OutboxEvent := []
deriving DecidableEq, Repr

/-- The tables as `create_invoice` reads them. -/
def FilingDb.plain (db : FilingDb) : Portal.GstDb where
  invoices := db.invoices.map Invoice.toInvoice
  lines := db.lines
  history := db.history
  audits := db.audits.map AuditEvent.toAuditEvent
  outbox := db.outbox

/-- Two invoices with one registration number. -/
def irnClash (first second : Invoice) : Bool := first.irn.isSome && first.irn == second.irn

theorem irnClash_symm (first second : Invoice) : irnClash first second = irnClash second first := by
  rw [irnClash, irnClash, Bool.beq_comm (a := first.irn)]
  cases hfirst : first.irn <;> cases hsecond : second.irn <;> simp

/-- The unique columns of `Portal.invoiceConstraints` and `unique=True` of the registration number. -/
def invoiceConstraints : Constraints Invoice String where
  key row := row.id
  clash first second := Portal.invoiceConstraints.clash first.toInvoice second.toInvoice ||
    irnClash first second
  clash_symm first second := by rw [Portal.invoiceConstraints.clash_symm, irnClash_symm]

def auditConstraints : Constraints AuditEvent String where
  key row := row.id

structure Writes where
  invoices : List (RowWrite Invoice) := []
  lines : List InvoiceLine := []
  history : List InvoiceStatusHistory := []
  audits : List AuditEvent := []
  outbox : List OutboxEvent := []

def Writes.accepted (writes : Writes) (db : FilingDb) : Bool :=
  RowWrite.acceptedAll invoiceConstraints db.invoices writes.invoices &&
  RowWrite.acceptedAll Portal.lineConstraints db.lines (writes.lines.map .insert) &&
  RowWrite.acceptedAll Portal.historyConstraints db.history (writes.history.map .insert) &&
  RowWrite.acceptedAll auditConstraints db.audits (writes.audits.map .insert) &&
  RowWrite.acceptedAll Portal.outboxConstraints db.outbox (writes.outbox.map .insert)

def Writes.apply (writes : Writes) (db : FilingDb) : FilingDb where
  invoices := RowWrite.applyAll invoiceConstraints db.invoices writes.invoices
  lines := db.lines ++ writes.lines
  history := db.history ++ writes.history
  audits := db.audits ++ writes.audits
  outbox := db.outbox ++ writes.outbox

/-! ## Calls -/

inductive Request where
  | createInvoice (body : InvoiceCreate)
  | transitionInvoice (invoiceId action : String) (expectedVersion : Int) (reason : Option String)

/-- One call with the identifiers and the digits that it draws, its clock and the clock of the database. -/
structure FilingCall where
  scope : BrowserScope
  request : Request
  uuid : Nat → String
  today : Nat
  today_year : today < 3652059
  /-- The instants that the call reads, in their order. -/
  clock : Nat → Int
  stamp : Int
  randbelow : Nat
  /-- How the database orders the lines of an invoice. -/
  arrange : List InvoiceLine → List InvoiceLine := id
  arrange_perm : ∀ rows, (arrange rows).Perm rows := by intro rows; exact List.Perm.refl rows
  refused : Bool := false

inductive FilingError where
  | notFound (text : String)
  | portal (error : Portal.GstError)
deriving DecidableEq, Repr

/-- SHA-256 as hexadecimal digits. -/
structure FilingPlatform where
  sha256 : String → String

/-- What a call answers: an invoice with its lines. -/
abbrev Answer := Invoice × List InvoiceLine

abbrev Outcome := Answer × Option Writes

/-! ## Projections and hashes -/

def typeText : InvoiceType → String
  | .b2b => "B2B"
  | .creditNote => "CREDIT_NOTE"
  | .debitNote => "DEBIT_NOTE"
  | .export => "EXPORT"

def statusText : InvoiceStatus → String
  | .draft => "DRAFT"
  | .submitted => "SUBMITTED"
  | .registered => "REGISTERED"
  | .rejected => "REJECTED"
  | .cancelled => "CANCELLED"

def money (cents : Int) : Json := .str (centsText cents)

/-- `invoice_summary`. -/
def invoiceSummary (value : Invoice) : List (String × Json) :=
  [("id", .str value.id),
    ("invoice_number", .str value.invoiceNumber),
    ("invoice_date", .str (Calendar.dateText value.invoiceDate)),
    ("financial_year", .str value.financialYear),
    ("buyer_name", .str value.buyerName),
    ("buyer_gstin", .str value.buyerGstin),
    ("total_invoice_value", money value.totalInvoiceValue),
    ("status", .str (statusText value.status)),
    ("irn", .ofOption value.irn),
    ("version", .int value.version),
    ("updated_at", .str (Calendar.isoformat value.updatedAt)),
    ("security_flags", .strings value.securityFlags)]

def lineFields (line : InvoiceLine) : List (String × Json) :=
  [("id", .str line.id),
    ("line_number", .int line.lineNumber),
    ("description", .str line.description),
    ("hsn_sac", .str line.hsnSac),
    ("quantity", .str (placesText 3 line.quantity)),
    ("unit", .str line.unit),
    ("unit_price", money line.unitPrice),
    ("discount", money line.discount),
    ("taxable_value", money line.amounts.taxableValue),
    ("gst_rate", money line.gstRate),
    ("cgst_amount", money line.amounts.cgstAmount),
    ("sgst_amount", money line.amounts.sgstAmount),
    ("igst_amount", money line.amounts.igstAmount),
    ("total_value", money line.amounts.totalValue)]

def lineProjection (line : InvoiceLine) : Json := .obj (lineFields line)

/-- The fields of `invoice_projection`, without a history. -/
def invoiceFields (value : Invoice) (lines : List InvoiceLine) : List (String × Json) :=
  invoiceSummary value ++
    [("invoice_type", .str (typeText value.invoiceType)),
      ("seller_gstin", .str value.sellerGstin),
      ("purchase_order_id", .ofOption value.purchaseOrderId),
      ("place_of_supply", .str value.placeOfSupply),
      ("currency", .str value.currency),
      ("taxable_value", money value.taxableValue),
      ("cgst_amount", money value.cgstAmount),
      ("sgst_amount", money value.sgstAmount),
      ("igst_amount", money value.igstAmount),
      ("cess_amount", money value.cessAmount),
      ("ack_number", .ofOption value.ackNumber),
      ("ack_date", .ofOption (value.ackDate.map Calendar.isoformat)),
      ("source_document_hash", .ofOption value.sourceDocumentHash),
      ("cancellation_reason", .ofOption value.cancellationReason),
      ("lines", .arr (lines.map lineProjection)),
      ("history", .arr [])]

def invoiceProjection (value : Invoice) (lines : List InvoiceLine) : Json := .obj (invoiceFields value lines)

/-- `canonical_hash` of `domain.py`. -/
def canonicalHash (platform : FilingPlatform) (value : Json) : String := platform.sha256 (value.dumps true)

/-- The registration number of an invoice. -/
def irnOf (platform : FilingPlatform) (id : String) (version : Nat) : String :=
  let digest := canonicalHash platform (.obj [("id", .str id), ("v", .int version)])
  "IRNDEMO" ++ (clip 24 digest).toUpper

/-- `f"ACK{now:%y%m%d}{drawn:06d}"`. -/
def ackNumber (now : Int) (drawn : Nat) : String :=
  let date := Calendar.ofOrdinal ((now - Calendar.minimum).toNat / 86400000000)
  String.ofList ("ACK".toList ++ Calendar.digits 2 date.year ++ Calendar.digits 2 date.month ++
    Calendar.digits 2 date.day ++ Calendar.digits 6 drawn)

/-! ## Transitions -/

inductive Action where
  | submit
  | register
  | reject
  | cancel
deriving DecidableEq, Repr

namespace Action

def name : Action → String
  | submit => "submit"
  | register => "register"
  | reject => "reject"
  | cancel => "cancel"

/-- The key of `transitions` that a text is. -/
def parse (text : String) : Option Action := [submit, register, reject, cancel].find? (·.name == text)

def expected : Action → InvoiceStatus
  | submit => .draft
  | register => .submitted
  | reject => .submitted
  | cancel => .registered

def target : Action → InvoiceStatus
  | submit => .submitted
  | register => .registered
  | reject => .rejected
  | cancel => .cancelled

def role : Action → String
  | submit => "GST_OPERATOR"
  | register => "GST_REVIEWER"
  | reject => "GST_REVIEWER"
  | cancel => "GST_REVIEWER"

/-- Whether the action needs a reason. -/
def needsReason : Action → Bool
  | submit => false
  | register => false
  | reject => true
  | cancel => true

end Action

section Operations

variable (platform : FilingPlatform) (db : FilingDb) (call : FilingCall)

/-- `_invoice`. -/
def invoice (invoiceId : String) : Except FilingError Invoice :=
  match db.invoices.find? fun row ↦ row.id == invoiceId && row.tenantId == call.scope.enterprise.tenantId &&
      row.enterpriseId == call.scope.enterprise.id with
  | some row => .ok row
  | none => .error (.notFound "Invoice was not found in the active enterprise scope.")

/-- The lines of an invoice as the database returns them. -/
def linesOf (invoiceId : String) : List InvoiceLine :=
  call.arrange (db.lines.filter fun line ↦ line.invoiceId == invoiceId)

def advance (row : Invoice) (action : Action) : Invoice :=
  { row with status := action.target, version := row.version + 1, updatedBy := call.scope.userId }

/-- What the action changes in an invoice with the given lines. -/
def transitioned (lines : List InvoiceLine) (row : Invoice) (action : Action) (reason : Option String) :
    Invoice :=
  let moved := advance call row action
  match action with
  | .submit =>
    { moved with sourceDocumentHash := some (canonicalHash platform (invoiceProjection moved lines)) }
  | .register =>
    { moved with
      irn := some (irnOf platform moved.id moved.version)
      ackNumber := some (ackNumber (call.clock 0) call.randbelow)
      ackDate := some (call.clock 1) }
  | .reject => moved
  | .cancel => { moved with cancellationReason := reason }

def eventType (status : InvoiceStatus) : String := "invoice." ++ (statusText status).toLower

/-- The rows of a transition. The database stamps the invoice. -/
def transitionWrites (row moved : Invoice) (reason : Option String) : Writes where
  invoices := [.update { moved with updatedAt := call.stamp }]
  history := [⟨call.uuid 0, moved.id, moved.tenantId, some row.status, moved.status, reason,
    call.scope.userId, moved.version⟩]
  audits := [⟨⟨call.uuid 2, moved.tenantId, "INVOICE", moved.id, moved.version, eventType moved.status,
    "USER", call.scope.userId⟩, reason⟩]
  outbox := [⟨call.uuid 3, moved.tenantId, "INVOICE", moved.id, moved.version, eventType moved.status,
    (moved.id, moved.version), call.uuid 1⟩]

/-- `transition_invoice`. -/
def transitionInvoice (invoiceId action : String) (expectedVersion : Int) (reason : Option String) :
    Except FilingError Outcome := do
  let row ← invoice db call invoiceId
  ensure ((row.version : Int) == expectedVersion)
    (.portal (.conflict "The invoice changed. Reload it before applying this action."))
  match Action.parse action with
  | none => .error (.portal (.domain "Unsupported invoice transition."))
  | some known =>
    ensure (call.scope.roles.contains known.role)
      (.portal (.authorization "This account is not permitted to perform that action."))
    ensure (row.status == known.expected)
      (.portal (.conflict ("Only a " ++ statusText known.expected ++ " invoice can be " ++ action ++ "ed.")))
    ensure (!(known.needsReason && blank (reason.getD "")))
      (.portal (.domain "A reason is required for rejection or cancellation."))
    let lines := linesOf db call row.id
    let moved := transitioned platform call lines row known reason
    return ((moved, lines), some (transitionWrites call row moved reason))

/-- The call as `create_invoice` takes it. -/
def creation (body : InvoiceCreate) : Portal.GstCall where
  scope := call.scope
  request := body
  uuid := call.uuid
  today := call.today
  refused := call.refused

/-- A new invoice with its time and with the columns that transitions fill. -/
def stamped (row : Portal.Invoice) : Invoice := { row with updatedAt := call.stamp }

def creationWrites (writes : Portal.Writes) : Writes where
  invoices := writes.invoices.map fun row ↦ .insert (stamped call row)
  lines := writes.lines
  history := writes.history
  audits := writes.audits.map fun row ↦ { row with reason := none }
  outbox := writes.outbox

/-- `create_invoice`. -/
def createInvoice (body : InvoiceCreate) : Except FilingError Outcome :=
  match Portal.createInvoice (creation call body) db.plain with
  | .error failure => .error (.portal failure)
  | .ok ((row, lines), writes) =>
    .ok ((stamped call row, lines), writes.map (creationWrites call))

def serve : Except FilingError Outcome :=
  match call.request with
  | .createInvoice body => createInvoice db call body
  | .transitionInvoice invoiceId action expectedVersion reason =>
    transitionInvoice platform db call invoiceId action expectedVersion reason

end Operations

/-- The portal, one session a call. -/
def sessions (platform : FilingPlatform) : Service FilingDb FilingCall Answer FilingError Writes where
  serve := serve platform
  refused := FilingCall.refused
  accepted := Writes.accepted
  apply := Writes.apply
  integrity := .portal .integrity

/-- The portal, one call after the other. -/
def portal (platform : FilingPlatform) : Machine FilingDb FilingCall (Except FilingError Answer) :=
  (sessions platform).machine

end Xyena.Gst.Filing
