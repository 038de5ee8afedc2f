import Xyena.Foundation.Calendar
import Xyena.Foundation.DecimalArithmetic
import Xyena.Foundation.Session
import Xyena.Gst.Invoices

/-!
# The GST portal

`create_invoice` of `demos/gst-portal/gst_portal/service.py` with `calculate_line`
and `money` of `domain.py` and the request bodies of `schemas.py`. The amounts of a
request have the decimals of its fields, all arithmetic is done in the default
decimal context, and amounts are stored in hundredths. What a call draws, the
day on which it is made and what the database refuses for a reason of its own
are inputs. Columns that a new invoice leaves empty are left out, and so are
the patterns of text fields.
-/

namespace Xyena.Gst.Portal

open Xyena.Foundation Xyena.Foundation.Session

/-! ## Rows -/

inductive InvoiceType where
  | b2b
  | creditNote
  | debitNote
  | export
deriving DecidableEq, Repr

inductive InvoiceStatus where
  | draft
  | submitted
  | registered
  | rejected
  | cancelled
deriving DecidableEq, Repr

structure Invoice where
  id : String
  tenantId : String
  enterpriseId : String
  invoiceNumber : String
  invoiceType : InvoiceType
  invoiceDate : Nat
  financialYear : String
  sellerGstin : String
  buyerGstin : String
  buyerName : String
  purchaseOrderId : Option String
  currency : String := "INR"
  placeOfSupply : String
  taxableValue : Int
  cgstAmount : Int
  sgstAmount : Int
  igstAmount : Int
  cessAmount : Int := 0
  totalInvoiceValue : Int
  status : InvoiceStatus := .draft
  securityFlags : List String := []
  version : Nat := 1
  createdBy : String
  updatedBy : String
deriving DecidableEq, Repr

structure InvoiceLine where
  id : String
  invoiceId : String
  lineNumber : Nat
  description : String
  hsnSac : String
  quantity : Int
  unit : String
  unitPrice : Int
  discount : Int
  gstRate : Int
  amounts : LineAmounts
deriving DecidableEq, Repr

structure InvoiceStatusHistory where
  id : String
  invoiceId : String
  tenantId : String
  priorStatus : Option InvoiceStatus
  newStatus : InvoiceStatus
  reason : Option String
  actorId : String
  version : Nat
deriving DecidableEq, Repr

structure AuditEvent where
  id : String
  tenantId : String
  aggregateType : String
  aggregateId : String
  aggregateVersion : Nat
  eventType : String
  actorType : String
  actorId : String
deriving DecidableEq, Repr

structure OutboxEvent where
  id : String
  tenantId : String
  aggregateType : String
  aggregateId : String
  aggregateVersion : Nat
  eventType : String
  payload : String × Nat
  correlationId : String
deriving DecidableEq, Repr

structure GstDb where
  invoices : List Invoice := []
  lines : List InvoiceLine := []
  history : List InvoiceStatusHistory := []
  audits : List AuditEvent := []
  outbox : List OutboxEvent := []
deriving DecidableEq, Repr

/-- `UniqueConstraint("enterprise_id", "financial_year", "invoice_number")`. -/
def invoiceConstraints : Constraints Invoice String where
  key := Invoice.id
  clash first second :=
    (first.enterpriseId, first.financialYear, first.invoiceNumber) ==
      (second.enterpriseId, second.financialYear, second.invoiceNumber)
  clash_symm _ _ := Bool.beq_comm

/-- `UniqueConstraint("invoice_id", "line_number")`. -/
def lineConstraints : Constraints InvoiceLine String where
  key := InvoiceLine.id
  clash first second := (first.invoiceId, first.lineNumber) == (second.invoiceId, second.lineNumber)
  clash_symm _ _ := Bool.beq_comm

def historyConstraints : Constraints InvoiceStatusHistory String where
  key := InvoiceStatusHistory.id

def auditConstraints : Constraints AuditEvent String where
  key := AuditEvent.id

def outboxConstraints : Constraints OutboxEvent String where
  key := OutboxEvent.id

/-- The rows that a session adds. -/
structure Writes where
  invoices : List Invoice := []
  lines : List InvoiceLine := []
  history : List InvoiceStatusHistory := []
  audits : List AuditEvent := []
  outbox : List OutboxEvent := []

def Writes.accepted (writes : Writes) (db : GstDb) : Bool :=
  RowWrite.acceptedAll invoiceConstraints db.invoices (writes.invoices.map .insert) &&
  RowWrite.acceptedAll lineConstraints db.lines (writes.lines.map .insert) &&
  RowWrite.acceptedAll historyConstraints db.history (writes.history.map .insert) &&
  RowWrite.acceptedAll auditConstraints db.audits (writes.audits.map .insert) &&
  RowWrite.acceptedAll outboxConstraints db.outbox (writes.outbox.map .insert)

def Writes.apply (writes : Writes) (db : GstDb) : GstDb where
  invoices := db.invoices ++ writes.invoices
  lines := db.lines ++ writes.lines
  history := db.history ++ writes.history
  audits := db.audits ++ writes.audits
  outbox := db.outbox ++ writes.outbox

/-! ## Requests -/

/-- A line of a request. Its quantity and its amounts have at most 18 digits. -/
structure LineCreate extends InvoiceLineCreate where
  description : String
  hsnSac : String
  unit : String
  quantity_digits : quantity < 10 ^ 18 := by decide
  unitPrice_digits : unitPrice < 10 ^ 18 := by decide
  discount_digits : discount < 10 ^ 18 := by decide

structure InvoiceCreate where
  invoiceNumber : String
  invoiceType : InvoiceType := .b2b
  invoiceDate : Nat
  buyerGstin : String
  buyerName : String
  purchaseOrderId : Option String := none
  placeOfSupply : String
  lines : List LineCreate
  lines_given : 0 < lines.length ∧ lines.length ≤ 100

structure Enterprise where
  id : String
  tenantId : String
  primaryGstin : String

/-- The user of a browser session with the enterprise of the session and the roles in it. -/
structure BrowserScope where
  userId : String
  enterprise : Enterprise
  roles : List String

/-- One call of `create_invoice`. Days are counted from the first day of year 1. -/
structure GstCall where
  scope : BrowserScope
  request : InvoiceCreate
  uuid : Nat → String
  today : Nat
  refused : Bool := false

inductive GstError where
  | authorization (text : String)
  | domain (text : String)
  | conflict (text : String)
  | invalidOperation
  | integrity
deriving DecidableEq, Repr

/-! ## Amounts -/

/-- `money`. A result with too many digits raises `InvalidOperation`. -/
def money (value : DecimalNumber) : Except GstError Int :=
  match value.toCents with
  | none => .error .invalidOperation
  | some cents => .ok cents

/-- `calculate_line`, with the text of its `ValueError` as the caller raises it again. -/
def calculateLine (line : InvoiceLineCreate) (intraState : Bool) : Except GstError LineAmounts := do
  let gross := DecimalNumber.mul ⟨line.quantity, -3⟩ ⟨line.unitPrice, -2⟩
  let taxable ← money (gross.sub (.cents line.discount))
  ensure (decide (0 ≤ taxable)) (.domain "A line discount cannot exceed its gross value.")
  let tax ← money (DecimalNumber.mul (.cents taxable) ⟨line.gstRate, -2⟩).percent
  let cgst ← if intraState then money (DecimalNumber.cents tax).half else pure 0
  let sgst ← if intraState then money ((DecimalNumber.cents tax).sub (.cents cgst)) else pure 0
  let total ← money ((DecimalNumber.cents taxable).add (.cents tax))
  return {
    taxableValue := taxable
    cgstAmount := cgst
    sgstAmount := sgst
    igstAmount := if intraState then 0 else tax
    totalValue := total }

/-- `money(sum(...))` of a column of the lines. -/
def total (column : LineAmounts → Int) (values : List LineAmounts) : Except GstError Int :=
  money (DecimalNumber.sum (values.map fun amounts ↦ .cents (column amounts)))

/-- The amounts of the lines and of the invoice. -/
def calculateInvoice (lines : List InvoiceLineCreate) (intraState : Bool) :
    Except GstError (List LineAmounts × InvoiceAmounts) := do
  let values ← lines.mapM fun line ↦ calculateLine line intraState
  let taxable ← total LineAmounts.taxableValue values
  let cgst ← total LineAmounts.cgstAmount values
  let sgst ← total LineAmounts.sgstAmount values
  let igst ← total LineAmounts.igstAmount values
  let invoiceValue ← money
    ((((DecimalNumber.cents taxable).add (.cents cgst)).add (.cents sgst)).add (.cents igst))
  return (values, {
    taxableValue := taxable
    cgstAmount := cgst
    sgstAmount := sgst
    igstAmount := igst
    totalInvoiceValue := invoiceValue })

/-! ## Creating an invoice -/

/-- `f"{start}-{str(start + 1)[-2:]}"` for the year in which the financial year starts. -/
def financialYear (day : Nat) : String :=
  let date := Calendar.ofOrdinal day
  let start := if 4 ≤ date.month then date.year else date.year - 1
  let next := Nat.toDigits 10 (start + 1)
  toString start ++ "-" ++ String.ofList (next.drop (next.length - 2))

/-- Whether the supply stays in the state of the seller. -/
def intraState (scope : BrowserScope) (request : InvoiceCreate) : Bool :=
  scope.enterprise.primaryGstin.toList.take 2 == request.placeOfSupply.toList

section Creation

variable (call : GstCall)

def newInvoice (amounts : InvoiceAmounts) : Invoice where
  id := call.uuid 0
  tenantId := call.scope.enterprise.tenantId
  enterpriseId := call.scope.enterprise.id
  invoiceNumber := call.request.invoiceNumber
  invoiceType := call.request.invoiceType
  invoiceDate := call.request.invoiceDate
  financialYear := financialYear call.request.invoiceDate
  sellerGstin := call.scope.enterprise.primaryGstin
  buyerGstin := call.request.buyerGstin
  buyerName := call.request.buyerName
  purchaseOrderId := call.request.purchaseOrderId
  placeOfSupply := call.request.placeOfSupply
  taxableValue := amounts.taxableValue
  cgstAmount := amounts.cgstAmount
  sgstAmount := amounts.sgstAmount
  igstAmount := amounts.igstAmount
  totalInvoiceValue := amounts.totalInvoiceValue
  createdBy := call.scope.userId
  updatedBy := call.scope.userId

def newLine (line : LineCreate) (amounts : LineAmounts) (index : Nat) : InvoiceLine where
  id := call.uuid index
  invoiceId := call.uuid 0
  lineNumber := index
  description := line.description
  hsnSac := line.hsnSac
  quantity := line.quantity
  unit := line.unit
  unitPrice := line.unitPrice
  discount := line.discount
  gstRate := line.gstRate
  amounts := amounts

def newLines (values : List LineAmounts) : List InvoiceLine :=
  ((call.request.lines.zip values).zipIdx 1).map fun entry ↦ newLine call entry.1.1 entry.1.2 entry.2

/-- The rows of a new invoice; the identifiers behind those of the lines are drawn in this order. -/
def creationWrites (values : List LineAmounts) (amounts : InvoiceAmounts) : Writes :=
  let invoice := newInvoice call amounts
  let drawn := values.length
  { invoices := [invoice]
    lines := newLines call values
    history := [⟨call.uuid (drawn + 1), invoice.id, invoice.tenantId, none, .draft,
      some "Invoice created", call.scope.userId, invoice.version⟩]
    audits := [⟨call.uuid (drawn + 3), invoice.tenantId, "INVOICE", invoice.id, invoice.version,
      "invoice.created", "USER", call.scope.userId⟩]
    outbox := [⟨call.uuid (drawn + 4), invoice.tenantId, "INVOICE", invoice.id, invoice.version,
      "invoice.created", (invoice.id, invoice.version), call.uuid (drawn + 2)⟩] }

/-- `create_invoice`. The answer shows the invoice and its lines. -/
def createInvoice (db : GstDb) : Except GstError ((Invoice × List InvoiceLine) × Option Writes) := do
  let scope := call.scope
  let request := call.request
  ensure (scope.roles.contains "GST_OPERATOR")
    (.authorization "This account is not permitted to perform that action.")
  ensure (decide (request.invoiceDate ≤ call.today)) (.domain "Invoice date cannot be in the future.")
  ensure (!db.invoices.any fun row ↦
      row.enterpriseId == scope.enterprise.id &&
        row.financialYear == financialYear request.invoiceDate && row.invoiceNumber == request.invoiceNumber)
    (.conflict "This invoice number already exists for the financial year.")
  let calculated ← calculateInvoice (request.lines.map LineCreate.toInvoiceLineCreate)
    (intraState scope request)
  let writes := creationWrites call calculated.1 calculated.2
  return ((newInvoice call calculated.2, writes.lines), some writes)

end Creation

/-- The portal, one session a call. -/
def sessions : Service GstDb GstCall (Invoice × List InvoiceLine) GstError Writes where
  serve db call := createInvoice call db
  refused := GstCall.refused
  accepted := Writes.accepted
  apply := Writes.apply
  integrity := .integrity

end Xyena.Gst.Portal
