import Xyena.Erp.Models
import Xyena.Foundation.Decimal
import Xyena.Foundation.Session

/-!
# The operations of the buyer's ERP

The methods of `ERPService` in `demos/buyer-erp/erp_demo/service.py` with the
request bodies of `schemas.py`, check by check and with the same texts. A request
may give an amount or a quantity with more digits than its column keeps: it is a
rational number in the unit of the column, which `Rounding.round` rounds when
the row is stored. Every identifier that is drawn is an input of the call, and
each call runs in a transaction of its own. What `_record` adds is left out, as
are the queries that only show rows.
-/

namespace Xyena.Erp

open Xyena.Foundation Xyena.Foundation.Session

/-! ## Requests -/

/-- An upper-case letter or a digit, and then 2 to 79 of these, slashes or hyphens. -/
def documentNumber (text : String) : Bool :=
  match text.toList with
  | [] => false
  | first :: rest =>
    (first.isUpper || first.isDigit) && decide (2 ≤ rest.length ∧ rest.length ≤ 79) &&
      rest.all fun char ↦ char.isUpper || char.isDigit || char == '/' || char == '-'

structure PurchaseOrderLineCreate where
  quantity : Rat
  unitPrice : Rat
  taxRate : Rat
  quantity_pos : 0 < quantity
  unitPrice_pos : 0 < unitPrice
  taxRate_percentage : 0 ≤ taxRate ∧ taxRate ≤ 10000

structure PurchaseOrderCreate where
  poNumber : String
  buyerId : String
  supplierBusinessId : String
  lines : List PurchaseOrderLineCreate
  number_form : documentNumber poNumber = true
  lines_given : 0 < lines.length ∧ lines.length ≤ 100

structure ReceiptLineCreate where
  purchaseOrderLineId : String
  receivedQuantity : Rat
  acceptedQuantity : Rat
  rejectedQuantity : Rat
  receivedQuantity_pos : 0 < receivedQuantity
  acceptedQuantity_nonneg : 0 ≤ acceptedQuantity
  rejectedQuantity_nonneg : 0 ≤ rejectedQuantity

structure ReceiptCreate where
  receiptNumber : String
  purchaseOrderId : String
  lines : List ReceiptLineCreate
  number_form : documentNumber receiptNumber = true
  lines_given : 0 < lines.length ∧ lines.length ≤ 100

structure AcceptanceCreate where
  acceptedAmount : Rat
  reason : String
  actor : String
  acceptedAmount_pos : 0 < acceptedAmount

structure DisputeCreate where
  reason : String
  actor : String

inductive OrderAction where
  | submit
  | approve
  | reject
  | cancel
deriving DecidableEq, Repr

def OrderAction.value : OrderAction → String
  | .submit => "submit"
  | .approve => "approve"
  | .reject => "reject"
  | .cancel => "cancel"

structure GstInvoiceSnapshot where
  id : String
  tenantId : String
  invoiceNumber : String
  sellerGstin : String
  buyerGstin : String
  purchaseOrderId : Option String
  totalInvoiceValue : Rat
  status : GstStatus
  version : Int
  totalInvoiceValue_pos : 0 < totalInvoiceValue
  version_pos : 1 ≤ version

/-- The entry `invoice_snapshot` of an event: no dictionary, one that is refused, or a snapshot. -/
inductive SnapshotDocument where
  | absent
  | invalid
  | valid (snapshot : GstInvoiceSnapshot)

structure GstEventEnvelope where
  eventId : String
  eventType : EventType
  tenantId : String
  aggregateId : String
  aggregateVersion : Int
  invoiceSnapshot : SnapshotDocument
  aggregateVersion_pos : 1 ≤ aggregateVersion

/-- The only source of events. -/
def gstSource : String := "xyena-demo-gst"

inductive Request where
  | createPurchaseOrder (tenantId : String) (body : PurchaseOrderCreate)
  | transitionPurchaseOrder (tenantId orderId : String) (action : OrderAction) (expectedVersion : Int)
      (actor : String)
  | createReceipt (tenantId : String) (body : ReceiptCreate)
  | postReceipt (tenantId receiptId : String) (expectedVersion : Int)
  | recalculateMatch (tenantId invoiceId : String)
  | acceptMatch (tenantId matchId : String) (expectedVersion : Int) (body : AcceptanceCreate)
  | disputeMatch (tenantId matchId : String) (expectedVersion : Int) (body : DisputeCreate)
  | consumeGstEvent (event : GstEventEnvelope)

/-- One call of the service: its request and the digits of the identifiers that it draws, in their
order. `refused` says whether the database refuses the rows of the call for a reason outside its keys,
such as the width of a column or a lost connection. -/
structure ErpCall where
  request : Request
  token : Nat → String
  refused : Bool := false

inductive ErpError where
  | notFound (text : String)
  | conflict (text : String)
  | domain (text : String)
  | validation
  | integrity
deriving DecidableEq, Repr

/-- The rows that the answer of a call shows. -/
inductive ErpAnswer where
  | order (row : PurchaseOrder)
  | receipt (row : GoodsServiceReceipt)
  | invoiceMatch (row : InvoiceMatch) (invoice : SupplierInvoice) (acceptance : Option InvoiceAcceptance)
  | duplicateIgnored (eventId : String)
  | snapshotAggregateMismatch (eventId : String)
  | detailFetchRequired (eventId invoiceId : String)
  | staleVersionIgnored (eventId : String)
  | processed (eventId invoiceId : String) (gstStatus : GstStatus)

/-- An answer with the rows that the session commits; a session without rows commits nothing. -/
abbrev Outcome := ErpAnswer × Option Writes

/-! ## Lookups and checks -/

def lookup {Row : Type} (rows : List Row) (missing : String) (selected : Row → Bool) :
    Except ErpError Row :=
  findRow (.notFound missing) selected rows

def expectVersion (aggregate : String) (current expected : Int) : Except ErpError Unit :=
  ensure (current == expected) (.conflict
    ("Version conflict: current " ++ aggregate ++ " version is " ++ toString current ++ "."))

section Operations

variable (rounding : Rounding) (db : ErpDb) (call : ErpCall) (tenantId : String)

def counterpartyModel (businessId : String) : Except ErpError Counterparty :=
  lookup db.counterparties "Counterparty was not found in this tenant." fun row ↦
    row.tenantId == tenantId && row.businessId == businessId

def purchaseOrderModel (orderId : String) : Except ErpError PurchaseOrder :=
  lookup db.orders "Purchase order was not found in this tenant." fun row ↦
    row.tenantId == tenantId && (row.id == orderId || row.poNumber == orderId)

def receiptModel (receiptId : String) : Except ErpError GoodsServiceReceipt :=
  lookup db.receipts "Receipt was not found in this tenant." fun row ↦
    row.tenantId == tenantId && (row.id == receiptId || row.receiptNumber == receiptId)

def invoiceModel (invoiceId : String) : Except ErpError SupplierInvoice :=
  lookup db.invoices "Supplier invoice was not found in this tenant." fun row ↦
    row.tenantId == tenantId && (row.id == invoiceId || row.invoiceNumber == invoiceId)

def matchModel (matchId : String) : Except ErpError InvoiceMatch :=
  lookup db.invoiceMatches "Invoice match was not found in this tenant." fun row ↦
    row.tenantId == tenantId && row.id == matchId

/-! ## Purchase orders -/

/-- The price of the lines in hundredths, and their tax. -/
def subtotalOf (lines : List PurchaseOrderLineCreate) : Int :=
  halfEven (lines.map fun line ↦ line.quantity / 1000 * line.unitPrice).sum

def taxOf (lines : List PurchaseOrderLineCreate) : Int :=
  halfEven (lines.map fun line ↦ line.quantity / 1000 * line.unitPrice * line.taxRate / 10000).sum

def newOrder (body : PurchaseOrderCreate) (buyer supplier : Counterparty) : PurchaseOrder where
  id := "po_demo_" ++ call.token 0
  tenantId := tenantId
  poNumber := body.poNumber
  buyerId := body.buyerId
  supplierBusinessId := body.supplierBusinessId
  buyerGstin := buyer.gstin
  sellerGstin := supplier.gstin
  subtotal := subtotalOf body.lines
  tax := taxOf body.lines
  total := subtotalOf body.lines + taxOf body.lines
  status := .draft

def newOrderLine (orderId : String) (line : PurchaseOrderLineCreate) (index : Nat) :
    PurchaseOrderLine where
  id := "pol_demo_" ++ call.token index
  purchaseOrderId := orderId
  lineNumber := index
  quantity := rounding.round line.quantity
  unitPrice := rounding.round line.unitPrice
  taxRate := rounding.round line.taxRate

def newOrderLines (body : PurchaseOrderCreate) : List PurchaseOrderLine :=
  (body.lines.zipIdx 1).map fun line ↦
    newOrderLine rounding call ("po_demo_" ++ call.token 0) line.1 line.2

def createPurchaseOrder (body : PurchaseOrderCreate) : Except ErpError Outcome := do
  ensure (!db.orders.any fun row ↦ row.tenantId == tenantId && row.poNumber == body.poNumber)
    (.conflict "Purchase order number already exists in this tenant.")
  let buyer ← counterpartyModel db tenantId body.buyerId
  let supplier ← counterpartyModel db tenantId body.supplierBusinessId
  ensure (buyer.role == .buyer && buyer.relationshipStatus == .approved)
    (.domain "The buyer relationship is not approved.")
  ensure (supplier.role == .supplier && supplier.relationshipStatus == .approved)
    (.domain "The supplier relationship is not approved.")
  let order := newOrder call tenantId body buyer supplier
  return (.order order, some
    { orders := [.insert order], orderLines := (newOrderLines rounding call body).map .insert })

def transitions : OrderStatus → OrderAction → Option OrderStatus
  | .draft, .submit => some .submitted
  | .submitted, .approve => some .approved
  | .submitted, .reject => some .rejected
  | .approved, .cancel => some .cancelled
  | .partiallyFulfilled, .cancel => some .cancelled
  | _, _ => none

def PurchaseOrder.move (order : PurchaseOrder) (status : OrderStatus) (actor : String) : PurchaseOrder :=
  { order with
    status := status
    approvedBy := if status = .approved then some actor else order.approvedBy
    version := order.version + 1 }

def transitionPurchaseOrder (orderId : String) (action : OrderAction) (expectedVersion : Int)
    (actor : String) : Except ErpError Outcome := do
  let order ← purchaseOrderModel db tenantId orderId
  expectVersion "purchase-order" order.version expectedVersion
  match transitions order.status action with
  | none => .error (.domain ("Cannot " ++ action.value ++ " a purchase order in " ++ order.status.value ++
      " state."))
  | some status =>
    return (.order (order.move status actor), some { orders := [.update (order.move status actor)] })

/-! ## Receipts -/

/-- What a quantity of a line is worth with its tax, in hundredths. -/
def lineValue (line : PurchaseOrderLine) (quantity : Rat) : Int :=
  halfEven (quantity / 1000 * line.unitPrice * (1 + line.taxRate / 10000))

def checkLine (orderLines : List PurchaseOrderLine) (requested : ReceiptLineCreate) :
    Except ErpError PurchaseOrderLine :=
  match orderLines.find? fun line ↦ line.id == requested.purchaseOrderLineId with
  | none => .error (.domain "A receipt line does not belong to the purchase order.")
  | some line => do
    ensure (requested.acceptedQuantity + requested.rejectedQuantity == requested.receivedQuantity)
      (.domain "Accepted and rejected quantity must equal received quantity.")
    ensure (decide (requested.receivedQuantity ≤ (line.quantity - line.receivedQuantity : Int)))
      (.domain "Receipt quantity exceeds the unreceived order quantity.")
    return line

/-- The requested lines with the lines of the order that they are about. -/
def checkLines (orderLines : List PurchaseOrderLine) :
    List ReceiptLineCreate → Except ErpError (List (ReceiptLineCreate × PurchaseOrderLine))
  | [] => .ok []
  | requested :: rest => do
    let line ← checkLine orderLines requested
    let others ← checkLines orderLines rest
    return (requested, line) :: others

def newReceipt (body : ReceiptCreate) (order : PurchaseOrder)
    (checked : List (ReceiptLineCreate × PurchaseOrderLine)) : GoodsServiceReceipt where
  id := "rcpt_demo_" ++ call.token 0
  tenantId := tenantId
  receiptNumber := body.receiptNumber
  purchaseOrderId := order.id
  status := .draft
  acceptedValue := Table.sum (fun line ↦ lineValue line.2 line.1.acceptedQuantity) checked
  rejectedValue := Table.sum (fun line ↦ lineValue line.2 line.1.rejectedQuantity) checked

def newReceiptLine (receiptId : String) (requested : ReceiptLineCreate) (line : PurchaseOrderLine)
    (index : Nat) : ReceiptLine where
  id := "rcl_demo_" ++ call.token index
  receiptId := receiptId
  purchaseOrderLineId := requested.purchaseOrderLineId
  receivedQuantity := rounding.round requested.receivedQuantity
  acceptedQuantity := rounding.round requested.acceptedQuantity
  rejectedQuantity := rounding.round requested.rejectedQuantity
  acceptedValue := lineValue line requested.acceptedQuantity

def newReceiptLines (checked : List (ReceiptLineCreate × PurchaseOrderLine)) : List ReceiptLine :=
  (checked.zipIdx 1).map fun line ↦
    newReceiptLine rounding call ("rcpt_demo_" ++ call.token 0) line.1.1 line.1.2 line.2

def createReceipt (body : ReceiptCreate) : Except ErpError Outcome := do
  let order ← purchaseOrderModel db tenantId body.purchaseOrderId
  ensure (order.status == .approved || order.status == .partiallyFulfilled)
    (.domain "Receipts require an approved, unfulfilled purchase order.")
  ensure (!db.receipts.any fun row ↦ row.tenantId == tenantId && row.receiptNumber == body.receiptNumber)
    (.conflict "Receipt number already exists in this tenant.")
  let checked ← checkLines (db.orderLines.filter fun line ↦ line.purchaseOrderId == order.id) body.lines
  let receipt := newReceipt call tenantId body order checked
  return (.receipt receipt, some
    { receipts := [.insert receipt], receiptLines := (newReceiptLines rounding call checked).map .insert })

/-! ## Matching -/

/-- The order that an invoice refers to, when it is found. -/
def findOrder (orders : List PurchaseOrder) (invoice : SupplierInvoice) : Option PurchaseOrder :=
  match invoice.purchaseOrderId with
  | none => none
  | some orderId =>
    if orderId.isEmpty then none
    else orders.find? fun row ↦ row.id == orderId && row.tenantId == tenantId

/-- The posted receipts of an order that a query sees. -/
def findReceipts (receipts : List GoodsServiceReceipt) : Option PurchaseOrder → List GoodsServiceReceipt
  | none => []
  | some order => receipts.filter fun row ↦
    row.tenantId == tenantId && row.purchaseOrderId == order.id && row.status == .posted

/-- What an invoice and its order disagree in. -/
def disagreements (invoice : SupplierInvoice) (order : Option PurchaseOrder)
    (receipts : List GoodsServiceReceipt) : List Discrepancy :=
  (match order with
    | none => [.purchaseOrderNotFound]
    | some order =>
      (if order.sellerGstin = invoice.sellerGstin then [] else [.sellerGstinMismatch]) ++
      (if order.buyerGstin = invoice.buyerGstin then [] else [.buyerGstinMismatch]) ++
      (if order.status = .cancelled ∨ order.status = .rejected then [.purchaseOrderNotActive] else []) ++
      (if receipts.isEmpty then [.postedReceiptNotFound] else [])) ++
  (if invoice.gstStatus = .registered then [] else [.gstInvoiceNotActive])

def identityErrors : List Discrepancy :=
  [.purchaseOrderNotFound, .sellerGstinMismatch, .buyerGstinMismatch, .purchaseOrderNotActive,
    .postedReceiptNotFound, .gstInvoiceNotActive]

/-- What matching finds for an invoice. -/
structure Finding where
  order : Option PurchaseOrder
  receipts : List GoodsServiceReceipt
  poValue : Int
  receiptValue : Int
  supported : Rat
  discrepancies : List Discrepancy
  status : MatchStatus

/-- The three-way match. `claimed` is the total of the invoice as the session holds it. -/
def matching (orders : List PurchaseOrder) (receipts : List GoodsServiceReceipt)
    (invoice : SupplierInvoice) (claimed : Rat) : Finding :=
  let order := findOrder tenantId orders invoice
  let posted := findReceipts tenantId receipts order
  let poValue := (order.map PurchaseOrder.total).getD 0
  let receiptValue := Table.sum GoodsServiceReceipt.acceptedValue posted
  let supported := min claimed (min (poValue : Rat) (receiptValue : Rat))
  let found := disagreements invoice order posted
  let mismatched := found.any identityErrors.contains
  let short := decide (supported < claimed)
  { order := order
    receipts := posted
    poValue := poValue
    receiptValue := receiptValue
    supported := supported
    discrepancies := if !mismatched && short then found ++ [.partialReceiptOrOrderValue] else found
    status := if mismatched then .mismatched else if short then .partialMatch else .matched }

def newMatch (token : String) (invoice : SupplierInvoice) (claimed : Rat) (finding : Finding) :
    InvoiceMatch where
  id := "match_demo_" ++ token
  tenantId := tenantId
  invoiceId := invoice.id
  purchaseOrderId := finding.order.map PurchaseOrder.id
  receiptId := finding.receipts.getLast?.map GoodsServiceReceipt.id
  poValue := finding.poValue
  receiptValue := finding.receiptValue
  invoiceValue := rounding.round claimed
  supportedValue := rounding.round finding.supported
  discrepancies := finding.discrepancies
  status := finding.status

def InvoiceMatch.rematch (value : InvoiceMatch) (claimed : Rat) (finding : Finding) : InvoiceMatch :=
  { value with
    purchaseOrderId := finding.order.map PurchaseOrder.id
    receiptId := finding.receipts.getLast?.map GoodsServiceReceipt.id
    poValue := finding.poValue
    receiptValue := finding.receiptValue
    invoiceValue := rounding.round claimed
    supportedValue := rounding.round finding.supported
    discrepancies := finding.discrepancies
    status := finding.status
    version := value.version + 1 }

def SupplierInvoice.setMatching (invoice : SupplierInvoice) (status : MatchStatus) : SupplierInvoice :=
  { invoice with matchingStatus := status }

def MatchStatus.isAccepted (status : MatchStatus) : Bool :=
  status == .accepted || status == .partiallyAccepted

/-- The match that a recalculation stores and the invoice with the status of it. -/
structure Recalculated where
  write : RowWrite InvoiceMatch
  invoice : SupplierInvoice

/-- `_recalculate_match`, over the orders and receipts that the session sees. -/
def recalculate (orders : List PurchaseOrder) (receipts : List GoodsServiceReceipt) (token : String)
    (invoice : SupplierInvoice) (claimed : Rat) : Except ErpError Recalculated :=
  let finding := matching tenantId orders receipts invoice claimed
  let matched := invoice.setMatching finding.status
  match db.invoiceMatches.find? fun row ↦ row.invoiceId == invoice.id with
  | none => .ok ⟨.insert (newMatch rounding tenantId token invoice claimed finding), matched⟩
  | some value => do
    ensure (!value.status.isAccepted)
      (.domain "An accepted match requires the reviewer correction workflow.")
    return ⟨.update (value.rematch rounding claimed finding), matched⟩

def acceptanceOf (matchId : String) : Option InvoiceAcceptance :=
  db.acceptances.find? fun row ↦ row.matchId == matchId

def recalculateMatch (invoiceId : String) : Except ErpError Outcome := do
  let invoice ← invoiceModel db tenantId invoiceId
  let done ← recalculate rounding db tenantId db.orders db.receipts (call.token 0) invoice
    invoice.claimedTotal
  return (.invoiceMatch done.write.row done.invoice (acceptanceOf db done.write.row.id), some
    { invoices := [.update done.invoice], invoiceMatches := [done.write] })

/-! ## Posting a receipt -/

def PurchaseOrderLine.receive (line : PurchaseOrderLine) (value : ReceiptLine) : PurchaseOrderLine :=
  { line with
    receivedQuantity := line.receivedQuantity + value.receivedQuantity
    acceptedQuantity := line.acceptedQuantity + value.acceptedQuantity }

/-- The order lines that the lines of a receipt change, one after the other. -/
def receiveLines (orderLines : List PurchaseOrderLine) :
    List ReceiptLine → Except ErpError (List (RowWrite PurchaseOrderLine))
  | [] => .ok []
  | value :: rest =>
    match orderLines.find? fun line ↦ line.id == value.purchaseOrderLineId with
    | none => .error (.domain "The purchase-order line no longer exists.")
    | some line => do
      let write := RowWrite.update (line.receive value)
      let others ← receiveLines (write.apply orderLineConstraints orderLines) rest
      return write :: others

def GoodsServiceReceipt.post (receipt : GoodsServiceReceipt) : GoodsServiceReceipt :=
  { receipt with status := .posted, version := receipt.version + 1 }

def PurchaseOrder.fulfil (order : PurchaseOrder) (orderLines : List PurchaseOrderLine) : PurchaseOrder :=
  { order with
    status := if (orderLines.filter fun line ↦ line.purchaseOrderId == order.id).all
        fun line ↦ decide (line.quantity ≤ line.acceptedQuantity) then .fulfilled
      else .partiallyFulfilled
    version := order.version + 1 }

/-- The matches of the invoices of an order are recalculated in turn, the first `added` new ones being
stored already. The session has no autoflush, so a query sees the posted receipt only after a new match
was written out. -/
def recalculateAll (orders : List PurchaseOrder) (receipt : GoodsServiceReceipt) (added : Nat) :
    List SupplierInvoice → Except ErpError (List Recalculated)
  | [] => .ok []
  | invoice :: rest => do
    let receipts := if added = 0 then db.receipts
      else RowWrite.applyAll receiptConstraints db.receipts [.update receipt]
    let done ← recalculate rounding db tenantId orders receipts (call.token added) invoice
      invoice.claimedTotal
    let others ← recalculateAll orders receipt
      (match done.write with | .insert _ => added + 1 | .update _ => added) rest
    return done :: others

/-- The invoices of a tenant that refer to an order. -/
def invoicesOf (orderId : String) : List SupplierInvoice :=
  db.invoices.filter fun row ↦ row.tenantId == tenantId && row.purchaseOrderId == some orderId

/-- The rows of a posted receipt. -/
def postingWrites (receipt : GoodsServiceReceipt) (order : PurchaseOrder)
    (lineWrites : List (RowWrite PurchaseOrderLine)) (recalculated : List Recalculated) : Writes where
  orders := [.update order]
  orderLines := lineWrites
  receipts := [.update receipt]
  invoices := recalculated.map fun done ↦ .update done.invoice
  invoiceMatches := recalculated.map Recalculated.write

def postReceipt (receiptId : String) (expectedVersion : Int) : Except ErpError Outcome := do
  let receipt ← receiptModel db tenantId receiptId
  expectVersion "receipt" receipt.version expectedVersion
  ensure (receipt.status == .draft) (.domain "Only a draft receipt can be posted.")
  let order ← purchaseOrderModel db tenantId receipt.purchaseOrderId
  let lineWrites ← receiveLines db.orderLines
    (db.receiptLines.filter fun row ↦ row.receiptId == receipt.id)
  let fulfilled := order.fulfil (RowWrite.applyAll orderLineConstraints db.orderLines lineWrites)
  let recalculated ← recalculateAll rounding db call tenantId
    (RowWrite.applyAll orderConstraints db.orders [.update fulfilled]) receipt.post 0
    (invoicesOf db tenantId order.id)
  return (.receipt receipt.post, some (postingWrites receipt.post fulfilled lineWrites recalculated))

/-! ## Acceptance and dispute -/

def acceptanceStatus (value : InvoiceMatch) (body : AcceptanceCreate) : MatchStatus :=
  if body.acceptedAmount = value.invoiceValue then .accepted else .partiallyAccepted

def InvoiceMatch.accept (value : InvoiceMatch) (body : AcceptanceCreate) : InvoiceMatch :=
  { value with
    status := acceptanceStatus value body
    reviewedBy := some body.actor
    version := value.version + 1 }

def newAcceptance (value : InvoiceMatch) (body : AcceptanceCreate) : InvoiceAcceptance where
  id := "accept_demo_" ++ call.token 0
  tenantId := tenantId
  matchId := value.id
  acceptedAmount := rounding.round body.acceptedAmount
  status := acceptanceStatus value body
  reason := body.reason
  actor := body.actor
  matchVersion := value.version + 1

/-- The rows of an accepted match; `invoice` is the one that the answer shows. -/
def acceptanceWrites (value : InvoiceMatch) (body : AcceptanceCreate) (invoice : SupplierInvoice) :
    Writes where
  invoices := [.update (invoice.setMatching (acceptanceStatus value body))]
  invoiceMatches := [.update (value.accept body)]
  acceptances := [.insert (newAcceptance rounding call tenantId value body)]

def acceptMatch (matchId : String) (expectedVersion : Int) (body : AcceptanceCreate) :
    Except ErpError Outcome := do
  let value ← matchModel db tenantId matchId
  expectVersion "match" value.version expectedVersion
  ensure (value.status == .matched || value.status == .partialMatch)
    (.domain "Only a matched or partial match can be accepted.")
  ensure (decide (body.acceptedAmount ≤ value.supportedValue))
    (.domain "Accepted amount exceeds the deterministically supported value.")
  ensure (acceptanceOf db value.id).isNone
    (.conflict "This invoice match already has an acceptance record.")
  let invoice ← invoiceModel db tenantId value.invoiceId
  return (.invoiceMatch (value.accept body) (invoice.setMatching (acceptanceStatus value body))
      (some (newAcceptance rounding call tenantId value body)),
    some (acceptanceWrites rounding call tenantId value body invoice))

def InvoiceMatch.dispute (value : InvoiceMatch) (body : DisputeCreate) : InvoiceMatch :=
  { value with
    status := .disputed
    reviewedBy := some body.actor
    discrepancies := value.discrepancies ++ [.dispute body.reason]
    version := value.version + 1 }

def disputeMatch (matchId : String) (expectedVersion : Int) (body : DisputeCreate) :
    Except ErpError Outcome := do
  let value ← matchModel db tenantId matchId
  expectVersion "match" value.version expectedVersion
  ensure (!value.status.isAccepted)
    (.domain "An accepted match requires a reviewer correction workflow.")
  let invoice ← invoiceModel db tenantId value.invoiceId
  return (.invoiceMatch (value.dispute body) (invoice.setMatching .disputed) none, some
    { invoices := [.update (invoice.setMatching .disputed)]
      invoiceMatches := [.update (value.dispute body)] })

/-! ## Events of the GST service -/

variable (event : GstEventEnvelope)

def newInbox (status : InboxStatus) (lastError : Option String) : InboxEvent where
  id := call.token 0
  sourceApplication := gstSource
  eventId := event.eventId
  eventType := event.eventType
  tenantId := event.tenantId
  status := status
  lastError := lastError

def SnapshotDocument.read : SnapshotDocument → Except ErpError (Option GstInvoiceSnapshot)
  | .absent => .ok none
  | .invalid => .error .validation
  | .valid snapshot => .ok (some snapshot)

def newInvoice (snapshot : GstInvoiceSnapshot) : SupplierInvoice where
  id := snapshot.id
  tenantId := snapshot.tenantId
  invoiceNumber := snapshot.invoiceNumber
  sellerGstin := snapshot.sellerGstin
  buyerGstin := snapshot.buyerGstin
  purchaseOrderId := snapshot.purchaseOrderId
  claimedTotal := rounding.round snapshot.totalInvoiceValue
  gstStatus := snapshot.status
  sourceVersion := snapshot.version

/-- The invoice as a snapshot shows it. -/
def SupplierInvoice.copy (invoice : SupplierInvoice) : Option GstInvoiceSnapshot → SupplierInvoice
  | none => invoice
  | some snapshot =>
    { invoice with
      invoiceNumber := snapshot.invoiceNumber
      sellerGstin := snapshot.sellerGstin
      buyerGstin := snapshot.buyerGstin
      purchaseOrderId := snapshot.purchaseOrderId
      claimedTotal := rounding.round snapshot.totalInvoiceValue }

def SupplierInvoice.follow (invoice : SupplierInvoice) (snapshot : Option GstInvoiceSnapshot) :
    SupplierInvoice :=
  { invoice.copy rounding snapshot with
    sourceVersion := event.aggregateVersion
    gstStatus := match event.eventType with | .cancelled => .cancelled | .registered => .registered }

/-- The total of the invoice as the session holds it. -/
def claimedBy (invoice : SupplierInvoice) : Option GstInvoiceSnapshot → Rat
  | none => invoice.claimedTotal
  | some snapshot => snapshot.totalInvoiceValue

/-- A match that is to be reviewed because of a discrepancy, which is noted `again` or once. -/
def InvoiceMatch.review (value : InvoiceMatch) (found : Discrepancy) (again : Bool) : InvoiceMatch :=
  { value with
    status := .reviewRequired
    discrepancies := if !again && value.discrepancies.any (fun other ↦ other.value == found.value) then
      value.discrepancies else value.discrepancies ++ [found]
    version := value.version + 1 }

/-- The rows of a processed event. -/
def eventWrites (invoice : RowWrite SupplierInvoice) (changed : List (RowWrite InvoiceMatch)) : Writes where
  invoices := [invoice]
  invoiceMatches := changed
  inboxEvents := [.insert (newInbox call event .processed none)]

/-- What an event makes of an invoice, which `store` inserts or updates, and of its match. -/
def followInvoice (invoice : SupplierInvoice) (store : SupplierInvoice → RowWrite SupplierInvoice)
    (snapshot : Option GstInvoiceSnapshot) : Except ErpError Outcome :=
  let followed := invoice.follow rounding event snapshot
  let answer := ErpAnswer.processed event.eventId followed.id followed.gstStatus
  let found := db.invoiceMatches.find? fun row ↦ row.invoiceId == followed.id
  match event.eventType, found with
  | .cancelled, none => .ok (answer, some (eventWrites call event (store followed) []))
  | .cancelled, some value =>
    .ok (answer, some (eventWrites call event (store (followed.setMatching .reviewRequired))
      [.update (value.review .cancelledAfterMatch true)]))
  | .registered, found => do
    match found.filter fun value ↦ value.status.isAccepted with
    | some value =>
      return (answer, some (eventWrites call event (store (followed.setMatching .reviewRequired))
        [.update (value.review .versionChangedAfterAcceptance false)]))
    | none =>
      let done ← recalculate rounding db event.tenantId db.orders db.receipts (call.token 1) followed
        (claimedBy invoice snapshot)
      return (answer, some (eventWrites call event (store done.invoice) [done.write]))

/-- The invoice that an event is about, when the tenant of the event has it. -/
def eventInvoice : Option SupplierInvoice :=
  (db.invoices.find? fun row ↦ row.id == event.aggregateId).filter fun row ↦
    row.tenantId == event.tenantId

def consumeGstEvent : Except ErpError Outcome :=
  if db.inboxEvents.any fun row ↦ row.sourceApplication == gstSource && row.eventId == event.eventId then
    .ok (.duplicateIgnored event.eventId, none)
  else do
    let snapshot ← event.invoiceSnapshot.read
    if snapshot.any fun value ↦ value.id != event.aggregateId then
      return (.snapshotAggregateMismatch event.eventId, some
        { inboxEvents := [.insert (newInbox call event .failed
            (some "GST invoice snapshot does not match the event aggregate."))] })
    else
      match eventInvoice db event, snapshot.filter fun value ↦ value.tenantId == event.tenantId with
      | none, none =>
        return (.detailFetchRequired event.eventId event.aggregateId, some
          { inboxEvents := [.insert (newInbox call event .failed
              (some ("Invoice detail is not present. Fetch the authoritative GST invoice snapshot " ++
                "through the configured service API before processing this event.")))] })
      | none, some detail =>
        followInvoice rounding db call event (newInvoice rounding detail) .insert snapshot
      | some invoice, _ =>
        if event.aggregateVersion ≤ invoice.sourceVersion then
          return (.staleVersionIgnored event.eventId, some
            { inboxEvents := [.insert (newInbox call event .processed none)] })
        else followInvoice rounding db call event invoice .update snapshot

end Operations

/-! ## The machine -/

section Machine

variable (rounding : Rounding)

def serve (db : ErpDb) (call : ErpCall) : Except ErpError Outcome :=
  match call.request with
  | .createPurchaseOrder tenantId body => createPurchaseOrder rounding db call tenantId body
  | .transitionPurchaseOrder tenantId orderId action expectedVersion actor =>
    transitionPurchaseOrder db tenantId orderId action expectedVersion actor
  | .createReceipt tenantId body => createReceipt rounding db call tenantId body
  | .postReceipt tenantId receiptId expectedVersion =>
    postReceipt rounding db call tenantId receiptId expectedVersion
  | .recalculateMatch tenantId invoiceId => recalculateMatch rounding db call tenantId invoiceId
  | .acceptMatch tenantId matchId expectedVersion body =>
    acceptMatch rounding db call tenantId matchId expectedVersion body
  | .disputeMatch tenantId matchId expectedVersion body =>
    disputeMatch db tenantId matchId expectedVersion body
  | .consumeGstEvent event => consumeGstEvent rounding db call event

/-- The sessions of the ERP. -/
def sessions : Service ErpDb ErpCall ErpAnswer ErpError Writes where
  serve := serve rounding
  refused := ErpCall.refused
  accepted := Writes.accepted
  apply := Writes.apply
  integrity := .integrity

/-- The ERP, one call after the other. -/
def erp : Machine ErpDb ErpCall (Except ErpError ErpAnswer) := (sessions rounding).machine

end Machine

end Xyena.Erp
