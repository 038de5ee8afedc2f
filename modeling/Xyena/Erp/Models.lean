import Xyena.Bank.Models

/-!
# The tables of the buyer's ERP

The rows of `demos/buyer-erp/erp_demo/models.py` with their primary keys and
unique columns, and the rows that one session writes. Amounts count hundredths,
quantities count thousandths, and tax rates count hundredths of a percent.
Columns that no operation reads, such as the text of a line, a date or a hash,
are left out, and so are the audit and outbox rows.
-/

namespace Xyena.Erp

open Xyena.Foundation
open Xyena.Bank (tenantClash tenantClash_symm)

/-! ## Rows -/

inductive Role where
  | buyer
  | supplier
deriving DecidableEq, Repr

inductive RelationshipStatus where
  | approved
  | reviewRequired
deriving DecidableEq, Repr

structure Counterparty where
  id : String
  tenantId : String
  businessId : String
  role : Role
  gstin : String
  relationshipStatus : RelationshipStatus
deriving DecidableEq, Repr

inductive OrderStatus where
  | draft
  | submitted
  | approved
  | rejected
  | cancelled
  | partiallyFulfilled
  | fulfilled
deriving DecidableEq, Repr

def OrderStatus.value : OrderStatus → String
  | .draft => "DRAFT"
  | .submitted => "SUBMITTED"
  | .approved => "APPROVED"
  | .rejected => "REJECTED"
  | .cancelled => "CANCELLED"
  | .partiallyFulfilled => "PARTIALLY_FULFILLED"
  | .fulfilled => "FULFILLED"

structure PurchaseOrder where
  id : String
  tenantId : String
  poNumber : String
  buyerId : String
  supplierBusinessId : String
  buyerGstin : String
  sellerGstin : String
  subtotal : Int
  tax : Int
  total : Int
  status : OrderStatus
  approvedBy : Option String := none
  version : Int := 1
deriving DecidableEq, Repr

structure PurchaseOrderLine where
  id : String
  purchaseOrderId : String
  lineNumber : Int
  quantity : Int
  unitPrice : Int
  taxRate : Int
  receivedQuantity : Int := 0
  acceptedQuantity : Int := 0
deriving DecidableEq, Repr

inductive ReceiptStatus where
  | draft
  | posted
deriving DecidableEq, Repr

structure GoodsServiceReceipt where
  id : String
  tenantId : String
  receiptNumber : String
  purchaseOrderId : String
  status : ReceiptStatus
  acceptedValue : Int
  rejectedValue : Int
  version : Int := 1
deriving DecidableEq, Repr

structure ReceiptLine where
  id : String
  receiptId : String
  purchaseOrderLineId : String
  receivedQuantity : Int
  acceptedQuantity : Int
  rejectedQuantity : Int
  acceptedValue : Int
deriving DecidableEq, Repr

inductive GstStatus where
  | registered
  | cancelled
deriving DecidableEq, Repr

/-- The status of a match, and of the matching of an invoice. -/
inductive MatchStatus where
  | pending
  | matched
  | partialMatch
  | mismatched
  | disputed
  | accepted
  | partiallyAccepted
  | reviewRequired
deriving DecidableEq, Repr

structure SupplierInvoice where
  id : String
  tenantId : String
  invoiceNumber : String
  sellerGstin : String
  buyerGstin : String
  purchaseOrderId : Option String
  claimedTotal : Int
  gstStatus : GstStatus
  sourceVersion : Int
  matchingStatus : MatchStatus := .pending
deriving DecidableEq, Repr

/-- What a match notes. `noted` is any other text. -/
inductive Discrepancy where
  | purchaseOrderNotFound
  | sellerGstinMismatch
  | buyerGstinMismatch
  | purchaseOrderNotActive
  | postedReceiptNotFound
  | gstInvoiceNotActive
  | partialReceiptOrOrderValue
  | cancelledAfterMatch
  | versionChangedAfterAcceptance
  | dispute (reason : String)
  | noted (text : String)
deriving DecidableEq, Repr

def Discrepancy.value : Discrepancy → String
  | .purchaseOrderNotFound => "PURCHASE_ORDER_NOT_FOUND"
  | .sellerGstinMismatch => "SELLER_GSTIN_MISMATCH"
  | .buyerGstinMismatch => "BUYER_GSTIN_MISMATCH"
  | .purchaseOrderNotActive => "PURCHASE_ORDER_NOT_ACTIVE"
  | .postedReceiptNotFound => "POSTED_RECEIPT_NOT_FOUND"
  | .gstInvoiceNotActive => "GST_INVOICE_NOT_ACTIVE"
  | .partialReceiptOrOrderValue => "PARTIAL_RECEIPT_OR_ORDER_VALUE"
  | .cancelledAfterMatch => "GST_INVOICE_CANCELLED_AFTER_MATCH"
  | .versionChangedAfterAcceptance => "GST_INVOICE_VERSION_CHANGED_AFTER_ACCEPTANCE"
  | .dispute reason => "DISPUTE: " ++ reason
  | .noted text => text

structure InvoiceMatch where
  id : String
  tenantId : String
  invoiceId : String
  purchaseOrderId : Option String
  receiptId : Option String
  poValue : Int
  receiptValue : Int
  invoiceValue : Int
  supportedValue : Int
  discrepancies : List Discrepancy
  status : MatchStatus
  reviewedBy : Option String := none
  version : Int := 1
deriving DecidableEq, Repr

structure InvoiceAcceptance where
  id : String
  tenantId : String
  matchId : String
  acceptedAmount : Int
  status : MatchStatus
  reason : String
  actor : String
  matchVersion : Int
deriving DecidableEq, Repr

inductive EventType where
  | registered
  | cancelled
deriving DecidableEq, Repr

inductive InboxStatus where
  | processed
  | failed
deriving DecidableEq, Repr

/-- A consumed event, as it is committed. -/
structure InboxEvent where
  id : String
  sourceApplication : String
  eventId : String
  eventType : EventType
  tenantId : String
  status : InboxStatus
  lastError : Option String
deriving DecidableEq, Repr

/-- The tables of the ERP that its operations read. -/
structure ErpDb where
  counterparties : List Counterparty := []
  orders : List PurchaseOrder := []
  orderLines : List PurchaseOrderLine := []
  receipts : List GoodsServiceReceipt := []
  receiptLines : List ReceiptLine := []
  invoices : List SupplierInvoice := []
  invoiceMatches : List InvoiceMatch := []
  acceptances : List InvoiceAcceptance := []
  inboxEvents : List InboxEvent := []

/-! ## Keys and unique columns -/

def orderConstraints : Constraints PurchaseOrder String where
  key := PurchaseOrder.id
  clash := tenantClash PurchaseOrder.tenantId PurchaseOrder.poNumber
  clash_symm := tenantClash_symm _ _

def orderLineConstraints : Constraints PurchaseOrderLine String where
  key := PurchaseOrderLine.id
  clash first second :=
    first.purchaseOrderId == second.purchaseOrderId && first.lineNumber == second.lineNumber
  clash_symm first second := by
    rw [Bool.beq_comm, Bool.beq_comm (a := first.lineNumber)]

def receiptConstraints : Constraints GoodsServiceReceipt String where
  key := GoodsServiceReceipt.id
  clash := tenantClash GoodsServiceReceipt.tenantId GoodsServiceReceipt.receiptNumber
  clash_symm := tenantClash_symm _ _

def receiptLineConstraints : Constraints ReceiptLine String where
  key := ReceiptLine.id

def invoiceConstraints : Constraints SupplierInvoice String where
  key := SupplierInvoice.id

def matchConstraints : Constraints InvoiceMatch String where
  key := InvoiceMatch.id
  clash first second := first.invoiceId == second.invoiceId
  clash_symm _ _ := Bool.beq_comm

def acceptanceConstraints : Constraints InvoiceAcceptance String where
  key := InvoiceAcceptance.id
  clash first second := first.matchId == second.matchId
  clash_symm _ _ := Bool.beq_comm

def inboxConstraints : Constraints InboxEvent String where
  key := InboxEvent.id
  clash first second :=
    first.sourceApplication == second.sourceApplication && first.eventId == second.eventId
  clash_symm first second := by
    rw [Bool.beq_comm, Bool.beq_comm (a := first.eventId)]

/-! ## What a session writes -/

/-- The rows that a session has added or changed. -/
structure Writes where
  orders : List (RowWrite PurchaseOrder) := []
  orderLines : List (RowWrite PurchaseOrderLine) := []
  receipts : List (RowWrite GoodsServiceReceipt) := []
  receiptLines : List (RowWrite ReceiptLine) := []
  invoices : List (RowWrite SupplierInvoice) := []
  invoiceMatches : List (RowWrite InvoiceMatch) := []
  acceptances : List (RowWrite InvoiceAcceptance) := []
  inboxEvents : List (RowWrite InboxEvent) := []

def Writes.apply (writes : Writes) (db : ErpDb) : ErpDb where
  counterparties := db.counterparties
  orders := RowWrite.applyAll orderConstraints db.orders writes.orders
  orderLines := RowWrite.applyAll orderLineConstraints db.orderLines writes.orderLines
  receipts := RowWrite.applyAll receiptConstraints db.receipts writes.receipts
  receiptLines := RowWrite.applyAll receiptLineConstraints db.receiptLines writes.receiptLines
  invoices := RowWrite.applyAll invoiceConstraints db.invoices writes.invoices
  invoiceMatches := RowWrite.applyAll matchConstraints db.invoiceMatches writes.invoiceMatches
  acceptances := RowWrite.applyAll acceptanceConstraints db.acceptances writes.acceptances
  inboxEvents := RowWrite.applyAll inboxConstraints db.inboxEvents writes.inboxEvents

/-- Whether the keys and unique columns of the tables admit the rows. -/
structure Writes.Accepted (writes : Writes) (db : ErpDb) : Prop where
  orders : RowWrite.acceptedAll orderConstraints db.orders writes.orders = true
  orderLines : RowWrite.acceptedAll orderLineConstraints db.orderLines writes.orderLines = true
  receipts : RowWrite.acceptedAll receiptConstraints db.receipts writes.receipts = true
  receiptLines :
    RowWrite.acceptedAll receiptLineConstraints db.receiptLines writes.receiptLines = true
  invoices : RowWrite.acceptedAll invoiceConstraints db.invoices writes.invoices = true
  invoiceMatches : RowWrite.acceptedAll matchConstraints db.invoiceMatches writes.invoiceMatches = true
  acceptances : RowWrite.acceptedAll acceptanceConstraints db.acceptances writes.acceptances = true
  inboxEvents : RowWrite.acceptedAll inboxConstraints db.inboxEvents writes.inboxEvents = true

def Writes.accepted (writes : Writes) (db : ErpDb) : Bool :=
  RowWrite.acceptedAll orderConstraints db.orders writes.orders &&
  RowWrite.acceptedAll orderLineConstraints db.orderLines writes.orderLines &&
  RowWrite.acceptedAll receiptConstraints db.receipts writes.receipts &&
  RowWrite.acceptedAll receiptLineConstraints db.receiptLines writes.receiptLines &&
  RowWrite.acceptedAll invoiceConstraints db.invoices writes.invoices &&
  RowWrite.acceptedAll matchConstraints db.invoiceMatches writes.invoiceMatches &&
  RowWrite.acceptedAll acceptanceConstraints db.acceptances writes.acceptances &&
  RowWrite.acceptedAll inboxConstraints db.inboxEvents writes.inboxEvents

theorem Writes.accepted_iff {writes : Writes} {db : ErpDb} :
    writes.accepted db = true ↔ writes.Accepted db := by
  simp only [Writes.accepted, Bool.and_eq_true]
  constructor
  · rintro ⟨⟨⟨⟨⟨⟨⟨h₁, h₂⟩, h₃⟩, h₄⟩, h₅⟩, h₆⟩, h₇⟩, h₈⟩
    exact ⟨h₁, h₂, h₃, h₄, h₅, h₆, h₇, h₈⟩
  · rintro ⟨h₁, h₂, h₃, h₄, h₅, h₆, h₇, h₈⟩
    exact ⟨⟨⟨⟨⟨⟨⟨h₁, h₂⟩, h₃⟩, h₄⟩, h₅⟩, h₆⟩, h₇⟩, h₈⟩

/-! ## Tables that meet their constraints -/

/-- The declared keys and unique columns hold in all tables that the ERP writes. -/
structure ErpDb.WellKeyed (db : ErpDb) : Prop where
  orders : orderConstraints.Meets db.orders
  orderLines : orderLineConstraints.Meets db.orderLines
  receipts : receiptConstraints.Meets db.receipts
  receiptLines : receiptLineConstraints.Meets db.receiptLines
  invoices : invoiceConstraints.Meets db.invoices
  invoiceMatches : matchConstraints.Meets db.invoiceMatches
  acceptances : acceptanceConstraints.Meets db.acceptances
  inboxEvents : inboxConstraints.Meets db.inboxEvents

/-- A commit keeps the keys and unique columns. -/
theorem ErpDb.WellKeyed.apply {db : ErpDb} {writes : Writes} (h : db.WellKeyed)
    (haccepted : writes.Accepted db) : (writes.apply db).WellKeyed where
  orders := RowWrite.meets_applyAll h.orders haccepted.orders
  orderLines := RowWrite.meets_applyAll h.orderLines haccepted.orderLines
  receipts := RowWrite.meets_applyAll h.receipts haccepted.receipts
  receiptLines := RowWrite.meets_applyAll h.receiptLines haccepted.receiptLines
  invoices := RowWrite.meets_applyAll h.invoices haccepted.invoices
  invoiceMatches := RowWrite.meets_applyAll h.invoiceMatches haccepted.invoiceMatches
  acceptances := RowWrite.meets_applyAll h.acceptances haccepted.acceptances
  inboxEvents := RowWrite.meets_applyAll h.inboxEvents haccepted.inboxEvents

end Xyena.Erp
