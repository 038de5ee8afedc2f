import Xyena.Bank.Models

/-!
# The tables of the delivery service

The rows of `demos/delivery-mcp/delivery_demo/models.py` with their primary keys
and unique columns, and the rows that one session writes. Amounts count
hundredths and quantities count thousandths. Columns that no operation reads,
such as the dates and the descriptions, are left out.
-/

namespace Xyena.Deliveries

open Xyena.Foundation
open Xyena.Bank (tenantClash tenantClash_symm)

/-! ## Rows -/

inductive DeliveryStatus where
  | created
  | readyToDispatch
  | dispatched
  | inTransit
  | outForDelivery
  | deliveryFailed
  | deliveredPendingAcceptance
  | partialPendingAcceptance
  | delivered
  | partiallyAccepted
  | rejected
  | cancelled
deriving DecidableEq, Repr

def DeliveryStatus.value : DeliveryStatus → String
  | .created => "CREATED"
  | .readyToDispatch => "READY_TO_DISPATCH"
  | .dispatched => "DISPATCHED"
  | .inTransit => "IN_TRANSIT"
  | .outForDelivery => "OUT_FOR_DELIVERY"
  | .deliveryFailed => "DELIVERY_FAILED"
  | .deliveredPendingAcceptance => "DELIVERED_PENDING_ACCEPTANCE"
  | .partialPendingAcceptance => "PARTIAL_PENDING_ACCEPTANCE"
  | .delivered => "DELIVERED"
  | .partiallyAccepted => "PARTIALLY_ACCEPTED"
  | .rejected => "REJECTED"
  | .cancelled => "CANCELLED"

/-- `TERMINAL_STATUSES`. -/
def terminalStatuses : List DeliveryStatus := [.delivered, .partiallyAccepted, .rejected, .cancelled]

/-- `PENDING_ACCEPTANCE_STATUSES`. -/
def pendingAcceptanceStatuses : List DeliveryStatus :=
  [.deliveredPendingAcceptance, .partialPendingAcceptance]

inductive ExceptionCode where
  | deliveryDelayed
  | shortDelivery
  | attemptFailed
  | cancelledByReviewer
  | sourcePoCancelled
  | sourceInvoiceCancelled
  | sourceIdentityChanged
deriving DecidableEq, Repr

def ExceptionCode.value : ExceptionCode → String
  | .deliveryDelayed => "DELIVERY_DELAYED"
  | .shortDelivery => "SHORT_DELIVERY"
  | .attemptFailed => "ATTEMPT_FAILED"
  | .cancelledByReviewer => "CANCELLED_BY_REVIEWER"
  | .sourcePoCancelled => "SOURCE_PO_CANCELLED"
  | .sourceInvoiceCancelled => "SOURCE_INVOICE_CANCELLED"
  | .sourceIdentityChanged => "SOURCE_IDENTITY_CHANGED"

structure Delivery where
  id : String
  tenantId : String
  deliveryNumber : String
  purchaseOrderId : String
  invoiceId : Option String
  invoiceNumber : Option String
  sellerBusinessId : String
  sellerGstin : String
  buyerId : String
  buyerGstin : String
  carrierId : Option String := none
  trackingNumber : Option String := none
  status : DeliveryStatus
  shipFrom : String
  shipTo : String
  dispatchDate : Option Int := none
  declaredValue : Int
  verifiedDeliveredValue : Int := 0
  exceptionCode : Option ExceptionCode := none
  version : Nat := 1
deriving DecidableEq, Repr

structure DeliveryItem where
  id : String
  deliveryId : String
  poLineId : String
  invoiceLineId : Option String := none
  sku : String
  orderedQuantity : Int
  dispatchedQuantity : Int := 0
  deliveredQuantity : Int := 0
  acceptedQuantity : Int := 0
  rejectedQuantity : Int := 0
  supportedUnitValue : Int
  rejectionReason : Option String := none
  version : Nat := 1
deriving DecidableEq, Repr

/-- An entry of the timeline. -/
structure DeliveryEvent where
  id : String
  deliveryId : String
  eventType : String
  actor : String
  priorStatus : Option DeliveryStatus
  newStatus : DeliveryStatus
  version : Nat
deriving DecidableEq, Repr

inductive VerificationStatus where
  | pendingVerification
  | verified
  | rejected
deriving DecidableEq, Repr

structure ProofOfDelivery where
  id : String
  deliveryId : String
  verificationStatus : VerificationStatus := .pendingVerification
  verifier : Option String := none
  replacementLink : Option String := none
  securityFlags : List String := []
deriving DecidableEq, Repr

inductive AcceptanceStatus where
  | accepted
  | partiallyAccepted
  | rejected
deriving DecidableEq, Repr

structure BuyerAcceptance where
  id : String
  deliveryId : String
  version : Nat
  buyerIdentity : String
  status : AcceptanceStatus
  acceptedValue : Int
  actor : String
deriving DecidableEq, Repr

inductive CorrectionType where
  | identity
  | reference
  | tracking
  | address
deriving DecidableEq, Repr

inductive CorrectionStatus where
  | pending
  | approved
  | rejected
deriving DecidableEq, Repr

structure DeliveryCorrection where
  id : String
  deliveryId : String
  aggregateVersion : Nat
  correctionType : CorrectionType
  proposedChanges : List (String × String)
  requester : String
  reviewer : Option String := none
  appliedVersion : Option Nat := none
  status : CorrectionStatus := .pending
deriving DecidableEq, Repr

structure AuditEvent where
  id : String
  tenantId : String
  aggregateId : String
  aggregateVersion : Nat
  eventType : String
  actorType : String
  actorId : String
  beforeHash : Option String
  afterHash : String
deriving DecidableEq, Repr

structure OutboxEvent where
  id : String
  tenantId : String
  aggregateId : String
  aggregateVersion : Nat
  eventType : String
  status : DeliveryStatus
deriving DecidableEq, Repr

inductive AggregateType where
  | purchaseOrder
  | invoice
  | business
deriving DecidableEq, Repr

inductive ExternalEventType where
  | purchaseOrderCancelled
  | invoiceCancelled
  | businessUpdated
deriving DecidableEq, Repr

def ExternalEventType.value : ExternalEventType → String
  | .purchaseOrderCancelled => "purchase_order.cancelled"
  | .invoiceCancelled => "invoice.cancelled"
  | .businessUpdated => "business.updated"

inductive InboxStatus where
  | processed
  | stale
deriving DecidableEq, Repr

structure InboxEvent where
  sourceApplication : String
  eventId : String
  tenantId : String
  eventType : ExternalEventType
  aggregateType : AggregateType
  aggregateId : String
  aggregateVersion : Int
  status : InboxStatus
deriving DecidableEq, Repr

structure ExternalAggregateVersion where
  id : String
  tenantId : String
  sourceApplication : String
  aggregateType : AggregateType
  aggregateId : String
  latestVersion : Int
deriving DecidableEq, Repr

/-- The tables of the delivery service. -/
structure DeliveryDb where
  deliveries : List Delivery := []
  items : List DeliveryItem := []
  events : List DeliveryEvent := []
  proofs : List ProofOfDelivery := []
  acceptances : List BuyerAcceptance := []
  corrections : List DeliveryCorrection := []
  audits : List AuditEvent := []
  outbox : List OutboxEvent := []
  inboxEvents : List InboxEvent := []
  aggregates : List ExternalAggregateVersion := []

/-! ## Keys and unique columns -/

/-- Two rows of one owner that agree in a column. -/
def ownedClash {Row Column : Type} [BEq Column] (owner : Row → String) (column : Row → Column)
    (first second : Row) : Bool :=
  owner first == owner second && column first == column second

theorem ownedClash_symm {Row Column : Type} [BEq Column] [LawfulBEq Column] (owner : Row → String)
    (column : Row → Column) (first second : Row) :
    ownedClash owner column first second = ownedClash owner column second first := by
  rw [ownedClash, ownedClash, Bool.beq_comm, Bool.beq_comm (a := column first)]

def trackingClash (first second : Delivery) : Bool :=
  first.trackingNumber.isSome && ownedClash Delivery.tenantId Delivery.trackingNumber first second

def deliveryConstraints : Constraints Delivery String where
  key := Delivery.id
  clash first second :=
    tenantClash Delivery.tenantId Delivery.deliveryNumber first second || trackingClash first second
  clash_symm first second := by
    rw [tenantClash_symm, trackingClash, trackingClash, ownedClash_symm]
    cases hfirst : first.trackingNumber <;> cases hsecond : second.trackingNumber <;>
      simp [ownedClash, hfirst, hsecond]

def itemConstraints : Constraints DeliveryItem String where
  key := DeliveryItem.id
  clash first second :=
    ownedClash DeliveryItem.deliveryId DeliveryItem.poLineId first second ||
      ownedClash DeliveryItem.deliveryId DeliveryItem.sku first second
  clash_symm first second := by
    rw [ownedClash_symm, ownedClash_symm DeliveryItem.deliveryId DeliveryItem.sku]

def eventConstraints : Constraints DeliveryEvent String where
  key := DeliveryEvent.id
  clash := ownedClash DeliveryEvent.deliveryId DeliveryEvent.version
  clash_symm := ownedClash_symm _ _

def proofConstraints : Constraints ProofOfDelivery String where
  key := ProofOfDelivery.id

def acceptanceConstraints : Constraints BuyerAcceptance String where
  key := BuyerAcceptance.id
  clash := ownedClash BuyerAcceptance.deliveryId BuyerAcceptance.version
  clash_symm := ownedClash_symm _ _

def correctionConstraints : Constraints DeliveryCorrection String where
  key := DeliveryCorrection.id

def auditConstraints : Constraints AuditEvent String where
  key := AuditEvent.id

def outboxConstraints : Constraints OutboxEvent String where
  key := OutboxEvent.id

def inboxConstraints : Constraints InboxEvent (String × String) where
  key row := (row.sourceApplication, row.eventId)

def aggregateConstraints : Constraints ExternalAggregateVersion String where
  key := ExternalAggregateVersion.id
  clash first second :=
    first.tenantId == second.tenantId && first.sourceApplication == second.sourceApplication &&
      first.aggregateType == second.aggregateType && first.aggregateId == second.aggregateId
  clash_symm first second := by
    rw [Bool.beq_comm, Bool.beq_comm (a := first.sourceApplication), Bool.beq_comm (a := first.aggregateType),
      Bool.beq_comm (a := first.aggregateId)]

/-! ## What a session writes -/

/-- The rows that a session has added or changed. -/
structure Writes where
  deliveries : List (RowWrite Delivery) := []
  items : List (RowWrite DeliveryItem) := []
  events : List (RowWrite DeliveryEvent) := []
  proofs : List (RowWrite ProofOfDelivery) := []
  acceptances : List (RowWrite BuyerAcceptance) := []
  corrections : List (RowWrite DeliveryCorrection) := []
  audits : List (RowWrite AuditEvent) := []
  outbox : List (RowWrite OutboxEvent) := []
  inboxEvents : List (RowWrite InboxEvent) := []
  aggregates : List (RowWrite ExternalAggregateVersion) := []

def Writes.apply (writes : Writes) (db : DeliveryDb) : DeliveryDb where
  deliveries := RowWrite.applyAll deliveryConstraints db.deliveries writes.deliveries
  items := RowWrite.applyAll itemConstraints db.items writes.items
  events := RowWrite.applyAll eventConstraints db.events writes.events
  proofs := RowWrite.applyAll proofConstraints db.proofs writes.proofs
  acceptances := RowWrite.applyAll acceptanceConstraints db.acceptances writes.acceptances
  corrections := RowWrite.applyAll correctionConstraints db.corrections writes.corrections
  audits := RowWrite.applyAll auditConstraints db.audits writes.audits
  outbox := RowWrite.applyAll outboxConstraints db.outbox writes.outbox
  inboxEvents := RowWrite.applyAll inboxConstraints db.inboxEvents writes.inboxEvents
  aggregates := RowWrite.applyAll aggregateConstraints db.aggregates writes.aggregates

/-- Whether the keys and unique columns of the tables admit the rows. -/
structure Writes.Accepted (writes : Writes) (db : DeliveryDb) : Prop where
  deliveries : RowWrite.acceptedAll deliveryConstraints db.deliveries writes.deliveries = true
  items : RowWrite.acceptedAll itemConstraints db.items writes.items = true
  events : RowWrite.acceptedAll eventConstraints db.events writes.events = true
  proofs : RowWrite.acceptedAll proofConstraints db.proofs writes.proofs = true
  acceptances : RowWrite.acceptedAll acceptanceConstraints db.acceptances writes.acceptances = true
  corrections : RowWrite.acceptedAll correctionConstraints db.corrections writes.corrections = true
  audits : RowWrite.acceptedAll auditConstraints db.audits writes.audits = true
  outbox : RowWrite.acceptedAll outboxConstraints db.outbox writes.outbox = true
  inboxEvents : RowWrite.acceptedAll inboxConstraints db.inboxEvents writes.inboxEvents = true
  aggregates : RowWrite.acceptedAll aggregateConstraints db.aggregates writes.aggregates = true

def Writes.accepted (writes : Writes) (db : DeliveryDb) : Bool :=
  RowWrite.acceptedAll deliveryConstraints db.deliveries writes.deliveries &&
  RowWrite.acceptedAll itemConstraints db.items writes.items &&
  RowWrite.acceptedAll eventConstraints db.events writes.events &&
  RowWrite.acceptedAll proofConstraints db.proofs writes.proofs &&
  RowWrite.acceptedAll acceptanceConstraints db.acceptances writes.acceptances &&
  RowWrite.acceptedAll correctionConstraints db.corrections writes.corrections &&
  RowWrite.acceptedAll auditConstraints db.audits writes.audits &&
  RowWrite.acceptedAll outboxConstraints db.outbox writes.outbox &&
  RowWrite.acceptedAll inboxConstraints db.inboxEvents writes.inboxEvents &&
  RowWrite.acceptedAll aggregateConstraints db.aggregates writes.aggregates

theorem Writes.accepted_iff {writes : Writes} {db : DeliveryDb} :
    writes.accepted db = true ↔ writes.Accepted db := by
  simp only [Writes.accepted, Bool.and_eq_true]
  constructor
  · rintro ⟨⟨⟨⟨⟨⟨⟨⟨⟨h₁, h₂⟩, h₃⟩, h₄⟩, h₅⟩, h₆⟩, h₇⟩, h₈⟩, h₉⟩, h₁₀⟩
    exact ⟨h₁, h₂, h₃, h₄, h₅, h₆, h₇, h₈, h₉, h₁₀⟩
  · rintro ⟨h₁, h₂, h₃, h₄, h₅, h₆, h₇, h₈, h₉, h₁₀⟩
    exact ⟨⟨⟨⟨⟨⟨⟨⟨⟨h₁, h₂⟩, h₃⟩, h₄⟩, h₅⟩, h₆⟩, h₇⟩, h₈⟩, h₉⟩, h₁₀⟩

/-- The declared keys and unique columns hold in the tables that operations look rows up in. -/
structure DeliveryDb.WellKeyed (db : DeliveryDb) : Prop where
  deliveries : deliveryConstraints.Meets db.deliveries
  items : itemConstraints.Meets db.items
  proofs : proofConstraints.Meets db.proofs
  acceptances : acceptanceConstraints.Meets db.acceptances

/-- A commit keeps the keys and unique columns. -/
theorem DeliveryDb.WellKeyed.apply {db : DeliveryDb} {writes : Writes} (h : db.WellKeyed)
    (haccepted : writes.Accepted db) : (writes.apply db).WellKeyed where
  deliveries := RowWrite.meets_applyAll h.deliveries haccepted.deliveries
  items := RowWrite.meets_applyAll h.items haccepted.items
  proofs := RowWrite.meets_applyAll h.proofs haccepted.proofs
  acceptances := RowWrite.meets_applyAll h.acceptances haccepted.acceptances

end Xyena.Deliveries
