import Xyena.Contracts.Values
import Xyena.Deliveries.Models
import Xyena.Foundation.Decimal
import Xyena.Foundation.Session

/-!
# The operations of the delivery service

The methods of `DeliveryDemoService` in `demos/delivery-mcp/delivery_demo/service.py`
with the request bodies of `schemas.py`, check by check and with the same texts.
A quantity has at most 18 digits, three of them decimals, and is counted in
thousandths; an amount has two decimals and is counted in hundredths. A total
that equals a declared value has at most 18 digits, so that the arithmetic with
28 digits is exact. What a call draws and its readings of the clock are inputs,
and each call runs in a transaction of its own. The patterns of text fields are
left out, and so are the queries that only show rows.
-/

namespace Xyena.Deliveries

open Xyena.Foundation Xyena.Foundation.Session Xyena.Contracts

/-! ## Requests -/

inductive Role where
  | demoViewer
  | sellerOperator
  | carrierOperator
  | buyerReceiver
  | deliveryReviewer
  | demoAdmin
  | service
deriving DecidableEq, Repr

structure ActorScope where
  tenantId : String
  actorId : String
  role : Role

/-- What the quantities and unit values of some rows are worth, rounded to hundredths. -/
def worth {Row : Type} (quantity unitValue : Row → Int) (rows : List Row) : Int :=
  halfEven ((Table.sum (fun row ↦ quantity row * unitValue row) rows : Int) / 1000)

structure DeliveryItemCreate where
  poLineId : String
  invoiceLineId : Option String := none
  sku : String
  orderedQuantity : Int
  supportedUnitValue : Int
  orderedQuantity_digits : 0 < orderedQuantity ∧ orderedQuantity < 10 ^ 18
  supportedUnitValue_digits : 0 ≤ supportedUnitValue ∧ supportedUnitValue < 10 ^ 18

structure DeliveryCreate where
  deliveryNumber : String
  purchaseOrderId : String
  invoiceId : Option String := none
  invoiceNumber : Option String := none
  sellerBusinessId : String
  sellerGstin : String
  buyerId : String
  buyerGstin : String
  shipFrom : String
  shipTo : String
  declaredValue : Int
  items : List DeliveryItemCreate
  declaredValue_digits : 0 ≤ declaredValue ∧ declaredValue < 10 ^ 18
  items_given : 0 < items.length ∧ items.length ≤ 250
  skus_distinct : (items.map DeliveryItemCreate.sku).Nodup
  poLines_distinct : (items.map DeliveryItemCreate.poLineId).Nodup
  declaredValue_total :
    worth DeliveryItemCreate.orderedQuantity DeliveryItemCreate.supportedUnitValue items = declaredValue

/-- A dictionary from SKUs to quantities that are at least `least`. -/
structure Quantities (least : Int) where
  entries : List (String × Int)
  skus_distinct : (entries.map Prod.fst).Nodup
  digits : ∀ entry ∈ entries, least ≤ entry.2 ∧ entry.2 < 10 ^ 18

structure DispatchRequest where
  carrierId : String
  itemQuantities : Quantities 1

inductive TransitEventType where
  | inTransit
  | outForDelivery
  | deliveryDelayed
  | deliveryResumed
deriving DecidableEq, Repr

def TransitEventType.value : TransitEventType → String
  | .inTransit => "IN_TRANSIT"
  | .outForDelivery => "OUT_FOR_DELIVERY"
  | .deliveryDelayed => "DELIVERY_DELAYED"
  | .deliveryResumed => "DELIVERY_RESUMED"

structure TransitEventRequest where
  eventType : TransitEventType
  occurredAt : Option Time := none

structure DeliveryAttemptRequest where
  success : Bool
  itemQuantities : Quantities 0
  failureReason : Option String := none
  success_quantities : success = true → itemQuantities.entries ≠ []
  failure_reason : success = false → truthy failureReason = true

structure ProofCreate where
  securityFlags : List String := []

structure ItemAcceptance where
  sku : String
  acceptedQuantity : Int
  rejectedQuantity : Int
  reason : Option String := none
  acceptedQuantity_digits : 0 ≤ acceptedQuantity ∧ acceptedQuantity < 10 ^ 18
  rejectedQuantity_digits : 0 ≤ rejectedQuantity ∧ rejectedQuantity < 10 ^ 18

structure AcceptanceCreate where
  items : List ItemAcceptance
  items_given : 0 < items.length

structure CorrectionCreate where
  correctionType : CorrectionType
  proposedChanges : List (String × String)
  fields_distinct : (proposedChanges.map Prod.fst).Nodup

structure ExternalEventEnvelope where
  eventId : String
  eventType : ExternalEventType
  sourceApplication : String
  tenantId : String
  aggregateType : AggregateType
  aggregateId : String
  aggregateVersion : Int
  aggregateVersion_pos : 0 < aggregateVersion

inductive Request where
  | createDelivery (actor : ActorScope) (body : DeliveryCreate)
  | markReady (actor : ActorScope) (deliveryId : String) (expectedVersion : Int)
  | dispatchDelivery (actor : ActorScope) (deliveryId : String) (expectedVersion : Int)
      (body : DispatchRequest)
  | recordTransitEvent (actor : ActorScope) (deliveryId : String) (expectedVersion : Int)
      (body : TransitEventRequest)
  | recordDeliveryAttempt (actor : ActorScope) (deliveryId : String) (expectedVersion : Int)
      (body : DeliveryAttemptRequest)
  | capturePod (actor : ActorScope) (deliveryId : String) (expectedVersion : Int) (body : ProofCreate)
  | verifyPod (actor : ActorScope) (deliveryId proofId : String) (expectedVersion : Int) (verified : Bool)
  | recordBuyerAcceptance (actor : ActorScope) (deliveryId : String) (expectedVersion : Int)
      (body : AcceptanceCreate)
  | cancelDelivery (actor : ActorScope) (deliveryId : String) (expectedVersion : Int)
  | proposeCorrection (actor : ActorScope) (deliveryId : String) (expectedVersion : Int)
      (body : CorrectionCreate)
  | reviewCorrection (actor : ActorScope) (correctionId : String) (expectedVersion : Int) (approve : Bool)
  | consumeExternalEvent (envelope : ExternalEventEnvelope)

/-- One call of the service: its request, the identifiers that it draws for its own rows and for the rows
of the trail, the letters of tracking numbers, and its readings of the clock. `refused` says whether the
database refuses the rows of the call for a reason outside its keys. -/
structure DeliveryCall where
  request : Request
  uuid : Nat → String
  trailId : Nat → String
  letters : Nat → String
  clock : Nat → Time
  refused : Bool := false

inductive DeliveryError where
  | notFound (text : String)
  | conflict (text : String)
  | domain (text : String)
  | missingKey (key : String)
  | invalidJson
  | integrity
deriving DecidableEq, Repr

inductive EventOutcome where
  | duplicate
  | stale
  | processed
deriving DecidableEq, Repr

inductive DeliveryAnswer where
  | delivery (row : Delivery)
  | proof (row : ProofOfDelivery)
  | correction (row : DeliveryCorrection)
  | event (status : EventOutcome)

/-- An answer with the rows that the session commits; a session without rows commits nothing. -/
abbrev Outcome := DeliveryAnswer × Option Writes

/-- SHA-256, and whether `json.loads` reads a text. -/
structure DeliveryPlatform where
  sha256 : String → String
  loads : String → Bool

/-! ## The trail of a delivery -/

/-- The fields of a delivery that the audit hashes. `value` is the text of the delivered value as the
session holds it: an amount that was read from its column has two decimals. -/
def snapshot (delivery : Delivery) (value : String) : Json :=
  .obj
    [("id", .str delivery.id),
      ("tenant_id", .str delivery.tenantId),
      ("delivery_number", .str delivery.deliveryNumber),
      ("purchase_order_id", .str delivery.purchaseOrderId),
      ("invoice_id", .ofOption delivery.invoiceId),
      ("status", .str delivery.status.value),
      ("carrier_id", .ofOption delivery.carrierId),
      ("tracking_number", .ofOption delivery.trackingNumber),
      ("verified_delivered_value", .str value),
      ("exception_code", .ofOption (delivery.exceptionCode.map ExceptionCode.value)),
      ("version", .int delivery.version)]

/-- The snapshot of a delivery whose value was read from its column. -/
def storedSnapshot (delivery : Delivery) : Json :=
  snapshot delivery (centsText delivery.verifiedDeliveredValue)

def snapshotHash (platform : DeliveryPlatform) (value : Json) : String := platform.sha256 (value.dumps true)

def timeline (id : String) (delivery : Delivery) (eventType : String) (actor : ActorScope)
    (priorStatus : Option DeliveryStatus) : DeliveryEvent where
  id := id
  deliveryId := delivery.id
  eventType := eventType
  actor := actor.actorId
  priorStatus := priorStatus
  newStatus := delivery.status
  version := delivery.version

/-- The audit event of `_record`. -/
def recordAudit (platform : DeliveryPlatform) (id : String) (delivery : Delivery) (eventType : String)
    (actor : ActorScope) (before : Option Json) (after : Json) : AuditEvent where
  id := id
  tenantId := delivery.tenantId
  aggregateId := delivery.id
  aggregateVersion := delivery.version
  eventType := eventType
  actorType := if actor.role = .service then "SERVICE" else "USER"
  actorId := actor.actorId
  beforeHash := before.map (snapshotHash platform)
  afterHash := snapshotHash platform after

/-- The outbox event of `_record`. -/
def recordOutbox (id : String) (delivery : Delivery) (eventType : String) : OutboxEvent where
  id := id
  tenantId := delivery.tenantId
  aggregateId := delivery.id
  aggregateVersion := delivery.version
  eventType := eventType
  status := delivery.status

/-- A stored delivery, what a session makes of it, and the name of the event. -/
structure Change where
  old : Delivery
  new : Delivery
  eventType : String

section Trail

variable (platform : DeliveryPlatform) (call : DeliveryCall) (actor : ActorScope)

def changeTimeline (change : Change × Nat) : DeliveryEvent :=
  timeline (call.trailId (3 * change.2)) change.1.new change.1.eventType actor (some change.1.old.status)

def changeAudit (change : Change × Nat) : AuditEvent :=
  recordAudit platform (call.trailId (3 * change.2 + 1)) change.1.new change.1.eventType actor
    (some (storedSnapshot change.1.old)) (storedSnapshot change.1.new)

def changeOutbox (change : Change × Nat) : OutboxEvent :=
  recordOutbox (call.trailId (3 * change.2 + 2)) change.1.new change.1.eventType

/-- The rows of changed deliveries with their timeline, audit and outbox events. -/
def recordWrites (changes : List Change) : Writes where
  deliveries := changes.map fun change ↦ .update change.new
  events := changes.zipIdx.map fun change ↦ .insert (changeTimeline call actor change)
  audits := changes.zipIdx.map fun change ↦ .insert (changeAudit platform call actor change)
  outbox := changes.zipIdx.map fun change ↦ .insert (changeOutbox call change)

end Trail

/-! ## Lookups and checks -/

def lookup {Row : Type} (rows : List Row) (missing : String) (selected : Row → Bool) :
    Except DeliveryError Row :=
  findRow (.notFound missing) selected rows

def expectVersion (delivery : Delivery) (expectedVersion : Int) : Except DeliveryError Unit :=
  ensure ((delivery.version : Int) == expectedVersion) (.conflict
    ("Delivery version is " ++ toString delivery.version ++ "; refresh and retry with If-Match: " ++
      toString delivery.version ++ "."))

/-- Whether two lists have the same elements. -/
def sameSkus (first second : List String) : Bool := first.all second.contains && second.all first.contains

section Operations

variable (platform : DeliveryPlatform) (db : DeliveryDb) (call : DeliveryCall) (actor : ActorScope)

def deliveryModel (tenantId deliveryId : String) : Except DeliveryError Delivery :=
  lookup db.deliveries "Delivery not found." fun row ↦ row.id == deliveryId && row.tenantId == tenantId

/-- The delivery of the actor's tenant in the version that the request names. -/
def lockedDelivery (deliveryId : String) (expectedVersion : Int) : Except DeliveryError Delivery := do
  let delivery ← deliveryModel db actor.tenantId deliveryId
  expectVersion delivery expectedVersion
  return delivery

def itemsOf (deliveryId : String) : List DeliveryItem :=
  db.items.filter fun row ↦ row.deliveryId == deliveryId

/-! ## Creation and dispatch -/

def newDelivery (body : DeliveryCreate) : Delivery where
  id := call.uuid 0
  tenantId := actor.tenantId
  deliveryNumber := body.deliveryNumber
  purchaseOrderId := body.purchaseOrderId
  invoiceId := body.invoiceId
  invoiceNumber := body.invoiceNumber
  sellerBusinessId := body.sellerBusinessId
  sellerGstin := body.sellerGstin
  buyerId := body.buyerId
  buyerGstin := body.buyerGstin
  status := .created
  shipFrom := body.shipFrom
  shipTo := body.shipTo
  declaredValue := body.declaredValue

def newItem (item : DeliveryItemCreate) (index : Nat) : DeliveryItem where
  id := call.uuid index
  deliveryId := call.uuid 0
  poLineId := item.poLineId
  invoiceLineId := item.invoiceLineId
  sku := item.sku
  orderedQuantity := item.orderedQuantity
  supportedUnitValue := item.supportedUnitValue

def newItems (body : DeliveryCreate) : List DeliveryItem :=
  (body.items.zipIdx 1).map fun item ↦ newItem call item.1 item.2

/-- The rows of a new delivery. Its delivered value is assigned without decimals. -/
def creationWrites (body : DeliveryCreate) : Writes :=
  let delivery := newDelivery call actor body
  { deliveries := [.insert delivery]
    items := (newItems call body).map .insert
    events := [.insert (timeline (call.trailId 0) delivery "delivery.created" actor none)]
    audits := [.insert (recordAudit platform (call.trailId 1) delivery "delivery.created" actor none
      (snapshot delivery "0"))]
    outbox := [.insert (recordOutbox (call.trailId 2) delivery "delivery.created")] }

def createDelivery (body : DeliveryCreate) : Except DeliveryError Outcome := do
  ensure (!db.deliveries.any fun row ↦
      row.tenantId == actor.tenantId && row.deliveryNumber == body.deliveryNumber)
    (.conflict "Delivery number already exists in this tenant.")
  return (.delivery (newDelivery call actor body), some (creationWrites platform call actor body))

/-- `_tracking_number`: the first of twenty candidates that the tenant does not use. -/
def drawTracking (tenantId : String) : Except DeliveryError String :=
  let candidates := (List.range 20).map fun index ↦ "XY" ++ call.letters index
  match candidates.find? fun candidate ↦
      !db.deliveries.any fun row ↦ row.tenantId == tenantId && row.trackingNumber == some candidate with
  | some candidate => .ok candidate
  | none => .error (.conflict "A unique tracking number could not be generated.")

def Delivery.ready (delivery : Delivery) (tracking : String) : Delivery :=
  { delivery with
    trackingNumber := some tracking
    status := .readyToDispatch
    version := delivery.version + 1 }

def markReady (deliveryId : String) (expectedVersion : Int) : Except DeliveryError Outcome := do
  let delivery ← lockedDelivery db actor deliveryId expectedVersion
  ensure (delivery.status == .created) (.conflict "Only a CREATED delivery can be marked ready.")
  ensure (delivery.purchaseOrderId != "" && delivery.sellerBusinessId != "" && delivery.buyerId != "")
    (.conflict "Purchase order, seller and buyer identities are required.")
  let tracking ← drawTracking db call actor.tenantId
  let change := ⟨delivery, delivery.ready tracking, "delivery.ready"⟩
  return (.delivery change.new, some (recordWrites platform call actor [change]))

/-- The items with the quantities that a request has for them, none of which exceeds its limit. -/
def takeQuantities {least : Int} (quantities : Quantities least) (limit : DeliveryItem → Int)
    (refusal : String → String) : List DeliveryItem → Except DeliveryError (List (DeliveryItem × Int))
  | [] => .ok []
  | item :: rest =>
    match quantities.entries.lookup item.sku with
    | none => .error (.missingKey item.sku)
    | some quantity => do
      ensure (decide (quantity ≤ limit item)) (.domain (refusal item.sku))
      let others ← takeQuantities quantities limit refusal rest
      return (item, quantity) :: others

def DeliveryItem.dispatch (item : DeliveryItem) (quantity : Int) : DeliveryItem :=
  { item with
    dispatchedQuantity := quantity
    version := item.version + 1 }

def Delivery.dispatch (delivery : Delivery) (carrierId : String) (now : Time) : Delivery :=
  { delivery with
    carrierId := some carrierId
    dispatchDate := some now
    status := .dispatched
    version := delivery.version + 1 }

def dispatchDelivery (deliveryId : String) (expectedVersion : Int) (body : DispatchRequest) :
    Except DeliveryError Outcome := do
  let delivery ← lockedDelivery db actor deliveryId expectedVersion
  ensure (delivery.status == .readyToDispatch && truthy delivery.trackingNumber)
    (.conflict "Delivery must be ready with a server-issued tracking number.")
  let items := itemsOf db delivery.id
  ensure (sameSkus (body.itemQuantities.entries.map Prod.fst) (items.map DeliveryItem.sku))
    (.domain "Dispatch quantities must include every delivery SKU exactly once.")
  let taken ← takeQuantities body.itemQuantities DeliveryItem.orderedQuantity
    (fun sku ↦ "Dispatch for " ++ sku ++ " exceeds ordered quantity.") items
  let change := ⟨delivery, delivery.dispatch body.carrierId (call.clock 0), "delivery.dispatched"⟩
  return (.delivery change.new, some
    { recordWrites platform call actor [change] with
      items := taken.map fun item ↦ .update (item.1.dispatch item.2) })

/-! ## Transit and attempts -/

def transitions : DeliveryStatus → TransitEventType → Option DeliveryStatus
  | .dispatched, .inTransit => some .inTransit
  | .inTransit, .outForDelivery => some .outForDelivery
  | .dispatched, .deliveryDelayed => some .deliveryFailed
  | .inTransit, .deliveryDelayed => some .deliveryFailed
  | .outForDelivery, .deliveryDelayed => some .deliveryFailed
  | .deliveryFailed, .deliveryResumed => some .inTransit
  | _, _ => none

def Delivery.transit (delivery : Delivery) (target : DeliveryStatus) : Delivery :=
  { delivery with
    status := target
    exceptionCode := if target = .deliveryFailed then some .deliveryDelayed else none
    version := delivery.version + 1 }

def recordTransitEvent (deliveryId : String) (expectedVersion : Int) (body : TransitEventRequest) :
    Except DeliveryError Outcome := do
  let delivery ← lockedDelivery db actor deliveryId expectedVersion
  match transitions delivery.status body.eventType with
  | none => .error (.conflict (body.eventType.value ++ " is invalid from " ++ delivery.status.value ++ "."))
  | some target =>
    let occurredAt := body.occurredAt.getD (call.clock 0)
    ensure (decide (occurredAt ≤ call.clock 1 + minutes 5)) (.domain "Transit event cannot be in the future.")
    ensure (!delivery.dispatchDate.any fun dispatched ↦ decide (occurredAt < dispatched))
      (.domain "Transit event cannot predate dispatch.")
    let change := ⟨delivery, delivery.transit target, "delivery." ++ body.eventType.value.toLower⟩
    return (.delivery change.new, some (recordWrites platform call actor [change]))

def DeliveryItem.deliver (item : DeliveryItem) (quantity : Int) : DeliveryItem :=
  { item with
    deliveredQuantity := quantity
    version := item.version + 1 }

def Delivery.succeed (delivery : Delivery) (partly : Bool) : Delivery :=
  { delivery with
    status := if partly then .partialPendingAcceptance else .deliveredPendingAcceptance
    exceptionCode := if partly then some .shortDelivery else none
    version := delivery.version + 1 }

def Delivery.fail (delivery : Delivery) : Delivery :=
  { delivery with
    status := .deliveryFailed
    exceptionCode := some .attemptFailed
    version := delivery.version + 1 }

def recordDeliveryAttempt (deliveryId : String) (expectedVersion : Int) (body : DeliveryAttemptRequest) :
    Except DeliveryError Outcome := do
  let delivery ← lockedDelivery db actor deliveryId expectedVersion
  ensure (delivery.status == .inTransit || delivery.status == .outForDelivery)
    (.conflict "Delivery attempt requires IN_TRANSIT or OUT_FOR_DELIVERY status.")
  let items := itemsOf db delivery.id
  if body.success then
    ensure (sameSkus (body.itemQuantities.entries.map Prod.fst) (items.map DeliveryItem.sku))
      (.domain "Delivered quantities must include every SKU exactly once.")
    let taken ← takeQuantities body.itemQuantities DeliveryItem.dispatchedQuantity
      (fun sku ↦ "Delivered quantity for " ++ sku ++ " exceeds dispatch.") items
    let partly := taken.any fun item ↦ decide (item.2 < item.1.dispatchedQuantity)
    let change := ⟨delivery, delivery.succeed partly, "delivery.attempt_succeeded"⟩
    return (.delivery change.new, some
      { recordWrites platform call actor [change] with
        items := taken.map fun item ↦ .update (item.1.deliver item.2) })
  else
    let change := ⟨delivery, delivery.fail, "delivery.attempt_failed"⟩
    return (.delivery change.new, some (recordWrites platform call actor [change]))

/-! ## Proofs and acceptance -/

/-- A change of nothing but the version. -/
def Delivery.note (delivery : Delivery) : Delivery := { delivery with version := delivery.version + 1 }

def ProofOfDelivery.supersede (proof : ProofOfDelivery) (replacement : String) : ProofOfDelivery :=
  { proof with
    verificationStatus := .rejected
    replacementLink := some replacement }

def pendingProofs (deliveryId : String) : List ProofOfDelivery :=
  db.proofs.filter fun row ↦ row.deliveryId == deliveryId && row.verificationStatus == .pendingVerification

def capturePod (deliveryId : String) (expectedVersion : Int) (body : ProofCreate) :
    Except DeliveryError Outcome := do
  let delivery ← lockedDelivery db actor deliveryId expectedVersion
  ensure (pendingAcceptanceStatuses.contains delivery.status)
    (.conflict "Proof can only be captured after a successful delivery attempt.")
  let proof : ProofOfDelivery :=
    { id := call.uuid 0
      deliveryId := delivery.id
      securityFlags := body.securityFlags }
  let change := ⟨delivery, delivery.note, "delivery.proof_captured"⟩
  return (.proof proof, some
    { recordWrites platform call actor [change] with
      proofs := (pendingProofs db delivery.id).map (fun row ↦ .update (row.supersede (call.uuid 0))) ++
        [.insert proof] })

def ProofOfDelivery.review (proof : ProofOfDelivery) (verified : Bool) (verifier : String) :
    ProofOfDelivery :=
  { proof with
    verificationStatus := if verified then .verified else .rejected
    verifier := some verifier
    securityFlags := if verified then proof.securityFlags
      else (proof.securityFlags ++ ["REVIEW_REJECTED"]).dedup.insertionSort (· ≤ ·) }

def verifyPod (deliveryId proofId : String) (expectedVersion : Int) (verified : Bool) :
    Except DeliveryError Outcome := do
  let delivery ← lockedDelivery db actor deliveryId expectedVersion
  let proof ← lookup db.proofs "Proof not found." fun row ↦ row.id == proofId && row.deliveryId == delivery.id
  ensure (proof.verificationStatus == .pendingVerification)
    (.conflict "Only pending proof can be reviewed.")
  let change := ⟨delivery, delivery.note,
    if verified then "delivery.proof_verified" else "delivery.proof_rejected"⟩
  return (.delivery change.new, some
    { recordWrites platform call actor [change] with
      proofs := [.update (proof.review verified actor.actorId)] })

/-- The items with the entries of the buyer for them, which split what was delivered. -/
def settleItems (entries : List ItemAcceptance) :
    List DeliveryItem → Except DeliveryError (List (DeliveryItem × ItemAcceptance))
  | [] => .ok []
  | item :: rest =>
    match entries.find? fun entry ↦ entry.sku == item.sku with
    | none => .error (.missingKey item.sku)
    | some entry => do
      ensure (entry.acceptedQuantity + entry.rejectedQuantity == item.deliveredQuantity)
        (.domain ("Acceptance quantities for " ++ item.sku ++ " must equal delivered quantity."))
      ensure (entry.rejectedQuantity == 0 || truthy entry.reason)
        (.domain ("Rejected quantity for " ++ item.sku ++ " requires a reason."))
      let others ← settleItems entries rest
      return (item, entry) :: others

def DeliveryItem.settle (item : DeliveryItem) (entry : ItemAcceptance) : DeliveryItem :=
  { item with
    acceptedQuantity := entry.acceptedQuantity
    rejectedQuantity := entry.rejectedQuantity
    rejectionReason := entry.reason
    version := item.version + 1 }

def acceptedStatus (anyAccepted anyRejected : Bool) : DeliveryStatus :=
  if anyAccepted && anyRejected then .partiallyAccepted else if anyAccepted then .delivered else .rejected

def acceptanceStatus : DeliveryStatus → AcceptanceStatus
  | .delivered => .accepted
  | .partiallyAccepted => .partiallyAccepted
  | _ => .rejected

def Delivery.accept (delivery : Delivery) (settled : List (DeliveryItem × ItemAcceptance)) : Delivery :=
  { delivery with
    status := acceptedStatus (settled.any fun item ↦ decide (0 < item.2.acceptedQuantity))
      (settled.any fun item ↦ decide (0 < item.2.rejectedQuantity))
    verifiedDeliveredValue :=
      worth (fun item ↦ item.2.acceptedQuantity) (fun item ↦ item.1.supportedUnitValue) settled
    version := delivery.version + 1 }

def newAcceptance (accepted : Delivery) : BuyerAcceptance where
  id := call.uuid 0
  deliveryId := accepted.id
  version := accepted.version
  buyerIdentity := accepted.buyerId
  status := acceptanceStatus accepted.status
  acceptedValue := accepted.verifiedDeliveredValue
  actor := actor.actorId

def recordBuyerAcceptance (deliveryId : String) (expectedVersion : Int) (body : AcceptanceCreate) :
    Except DeliveryError Outcome := do
  let delivery ← lockedDelivery db actor deliveryId expectedVersion
  ensure (pendingAcceptanceStatuses.contains delivery.status)
    (.conflict "Acceptance requires a delivery pending acceptance.")
  ensure (db.proofs.any fun row ↦ row.deliveryId == delivery.id && row.verificationStatus == .verified)
    (.conflict "Buyer acceptance requires independently verified proof of delivery.")
  let items := itemsOf db delivery.id
  ensure (decide (body.items.map ItemAcceptance.sku).Nodup &&
      sameSkus (body.items.map ItemAcceptance.sku) (items.map DeliveryItem.sku))
    (.domain "Acceptance must include every SKU exactly once.")
  let settled ← settleItems body.items items
  let change := ⟨delivery, delivery.accept settled, "delivery.accepted"⟩
  return (.delivery change.new, some
    { recordWrites platform call actor [change] with
      items := settled.map fun item ↦ .update (item.1.settle item.2)
      acceptances := [.insert (newAcceptance call actor change.new)] })

def Delivery.cancel (delivery : Delivery) (role : Role) : Delivery :=
  { delivery with
    status := .cancelled
    exceptionCode := if role = .deliveryReviewer then some .cancelledByReviewer else none
    version := delivery.version + 1 }

def cancelDelivery (deliveryId : String) (expectedVersion : Int) : Except DeliveryError Outcome := do
  let delivery ← lockedDelivery db actor deliveryId expectedVersion
  ensure (!terminalStatuses.contains delivery.status) (.conflict "A terminal delivery cannot be cancelled.")
  ensure (delivery.status == .created || delivery.status == .readyToDispatch ||
      actor.role == .deliveryReviewer)
    (.conflict "Post-dispatch cancellation requires independent reviewer approval.")
  let change := ⟨delivery, delivery.cancel actor.role, "delivery.cancelled"⟩
  return (.delivery change.new, some (recordWrites platform call actor [change]))

/-! ## Corrections -/

def allowedFields : CorrectionType → List String
  | .identity => ["seller_business_id", "seller_gstin", "buyer_id", "buyer_gstin"]
  | .reference => ["purchase_order_id", "invoice_id", "invoice_number"]
  | .tracking => ["tracking_number", "carrier_id"]
  | .address => ["ship_from", "ship_to"]

def newCorrection (delivery : Delivery) (body : CorrectionCreate) : DeliveryCorrection where
  id := call.uuid 0
  deliveryId := delivery.id
  aggregateVersion := delivery.version
  correctionType := body.correctionType
  proposedChanges := body.proposedChanges
  requester := actor.actorId

def proposeCorrection (deliveryId : String) (expectedVersion : Int) (body : CorrectionCreate) :
    Except DeliveryError Outcome := do
  ensure (!body.proposedChanges.isEmpty && (body.proposedChanges.map Prod.fst).all
      (allowedFields body.correctionType).contains)
    (.domain "Correction contains fields outside its approved type.")
  let delivery ← lockedDelivery db actor deliveryId expectedVersion
  ensure (!db.corrections.any fun row ↦ row.deliveryId == delivery.id && row.status == .pending)
    (.conflict "This delivery already has a pending correction.")
  let change := ⟨delivery, delivery.note, "delivery.correction_proposed"⟩
  return (.correction (newCorrection call actor delivery body), some
    { recordWrites platform call actor [change] with
      corrections := [.insert (newCorrection call actor delivery body)] })

/-- `setattr(delivery, field, value)` for the fields that a correction may name. -/
def Delivery.assign (delivery : Delivery) (field value : String) : Delivery :=
  match field with
  | "seller_business_id" => { delivery with sellerBusinessId := value }
  | "seller_gstin" => { delivery with sellerGstin := value }
  | "buyer_id" => { delivery with buyerId := value }
  | "buyer_gstin" => { delivery with buyerGstin := value }
  | "purchase_order_id" => { delivery with purchaseOrderId := value }
  | "invoice_id" => { delivery with invoiceId := some value }
  | "invoice_number" => { delivery with invoiceNumber := some value }
  | "tracking_number" => { delivery with trackingNumber := some value }
  | "carrier_id" => { delivery with carrierId := some value }
  | "ship_from" => { delivery with shipFrom := value }
  | "ship_to" => { delivery with shipTo := value }
  | _ => delivery

def checkTracking (delivery : Delivery) (tracking : String) : Except DeliveryError Unit := do
  ensure (tracking.length == 10 && tracking.startsWith "XY")
    (.domain "Replacement tracking must be a 10-character XY identifier.")
  ensure (!db.deliveries.any fun row ↦ row.tenantId == actor.tenantId &&
      row.trackingNumber == some tracking && row.id != delivery.id)
    (.conflict "Tracking number already exists.")

def assignAll (delivery : Delivery) : List (String × String) → Except DeliveryError Delivery
  | [] => .ok delivery
  | (field, value) :: rest => do
    ensure (!(["ship_from", "ship_to"].contains field) || platform.loads value) .invalidJson
    assignAll (delivery.assign field value) rest

/-- The delivery with the approved changes of a correction. -/
def correct (delivery : Delivery) (changes : List (String × String)) : Except DeliveryError Delivery := do
  match changes.lookup "tracking_number" with
  | none => assignAll platform delivery changes
  | some tracking =>
    checkTracking db actor delivery tracking
    assignAll platform delivery changes

def DeliveryCorrection.review (correction : DeliveryCorrection) (reviewer : String)
    (status : CorrectionStatus) (appliedVersion : Option Nat) : DeliveryCorrection :=
  { correction with
    reviewer := some reviewer
    status := status
    appliedVersion := appliedVersion }

def reviewCorrection (correctionId : String) (expectedVersion : Int) (approve : Bool) :
    Except DeliveryError Outcome := do
  let correction ← lookup db.corrections "Correction not found." fun row ↦ row.id == correctionId
  let delivery ← lockedDelivery db actor correction.deliveryId expectedVersion
  ensure (correction.status == .pending) (.conflict "Correction has already been reviewed.")
  if approve then
    let corrected ← correct platform db actor delivery correction.proposedChanges
    let change := ⟨delivery, corrected.note, "delivery.correction_approved"⟩
    return (.delivery change.new, some
      { recordWrites platform call actor [change] with
        corrections := [.update (correction.review actor.actorId .approved (some change.new.version))] })
  else
    let change := ⟨delivery, delivery.note, "delivery.correction_rejected"⟩
    return (.delivery change.new, some
      { recordWrites platform call actor [change] with
        corrections := [.update (correction.review actor.actorId .rejected correction.appliedVersion)] })

/-! ## External events -/

def ExternalEventType.exceptionCode : ExternalEventType → ExceptionCode
  | .purchaseOrderCancelled => .sourcePoCancelled
  | .invoiceCancelled => .sourceInvoiceCancelled
  | .businessUpdated => .sourceIdentityChanged

/-- The deliveries that the query of an event selects. -/
def ExternalEventEnvelope.concerns (envelope : ExternalEventEnvelope) (row : Delivery) : Bool :=
  row.tenantId == envelope.tenantId &&
    match envelope.aggregateType with
    | .purchaseOrder => row.purchaseOrderId == envelope.aggregateId
    | .invoice => row.invoiceId == some envelope.aggregateId
    | .business => row.sellerBusinessId == envelope.aggregateId || row.buyerId == envelope.aggregateId

def Delivery.mark (delivery : Delivery) (code : ExceptionCode) : Delivery :=
  { delivery with
    exceptionCode := some code
    version := delivery.version + 1 }

/-- The open deliveries that an event marks. -/
def marks (envelope : ExternalEventEnvelope) : List Change :=
  (db.deliveries.filter fun row ↦ envelope.concerns row && !terminalStatuses.contains row.status).map
    fun row ↦ ⟨row, row.mark envelope.eventType.exceptionCode, envelope.eventType.value⟩

def newInbox (envelope : ExternalEventEnvelope) (status : InboxStatus) : InboxEvent where
  sourceApplication := envelope.sourceApplication
  eventId := envelope.eventId
  tenantId := envelope.tenantId
  eventType := envelope.eventType
  aggregateType := envelope.aggregateType
  aggregateId := envelope.aggregateId
  aggregateVersion := envelope.aggregateVersion
  status := status

def findAggregate (envelope : ExternalEventEnvelope) : Option ExternalAggregateVersion :=
  db.aggregates.find? fun row ↦ row.tenantId == envelope.tenantId &&
    row.sourceApplication == envelope.sourceApplication && row.aggregateType == envelope.aggregateType &&
    row.aggregateId == envelope.aggregateId

/-- The version of an aggregate that an event brings. -/
def storeAggregate (envelope : ExternalEventEnvelope) :
    Option ExternalAggregateVersion → RowWrite ExternalAggregateVersion
  | some row => .update { row with latestVersion := envelope.aggregateVersion }
  | none => .insert
    { id := call.uuid 0
      tenantId := envelope.tenantId
      sourceApplication := envelope.sourceApplication
      aggregateType := envelope.aggregateType
      aggregateId := envelope.aggregateId
      latestVersion := envelope.aggregateVersion }

def sourceActor (envelope : ExternalEventEnvelope) : ActorScope :=
  ⟨envelope.tenantId, envelope.sourceApplication, .service⟩

def consumeExternalEvent (envelope : ExternalEventEnvelope) : Except DeliveryError Outcome :=
  if db.inboxEvents.any fun row ↦
      row.sourceApplication == envelope.sourceApplication && row.eventId == envelope.eventId then
    .ok (.event .duplicate, none)
  else
    let found := findAggregate db envelope
    if found.any fun row ↦ decide (envelope.aggregateVersion ≤ row.latestVersion) then
      .ok (.event .stale, some { inboxEvents := [.insert (newInbox envelope .stale)] })
    else
      .ok (.event .processed, some
        { recordWrites platform call (sourceActor envelope) (marks db envelope) with
          aggregates := [storeAggregate call envelope found]
          inboxEvents := [.insert (newInbox envelope .processed)] })

end Operations

/-! ## The machine -/

section Machine

variable (platform : DeliveryPlatform)

def serve (db : DeliveryDb) (call : DeliveryCall) : Except DeliveryError Outcome :=
  match call.request with
  | .createDelivery actor body => createDelivery platform db call actor body
  | .markReady actor deliveryId expectedVersion => markReady platform db call actor deliveryId expectedVersion
  | .dispatchDelivery actor deliveryId expectedVersion body =>
    dispatchDelivery platform db call actor deliveryId expectedVersion body
  | .recordTransitEvent actor deliveryId expectedVersion body =>
    recordTransitEvent platform db call actor deliveryId expectedVersion body
  | .recordDeliveryAttempt actor deliveryId expectedVersion body =>
    recordDeliveryAttempt platform db call actor deliveryId expectedVersion body
  | .capturePod actor deliveryId expectedVersion body =>
    capturePod platform db call actor deliveryId expectedVersion body
  | .verifyPod actor deliveryId proofId expectedVersion verified =>
    verifyPod platform db call actor deliveryId proofId expectedVersion verified
  | .recordBuyerAcceptance actor deliveryId expectedVersion body =>
    recordBuyerAcceptance platform db call actor deliveryId expectedVersion body
  | .cancelDelivery actor deliveryId expectedVersion =>
    cancelDelivery platform db call actor deliveryId expectedVersion
  | .proposeCorrection actor deliveryId expectedVersion body =>
    proposeCorrection platform db call actor deliveryId expectedVersion body
  | .reviewCorrection actor correctionId expectedVersion approve =>
    reviewCorrection platform db call actor correctionId expectedVersion approve
  | .consumeExternalEvent envelope => consumeExternalEvent platform db call envelope

/-- The sessions of the delivery service. -/
def sessions : Service DeliveryDb DeliveryCall DeliveryAnswer DeliveryError Writes where
  serve := serve platform
  refused := DeliveryCall.refused
  accepted := Writes.accepted
  apply := Writes.apply
  integrity := .integrity

/-- The delivery service, one call after the other. -/
def deliveryService : Machine DeliveryDb DeliveryCall (Except DeliveryError DeliveryAnswer) :=
  (sessions platform).machine

end Machine

end Xyena.Deliveries
