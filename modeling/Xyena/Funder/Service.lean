import Xyena.Foundation.Decimal
import Xyena.Foundation.Session
import Xyena.Funder.Models
import Xyena.Gateway.Server

/-!
# The operations of the funder marketplace

The methods of `FunderService` in `demos/funder-marketplace/funder_demo/service.py`
with the request bodies of `schemas.py`, check by check and with the same texts.
The amounts of a request are any numbers of hundredths; a column keeps whole
ones, as the rounding of the database says. Every reading of the clock and every
identifier that is drawn is an input of the call. Each call runs in a transaction
of its own. What `_record` adds for the dashboard is left out, as are the queries
that only show rows.
-/

namespace Xyena.Funder

open Xyena.Foundation Xyena.Foundation.Session Xyena.Contracts
open Xyena.Gateway (compareDigest compareDigestError)

/-! ## Requests -/

/-- Whether a financing runs for a number of days that the marketplace handles. -/
def tenorOffered (days : Int) : Prop := 7 ≤ days ∧ days ≤ 180

instance (days : Int) : Decidable (tenorOffered days) := inferInstanceAs (Decidable (_ ∧ _))

structure ApplicationRequest where
  caseId : String
  msmeId : String
  msmeName : String
  receivableId : String
  requestedAmount : Rat
  tenorDays : Int
  region : String
  industry : String
  evidenceReceiptIds : List String
  exposureSnapshotReference : String
  exposureAmount : Rat
  requestedAmount_pos : 0 < requestedAmount
  tenor_offered : tenorOffered tenorDays
  evidence_given : evidenceReceiptIds ≠ []
  exposureAmount_nonneg : 0 ≤ exposureAmount

inductive Decision where
  | approve
  | decline
deriving DecidableEq, Repr

structure ReviewRequest where
  decision : Decision
  actor : String

/-- A percentage as the schema admits it. -/
def percentage (rate : Rat) : Prop := 0 < rate ∧ rate ≤ 100

instance (rate : Rat) : Decidable (percentage rate) := inferInstanceAs (Decidable (_ ∧ _))

structure OfferRequest where
  programId : String
  approvedAmount : Rat
  advanceRate : Rat
  annualRate : Rat
  feeAmount : Rat
  tenorDays : Int
  repaymentTerms : String
  conditions : List String := []
  expiresAt : Time
  approvedAmount_pos : 0 < approvedAmount
  advanceRate_percentage : percentage advanceRate
  annualRate_percentage : percentage annualRate
  feeAmount_nonneg : 0 ≤ feeAmount
  tenor_offered : tenorOffered tenorDays

structure ReserveRequest where
  amount : Rat
  idempotencyKey : String
  expiresAt : Time
  amount_pos : 0 < amount
  key_length : 8 ≤ idempotencyKey.toList.length ∧ idempotencyKey.toList.length ≤ 120

structure CommitmentPrepareRequest where
  destinationToken : String
  token_length : 8 ≤ destinationToken.toList.length ∧ destinationToken.toList.length ≤ 140

structure CommitmentConfirmRequest where
  guardianAuthorizationId : String
  actionHash : String
  executionReference : String
  authorization_length : 8 ≤ guardianAuthorizationId.toList.length
  hash_length : actionHash.toList.length = 64
  reference_length : 6 ≤ executionReference.toList.length

inductive ProgramAction where
  | activate
  | suspend
  | close
deriving DecidableEq, Repr

def ProgramAction.value : ProgramAction → String
  | .activate => "ACTIVATE"
  | .suspend => "SUSPEND"
  | .close => "CLOSE"

/-- An event of the bank or the ledger. `aggregateId` and `ledgerReference` are the texts that `str`
gives of these entries, empty when they are absent, and `aggregateVersion` is what `int` gives of the
version: no value when it raises. -/
structure ExternalEventEnvelope where
  eventId : String
  eventType : EventType
  sourceApplication : SourceApplication
  tenantId : String
  aggregateId : String
  aggregateVersion : Option Int
  ledgerReference : String
deriving DecidableEq, Repr

inductive Request where
  | createApplication (tenantId : String) (body : ApplicationRequest)
  | reviewApplication (tenantId applicationId : String) (expectedVersion : Int) (body : ReviewRequest)
  | issueOffer (tenantId applicationId : String) (expectedVersion : Int) (body : OfferRequest)
  | reserveOffer (tenantId offerId : String) (body : ReserveRequest)
  | releaseReservation (tenantId reservationId : String) (expectedVersion : Int)
  | prepareCommitment (tenantId reservationId : String) (body : CommitmentPrepareRequest)
  | confirmCommitment (tenantId commitmentId : String) (body : CommitmentConfirmRequest)
  | transitionProgram (tenantId programId : String) (expectedVersion : Int) (action : ProgramAction)
  | getExposure (tenantId : String) (msmeId : Option String)
  | consumeExternalEvent (event : ExternalEventEnvelope) (signedPayloadHash : String)

/-- One call of the service: its request, the readings of the clock in their order, and the digits of
the identifier that it draws. `refused` says whether the database refuses the rows of the call for a
reason outside its keys, such as the width of a column or a lost connection. -/
structure FunderCall where
  request : Request
  clock : Nat → Time
  token : String
  refused : Bool := false

inductive FunderError where
  | notFound (text : String)
  | conflict (text : String)
  | domain (text : String)
  | typeError (text : String)
  | valueError
  | integrity
deriving DecidableEq, Repr

/-! ## Answers -/

/-- What `get_exposure` shows of a program. -/
structure ProgramExposure where
  programId : String
  availableCapacity : Int
  reservedCapacity : Int
  committedCapacity : Int
deriving DecidableEq, Repr

structure Exposure where
  msmeId : Option String
  committedExposure : Int
  preparedExposure : Int
  programs : List ProgramExposure
  retrievedAt : Time
deriving DecidableEq, Repr

/-- The rows that the answer of a call shows. -/
inductive FunderAnswer where
  | application (row : FundingApplication)
  | offer (row : FundingOffer) (program : FundingProgram) (application : FundingApplication)
  | reservation (row : OfferReservation)
  | commitment (row : FundingCommitment) (reservation : OfferReservation)
  | program (row : FundingProgram)
  | exposure (value : Exposure)
  | duplicateIgnored (eventId : String)
  | staleVersionIgnored (eventId : String)
  | processed (eventId commitmentId : String)

/-- An answer with the rows that the session commits; a session without rows commits nothing. -/
abbrev Outcome := FunderAnswer × Option Writes

/-! ## Lookups and checks -/

/-- `max(Decimal("0"), …)`. -/
def atLeastZero (amount : Int) : Int := max 0 amount

def available (value : FundingProgram) : Int :=
  atLeastZero (value.totalCapacity - value.reservedCapacity - value.committedCapacity)

def eligibilityReasons (value : FundingProgram) (amount : Rat) (tenor : Int) (region industry : String) :
    List EligibilityReason :=
  (if amount < value.minimumAmount || value.maximumAmount < amount then [.amountOutsideProgram] else []) ++
  (if available value < amount then [.programCapacityUnavailable] else []) ++
  (if tenor < value.tenorMinimumDays || value.tenorMaximumDays < tenor then [.tenorOutsideProgram]
    else []) ++
  (if value.eligibleRegions.contains region then [] else [.regionNotEligible]) ++
  (if value.eligibleIndustries.contains industry then [] else [.industryNotEligible])

def expectVersion (current expected : Int) : Except FunderError Unit :=
  ensure (current == expected) (.conflict ("Version conflict: current version is " ++ toString
    current ++ "."))

/-- The row of a tenant with an identifier. -/
def lookup {Row : Type} (tenant key : Row → String) (rows : List Row) (missing : String)
    (tenantId valueId : String) : Except FunderError Row :=
  match rows.find? fun row ↦ tenant row == tenantId && key row == valueId with
  | some row => .ok row
  | none => .error (.notFound missing)

section Operations

variable (rounding : Rounding) (sha256 : String → String) (db : FunderDb) (call : FunderCall)
  (tenantId : String)

def applicationModel (valueId : String) : Except FunderError FundingApplication :=
  lookup FundingApplication.tenantId FundingApplication.id db.applications
    "Funding application was not found in the signed tenant scope." tenantId valueId

def programModel (valueId : String) : Except FunderError FundingProgram :=
  lookup FundingProgram.tenantId FundingProgram.id db.programs
    "Funding program was not found in the signed tenant scope." tenantId valueId

def offerModel (valueId : String) : Except FunderError FundingOffer :=
  lookup FundingOffer.tenantId FundingOffer.id db.offers
    "Funding offer was not found in the signed tenant scope." tenantId valueId

def reservationModel (valueId : String) : Except FunderError OfferReservation :=
  lookup OfferReservation.tenantId OfferReservation.id db.reservations
    "Offer reservation was not found in the signed tenant scope." tenantId valueId

def commitmentModel (valueId : String) : Except FunderError FundingCommitment :=
  lookup FundingCommitment.tenantId FundingCommitment.id db.commitments
    "Funding commitment was not found in the signed tenant scope." tenantId valueId

/-! ## Applications and offers -/

def eligibilityResult (body : ApplicationRequest) (program : FundingProgram) : EligibilityResult :=
  let reasons := eligibilityReasons program body.requestedAmount body.tenorDays body.region body.industry
  { programId := program.id
    eligible := reasons.isEmpty
    reasonCodes := reasons
    policyVersion := program.policyVersion }

def newApplication (body : ApplicationRequest) : FundingApplication where
  id := "application_demo_" ++ call.token
  tenantId := tenantId
  caseId := body.caseId
  msmeId := body.msmeId
  msmeName := body.msmeName
  receivableId := body.receivableId
  requestedAmount := rounding.round body.requestedAmount
  tenorDays := body.tenorDays
  region := body.region
  industry := body.industry
  evidenceReceiptIds := body.evidenceReceiptIds
  exposureSnapshotReference := body.exposureSnapshotReference
  exposureAmount := rounding.round body.exposureAmount
  eligibilityResults :=
    (db.programs.filter fun row ↦ row.tenantId == tenantId && row.status == .active).map
      (eligibilityResult body)
  status := .eligibilityChecked
  submittedAt := call.clock 0

def createApplication (body : ApplicationRequest) : Except FunderError Outcome := do
  ensure (!db.applications.any fun row ↦ row.tenantId == tenantId && row.caseId == body.caseId)
    (.conflict "A marketplace application already exists for this case.")
  let value := newApplication rounding db call tenantId body
  return (.application value, some { applications := [.insert value] })

def FundingApplication.review (value : FundingApplication) (body : ReviewRequest) : FundingApplication :=
  { value with
    status := if body.decision = .approve then .approved else .declined
    reviewedBy := some body.actor
    version := value.version + 1 }

def reviewApplication (applicationId : String) (expectedVersion : Int) (body : ReviewRequest) :
    Except FunderError Outcome := do
  let value ← applicationModel db tenantId applicationId
  expectVersion value.version expectedVersion
  ensure (value.status == .eligibilityChecked || value.status == .underReview)
    (.domain "Only an eligibility-checked application can be reviewed.")
  ensure (body.decision == .decline || value.eligibilityResults.any EligibilityResult.eligible)
    (.domain "Application has no eligible active funding program.")
  return (.application (value.review body), some { applications := [.update (value.review body)] })

def newOffer (application : FundingApplication) (program : FundingProgram) (body : OfferRequest) :
    FundingOffer where
  id := "offer_demo_" ++ call.token
  tenantId := tenantId
  applicationId := application.id
  funderId := program.funderId
  programId := program.id
  approvedAmount := rounding.round body.approvedAmount
  advanceRate := body.advanceRate
  annualRate := body.annualRate
  feeAmount := rounding.round body.feeAmount
  tenorDays := body.tenorDays
  repaymentTerms := body.repaymentTerms
  conditions := body.conditions
  expiresAt := body.expiresAt
  status := .issued

def FundingApplication.bump (value : FundingApplication) : FundingApplication :=
  { value with version := value.version + 1 }

def issueOffer (applicationId : String) (expectedVersion : Int) (body : OfferRequest) :
    Except FunderError Outcome := do
  let application ← applicationModel db tenantId applicationId
  expectVersion application.version expectedVersion
  ensure (application.status == .approved) (.domain "Offers require an approved funding application.")
  let program ← programModel db tenantId body.programId
  ensure (program.status == .active) (.domain "The selected program is not active.")
  ensure (decide (body.approvedAmount ≤ application.requestedAmount) &&
      decide (body.approvedAmount ≤ program.maximumAmount))
    (.domain "Offer exceeds the application or program amount bound.")
  ensure (decide (body.advanceRate ≤ program.advanceRateMaximum))
    (.domain "Offer advance rate exceeds the active program policy.")
  ensure (decide (program.tenorMinimumDays ≤ body.tenorDays) &&
      decide (body.tenorDays ≤ program.tenorMaximumDays))
    (.domain "Offer tenor is outside the active program range.")
  ensure (decide (call.clock 0 < body.expiresAt)) (.domain "Offer expiry must be in the future.")
  let value := newOffer rounding call tenantId application program body
  return (.offer value program application.bump,
    some { offers := [.insert value], applications := [.update application.bump] })

/-! ## Reservations -/

def newReservation (offer : FundingOffer) (application : FundingApplication) (program : FundingProgram)
    (body : ReserveRequest) : OfferReservation where
  id := "reservation_demo_" ++ call.token
  tenantId := tenantId
  offerId := offer.id
  programId := program.id
  reservedAmount := rounding.round body.amount
  caseId := application.caseId
  msmeId := application.msmeId
  expiresAt := body.expiresAt
  idempotencyKey := body.idempotencyKey
  status := .active

def FundingProgram.reserve (program : FundingProgram) (amount : Rat) : FundingProgram :=
  { program with
    reservedCapacity := rounding.round (program.reservedCapacity + amount)
    version := program.version + 1 }

def FundingOffer.reserve (offer : FundingOffer) : FundingOffer :=
  { offer with status := .reserved, version := offer.version + 1 }

def reserveOffer (offerId : String) (body : ReserveRequest) : Except FunderError Outcome :=
  match db.reservations.find? fun row ↦
      row.tenantId == tenantId && row.idempotencyKey == body.idempotencyKey with
  | some existing => do
    ensure (existing.offerId == offerId && existing.reservedAmount == body.amount)
      (.conflict "Idempotency key was already used for another reservation request.")
    return (.reservation existing, none)
  | none => do
    let offer ← offerModel db tenantId offerId
    ensure (offer.status == .issued && decide (call.clock 0 < offer.expiresAt))
      (.domain "Only a current issued offer can be reserved.")
    ensure (decide (body.amount ≤ offer.approvedAmount))
      (.domain "Reservation exceeds the approved offer amount.")
    let application ← applicationModel db tenantId offer.applicationId
    let program ← programModel db tenantId offer.programId
    ensure (program.status == .active && decide (body.amount ≤ available program))
      (.conflict "Program capacity is no longer available.")
    ensure (decide (call.clock 1 < body.expiresAt) && decide (body.expiresAt ≤ offer.expiresAt))
      (.domain "Reservation expiry must be current and no later than the offer expiry.")
    let value := newReservation rounding call tenantId offer application program body
    return (.reservation value, some
      { reservations := [.insert value]
        programs := [.update (program.reserve rounding body.amount)]
        offers := [.update offer.reserve] })

def FundingProgram.release (program : FundingProgram) (amount : Int) : FundingProgram :=
  { program with
    reservedCapacity := atLeastZero (program.reservedCapacity - amount)
    version := program.version + 1 }

def FundingOffer.free (offer : FundingOffer) (now : Time) : FundingOffer :=
  { offer with
    status := if now < offer.expiresAt then .issued else .expired
    version := offer.version + 1 }

def OfferReservation.release (value : OfferReservation) (reference : String) : OfferReservation :=
  { value with
    status := .released
    releaseReference := some reference
    version := value.version + 1 }

def releaseReservation (reservationId : String) (expectedVersion : Int) : Except FunderError Outcome := do
  let value ← reservationModel db tenantId reservationId
  expectVersion value.version expectedVersion
  ensure (value.status == .active) (.domain "Only an active reservation can be released.")
  let program ← programModel db tenantId value.programId
  let offer ← offerModel db tenantId value.offerId
  let released := value.release ("release_demo_" ++ call.token)
  return (.reservation released, some
    { programs := [.update (program.release value.reservedAmount)]
      offers := [.update (offer.free (call.clock 0))]
      reservations := [.update released] })

/-! ## Commitments -/

def commitmentAction (reservationId : String) (amount : Int) (destinationToken : String) : Dict :=
  [("reservation_id", .str reservationId), ("amount", .str (centsText amount)),
    ("destination_token", .str destinationToken)]

def newCommitment (reservation : OfferReservation) (body : CommitmentPrepareRequest) :
    FundingCommitment where
  id := "commitment_demo_" ++ call.token
  tenantId := tenantId
  reservationId := reservation.id
  committedAmount := reservation.reservedAmount
  actionHash := sha256 (Json.dumps true (.obj
    (commitmentAction reservation.id reservation.reservedAmount body.destinationToken)))
  destinationToken := body.destinationToken
  status := .prepared

def prepareCommitment (reservationId : String) (body : CommitmentPrepareRequest) :
    Except FunderError Outcome := do
  let reservation ← reservationModel db tenantId reservationId
  ensure (reservation.status == .active && decide (call.clock 0 < reservation.expiresAt))
    (.domain "Commitment preparation requires a current active reservation.")
  match db.commitments.find? fun row ↦ row.reservationId == reservation.id with
  | some existing => return (.commitment existing reservation, none)
  | none =>
    let value := newCommitment sha256 call tenantId reservation body
    return (.commitment value reservation, some { commitments := [.insert value] })

def FundingProgram.commit (program : FundingProgram) (amount : Int) : FundingProgram :=
  { program with
    reservedCapacity := atLeastZero (program.reservedCapacity - amount)
    committedCapacity := program.committedCapacity + amount
    version := program.version + 1 }

def OfferReservation.commit (reservation : OfferReservation) (reference : String) : OfferReservation :=
  { reservation with
    status := .committed
    commitReference := some reference
    version := reservation.version + 1 }

def FundingCommitment.confirm (value : FundingCommitment) (body : CommitmentConfirmRequest) :
    FundingCommitment :=
  { value with
    guardianAuthorizationId := some body.guardianAuthorizationId
    executionReference := some body.executionReference
    status := .committed
    version := value.version + 1 }

/-- The rows of a confirmed commitment. -/
def confirmationWrites (value : FundingCommitment) (reservation : OfferReservation)
    (program : FundingProgram) (body : CommitmentConfirmRequest) : Writes :=
  { programs := [.update (program.commit value.committedAmount)]
    reservations := [.update (reservation.commit value.id)]
    commitments := [.update (value.confirm body)] }

/-- The check of Guardian's action hash, which raises on a hash that is not ASCII. -/
def checkActionHash (stored supplied : String) : Except FunderError Unit :=
  match compareDigest supplied stored with
  | .same => .ok ()
  | .different =>
    .error (.conflict "Guardian action hash does not match the prepared commitment.")
  | .unsupported => .error (.typeError compareDigestError)

def confirmCommitment (commitmentId : String) (body : CommitmentConfirmRequest) :
    Except FunderError Outcome := do
  let value ← commitmentModel db tenantId commitmentId
  if value.status = .committed ∧ value.executionReference = some body.executionReference then
    let reservation ← reservationModel db tenantId value.reservationId
    return (.commitment value reservation, none)
  else
    ensure (value.status == .prepared) (.domain "Only a prepared commitment can be confirmed.")
    checkActionHash value.actionHash body.actionHash
    let reservation ← reservationModel db tenantId value.reservationId
    ensure (reservation.status == .active && decide (call.clock 0 < reservation.expiresAt))
      (.domain "Reservation expired before commitment confirmation.")
    let program ← programModel db tenantId reservation.programId
    return (.commitment (value.confirm body) (reservation.commit value.id),
      some (confirmationWrites value reservation program body))

/-! ## Programs -/

def transitions : ProgramStatus → ProgramAction → Option ProgramStatus
  | .draft, .activate => some .active
  | .suspended, .activate => some .active
  | .active, .suspend => some .suspended
  | .active, .close => some .closed
  | .suspended, .close => some .closed
  | _, _ => none

def FundingProgram.move (value : FundingProgram) (target : ProgramStatus) : FundingProgram :=
  { value with status := target, version := value.version + 1 }

def transitionProgram (programId : String) (expectedVersion : Int) (action : ProgramAction) :
    Except FunderError Outcome := do
  let value ← programModel db tenantId programId
  expectVersion value.version expectedVersion
  match transitions value.status action with
  | none => .error (.domain ("Program cannot transition from " ++ value.status.value ++ " using " ++
      action.value ++ "."))
  | some target => return (.program (value.move target), some { programs := [.update (value.move target)] })

/-! ## Exposure -/

/-- The states in which a commitment counts as committed exposure. -/
def CommitmentStatus.counted : CommitmentStatus → Bool
  | .committed | .disbursed | .settled => true
  | .prepared | .executionReviewRequired => false

/-- Whether a commitment is selected by the enterprise that is asked for, if any. -/
def exposedTo (msmeId : Option String) (value : FundingCommitment) : Bool :=
  match msmeId with
  | none => true
  | some msme => msme.isEmpty || db.reservations.any fun row ↦
      row.tenantId == tenantId && row.id == value.reservationId && row.msmeId == msme

def programExposure (value : FundingProgram) : ProgramExposure where
  programId := value.id
  availableCapacity := available value
  reservedCapacity := value.reservedCapacity
  committedCapacity := value.committedCapacity

def getExposure (msmeId : Option String) : Outcome :=
  let filtered := db.commitments.filter fun row ↦
    row.tenantId == tenantId && exposedTo db tenantId msmeId row
  (.exposure
    { msmeId := msmeId
      committedExposure := Table.sum FundingCommitment.committedAmount
        (filtered.filter fun row ↦ row.status.counted)
      preparedExposure := Table.sum FundingCommitment.committedAmount
        (filtered.filter fun row ↦ row.status == .prepared)
      programs := (db.programs.filter fun row ↦ row.tenantId == tenantId).map programExposure
      retrievedAt := call.clock 0 }, none)

/-! ## External events -/

variable (event : ExternalEventEnvelope) (signedPayloadHash : String)

def newInbox : InboxEvent where
  id := call.token
  sourceApplication := event.sourceApplication
  eventId := event.eventId
  eventType := event.eventType
  tenantId := event.tenantId
  processedAt := call.clock 0
  payloadHash := signedPayloadHash

/-- What an event that is newer than the commitment makes of it. -/
def FundingCommitment.follow (value : FundingCommitment) (version : Int) : FundingCommitment :=
  match event.eventType with
  | .disbursed =>
    { value with
      status := .disbursed
      ledgerReference := if event.ledgerReference.isEmpty then none else some event.ledgerReference
      version := version }
  | .settled => { value with status := .settled, settlementStatus := .settled, version := version }
  | .executionFailed =>
    { value with status := .executionReviewRequired, settlementStatus := .unknown, version := version }

def consumeExternalEvent : Except FunderError Outcome :=
  match db.inboxEvents.find? fun row ↦
      row.sourceApplication == event.sourceApplication && row.eventId == event.eventId with
  | some _ => .ok (.duplicateIgnored event.eventId, none)
  | none => do
    let inbox := newInbox call event signedPayloadHash
    let value ← commitmentModel db event.tenantId event.aggregateId
    match event.aggregateVersion with
    | none => .error .valueError
    | some version =>
      if version ≤ value.version then
        return (.staleVersionIgnored event.eventId, some { inboxEvents := [.insert inbox] })
      else
        return (.processed event.eventId value.id, some
          { commitments := [.update (value.follow event version)], inboxEvents := [.insert inbox] })

end Operations

/-! ## The machine -/

section Machine

variable (rounding : Rounding) (sha256 : String → String)

def serve (db : FunderDb) (call : FunderCall) : Except FunderError Outcome :=
  match call.request with
  | .createApplication tenantId body => createApplication rounding db call tenantId body
  | .reviewApplication tenantId applicationId expectedVersion body =>
    reviewApplication db tenantId applicationId expectedVersion body
  | .issueOffer tenantId applicationId expectedVersion body =>
    issueOffer rounding db call tenantId applicationId expectedVersion body
  | .reserveOffer tenantId offerId body => reserveOffer rounding db call tenantId offerId body
  | .releaseReservation tenantId reservationId expectedVersion =>
    releaseReservation db call tenantId reservationId expectedVersion
  | .prepareCommitment tenantId reservationId body =>
    prepareCommitment sha256 db call tenantId reservationId body
  | .confirmCommitment tenantId commitmentId body => confirmCommitment db call tenantId commitmentId body
  | .transitionProgram tenantId programId expectedVersion action =>
    transitionProgram db tenantId programId expectedVersion action
  | .getExposure tenantId msmeId => .ok (getExposure db call tenantId msmeId)
  | .consumeExternalEvent event signedPayloadHash => consumeExternalEvent db call event signedPayloadHash

/-- The sessions of the marketplace. -/
def sessions : Service FunderDb FunderCall FunderAnswer FunderError Writes where
  serve := serve rounding sha256
  refused := FunderCall.refused
  accepted := Writes.accepted
  apply := Writes.apply
  integrity := .integrity

/-- The marketplace, one call after the other. -/
def marketplace : Machine FunderDb FunderCall (Except FunderError FunderAnswer) :=
  (sessions rounding sha256).machine

end Machine

end Xyena.Funder
