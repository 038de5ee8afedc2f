import Xyena.Bank.Models

/-!
# The tables of the funder marketplace

The rows of `demos/funder-marketplace/funder_demo/models.py` with their primary
keys and unique columns, and the rows that one session writes. Amounts count
hundredths and rates are rational numbers. The columns that only the dashboard
shows, such as the pricing model of a program or the hash of an offer, are read
by no operation and are left out, and so are the audit and outbox rows.
-/

namespace Xyena.Funder

open Xyena.Foundation Xyena.Contracts
open Xyena.Bank (tenantClash tenantClash_symm)

/-! ## Rows -/

inductive ProgramStatus where
  | draft
  | active
  | suspended
  | closed
deriving DecidableEq, Repr

def ProgramStatus.value : ProgramStatus → String
  | .draft => "DRAFT"
  | .active => "ACTIVE"
  | .suspended => "SUSPENDED"
  | .closed => "CLOSED"

structure FundingProgram where
  id : String
  tenantId : String
  funderId : String
  programCode : String
  minimumAmount : Int
  maximumAmount : Int
  totalCapacity : Int
  reservedCapacity : Int := 0
  committedCapacity : Int := 0
  advanceRateMaximum : Rat
  tenorMinimumDays : Int
  tenorMaximumDays : Int
  eligibleRegions : List String
  eligibleIndustries : List String
  status : ProgramStatus
  policyVersion : Int := 1
  version : Int := 1
deriving DecidableEq, Repr

/-- Why a program does not finance an application. -/
inductive EligibilityReason where
  | amountOutsideProgram
  | programCapacityUnavailable
  | tenorOutsideProgram
  | regionNotEligible
  | industryNotEligible
deriving DecidableEq, Repr

structure EligibilityResult where
  programId : String
  eligible : Bool
  reasonCodes : List EligibilityReason
  policyVersion : Int
deriving DecidableEq, Repr

inductive ApplicationStatus where
  | received
  | eligibilityChecked
  | underReview
  | approved
  | declined
deriving DecidableEq, Repr

structure FundingApplication where
  id : String
  tenantId : String
  caseId : String
  msmeId : String
  msmeName : String
  receivableId : String
  requestedAmount : Int
  currency : String := "INR"
  tenorDays : Int
  region : String
  industry : String
  evidenceReceiptIds : List String
  exposureSnapshotReference : String
  exposureAmount : Int := 0
  eligibilityResults : List EligibilityResult := []
  status : ApplicationStatus
  submittedAt : Time
  reviewedBy : Option String := none
  version : Int := 1
deriving DecidableEq, Repr

inductive OfferStatus where
  | issued
  | reserved
  | expired
deriving DecidableEq, Repr

structure FundingOffer where
  id : String
  tenantId : String
  applicationId : String
  funderId : String
  programId : String
  approvedAmount : Int
  advanceRate : Rat
  annualRate : Rat
  feeAmount : Int
  tenorDays : Int
  repaymentTerms : String
  conditions : List String
  expiresAt : Time
  status : OfferStatus
  version : Int := 1
deriving DecidableEq, Repr

inductive ReservationStatus where
  | active
  | released
  | committed
deriving DecidableEq, Repr

structure OfferReservation where
  id : String
  tenantId : String
  offerId : String
  programId : String
  reservedAmount : Int
  caseId : String
  msmeId : String
  expiresAt : Time
  idempotencyKey : String
  status : ReservationStatus
  releaseReference : Option String := none
  commitReference : Option String := none
  version : Int := 1
deriving DecidableEq, Repr

inductive CommitmentStatus where
  | prepared
  | committed
  | disbursed
  | settled
  | executionReviewRequired
deriving DecidableEq, Repr

inductive SettlementStatus where
  | pending
  | settled
  | unknown
deriving DecidableEq, Repr

structure FundingCommitment where
  id : String
  tenantId : String
  reservationId : String
  committedAmount : Int
  guardianAuthorizationId : Option String := none
  actionHash : String
  destinationToken : String
  status : CommitmentStatus
  executionReference : Option String := none
  ledgerReference : Option String := none
  settlementStatus : SettlementStatus := .pending
  version : Int := 1
deriving DecidableEq, Repr

inductive SourceApplication where
  | demoBank
  | demoLedger
deriving DecidableEq, Repr

inductive EventType where
  | disbursed
  | executionFailed
  | settled
deriving DecidableEq, Repr

/-- A consumed event. A session that commits it has processed it. -/
structure InboxEvent where
  id : String
  sourceApplication : SourceApplication
  eventId : String
  eventType : EventType
  tenantId : String
  processedAt : Time
  payloadHash : String
deriving DecidableEq, Repr

/-- The tables of the marketplace that its operations read. -/
structure FunderDb where
  programs : List FundingProgram := []
  applications : List FundingApplication := []
  offers : List FundingOffer := []
  reservations : List OfferReservation := []
  commitments : List FundingCommitment := []
  inboxEvents : List InboxEvent := []

/-! ## Keys and unique columns -/

def programConstraints : Constraints FundingProgram String where
  key := FundingProgram.id
  clash := tenantClash FundingProgram.tenantId FundingProgram.programCode
  clash_symm := tenantClash_symm _ _

def applicationConstraints : Constraints FundingApplication String where
  key := FundingApplication.id

def offerConstraints : Constraints FundingOffer String where
  key := FundingOffer.id

def reservationConstraints : Constraints OfferReservation String where
  key := OfferReservation.id
  clash := tenantClash OfferReservation.tenantId OfferReservation.idempotencyKey
  clash_symm := tenantClash_symm _ _

def commitmentConstraints : Constraints FundingCommitment String where
  key := FundingCommitment.id
  clash first second := first.reservationId == second.reservationId
  clash_symm _ _ := Bool.beq_comm

def inboxConstraints : Constraints InboxEvent String where
  key := InboxEvent.id
  clash first second :=
    first.sourceApplication == second.sourceApplication && first.eventId == second.eventId
  clash_symm first second := by
    rw [Bool.beq_comm, Bool.beq_comm (a := first.eventId)]

/-! ## What a session writes -/

/-- The rows that a session has added or changed. -/
structure Writes where
  programs : List (RowWrite FundingProgram) := []
  applications : List (RowWrite FundingApplication) := []
  offers : List (RowWrite FundingOffer) := []
  reservations : List (RowWrite OfferReservation) := []
  commitments : List (RowWrite FundingCommitment) := []
  inboxEvents : List (RowWrite InboxEvent) := []

def Writes.apply (writes : Writes) (db : FunderDb) : FunderDb where
  programs := RowWrite.applyAll programConstraints db.programs writes.programs
  applications := RowWrite.applyAll applicationConstraints db.applications writes.applications
  offers := RowWrite.applyAll offerConstraints db.offers writes.offers
  reservations := RowWrite.applyAll reservationConstraints db.reservations writes.reservations
  commitments := RowWrite.applyAll commitmentConstraints db.commitments writes.commitments
  inboxEvents := RowWrite.applyAll inboxConstraints db.inboxEvents writes.inboxEvents

/-- Whether the keys and unique columns of the tables admit the rows. -/
def Writes.accepted (writes : Writes) (db : FunderDb) : Bool :=
  RowWrite.acceptedAll programConstraints db.programs writes.programs &&
  RowWrite.acceptedAll applicationConstraints db.applications writes.applications &&
  RowWrite.acceptedAll offerConstraints db.offers writes.offers &&
  RowWrite.acceptedAll reservationConstraints db.reservations writes.reservations &&
  RowWrite.acceptedAll commitmentConstraints db.commitments writes.commitments &&
  RowWrite.acceptedAll inboxConstraints db.inboxEvents writes.inboxEvents

structure Writes.Accepted (writes : Writes) (db : FunderDb) : Prop where
  programs : RowWrite.acceptedAll programConstraints db.programs writes.programs = true
  applications : RowWrite.acceptedAll applicationConstraints db.applications writes.applications = true
  offers : RowWrite.acceptedAll offerConstraints db.offers writes.offers = true
  reservations :
    RowWrite.acceptedAll reservationConstraints db.reservations writes.reservations = true
  commitments : RowWrite.acceptedAll commitmentConstraints db.commitments writes.commitments = true
  inboxEvents : RowWrite.acceptedAll inboxConstraints db.inboxEvents writes.inboxEvents = true

theorem Writes.accepted_iff {writes : Writes} {db : FunderDb} :
    writes.accepted db = true ↔ writes.Accepted db := by
  simp only [Writes.accepted, Bool.and_eq_true]
  constructor
  · rintro ⟨⟨⟨⟨⟨h₁, h₂⟩, h₃⟩, h₄⟩, h₅⟩, h₆⟩
    exact ⟨h₁, h₂, h₃, h₄, h₅, h₆⟩
  · rintro ⟨h₁, h₂, h₃, h₄, h₅, h₆⟩
    exact ⟨⟨⟨⟨⟨h₁, h₂⟩, h₃⟩, h₄⟩, h₅⟩, h₆⟩

/-! ## Tables that meet their constraints -/

/-- The declared keys and unique columns hold in all tables. -/
structure FunderDb.WellKeyed (db : FunderDb) : Prop where
  programs : programConstraints.Meets db.programs
  applications : applicationConstraints.Meets db.applications
  offers : offerConstraints.Meets db.offers
  reservations : reservationConstraints.Meets db.reservations
  commitments : commitmentConstraints.Meets db.commitments
  inboxEvents : inboxConstraints.Meets db.inboxEvents

/-- A commit keeps the keys and unique columns. -/
theorem FunderDb.WellKeyed.apply {db : FunderDb} {writes : Writes} (h : db.WellKeyed)
    (haccepted : writes.Accepted db) : (writes.apply db).WellKeyed where
  programs := RowWrite.meets_applyAll h.programs haccepted.programs
  applications := RowWrite.meets_applyAll h.applications haccepted.applications
  offers := RowWrite.meets_applyAll h.offers haccepted.offers
  reservations := RowWrite.meets_applyAll h.reservations haccepted.reservations
  commitments := RowWrite.meets_applyAll h.commitments haccepted.commitments
  inboxEvents := RowWrite.meets_applyAll h.inboxEvents haccepted.inboxEvents

end Xyena.Funder
