import Xyena.Bank.Models
import Xyena.Foundation.Calendar
import Xyena.Foundation.JsonText

/-!
# The tables of the business registry

The rows of `demos/business-registry/business_registry/models.py` that the
registry workflows look up or change, with their primary keys and unique
columns, and the rows that one session writes. A date is the number of days
since the first day of year 1. Columns that the database fills with its clock
are left out, and so is what is only shown: the PAN token, and the rows of
names, addresses, audit and outbox events.
-/

namespace Xyena.Businesses

open Xyena.Foundation
open Xyena.Bank (tenantClash tenantClash_symm)

/-! ## Rows -/

inductive BusinessType where
  | proprietorship
  | partnership
  | llp
  | company
  | other
deriving DecidableEq, Repr

def BusinessType.value : BusinessType → String
  | .proprietorship => "PROPRIETORSHIP"
  | .partnership => "PARTNERSHIP"
  | .llp => "LLP"
  | .company => "COMPANY"
  | .other => "OTHER"

inductive MsmeClassification where
  | micro
  | small
  | medium
deriving DecidableEq, Repr

def MsmeClassification.value : MsmeClassification → String
  | .micro => "MICRO"
  | .small => "SMALL"
  | .medium => "MEDIUM"

inductive BusinessStatus where
  | pendingReview
  | active
  | suspended
  | dissolved
  | rejected
deriving DecidableEq, Repr

def BusinessStatus.value : BusinessStatus → String
  | .pendingReview => "PENDING_REVIEW"
  | .active => "ACTIVE"
  | .suspended => "SUSPENDED"
  | .dissolved => "DISSOLVED"
  | .rejected => "REJECTED"

structure Business where
  id : String
  tenantId : String
  businessId : String
  registryNumber : String
  businessType : BusinessType
  legalName : String
  tradeName : Option String
  incorporationDate : Nat
  status : BusinessStatus
  registeredStateCode : String
  registeredAddress : List (String × String)
  industryCode : Option String
  msmeClassification : Option MsmeClassification
  primaryGstin : Option String
  riskFlags : List String
  sourceHash : String
  version : Nat
  createdBy : String
  updatedBy : String
deriving DecidableEq, Repr

/-- The fields that a change request proposes. -/
structure Patch where
  legalName : Option String := none
  tradeName : Option String := none
  registeredAddress : Option (List (String × String)) := none
  industryCode : Option String := none
  msmeClassification : Option MsmeClassification := none
  primaryGstin : Option String := none
deriving DecidableEq, Repr

inductive ChangeStatus where
  | submitted
  | approved
  | rejected
deriving DecidableEq, Repr

structure ChangeRequest where
  id : String
  tenantId : String
  businessId : String
  targetVersion : Nat
  requestedPatch : Patch
  reason : String
  status : ChangeStatus
  requestedBy : String
  reviewedBy : Option String := none
  decisionReason : Option String := none
  appliedVersion : Option Nat := none
deriving DecidableEq, Repr

structure RegistryDb where
  businesses : List Business := []
  changes : List ChangeRequest := []

/-! ## Keys and unique columns -/

/-- Two businesses of one tenant with one GSTIN. -/
def gstinClash (first second : Business) : Bool :=
  first.primaryGstin.isSome && first.tenantId == second.tenantId &&
    first.primaryGstin == second.primaryGstin

theorem gstinClash_symm (first second : Business) : gstinClash first second = gstinClash second first := by
  rw [gstinClash, gstinClash, Bool.beq_comm (a := first.tenantId), Bool.beq_comm (a := first.primaryGstin)]
  cases hfirst : first.primaryGstin <;> cases hsecond : second.primaryGstin <;> simp

def businessConstraints : Constraints Business String where
  key := Business.id
  clash first second :=
    tenantClash Business.tenantId Business.registryNumber first second ||
      tenantClash Business.tenantId Business.businessId first second || gstinClash first second
  clash_symm first second := by
    rw [tenantClash_symm, tenantClash_symm Business.tenantId Business.businessId, gstinClash_symm]

def changeConstraints : Constraints ChangeRequest String where
  key := ChangeRequest.id

/-! ## What a session writes -/

structure Writes where
  businesses : List (RowWrite Business) := []
  changes : List (RowWrite ChangeRequest) := []

def Writes.apply (writes : Writes) (db : RegistryDb) : RegistryDb where
  businesses := RowWrite.applyAll businessConstraints db.businesses writes.businesses
  changes := RowWrite.applyAll changeConstraints db.changes writes.changes

/-- Whether the keys and unique columns of the tables admit the rows. -/
structure Writes.Accepted (writes : Writes) (db : RegistryDb) : Prop where
  businesses : RowWrite.acceptedAll businessConstraints db.businesses writes.businesses = true
  changes : RowWrite.acceptedAll changeConstraints db.changes writes.changes = true

def Writes.accepted (writes : Writes) (db : RegistryDb) : Bool :=
  RowWrite.acceptedAll businessConstraints db.businesses writes.businesses &&
    RowWrite.acceptedAll changeConstraints db.changes writes.changes

theorem Writes.accepted_iff {writes : Writes} {db : RegistryDb} :
    writes.accepted db = true ↔ writes.Accepted db := by
  rw [Writes.accepted, Bool.and_eq_true]
  exact ⟨fun h ↦ ⟨h.1, h.2⟩, fun h ↦ ⟨h.businesses, h.changes⟩⟩

structure RegistryDb.WellKeyed (db : RegistryDb) : Prop where
  businesses : businessConstraints.Meets db.businesses
  changes : changeConstraints.Meets db.changes

theorem RegistryDb.WellKeyed.apply {db : RegistryDb} {writes : Writes} (h : db.WellKeyed)
    (haccepted : writes.Accepted db) : (writes.apply db).WellKeyed where
  businesses := RowWrite.meets_applyAll h.businesses haccepted.businesses
  changes := RowWrite.meets_applyAll h.changes haccepted.changes

end Xyena.Businesses
