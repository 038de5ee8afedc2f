import Xyena.Businesses.Models
import Xyena.Foundation.Session

/-!
# The workflows of the business registry

`create_business`, `transition_status`, `create_change_request` and
`decide_change` of `demos/business-registry/business_registry/service.py` with
the request bodies of `schemas.py`, check by check and with the same texts. A
query with a limit but no order may return any of the rows that it selects:
which one is an input of the call. Every call runs in a transaction of its own.
Lengths and patterns of texts that no lookup depends on are left out.
-/

namespace Xyena.Businesses

open Xyena.Foundation Xyena.Foundation.Session

/-! ## Requests -/

/-- The user of a browser session. -/
structure BrowserScope where
  tenantId : String
  userId : String
  roles : List String

def lowerDigit (char : Char) : Bool := char.isLower || char.isDigit

def upperDigit (char : Char) : Bool := char.isUpper || char.isDigit

/-- Six to forty capital letters, digits, slashes and hyphens. -/
def registryNumberForm (text : String) : Bool :=
  decide (6 ≤ text.length ∧ text.length ≤ 40) &&
    text.toList.all fun char ↦ upperDigit char || char == '/' || char == '-'

/-- Six to eighty small letters, digits, underscores and hyphens. -/
def businessIdForm (text : String) : Bool :=
  decide (6 ≤ text.length ∧ text.length ≤ 80) &&
    text.toList.all fun char ↦ lowerDigit char || char == '_' || char == '-'

/-- Fifteen capital letters and digits. -/
def gstinForm (text : String) : Bool := decide (text.length = 15) && text.toList.all upperDigit

structure BusinessCreate where
  registryNumber : String
  businessId : String
  businessType : BusinessType
  legalName : String
  tradeName : Option String := none
  incorporationDate : Nat
  registeredStateCode : String
  addressLine1 : String
  city : String
  postalCode : String
  industryCode : Option String := none
  msmeClassification : Option MsmeClassification := none
  primaryGstin : Option String := none
  registryNumber_form : registryNumberForm registryNumber = true
  businessId_form : businessIdForm businessId = true
  primaryGstin_form : ∀ gstin ∈ primaryGstin, gstinForm gstin = true

structure StatusTransition where
  targetStatus : BusinessStatus
  reason : String
  targetStatus_listed : targetStatus ≠ .pendingReview

structure ChangeRequestCreate where
  targetVersion : Int
  patch : Patch
  reason : String
  targetVersion_pos : 1 ≤ targetVersion
  primaryGstin_form : ∀ gstin ∈ patch.primaryGstin, gstinForm gstin = true

inductive Request where
  | createBusiness (scope : BrowserScope) (body : BusinessCreate)
  | transitionStatus (scope : BrowserScope) (businessId : String) (body : StatusTransition)
      (expectedVersion : Int)
  | createChangeRequest (scope : BrowserScope) (businessId : String) (body : ChangeRequestCreate)
  | decideChange (scope : BrowserScope) (changeId : String) (approve : Bool) (decisionReason : String)

/-- One call of the registry with the identifiers that it draws, the date of today, and which of the rows
that a lookup selects the database returns. `refused` says whether the database refuses the rows of the
call for a reason outside its keys. -/
structure RegistryCall where
  request : Request
  uuid : Nat → String
  today : Nat
  choice : Nat := 0
  refused : Bool := false

inductive RegistryError where
  | authorization (text : String)
  | notFound (text : String)
  | conflict (text : String)
  | domain (text : String)
  | missingKey (key : String)
  | integrity
deriving DecidableEq, Repr

inductive RegistryAnswer where
  | business (row : Business)
  | change (row : ChangeRequest)

abbrev Outcome := RegistryAnswer × Option Writes

/-- SHA-256 and `str.upper`. -/
structure RegistryPlatform where
  sha256 : String → String
  upper : String → String

/-! ## Hashes -/

def canonicalHash (platform : RegistryPlatform) (value : Json) : String := platform.sha256 (value.dumps true)

def textFields (fields : List (String × String)) : Json := .obj (fields.map fun field ↦ (field.1, .str field.2))

/-- What `_identity_hash` hashes. -/
def identity (row : Business) : Json :=
  .obj
    [("id", .str row.id),
      ("tenant_id", .str row.tenantId),
      ("business_id", .str row.businessId),
      ("registry_number", .str row.registryNumber),
      ("business_type", .str row.businessType.value),
      ("legal_name", .str row.legalName),
      ("trade_name", .ofOption row.tradeName),
      ("incorporation_date", .str (Calendar.dateText row.incorporationDate)),
      ("status", .str row.status.value),
      ("registered_state_code", .str row.registeredStateCode),
      ("registered_address", textFields row.registeredAddress),
      ("industry_code", .ofOption row.industryCode),
      ("msme_classification", .ofOption (row.msmeClassification.map MsmeClassification.value)),
      ("primary_gstin", .ofOption row.primaryGstin),
      ("risk_flags", .strings row.riskFlags),
      ("version", .int row.version)]

/-- The request as `create_business` hashes it. -/
def BusinessCreate.dump (body : BusinessCreate) : Json :=
  .obj
    [("registry_number", .str body.registryNumber),
      ("business_id", .str body.businessId),
      ("business_type", .str body.businessType.value),
      ("legal_name", .str body.legalName),
      ("trade_name", .ofOption body.tradeName),
      ("incorporation_date", .str (Calendar.dateText body.incorporationDate)),
      ("registered_state_code", .str body.registeredStateCode),
      ("address_line1", .str body.addressLine1),
      ("city", .str body.city),
      ("postal_code", .str body.postalCode),
      ("industry_code", .ofOption body.industryCode),
      ("msme_classification", .ofOption (body.msmeClassification.map MsmeClassification.value)),
      ("primary_gstin", .ofOption body.primaryGstin)]

def Business.rehash (platform : RegistryPlatform) (row : Business) : Business :=
  { row with sourceHash := canonicalHash platform (identity row) }

/-! ## Lookups -/

def requireRole (scope : BrowserScope) (role : String) : Except RegistryError Unit :=
  ensure (scope.roles.contains role) (.authorization "This account is not permitted to perform that action.")

section Operations

variable (platform : RegistryPlatform) (db : RegistryDb) (call : RegistryCall) (scope : BrowserScope)

/-- The condition of the query in `_business`. -/
def matchesIdentifier (tenantId identifier : String) (row : Business) : Bool :=
  row.tenantId == tenantId &&
    (row.id == identifier || row.businessId == identifier || row.registryNumber == identifier ||
      row.primaryGstin == some (platform.upper identifier))

/-- `_business`: one of the rows that the query selects. -/
def business (identifier : String) : Except RegistryError Business :=
  let rows := db.businesses.filter (matchesIdentifier platform scope.tenantId identifier)
  match rows[call.choice % rows.length]? with
  | some row => .ok row
  | none => .error (.notFound "Business record was not found in the tenant scope.")

/-! ## Creation and review -/

def newBusiness (body : BusinessCreate) : Business where
  id := call.uuid 0
  tenantId := scope.tenantId
  businessId := body.businessId
  registryNumber := body.registryNumber
  businessType := body.businessType
  legalName := body.legalName
  tradeName := body.tradeName
  incorporationDate := body.incorporationDate
  status := .pendingReview
  registeredStateCode := body.registeredStateCode
  registeredAddress :=
    [("line1", body.addressLine1), ("city", body.city), ("state_code", body.registeredStateCode),
      ("postal_code", body.postalCode), ("country", "IN")]
  industryCode := body.industryCode
  msmeClassification := body.msmeClassification
  primaryGstin := body.primaryGstin
  riskFlags := ["PENDING_IDENTITY_REVIEW"]
  sourceHash := canonicalHash platform body.dump
  version := 1
  createdBy := scope.userId
  updatedBy := scope.userId

def createBusiness (body : BusinessCreate) : Except RegistryError Outcome := do
  requireRole scope "REGISTRY_OPERATOR"
  ensure (decide (body.incorporationDate ≤ call.today))
    (.domain "Incorporation date cannot be in the future.")
  ensure (!db.businesses.any fun row ↦ row.tenantId == scope.tenantId &&
      (row.registryNumber == body.registryNumber || row.businessId == body.businessId))
    (.conflict "The registry number or business ID already exists.")
  let row := newBusiness platform call scope body
  return (.business row, some { businesses := [.insert row] })

/-- The statuses that a review may lead to. -/
def allowed : BusinessStatus → List BusinessStatus
  | .pendingReview => [.active, .rejected]
  | .active => [.suspended, .dissolved]
  | .suspended => [.active, .dissolved]
  | .dissolved => []
  | .rejected => []

/-- The flags of a record after a review. -/
def reviewFlags (flags : List String) (target : BusinessStatus) : List String :=
  let kept := flags.filter (· != "PENDING_IDENTITY_REVIEW")
  if target ∈ [.suspended, .dissolved, .rejected] then
    (kept ++ ["REGISTRY_" ++ target.value]).dedup.insertionSort (· ≤ ·)
  else kept

def Business.transition (row : Business) (target : BusinessStatus) (reviewer : String) : Business :=
  Business.rehash platform
    { row with
      status := target
      version := row.version + 1
      updatedBy := reviewer
      riskFlags := reviewFlags row.riskFlags target }

def transitionStatus (businessId : String) (body : StatusTransition) (expectedVersion : Int) :
    Except RegistryError Outcome := do
  requireRole scope "REGISTRY_REVIEWER"
  let row ← business platform db call scope businessId
  ensure ((row.version : Int) == expectedVersion)
    (.conflict "The business record changed. Reload it before review.")
  ensure ((allowed row.status).contains body.targetStatus)
    (.conflict ("A " ++ row.status.value ++ " record cannot move to " ++ body.targetStatus.value ++ "."))
  let moved := Business.transition platform row body.targetStatus scope.userId
  return (.business moved, some { businesses := [.update moved] })

/-! ## Change requests -/

/-- Whether no field is proposed. -/
def Patch.isEmpty (patch : Patch) : Bool :=
  patch.legalName.isNone && patch.tradeName.isNone && patch.registeredAddress.isNone &&
    patch.industryCode.isNone && patch.msmeClassification.isNone && patch.primaryGstin.isNone

def requiredAddress : List String := ["line1", "city", "state_code", "postal_code", "country"]

def newChange (row : Business) (body : ChangeRequestCreate) : ChangeRequest where
  id := call.uuid 0
  tenantId := scope.tenantId
  businessId := row.id
  targetVersion := row.version
  requestedPatch := body.patch
  reason := body.reason
  status := .submitted
  requestedBy := scope.userId

def createChangeRequest (businessId : String) (body : ChangeRequestCreate) :
    Except RegistryError Outcome := do
  requireRole scope "REGISTRY_OPERATOR"
  let row ← business platform db call scope businessId
  ensure (row.status == .active || row.status == .suspended)
    (.conflict "Changes can only be proposed for active or suspended records.")
  ensure (body.targetVersion == (row.version : Int)) (.conflict "The target business version is stale.")
  ensure (!body.patch.isEmpty) (.domain "At least one identity field must be proposed.")
  ensure (body.patch.registeredAddress.all fun address ↦
      requiredAddress.all (address.map Prod.fst).contains)
    (.domain "The proposed registered address is incomplete.")
  let change := newChange call scope row body
  return (.change change, some { changes := [.insert change] })

/-! ## Decisions -/

/-- The fields of a patch that are set one by one. -/
def Business.assign (row : Business) (patch : Patch) : Business :=
  { row with
    legalName := patch.legalName.getD row.legalName
    tradeName := patch.tradeName <|> row.tradeName
    industryCode := patch.industryCode <|> row.industryCode
    msmeClassification := patch.msmeClassification <|> row.msmeClassification
    primaryGstin := patch.primaryGstin <|> row.primaryGstin }

/-- The registered address of a patch brings its state code along. -/
def Business.relocate (row : Business) : Option (List (String × String)) → Except RegistryError Business
  | none => .ok row
  | some address =>
    match address.lookup "state_code" with
    | none => .error (.missingKey "state_code")
    | some stateCode =>
      .ok
        { row with
          registeredAddress := address
          registeredStateCode := stateCode }

/-- The business with the patch of an approved request. -/
def Business.patch (row : Business) (patch : Patch) (reviewer : String) : Except RegistryError Business := do
  let relocated ← (row.assign patch).relocate patch.registeredAddress
  return Business.rehash platform
    { relocated with
      version := relocated.version + 1
      updatedBy := reviewer }

def ChangeRequest.decide (change : ChangeRequest) (status : ChangeStatus) (reviewer reason : String)
    (appliedVersion : Option Nat) : ChangeRequest :=
  { change with
    status := status
    reviewedBy := some reviewer
    decisionReason := some reason
    appliedVersion := appliedVersion }

def decideChange (changeId : String) (approve : Bool) (decisionReason : String) :
    Except RegistryError Outcome := do
  requireRole scope "REGISTRY_REVIEWER"
  match db.changes.find? fun row ↦ row.id == changeId && row.tenantId == scope.tenantId with
  | none => .error (.notFound "Change request was not found.")
  | some change =>
    ensure (change.status == .submitted) (.conflict "Only a submitted change request can be decided.")
    let row ← business platform db call scope change.businessId
    if approve then
      ensure (row.version == change.targetVersion)
        (.conflict "The business changed after this request was submitted.")
      ensure (!change.requestedPatch.primaryGstin.any fun gstin ↦ db.businesses.any fun other ↦
          other.tenantId == scope.tenantId && other.primaryGstin == some gstin && other.id != row.id)
        (.conflict "The proposed GSTIN belongs to another business record.")
      let patched ← Business.patch platform row change.requestedPatch scope.userId
      let decided := change.decide .approved scope.userId decisionReason (some patched.version)
      return (.change decided, some { businesses := [.update patched], changes := [.update decided] })
    else
      let decided := change.decide .rejected scope.userId decisionReason change.appliedVersion
      return (.change decided, some { changes := [.update decided] })

end Operations

/-! ## The machine -/

section Machine

variable (platform : RegistryPlatform)

def serve (db : RegistryDb) (call : RegistryCall) : Except RegistryError Outcome :=
  match call.request with
  | .createBusiness scope body => createBusiness platform db call scope body
  | .transitionStatus scope businessId body expectedVersion =>
    transitionStatus platform db call scope businessId body expectedVersion
  | .createChangeRequest scope businessId body => createChangeRequest platform db call scope businessId body
  | .decideChange scope changeId approve decisionReason =>
    decideChange platform db call scope changeId approve decisionReason

def sessions : Service RegistryDb RegistryCall RegistryAnswer RegistryError Writes where
  serve := serve platform
  refused := RegistryCall.refused
  accepted := Writes.accepted
  apply := Writes.apply
  integrity := .integrity

/-- The registry, one call after the other. -/
def registry : Machine RegistryDb RegistryCall (Except RegistryError RegistryAnswer) :=
  (sessions platform).machine

end Machine

end Xyena.Businesses
