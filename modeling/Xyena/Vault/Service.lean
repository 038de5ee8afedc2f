import Xyena.Contracts.Tools
import Xyena.Foundation.Interleaving
import Xyena.Foundation.OrderBy
import Xyena.Foundation.Session

/-!
# The data vault

`DataVaultService` of `packages/data_vault/service.py` with `ObjectStore` of
`object_store.py`. A call reads its rows at its begin, asks the object store while
its transaction is open, and stores only the columns that it has assigned. What a
call draws, its clock and the clock of the database are inputs, and the object
store answers as it likes.
-/

namespace Xyena.Vault

open Xyena.Foundation Xyena.Foundation.Session Xyena.Contracts

/-! ## Rows -/

inductive ObjectStatus where
  | pendingUpload
  | active
  | deleted
deriving DecidableEq, Repr

structure AuthenticatedPrincipal where
  tenantId : Uuid
  organizationId : Uuid
  userId : Uuid

structure DataObject where
  id : Uuid
  tenantId : Uuid
  organizationId : Uuid
  ownerUserId : Uuid
  objectKey : String
  displayName : String
  mediaType : String
  sizeBytes : Nat
  contentHash : String
  classification : String
  schemaName : Option String
  attributes : Dict
  status : ObjectStatus
  version : Nat := 1
  deletedAt : Option Time := none
  createdAt : Time

structure DataGrant where
  id : Uuid
  tenantId : Uuid
  dataObjectId : Uuid
  grantorUserId : Uuid
  granteeType : String
  granteeId : String
  purposes : List String
  permissions : List String
  status : String := "ACTIVE"
  expiresAt : Option Time

structure DataAccessEvent where
  id : Uuid
  tenantId : Uuid
  dataObjectId : Uuid
  actorType : String := "USER"
  actorId : String
  purpose : String
  action : String
  correlationId : Uuid
  outcome : String := "SUCCEEDED"

structure VaultDb where
  objects : List DataObject := []
  grants : List DataGrant := []
  events : List DataAccessEvent := []

/-- An added object, or the columns of a stored one that a call has assigned. -/
inductive ObjectWrite where
  | insert (row : DataObject)
  | assign (id : Uuid) (status : ObjectStatus) (version : Nat) (deletedAt : Option Time)

/-- The rows of a session, which writes at most one object. -/
structure Writes where
  object : Option ObjectWrite := none
  grants : List DataGrant := []
  events : List DataAccessEvent := []

/-- Two objects of one tenant with one key, or with one identifier. -/
def DataObject.clashes (first second : DataObject) : Bool :=
  first.id == second.id || first.tenantId == second.tenantId && first.objectKey == second.objectKey

def ObjectWrite.accepted (rows : List DataObject) : ObjectWrite → Bool
  | .insert row => rows.all fun old ↦ !row.clashes old
  | .assign .. => true

def assigned (id : Uuid) (status : ObjectStatus) (version : Nat) (deletedAt : Option Time)
    (row : DataObject) : DataObject :=
  if row.id == id then
    { row with status := status, version := version, deletedAt := deletedAt.or row.deletedAt }
  else row

def ObjectWrite.apply (rows : List DataObject) : ObjectWrite → List DataObject
  | .insert row => rows ++ [row]
  | .assign id status version deletedAt => rows.map (assigned id status version deletedAt)

/-- Whether the constraints of the tables admit the rows. -/
def Writes.accepted (writes : Writes) (db : VaultDb) : Bool :=
  writes.object.all (ObjectWrite.accepted db.objects) &&
  writes.grants.all (fun row ↦ db.grants.all fun old ↦ row.id != old.id) &&
  writes.events.all fun row ↦ db.events.all fun old ↦ row.id != old.id

def Writes.apply (writes : Writes) (db : VaultDb) : VaultDb where
  objects := writes.object.elim db.objects (ObjectWrite.apply db.objects)
  grants := db.grants ++ writes.grants
  events := db.events ++ writes.events

/-! ## Calls -/

structure DataUploadRequest where
  displayName : String
  mediaType : String
  sizeBytes : Nat
  contentHash : String
  classification : String
  schemaName : Option String := none
  metadata : Dict := []

structure DataObjectRegisterRequest extends DataUploadRequest where
  objectKey : String

structure DataGrantCreateRequest where
  granteeType : String
  granteeId : String
  purposes : List String
  permissions : List String
  expiresAt : Option Time := none

inductive Request where
  | initiateUpload (body : DataUploadRequest)
  | completeUpload (objectId : Uuid)
  | downloadTicket (objectId : Uuid)
  | register (body : DataObjectRegisterRequest)
  | list
  | get (objectId : Uuid)
  | createGrant (objectId : Uuid) (body : DataGrantCreateRequest)
  | delete (objectId : Uuid)

structure VaultCall where
  principal : AuthenticatedPrincipal
  request : Request
  correlationId : Uuid
  uuid : Nat → Uuid
  now : Time
  stamp : Time

/-! ## The object store -/

inductive StoreRequest where
  | putUrl (key mediaType sha256 : String) (expires : Nat)
  | head (key : String)
  | getUrl (key : String) (expires : Nat)
  | deleteObject (key : String)

def StoreRequest.key : StoreRequest → String
  | putUrl key .. => key
  | head key => key
  | getUrl key _ => key
  | deleteObject key => key

/-- What the store tells of an object. -/
structure Head where
  contentLength : Option Int
  sha256 : Option String

inductive StoreFailure where
  /-- Object storage is not configured. -/
  | unavailable
  | other
deriving DecidableEq, Repr

def Reply : StoreRequest → Type
  | .putUrl .. => Except StoreFailure String
  | .head _ => Except StoreFailure Head
  | .getUrl .. => Except StoreFailure String
  | .deleteObject _ => Except StoreFailure Unit

inductive VaultError where
  | lookup
  | permission (text : String)
  | value (text : String)
  | store (failure : StoreFailure)
  | integrity
deriving DecidableEq, Repr

structure UploadTicket where
  url : String
  requiredHeaders : List (String × String)
  expiresInSeconds : Nat

inductive VaultAnswer where
  | object (row : DataObject)
  | upload (row : DataObject) (ticket : UploadTicket)
  | url (text : String)
  | objects (rows : List DataObject)
  | grant (row : DataGrant)
  | done

abbrev Outcome := VaultAnswer × Option Writes

/-- What a call does with the store before it returns or raises. -/
abbrev Operation (α : Type) := Program StoreRequest Reply (Except VaultError α)

/-- Ask the store and go on with what it has returned. -/
def Operation.after {α β : Type} (first : Operation α) (next : α → Except VaultError β) : Operation β :=
  first.bind fun result ↦ .ret (result.bind next)

/-- `presign_upload`. -/
def presignUpload (key mediaType contentHash : String) : Operation UploadTicket :=
  .ask (.putUrl key mediaType contentHash.toLower 900) fun reply : Except StoreFailure String ↦
    .ret ((reply.mapError .store).map fun url ↦
      { url := url
        requiredHeaders := [("Content-Type", mediaType), ("x-amz-meta-sha256", contentHash.toLower),
          ("x-amz-server-side-encryption", "AES256")]
        expiresInSeconds := 900 })

/-- The checks of `verify_upload`. -/
def checkHead (sizeBytes : Nat) (contentHash : String) (head : Head) : Except VaultError Unit := do
  ensure (head.contentLength.getD (-1) == sizeBytes)
    (.value "Uploaded object size does not match its registration.")
  ensure ((head.sha256.getD "").toLower == contentHash.toLower)
    (.value "Uploaded object hash metadata does not match its registration.")

/-- `verify_upload`. -/
def verifyUpload (key : String) (sizeBytes : Nat) (contentHash : String) : Operation Unit :=
  .ask (.head key) fun reply : Except StoreFailure Head ↦
    .ret ((reply.mapError .store).bind (checkHead sizeBytes contentHash))

/-- `presign_download`. -/
def presignDownload (key : String) : Operation String :=
  .ask (.getUrl key 300) fun reply : Except StoreFailure String ↦ .ret (reply.mapError .store)

/-- `ObjectStore.delete`. -/
def deleteStored (key : String) : Operation Unit :=
  .ask (.deleteObject key) fun reply : Except StoreFailure Unit ↦ .ret (reply.mapError .store)

/-! ## Operations -/

/-- `str.isalnum` of one character. -/
structure VaultPlatform where
  isalnum : Char → Bool

/-- What keys of an owner begin with. -/
def folderOf (principal : AuthenticatedPrincipal) : String :=
  principal.tenantId.str ++ "/" ++ principal.userId.str ++ "/"

def safeChar (platform : VaultPlatform) (char : Char) : Char :=
  if platform.isalnum char || char ∈ ['-', '_', '.'] then char else '_'

def safeName (platform : VaultPlatform) (displayName : String) : String :=
  String.ofList ((displayName.toList.map (safeChar platform)).take 200)

section Operations

variable (platform : VaultPlatform) (db : VaultDb) (call : VaultCall)

/-- `_access_event`, with the purpose of the event. -/
def accessEvent (index : Nat) (objectId : Uuid) (action : String)
    (purpose : String) : DataAccessEvent where
  id := call.uuid index
  tenantId := call.principal.tenantId
  dataObjectId := objectId
  actorId := call.principal.userId.str
  purpose := purpose
  action := action
  correlationId := call.correlationId

def newObject (id : Uuid) (key : String) (body : DataUploadRequest) (status : ObjectStatus) : DataObject where
  id := id
  tenantId := call.principal.tenantId
  organizationId := call.principal.organizationId
  ownerUserId := call.principal.userId
  objectKey := key
  displayName := body.displayName
  mediaType := body.mediaType
  sizeBytes := body.sizeBytes
  contentHash := body.contentHash.toLower
  classification := body.classification
  schemaName := body.schemaName
  attributes := body.metadata
  status := status
  createdAt := call.stamp

/-- Whether the caller owns the object. -/
def owns (row : DataObject) : Bool :=
  row.tenantId == call.principal.tenantId && row.organizationId == call.principal.organizationId &&
    row.ownerUserId == call.principal.userId

/-- `_get_owned`; `get` is the case of active objects. -/
def getOwned (objectId : Uuid) (status : ObjectStatus) : Except VaultError DataObject :=
  match db.objects.find? fun row ↦ row.id == objectId && owns call row && decide (row.status = status) with
  | some row => .ok row
  | none => .error .lookup

/-- `initiate_upload`. -/
def initiateUpload (body : DataUploadRequest) : Operation Outcome :=
  let key := folderOf call.principal ++ (call.uuid 0).str ++ "/" ++ safeName platform body.displayName
  let row := newObject call (call.uuid 0) key body .pendingUpload
  (presignUpload key body.mediaType body.contentHash).after fun ticket ↦
    .ok (.upload row ticket, some
      { object := some (.insert row)
        events := [accessEvent call 1 row.id "UPLOAD_INITIATED" "user data management"] })

/-- `complete_upload`. -/
def completeUpload (objectId : Uuid) : Operation Outcome :=
  match getOwned db call objectId .pendingUpload with
  | .error failure => .ret (.error failure)
  | .ok row =>
    (verifyUpload row.objectKey row.sizeBytes row.contentHash).after fun _ ↦
      .ok (.object { row with status := .active, version := row.version + 1 }, some
        { object := some (.assign row.id .active (row.version + 1) none)
          events := [accessEvent call 0 row.id "UPLOAD_COMPLETED" "user data management"] })

/-- `download_ticket`. -/
def downloadTicket (objectId : Uuid) : Operation Outcome :=
  match getOwned db call objectId .active with
  | .error failure => .ret (.error failure)
  | .ok row =>
    (presignDownload row.objectKey).after fun url ↦
      .ok (.url url, some
        { events := [accessEvent call 0 row.id "DOWNLOAD_AUTHORIZED" "user data management"] })

/-- `register`. -/
def register (body : DataObjectRegisterRequest) : Except VaultError Outcome := do
  ensure ((folderOf call.principal).toList.isPrefixOf body.objectKey.toList)
    (.permission "Object key must be inside the authenticated tenant/user prefix.")
  ensure (!db.objects.any fun row ↦ row.tenantId == call.principal.tenantId &&
    row.objectKey == body.objectKey)
    (.value "Object key is already registered.")
  let row := newObject call (call.uuid 0) body.objectKey body.toDataUploadRequest .active
  return (.object row, some
    { object := some (.insert row)
      events := [accessEvent call 1 row.id "REGISTER" "object registration"] })

/-- `list`. -/
def list : List DataObject :=
  Table.orderByDesc DataObject.createdAt
    (db.objects.filter fun row ↦ owns call row && decide (row.status = .active))

/-- `create_grant`. -/
def createGrant (objectId : Uuid) (body : DataGrantCreateRequest) : Except VaultError Outcome := do
  let _ ← getOwned db call objectId .active
  let row : DataGrant :=
    { id := call.uuid 0, tenantId := call.principal.tenantId, dataObjectId := objectId
      grantorUserId := call.principal.userId, granteeType := body.granteeType, granteeId := body.granteeId
      purposes := body.purposes, permissions := body.permissions, expiresAt := body.expiresAt }
  return (.grant row, some { grants := [row] })

/-- `delete`. -/
def delete (objectId : Uuid) : Operation Outcome :=
  match getOwned db call objectId .active with
  | .error failure => .ret (.error failure)
  | .ok row =>
    (deleteStored row.objectKey).after fun _ ↦
      .ok (.done, some
        { object := some (.assign row.id .deleted (row.version + 1) (some call.now))
          events := [accessEvent call 0 row.id "DELETE" "user deletion request"] })

def operation : Operation Outcome :=
  match call.request with
  | .initiateUpload body => initiateUpload platform call body
  | .completeUpload objectId => completeUpload db call objectId
  | .downloadTicket objectId => downloadTicket db call objectId
  | .register body => .ret (register db call body)
  | .list => .ret (.ok (.objects (list db call), none))
  | .get objectId => .ret ((getOwned db call objectId .active).map fun row ↦ (.object row, none))
  | .createGrant objectId body => .ret (createGrant db call objectId body)
  | .delete objectId => delete db call objectId

end Operations

/-- The end of the transaction of a call. -/
def commit (db : VaultDb) (_ : VaultCall) : Except VaultError Outcome →
    Except VaultError VaultAnswer × VaultDb
  | .error failure => (.error failure, db)
  | .ok (answer, none) => (.ok answer, db)
  | .ok (answer, some writes) =>
    if writes.accepted db then (.ok answer, writes.apply db) else (.error .integrity, db)

/-- The vault, with any number of calls under way. -/
def vault (platform : VaultPlatform) : Interleaving VaultDb VaultCall StoreRequest Reply
    (Except VaultError Outcome) (Except VaultError VaultAnswer) where
  begin world call := operation platform world.db call
  commit := commit
  refusal := .error .integrity

end Xyena.Vault
