import Xyena.Vault.Service

/-!
# Whose objects a call can reach

Every object lies in the folder of its owner, and folders of different owners are
disjoint. So whatever calls are under way, the store is asked only for objects of
the caller. An uploaded object becomes active after the store has told the size
and the hash of its registration. A call that completes an upload has looked at
the status at its begin only, so a deletion in between is undone.
-/

namespace Xyena.Vault

open Xyena.Foundation Xyena.Foundation.Session Xyena.Foundation.Interleaving Xyena.Contracts

/-! ## What the source promises -/

def DataObject.owner (row : DataObject) : AuthenticatedPrincipal :=
    ⟨row.tenantId, row.organizationId, row.ownerUserId⟩

/-- The key lies in the folder of a principal. -/
def InFolder (principal : AuthenticatedPrincipal) (key : String) : Prop :=
  ∃ rest, key = folderOf principal ++ rest

/-- The rows of an answer. -/
def VaultAnswer.rows : VaultAnswer → List DataObject
  | .object row => [row]
  | .upload row _ => [row]
  | .objects rows => rows
  | _ => []

/-- The store has told the registered size and, in either case of its letters, the registered hash of the
object. -/
def Told (row : DataObject) (event : Event StoreRequest Reply) : Prop :=
  ∃ sha256 : Option String,
    event = ⟨.head row.objectKey, (.ok ⟨some row.sizeBytes, sha256⟩ : Except StoreFailure Head)⟩ ∧
      (sha256.getD "").toLower = row.contentHash.toLower

abbrev VaultRecord :=
  Interleaving.Record VaultDb VaultCall StoreRequest Reply (Except VaultError Outcome)
    (Except VaultError VaultAnswer)

/-- A completion of the upload of the object was committed, and it has asked the store, which has told what
the registration says. -/
def Verified (history : List VaultRecord) (row : DataObject) : Prop :=
  ∃ call event, call.request = .completeUpload row.id ∧
    (∃ e ∈ history, ∃ answer, e.output = .finished call (.ok answer)) ∧
    Asked history call event ∧ Told row event

def Registered (db : VaultDb) (row : DataObject) : Prop :=
  ∃ event ∈ db.events, event.dataObjectId = row.id ∧ event.action = "REGISTER"

/-! ## Folders -/

theorem length_str (id : Uuid) : id.str.toList.length = 36 := by
  simp [Uuid.str]

/-- Folders of different owners have no key in common. -/
theorem owner_of_folder {first second : AuthenticatedPrincipal} {key : String} (hfirst : InFolder first key)
    (hsecond : InFolder second key) : first.tenantId = second.tenantId ∧ first.userId = second.userId := by
  obtain ⟨rest, rfl⟩ := hfirst
  obtain ⟨other, hother⟩ := hsecond
  have hchars := congrArg String.toList hother
  simp only [folderOf, String.toList_append, List.append_assoc] at hchars
  obtain ⟨htenant, hchars⟩ := List.append_inj hchars (by simp [length_str])
  obtain ⟨-, hchars⟩ := List.append_inj hchars rfl
  obtain ⟨huser, -⟩ := List.append_inj hchars (by simp [length_str])
  exact ⟨Uuid.str_injective (String.toList_injective htenant),
    Uuid.str_injective (String.toList_injective huser)⟩

theorem inFolder_of_prefix {principal : AuthenticatedPrincipal} {key : String}
    (h : (folderOf principal).toList.isPrefixOf key.toList = true) : InFolder principal key := by
  obtain ⟨rest, hrest⟩ := List.isPrefixOf_iff_prefix.mp h
  refine ⟨String.ofList rest, String.toList_injective ?_⟩
  rw [String.toList_append, String.toList_ofList, hrest]

/-! ## What one call writes -/

/-- What the rows of a call may be, after the events of the call. -/
structure Allowed (db : VaultDb) (call : VaultCall) (events : List (Event StoreRequest Reply))
    (writes : Writes) : Prop where
  inserted : ∀ row, writes.object = some (.insert row) → row.owner = call.principal ∧
    InFolder call.principal row.objectKey ∧
      (row.status = .pendingUpload ∨
        ∃ event ∈ writes.events, event.dataObjectId = row.id ∧ event.action = "REGISTER")
  assigned : ∀ id status version deletedAt, writes.object = some (.assign id status version deletedAt) →
    ∃ row ∈ db.objects, row.id = id ∧
      (status = .active ∧ (∃ event ∈ events, Told row event) ∧ call.request = .completeUpload id ∨
        status = .deleted ∧ row.status ≠ .pendingUpload)

/-- The rows of a call activate an object. -/
def Activates (id : Uuid) (rows : Option Writes) : Prop :=
  ∃ writes version, rows = some writes ∧ writes.object = some (.assign id .active version none)

/-- What a call may return, after its events. -/
def Granted (db : VaultDb) (call : VaultCall) (events : List (Event StoreRequest Reply))
    (result : Except VaultError Outcome) : Prop :=
  ∀ answer rows, result = .ok (answer, rows) → (∀ row ∈ answer.rows, owns call row = true) ∧
    (∀ writes, rows = some writes → Allowed db call events writes) ∧
    ∀ id, call.request = .completeUpload id → Activates id rows

def Permitted (call : VaultCall) (_ : List (Event StoreRequest Reply)) (effect : StoreRequest) : Prop :=
  InFolder call.principal effect.key

section Calls

variable {platform : VaultPlatform} {db : VaultDb} {call : VaultCall}

theorem granted_error {events : List (Event StoreRequest Reply)} (failure : VaultError) :
    Granted db call events (.error failure) := by
  rintro answer rows ⟨⟩

/-- A call that goes on with what the store has returned. -/
theorem after_meets {α : Type} {Ok : List (Event StoreRequest Reply) → StoreRequest → Prop}
    {first : Operation α} {next : α → Except VaultError Outcome}
    (h : Program.Meets Ok (fun events result ↦ ∀ value, result = .ok value →
      Granted db call events (next value))
      first []) : Program.Meets Ok (Granted db call) (first.after next) [] := by
  refine h.bind fun events result hresult ↦ ?_
  cases result with
  | error failure => exact granted_error failure
  | ok value => exact hresult value rfl

theorem getOwned_ok {objectId : Uuid} {status : ObjectStatus} {row : DataObject}
    (h : getOwned db call objectId status = .ok row) :
    row ∈ db.objects ∧ row.id = objectId ∧ owns call row = true ∧ row.status = status := by
  unfold getOwned at h
  split at h
  next found hfound =>
    obtain rfl := Except.ok.inj h
    have hselected := List.find?_some hfound
    simp only [Bool.and_eq_true, beq_iff_eq, decide_eq_true_eq] at hselected
    exact ⟨List.mem_of_find?_eq_some hfound, hselected.1.1, hselected.1.2, hselected.2⟩
  · cases h

theorem told_of_checkHead {row : DataObject} {head : Head}
    (h : checkHead row.sizeBytes row.contentHash head = .ok ()) :
    Told row ⟨.head row.objectKey, (.ok head : Except StoreFailure Head)⟩ := by
  obtain ⟨hsize, h⟩ := ensure_bind_ok.mp h
  have hhash := ensure_ok.mp h
  obtain ⟨contentLength, sha256⟩ := head
  refine ⟨sha256, ?_, beq_iff_eq.mp hhash⟩
  cases contentLength with
  | none =>
    have hnegative : (-1 : Int) = row.sizeBytes := beq_iff_eq.mp hsize
    omega
  | some length =>
    obtain rfl : length = row.sizeBytes := beq_iff_eq.mp hsize
    rfl

theorem owner_of_owns {row : DataObject} (h : owns call row = true) : row.owner = call.principal := by
  simp only [owns, Bool.and_eq_true, beq_iff_eq] at h
  obtain ⟨⟨htenant, horganization⟩, huser⟩ := h
  simp only [DataObject.owner, htenant, horganization, huser]

theorem owns_newObject {id : Uuid} {key : String} {body : DataUploadRequest} {status : ObjectStatus} :
    owns call (newObject call id key body status) = true := by
  simp [owns, newObject]

variable (hfolders : ∀ row ∈ db.objects, InFolder row.owner row.objectKey)
include hfolders

/-- The key of an object of the caller lies in the folder of the caller. -/
theorem inFolder_of_getOwned {objectId : Uuid} {status : ObjectStatus} {row : DataObject}
    (h : getOwned db call objectId status = .ok row) : InFolder call.principal row.objectKey := by
  obtain ⟨hrow, -, howns, -⟩ := getOwned_ok h
  rw [← owner_of_owns howns]
  exact hfolders row hrow

omit hfolders in
theorem initiateUpload_meets {body : DataUploadRequest} (hrequest : call.request = .initiateUpload body) :
    Program.Meets (Permitted call) (Granted db call) (initiateUpload platform call body) [] := by
  have hfolder : InFolder call.principal
      (folderOf call.principal ++ (call.uuid 0).str ++ "/" ++ safeName platform body.displayName) :=
    ⟨(call.uuid 0).str ++ ("/" ++ safeName platform body.displayName), by simp [String.append_assoc]⟩
  refine after_meets ⟨hfolder, fun reply ticket _ ↦ ?_⟩
  rintro answer rows ⟨⟩
  refine ⟨List.forall_mem_singleton.mpr owns_newObject, ?_, by simp [hrequest]⟩
  rintro writes ⟨⟩
  refine ⟨?_, by simp⟩
  rintro row ⟨⟩
  exact ⟨rfl, hfolder, Or.inl rfl⟩

theorem completeUpload_meets {objectId : Uuid} (hrequest : call.request = .completeUpload objectId) :
    Program.Meets (Permitted call) (Granted db call) (completeUpload db call objectId) [] := by
  unfold completeUpload
  split
  next failure _ => exact granted_error failure
  next row hrow =>
    obtain ⟨hstored, hid, howns, -⟩ := getOwned_ok hrow
    refine after_meets ⟨inFolder_of_getOwned hfolders hrow, fun reply checked hchecked ↦ ?_⟩
    rintro answer rows ⟨⟩
    refine ⟨List.forall_mem_singleton.mpr howns, ?_, fun id hcompletes ↦ ?_⟩
    swap
    · rw [hrequest] at hcompletes
      obtain rfl := Request.completeUpload.inj hcompletes
      exact ⟨_, _, rfl, by rw [← hid]⟩
    rintro writes ⟨⟩
    refine ⟨by simp, ?_⟩
    rintro id status version deletedAt ⟨⟩
    -- the store has replied with a head that passes the checks
    change Except StoreFailure Head at reply
    cases reply with
    | error failure => cases hchecked
    | ok head =>
      refine ⟨row, hstored, rfl,
        Or.inl ⟨rfl, ⟨_, List.mem_singleton.mpr rfl, told_of_checkHead hchecked⟩, ?_⟩⟩
      rw [hrequest, hid]

theorem downloadTicket_meets {objectId : Uuid} (hrequest : call.request = .downloadTicket objectId) :
    Program.Meets (Permitted call) (Granted db call) (downloadTicket db call objectId) [] := by
  unfold downloadTicket
  split
  next failure _ => exact granted_error failure
  next row hrow =>
    refine after_meets ⟨inFolder_of_getOwned hfolders hrow, fun reply url _ ↦ ?_⟩
    rintro answer rows ⟨⟩
    refine ⟨by simp [VaultAnswer.rows], ?_, by simp [hrequest]⟩
    rintro writes ⟨⟩
    exact ⟨by simp, by simp⟩

theorem delete_meets {objectId : Uuid} (hrequest : call.request = .delete objectId) :
    Program.Meets (Permitted call) (Granted db call) (delete db call objectId) [] := by
  unfold delete
  split
  next failure _ => exact granted_error failure
  next row hrow =>
    obtain ⟨hstored, -, -, hactive⟩ := getOwned_ok hrow
    refine after_meets ⟨inFolder_of_getOwned hfolders hrow, fun reply _ _ ↦ ?_⟩
    rintro answer rows ⟨⟩
    refine ⟨by simp [VaultAnswer.rows], ?_, by simp [hrequest]⟩
    rintro writes ⟨⟩
    refine ⟨by simp, ?_⟩
    rintro id status version deletedAt ⟨⟩
    refine ⟨row, hstored, rfl, Or.inr ⟨rfl, ?_⟩⟩
    rw [hactive]
    decide

omit hfolders in
theorem register_granted {body : DataObjectRegisterRequest} (hrequest : call.request = .register body) :
    Granted db call [] (register db call body) := by
  intro answer rows h
  obtain ⟨hinside, h⟩ := ensure_bind_ok.mp h
  obtain ⟨-, h⟩ := ensure_bind_ok.mp h
  obtain ⟨rfl, rfl⟩ := Prod.mk.inj (Except.ok.inj h)
  refine ⟨List.forall_mem_singleton.mpr owns_newObject, ?_, by simp [hrequest]⟩
  rintro writes ⟨⟩
  refine ⟨?_, by simp⟩
  rintro row ⟨⟩
  exact ⟨rfl, inFolder_of_prefix hinside, Or.inr ⟨_, List.mem_singleton.mpr rfl, rfl, rfl⟩⟩

/-- Every call asks only for objects in the folder of its principal, and returns what it may. -/
theorem operation_meets :
    Program.Meets (Permitted call) (Granted db call) (operation platform db call) [] := by
  unfold operation
  cases hrequest : call.request with
  | initiateUpload body => exact initiateUpload_meets hrequest
  | completeUpload objectId => exact completeUpload_meets hfolders hrequest
  | downloadTicket objectId => exact downloadTicket_meets hfolders hrequest
  | register body => exact register_granted hrequest
  | list =>
    rintro answer rows ⟨⟩
    refine ⟨fun row hrow ↦ ?_, by simp, by simp [hrequest]⟩
    have hselected := (List.mem_filter.mp ((List.perm_insertionSort _ _).mem_iff.mp hrow)).2
    exact (Bool.and_eq_true_iff.mp hselected).1
  | get objectId =>
    intro answer rows h
    cases hrow : getOwned db call objectId .active with
    | error failure =>
      rw [hrow] at h
      cases h
    | ok row =>
      rw [hrow] at h
      obtain ⟨rfl, rfl⟩ := Prod.mk.inj (Except.ok.inj h)
      exact ⟨List.forall_mem_singleton.mpr (getOwned_ok hrow).2.2.1, by simp, by simp [hrequest]⟩
  | createGrant objectId body =>
    intro answer rows h
    obtain ⟨row, -, h⟩ := bind_ok.mp h
    obtain ⟨rfl, rfl⟩ := Prod.mk.inj (Except.ok.inj h)
    refine ⟨by simp [VaultAnswer.rows], ?_, by simp [hrequest]⟩
    rintro writes ⟨⟩
    exact ⟨by simp, by simp⟩
  | delete objectId => exact delete_meets hfolders hrequest

end Calls

/-! ## Commits -/

section Commits

variable {platform : VaultPlatform} {db : VaultDb} {call : VaultCall} {writes : Writes}
  {events : List (Event StoreRequest Reply)} {result : Except VaultError Outcome}

/-- How a transaction ends: it fails, has nothing to commit, or commits the rows of its call. -/
theorem commit_cases (db : VaultDb) (call : VaultCall) (result : Except VaultError Outcome) :
    (∃ failure, commit db call result = (.error failure, db)) ∨
      (∃ answer, result = .ok (answer, none) ∧ commit db call result = (.ok answer, db)) ∨
      ∃ answer writes, result = .ok (answer, some writes) ∧ writes.accepted db = true ∧
        commit db call result = (.ok answer, writes.apply db) := by
  unfold commit
  split
  next failure => exact Or.inl ⟨failure, rfl⟩
  next answer => exact Or.inr (Or.inl ⟨answer, rfl, rfl⟩)
  next answer writes =>
    split
    next haccepted => exact Or.inr (Or.inr ⟨answer, writes, rfl, haccepted, rfl⟩)
    · exact Or.inl ⟨_, rfl⟩

/-- An answer is that of the operation. -/
theorem result_of_answer {answer : VaultAnswer} (h : (commit db call result).1 = .ok answer) :
    ∃ rows, result = .ok (answer, rows) := by
  rcases commit_cases db call result with
    ⟨failure, hcommit⟩ | ⟨returned, rfl, hcommit⟩ | ⟨returned, writes, rfl, -, hcommit⟩
  · cases (congrArg Prod.fst hcommit).symm.trans h
  · obtain rfl := Except.ok.inj ((congrArg Prod.fst hcommit).symm.trans h)
    exact ⟨none, rfl⟩
  · obtain rfl := Except.ok.inj ((congrArg Prod.fst hcommit).symm.trans h)
    exact ⟨some writes, rfl⟩

/-- The columns that no call assigns. -/
structure SameObject (first second : DataObject) : Prop where
  id : first.id = second.id
  owner : first.owner = second.owner
  objectKey : first.objectKey = second.objectKey
  sizeBytes : first.sizeBytes = second.sizeBytes
  contentHash : first.contentHash = second.contentHash

theorem assigned_same (id : Uuid) (status : ObjectStatus) (version : Nat) (deletedAt : Option Time)
    (row : DataObject) : SameObject (assigned id status version deletedAt row) row := by
  unfold assigned
  split
  · exact ⟨rfl, rfl, rfl, rfl, rfl⟩
  · exact ⟨rfl, rfl, rfl, rfl, rfl⟩

theorem Told.congr {first second : DataObject} {event : Event StoreRequest Reply} (h : Told second event)
    (hsame : SameObject first second) : Told first event := by
  obtain ⟨sha256, hevent, hhash⟩ := h
  refine ⟨sha256, ?_, ?_⟩
  · rw [hsame.objectKey, hsame.sizeBytes]
    exact hevent
  · rw [hsame.contentHash]
    exact hhash

/-- Every object stays, and none is pending again. -/
theorem object_kept (hgranted : Granted db call events result) {row : DataObject} (hrow : row ∈ db.objects) :
    ∃ later ∈ (commit db call result).2.objects, SameObject later row ∧
      (row.status ≠ .pendingUpload → later.status ≠ .pendingUpload) := by
  have hself : ∃ later ∈ db.objects, SameObject later row ∧
      (row.status ≠ .pendingUpload → later.status ≠ .pendingUpload) :=
    ⟨row, hrow, ⟨rfl, rfl, rfl, rfl, rfl⟩, fun h ↦ h⟩
  rcases commit_cases db call result with
    ⟨failure, hcommit⟩ | ⟨answer, -, hcommit⟩ | ⟨answer, writes, rfl, -, hcommit⟩
  · rwa [hcommit]
  · rwa [hcommit]
  · have hallowed := (hgranted answer (some writes) rfl).2.1 writes rfl
    rw [hcommit]
    simp only [Writes.apply]
    cases hobject : writes.object with
    | none => exact hself
    | some write =>
      cases write with
      | insert new =>
        exact ⟨row, List.mem_append_left _ hrow, ⟨rfl, rfl, rfl, rfl, rfl⟩, fun h ↦ h⟩
      | assign id status version deletedAt =>
        refine ⟨_, List.mem_map_of_mem hrow, assigned_same .., fun hpending ↦ ?_⟩
        obtain ⟨stored, -, -, hstatus⟩ := hallowed.assigned id status version deletedAt hobject
        unfold assigned
        split
        · rcases hstatus with ⟨rfl, -, -⟩ | ⟨rfl, -⟩
          · exact nofun
          · exact nofun
        · exact hpending

/-- What a call may return stays allowed while other calls commit. -/
theorem granted_stable (hgranted : Granted db call events result) (other : VaultCall)
    (asked : List (Event StoreRequest Reply)) (returned : Except VaultError Outcome)
    (h : Granted db other asked returned) : Granted (commit db call result).2 other asked returned := by
  intro answer rows hreturned
  obtain ⟨hrows, hwrites, hactivates⟩ := h answer rows hreturned
  refine ⟨hrows, fun writes hsome ↦ ⟨(hwrites writes hsome).inserted,
    fun id status version deletedAt hassign ↦ ?_⟩, hactivates⟩
  obtain ⟨row, hrow, hid, hstatus⟩ := (hwrites writes hsome).assigned id status version deletedAt hassign
  obtain ⟨later, hlater, hsame, hpending⟩ := object_kept hgranted hrow
  refine ⟨later, hlater, hsame.id.trans hid, ?_⟩
  rcases hstatus with ⟨hactive, ⟨event, hevent, htold⟩, hrequest⟩ | ⟨hdeleted, hfinished⟩
  · exact Or.inl ⟨hactive, ⟨event, hevent, htold.congr hsame⟩, hrequest⟩
  · exact Or.inr ⟨hdeleted, hpending hfinished⟩

/-- An added object is new. -/
theorem insert_fresh (haccepted : writes.accepted db = true) {new : DataObject}
    (hobject : writes.object = some (.insert new)) : ∀ old ∈ db.objects, new.id ≠ old.id := by
  simp only [Writes.accepted, Bool.and_eq_true, hobject, Option.all_some, ObjectWrite.accepted,
    List.all_eq_true, Bool.not_eq_true', DataObject.clashes, Bool.or_eq_false_iff, beq_eq_false_iff_ne]
    at haccepted
  exact fun old hrow ↦ (haccepted.1.1 old hrow).1

/-- What holds of the stored objects after the entries of a run. -/
structure Kept (history : List VaultRecord) (db : VaultDb) : Prop where
  ids : (db.objects.map DataObject.id).Nodup
  folders : ∀ row ∈ db.objects, InFolder row.owner row.objectKey
  activated : ∀ row ∈ db.objects, row.status = .pendingUpload ∨ Registered db row ∨ Verified history row

theorem Verified.mono {history : List VaultRecord} {row : DataObject} (h : Verified history row)
    (e : VaultRecord) : Verified (history ++ [e]) row := by
  obtain ⟨call, event, hrequest, ⟨finish, hfinish, hcommitted⟩, hasked, htold⟩ := h
  exact ⟨call, event, hrequest, ⟨finish, List.mem_append_left _ hfinish, hcommitted⟩, hasked.mono e, htold⟩

theorem Verified.congr {history : List VaultRecord} {first second : DataObject}
    (h : Verified history second) (hsame : SameObject first second) : Verified history first := by
  obtain ⟨call, event, hrequest, hcommitted, hasked, htold⟩ := h
  exact ⟨call, event, hsame.id ▸ hrequest, hcommitted, hasked, htold.congr hsame⟩

theorem Kept.entry {history : List VaultRecord} (h : Kept history db) (e : VaultRecord) :
    Kept (history ++ [e]) db where
  ids := h.ids
  folders := h.folders
  activated row hrow := (h.activated row hrow).imp_right (Or.imp_right fun hverified ↦ hverified.mono e)

theorem Kept.commit {history : List VaultRecord} {e : VaultRecord} (h : Kept history db)
    (hgranted : Granted db call events result) (hasked : ∀ event ∈ events, Asked history call event)
    (houtput : e.output = .finished call (commit db call result).1) :
    Kept (history ++ [e]) (commit db call result).2 := by
  rcases commit_cases db call result with
    ⟨failure, hcommit⟩ | ⟨answer, -, hcommit⟩ | ⟨answer, writes, rfl, haccepted, hcommit⟩
  · rw [hcommit]
    exact h.entry e
  · rw [hcommit]
    exact h.entry e
  · have hallowed := (hgranted answer (some writes) rfl).2.1 writes rfl
    have hkept := h.entry e
    rw [hcommit] at houtput ⊢
    have hregistered {row later : DataObject} (hid : later.id = row.id) (hrow : Registered db row) :
        Registered (writes.apply db) later := by
      obtain ⟨event, hevent, howner, haction⟩ := hrow
      exact ⟨event, List.mem_append_left _ hevent, howner.trans hid.symm, haction⟩
    have hold : ∀ row ∈ db.objects, row.status = .pendingUpload ∨ Registered (writes.apply db) row ∨
        Verified (history ++ [e]) row := fun row hrow ↦
      (hkept.activated row hrow).imp_right (Or.imp_left (hregistered rfl))
    have hobjects : (writes.apply db).objects = writes.object.elim db.objects
      (ObjectWrite.apply db.objects) := rfl
    cases hobject : writes.object with
    | none =>
      rw [hobject] at hobjects
      exact ⟨hobjects ▸ h.ids, hobjects ▸ h.folders, hobjects ▸ hold⟩
    | some write =>
      rw [hobject] at hobjects
      cases write with
      | insert new =>
        obtain ⟨howner, hfolder, hstatus⟩ := hallowed.inserted new hobject
        have hfresh := insert_fresh haccepted hobject
        have hobjects : (writes.apply db).objects = db.objects ++ [new] := hobjects
        constructor
        case ids => exact hobjects ▸ Table.nodup_keys_append h.ids hfresh
        case folders =>
          rw [hobjects]
          exact List.forall_mem_append.mpr
            ⟨h.folders, List.forall_mem_singleton.mpr (howner.symm ▸ hfolder)⟩
        case activated =>
          rw [hobjects]
          refine List.forall_mem_append.mpr ⟨hold, List.forall_mem_singleton.mpr ?_⟩
          rcases hstatus with hpending | ⟨event, hevent, hsubject, haction⟩
          · exact Or.inl hpending
          · exact Or.inr (Or.inl ⟨event, List.mem_append_right _ hevent, hsubject, haction⟩)
      | assign id status version deletedAt =>
        obtain ⟨stored, hstored, hid, hstatus⟩ := hallowed.assigned id status version deletedAt hobject
        have hobjects : (writes.apply db).objects = db.objects.map (assigned id status version deletedAt) :=
          hobjects
        have hsame (row : DataObject) := assigned_same id status version deletedAt row
        constructor
        case ids =>
          rw [hobjects, List.map_map]
          have hids : (DataObject.id ∘ assigned id status version deletedAt) = DataObject.id :=
            funext fun row ↦ (hsame row).id
          rw [hids]
          exact h.ids
        case folders =>
          rw [hobjects]
          refine List.forall_mem_map.mpr fun row hrow ↦ ?_
          rw [(hsame row).owner, (hsame row).objectKey]
          exact h.folders row hrow
        case activated =>
          rw [hobjects]
          refine List.forall_mem_map.mpr fun row hrow ↦ ?_
          by_cases hother : row.id = id
          · -- the assigned row is the one that the call has read
            obtain rfl : row = stored := Table.eq_of_key h.ids hrow hstored (hother.trans hid.symm)
            rcases hstatus with ⟨-, ⟨event, hevent, htold⟩, hrequest⟩ | ⟨-, hfinished⟩
            · have hverified : Verified (history ++ [e]) row :=
                ⟨call, event, hid ▸ hrequest,
                  ⟨e, List.mem_append_right _ (List.mem_singleton_self e), answer, houtput⟩,
                  (hasked event hevent).mono e, htold⟩
              exact Or.inr (Or.inr (hverified.congr (hsame row)))
            · rcases (hkept.activated row hrow).resolve_left hfinished with hrow | hverified
              · exact Or.inr (Or.inl (hregistered (hsame row).id hrow))
              · exact Or.inr (Or.inr (hverified.congr (hsame row)))
          · have hunchanged : assigned id status version deletedAt row = row := if_neg (by simpa using hother)
            rw [hunchanged]
            exact hold row hrow

end Commits

/-! ## Every interleaving -/

section Runs

variable (platform : VaultPlatform) (signals : List (Signal VaultCall StoreRequest Reply))

def vaultLog : List VaultRecord := (vault platform).machine.log ⟨{}, fun _ ↦ none⟩ signals

def vaultWorld : World VaultDb VaultCall StoreRequest Reply (Except VaultError Outcome) :=
  (vault platform).machine.run ⟨{}, fun _ ↦ none⟩ signals

theorem sound_run : Sound (vault platform) Kept Permitted Granted (vaultLog platform signals)
    (vaultWorld platform signals) := by
  refine Sound.run ?_ ?_ ?_ ?_ ⟨List.nodup_nil, by simp, by simp⟩ signals
  · exact fun history world call h ↦ operation_meets h.folders
  · exact fun history db e h ↦ h.entry e
  · exact fun db call events result h other asked returned ↦ granted_stable h other asked returned
  · exact fun history db call events result e h hgranted hasked houtput ↦
      h.commit hgranted hasked houtput

/-- Whatever calls are under way, the store is asked only for objects in the folder of the caller, no two
owners are served from one key, and answers show objects of the caller only. -/
theorem vault_isolation :
    (∀ e ∈ vaultLog platform signals, ∀ call event, e.output = .asked call event →
      InFolder call.principal event.effect.key) ∧
    (∀ e ∈ vaultLog platform signals, ∀ other ∈ vaultLog platform signals, ∀ call event caller asked,
      e.output = .asked call event → other.output = .asked caller asked →
        event.effect.key = asked.effect.key →
          call.principal.tenantId = caller.principal.tenantId ∧
            call.principal.userId = caller.principal.userId) ∧
    ∀ e ∈ vaultLog platform signals, ∀ call answer, e.output = .finished call (.ok answer) →
      ∀ row ∈ answer.rows, owns call row = true := by
  have hsound := sound_run platform signals
  have hasked : ∀ e ∈ vaultLog platform signals, ∀ call event, e.output = .asked call event →
      InFolder call.principal event.effect.key := by
    intro e he call event houtput
    obtain ⟨events, hpermitted⟩ := hsound.asked e he call event houtput
    exact hpermitted
  refine ⟨hasked, fun e he other hother call event caller asked houtput hotherOutput hkey ↦ ?_, ?_⟩
  · have hfirst := hasked e he call event houtput
    rw [hkey] at hfirst
    exact owner_of_folder hfirst (hasked other hother caller asked hotherOutput)
  · intro e he call answer houtput
    rcases hsound.finished e he call _ houtput with hrefused | ⟨db, events, result, hgranted, hanswer⟩
    · cases hrefused
    · have hanswer : (commit db call result).1 = .ok answer := hanswer.symm
      obtain ⟨rows, rfl⟩ := result_of_answer hanswer
      exact (hgranted answer rows rfl).1

/-- Every object that is no longer pending has been registered without an upload, or its upload was completed
after the store had told the registered size and hash. -/
theorem vault_activated : ∀ row ∈ (vaultWorld platform signals).db.objects,
    row.status = .pendingUpload ∨ Registered (vaultWorld platform signals).db row ∨
      Verified (vaultLog platform signals) row :=
  (sound_run platform signals).inv.activated

end Runs

def photo : DataUploadRequest where
  displayName := "a b.png"
  mediaType := "image/png"
  sizeBytes := 3
  contentHash := "AB"
  classification := "INTERNAL"

def calling (draw : Nat) (request : Request) : VaultCall where
  principal := ⟨1, 2, 3⟩
  request := request
  correlationId := 9
  uuid index := BitVec.ofNat 128 (draw + index)
  now := 5
  stamp := 4

/-- A store that has the photo. -/
def replying : (effect : StoreRequest) → Reply effect
  | .putUrl .. => (.ok "put" : Except StoreFailure String)
  | .head _ => (.ok ⟨some 3, some "ab"⟩ : Except StoreFailure Head)
  | .getUrl .. => (.ok "get" : Except StoreFailure String)
  | .deleteObject _ => (.ok () : Except StoreFailure Unit)

/-- The photo is uploaded and completed. -/
def photoUploaded : List (Signal VaultCall StoreRequest Reply) :=
  [.begin 0 (calling 10 (.initiateUpload photo)), .reply 0 replying, .finish 0 false,
    .begin 1 (calling 20 (.completeUpload 10)), .reply 1 replying, .finish 1 false]

theorem photo_activated : ∃ row ∈ (vaultWorld ⟨Char.isAlphanum⟩ photoUploaded).db.objects,
    row.status = .active ∧
    (Registered (vaultWorld ⟨Char.isAlphanum⟩ photoUploaded).db row ∨
      Verified (vaultLog ⟨Char.isAlphanum⟩ photoUploaded) row) := by
  have hstored : ∃ row ∈ (vaultWorld ⟨Char.isAlphanum⟩ photoUploaded).db.objects, row.status = .active := by
    decide +kernel
  obtain ⟨row, hrow, hactive⟩ := hstored
  refine ⟨row, hrow, hactive, (vault_activated ⟨Char.isAlphanum⟩ photoUploaded row hrow).resolve_left ?_⟩
  rw [hactive]
  decide

end Xyena.Vault
