import Xyena.Businesses.Service

/-!
# What one call of the registry can do

A session that ends with rows to commit creates a business, moves one to
another status, submits a change request, or decides one. `Move` lists these
ways with the guards that led to them.
-/

namespace Xyena.Businesses

open Xyena.Foundation Xyena.Foundation.Session

/-! ## Lookups -/

section Lookups

variable {platform : RegistryPlatform} {db : RegistryDb} {call : RegistryCall} {scope : BrowserScope}
  {identifier : String} {row : Business}

/-- The database returns one of the rows that the query selects. -/
theorem business_ok (h : business platform db call scope identifier = .ok row) :
    row ∈ db.businesses ∧ matchesIdentifier platform scope.tenantId identifier row = true := by
  unfold business at h
  simp only at h
  split at h
  next found hfound =>
    obtain rfl := Except.ok.inj h
    exact List.mem_filter.mp (List.mem_of_getElem? hfound)
  · cases h

theorem business_tenant (h : business platform db call scope identifier = .ok row) :
    row.tenantId = scope.tenantId := by
  have hmatches := (business_ok h).2
  rw [matchesIdentifier, Bool.and_eq_true] at hmatches
  exact beq_iff_eq.mp hmatches.1

end Lookups

/-! ## Patched businesses -/

section Patched

variable {platform : RegistryPlatform} {row patched : Business} {patch : Patch} {reviewer : String}

/-- The state code that a patch leaves. -/
def stateCode (row : Business) (patch : Patch) : String :=
  match patch.registeredAddress with
  | none => row.registeredStateCode
  | some address => (address.lookup "state_code").getD row.registeredStateCode

/-- What an approved request makes of a business: the fields of its patch, and what comes along. -/
structure Patched (platform : RegistryPlatform) (row : Business) (patch : Patch) (reviewer : String)
    (new : Business) : Prop where
  legalName : new.legalName = patch.legalName.getD row.legalName
  tradeName : new.tradeName = (patch.tradeName <|> row.tradeName)
  registeredAddress : new.registeredAddress = patch.registeredAddress.getD row.registeredAddress
  industryCode : new.industryCode = (patch.industryCode <|> row.industryCode)
  msmeClassification : new.msmeClassification = (patch.msmeClassification <|> row.msmeClassification)
  primaryGstin : new.primaryGstin = (patch.primaryGstin <|> row.primaryGstin)
  registeredStateCode : new.registeredStateCode = stateCode row patch
  version : new.version = row.version + 1
  updatedBy : new.updatedBy = reviewer
  sourceHash : new.sourceHash = canonicalHash platform (identity new)
  id : new.id = row.id
  tenantId : new.tenantId = row.tenantId
  businessId : new.businessId = row.businessId
  registryNumber : new.registryNumber = row.registryNumber
  businessType : new.businessType = row.businessType
  incorporationDate : new.incorporationDate = row.incorporationDate
  status : new.status = row.status
  riskFlags : new.riskFlags = row.riskFlags
  createdBy : new.createdBy = row.createdBy

theorem patched_of_patch (h : Business.patch platform row patch reviewer = .ok patched) :
    Patched platform row patch reviewer patched := by
  obtain ⟨relocated, hrelocated, h⟩ := bind_ok.mp h
  obtain rfl := Except.ok.inj h
  unfold Business.relocate at hrelocated
  split at hrelocated
  next haddress =>
    obtain rfl := Except.ok.inj hrelocated
    constructor <;> simp [Business.rehash, Business.assign, stateCode, haddress, identity]
  next address haddress =>
    split at hrelocated
    · cases hrelocated
    next code hcode =>
      obtain rfl := Except.ok.inj hrelocated
      constructor <;> simp [Business.rehash, Business.assign, stateCode, haddress, hcode, identity]

end Patched

/-! ## Guards and moves -/

section Moves

variable (platform : RegistryPlatform) (db : RegistryDb) (call : RegistryCall) (scope : BrowserScope)

/-- A creation that passes its checks. -/
structure Creates (body : BusinessCreate) : Prop where
  request : call.request = .createBusiness scope body
  role : scope.roles.contains "REGISTRY_OPERATOR" = true
  past : body.incorporationDate ≤ call.today
  fresh : ∀ row ∈ db.businesses, row.tenantId = scope.tenantId →
    row.registryNumber ≠ body.registryNumber ∧ row.businessId ≠ body.businessId

/-- A decision about a submitted request that finds a business. -/
structure Decides (changeId : String) (approve : Bool) (reason : String) (change : ChangeRequest)
    (row : Business) : Prop where
  request : call.request = .decideChange scope changeId approve reason
  role : scope.roles.contains "REGISTRY_REVIEWER" = true
  found : (db.changes.find? fun row ↦ row.id == changeId && row.tenantId == scope.tenantId) = some change
  submitted : change.status = .submitted
  held : business platform db call scope change.businessId = .ok row

/-- A decision that approves the request. -/
structure Approves (changeId reason : String) (change : ChangeRequest) (row patched : Business) : Prop
    extends Decides platform db call scope changeId true reason change row where
  version : row.version = change.targetVersion
  gstin : ∀ gstin ∈ change.requestedPatch.primaryGstin, ∀ other ∈ db.businesses,
    other.tenantId = scope.tenantId → other.id ≠ row.id → other.primaryGstin ≠ some gstin
  made : Business.patch platform row change.requestedPatch scope.userId = .ok patched

/-- The rows of an approval. -/
def approvalWrites (change : ChangeRequest) (reason : String) (patched : Business) : Writes where
  businesses := [.update patched]
  changes := [.update (change.decide .approved scope.userId reason (some patched.version))]

/-- How a session ends with rows to commit. -/
inductive Move : RegistryAnswer → Writes → Prop
  | created (scope : BrowserScope) (body : BusinessCreate) (h : Creates db call scope body) :
      Move (.business (newBusiness platform call scope body))
        { businesses := [.insert (newBusiness platform call scope body)] }
  | transitioned (scope : BrowserScope) (identifier : String) (body : StatusTransition)
      (expectedVersion : Int) (row : Business)
      (hrequest : call.request = .transitionStatus scope identifier body expectedVersion)
      (hrow : business platform db call scope identifier = .ok row)
      (hallowed : body.targetStatus ∈ allowed row.status) :
      Move (.business (Business.transition platform row body.targetStatus scope.userId))
        { businesses := [.update (Business.transition platform row body.targetStatus scope.userId)] }
  | proposed (scope : BrowserScope) (identifier : String) (body : ChangeRequestCreate) (row : Business)
      (hrequest : call.request = .createChangeRequest scope identifier body)
      (hrow : business platform db call scope identifier = .ok row)
      (hstatus : row.status = .active ∨ row.status = .suspended) :
      Move (.change (newChange call scope row body)) { changes := [.insert (newChange call scope row body)] }
  | approved (scope : BrowserScope) (changeId reason : String) (change : ChangeRequest)
      (row patched : Business) (h : Approves platform db call scope changeId reason change row patched) :
      Move (.change (change.decide .approved scope.userId reason (some patched.version)))
        (approvalWrites scope change reason patched)
  | rejected (scope : BrowserScope) (changeId reason : String) (change : ChangeRequest) (row : Business)
      (h : Decides platform db call scope changeId false reason change row) :
      Move (.change (change.decide .rejected scope.userId reason change.appliedVersion))
        { changes := [.update (change.decide .rejected scope.userId reason change.appliedVersion)] }

end Moves

/-! ## Inversion -/

section Inversion

variable {platform : RegistryPlatform} {db : RegistryDb} {call : RegistryCall} {scope : BrowserScope}
  {answer : RegistryAnswer} {rows : Option Writes}

/-- The rows of a session are those of a move. -/
def Moved (platform : RegistryPlatform) (db : RegistryDb) (call : RegistryCall) (answer : RegistryAnswer)
    (rows : Option Writes) : Prop :=
  ∃ writes, rows = some writes ∧ Move platform db call answer writes

theorem moved_of_move {value : RegistryAnswer} {writes : Writes}
    (hreturned : (pure (value, some writes) : Except RegistryError Outcome) = .ok (answer, rows))
    (h : Move platform db call value writes) : Moved platform db call answer rows := by
  obtain ⟨rfl, rfl⟩ := Prod.mk.inj (Except.ok.inj hreturned)
  exact ⟨writes, rfl, h⟩

theorem moved_createBusiness {body : BusinessCreate} (hrequest : call.request = .createBusiness scope body)
    (h : createBusiness platform db call scope body = .ok (answer, rows)) :
    Moved platform db call answer rows := by
  obtain ⟨hrole, h⟩ := ensure_bind_ok.mp h
  obtain ⟨hpast, h⟩ := ensure_bind_ok.mp h
  obtain ⟨hfresh, h⟩ := ensure_bind_ok.mp h
  refine moved_of_move h (.created scope body ⟨hrequest, hrole, of_decide_eq_true hpast, ?_⟩)
  simp only [Bool.not_eq_true', List.any_eq_false, Bool.and_eq_true, Bool.or_eq_true, beq_iff_eq, not_and,
    not_or] at hfresh
  exact hfresh

theorem moved_transitionStatus {identifier : String} {body : StatusTransition} {expectedVersion : Int}
    (hrequest : call.request = .transitionStatus scope identifier body expectedVersion)
    (h : transitionStatus platform db call scope identifier body expectedVersion = .ok (answer, rows)) :
    Moved platform db call answer rows := by
  obtain ⟨-, h⟩ := ensure_bind_ok.mp h
  obtain ⟨row, hrow, h⟩ := bind_ok.mp h
  obtain ⟨-, h⟩ := ensure_bind_ok.mp h
  obtain ⟨hallowed, h⟩ := ensure_bind_ok.mp h
  exact moved_of_move h (.transitioned scope identifier body expectedVersion row hrequest hrow
    (List.contains_iff_mem.mp hallowed))

theorem moved_createChangeRequest {identifier : String} {body : ChangeRequestCreate}
    (hrequest : call.request = .createChangeRequest scope identifier body)
    (h : createChangeRequest platform db call scope identifier body = .ok (answer, rows)) :
    Moved platform db call answer rows := by
  obtain ⟨-, h⟩ := ensure_bind_ok.mp h
  obtain ⟨row, hrow, h⟩ := bind_ok.mp h
  obtain ⟨hstatus, h⟩ := ensure_bind_ok.mp h
  obtain ⟨-, h⟩ := ensure_bind_ok.mp h
  obtain ⟨-, h⟩ := ensure_bind_ok.mp h
  obtain ⟨-, h⟩ := ensure_bind_ok.mp h
  exact moved_of_move h (.proposed scope identifier body row hrequest hrow (by simpa using hstatus))

theorem moved_decideChange {changeId reason : String} {approve : Bool}
    (hrequest : call.request = .decideChange scope changeId approve reason)
    (h : decideChange platform db call scope changeId approve reason = .ok (answer, rows)) :
    Moved platform db call answer rows := by
  obtain ⟨hrole, h⟩ := ensure_bind_ok.mp h
  split at h
  · cases h
  next change hchange =>
    obtain ⟨hsubmitted, h⟩ := ensure_bind_ok.mp h
    obtain ⟨row, hrow, h⟩ := bind_ok.mp h
    have hdecides : Decides platform db call scope changeId approve reason change row :=
      ⟨hrequest, hrole, hchange, beq_iff_eq.mp hsubmitted, hrow⟩
    cases approve with
    | true =>
      rw [if_pos rfl] at h
      obtain ⟨hversion, h⟩ := ensure_bind_ok.mp h
      obtain ⟨hgstin, h⟩ := ensure_bind_ok.mp h
      obtain ⟨patched, hpatched, h⟩ := bind_ok.mp h
      refine moved_of_move h (.approved scope changeId reason change row patched
        ⟨hdecides, beq_iff_eq.mp hversion, fun gstin hpatch other hother htenant hid hsame ↦ ?_, hpatched⟩)
      rw [Option.mem_def.mp hpatch] at hgstin
      simp only [Option.any_some, Bool.not_eq_true', List.any_eq_false, Bool.and_eq_true, beq_iff_eq,
        bne_iff_ne, not_and, ne_eq, not_not] at hgstin
      exact hid (hgstin other hother ⟨htenant, hsame⟩)
    | false =>
      rw [if_neg (by decide)] at h
      exact moved_of_move h (.rejected scope changeId reason change row hdecides)

/-- Every session that returns has made one of the listed moves. -/
theorem moved_of_serve (h : serve platform db call = .ok (answer, rows)) :
    Moved platform db call answer rows := by
  unfold serve at h
  split at h
  next hrequest => exact moved_createBusiness hrequest h
  next hrequest => exact moved_transitionStatus hrequest h
  next hrequest => exact moved_createChangeRequest hrequest h
  next hrequest => exact moved_decideChange hrequest h

theorem move_of_serve {writes : Writes} (h : serve platform db call = .ok (answer, some writes)) :
    Move platform db call answer writes := by
  obtain ⟨_, ⟨⟩, hmove⟩ := moved_of_serve h
  exact hmove

/-! ## Calls that pass their guards -/

theorem serve_of_creates {body : BusinessCreate} (h : Creates db call scope body) :
    serve platform db call = .ok (.business (newBusiness platform call scope body),
      some { businesses := [.insert (newBusiness platform call scope body)] }) := by
  simp only [serve, h.request, createBusiness]
  refine ensure_bind_ok.mpr ⟨h.role, ensure_bind_ok.mpr ⟨decide_eq_true h.past, ?_⟩⟩
  refine ensure_bind_ok.mpr ⟨?_, rfl⟩
  simp only [Bool.not_eq_true', List.any_eq_false, Bool.and_eq_true, Bool.or_eq_true, beq_iff_eq, not_and,
    not_or]
  exact h.fresh

theorem serve_of_approves {changeId reason : String} {change : ChangeRequest} {row patched : Business}
    (h : Approves platform db call scope changeId reason change row patched) :
    serve platform db call = .ok (.change (change.decide .approved scope.userId reason (some patched.version)),
      some (approvalWrites scope change reason patched)) := by
  simp only [serve, h.request, decideChange]
  refine ensure_bind_ok.mpr ⟨h.role, ?_⟩
  simp only [h.found]
  refine ensure_bind_ok.mpr ⟨beq_iff_eq.mpr h.submitted, bind_ok.mpr ⟨row, h.held, ?_⟩⟩
  rw [if_pos trivial]
  refine ensure_bind_ok.mpr ⟨beq_iff_eq.mpr h.version, ensure_bind_ok.mpr ⟨?_, ?_⟩⟩
  · cases hgstin : change.requestedPatch.primaryGstin with
    | none => rfl
    | some gstin =>
      simp only [Option.any_some, Bool.not_eq_true', List.any_eq_false, Bool.and_eq_true, beq_iff_eq,
        bne_iff_ne, not_and, ne_eq, not_not]
      rintro other hother ⟨htenant, hsame⟩
      by_contra hid
      exact h.gstin gstin (Option.mem_def.mpr hgstin) other hother htenant hid hsame
  · exact bind_ok.mpr ⟨patched, h.made, rfl⟩

end Inversion

/-! ## Keys -/

theorem RegistryDb.WellKeyed.step {db : RegistryDb} (h : db.WellKeyed) (platform : RegistryPlatform)
    (call : RegistryCall) : ((registry platform).step db call).2.WellKeyed :=
  (sessions platform).step_kept RegistryDb.WellKeyed h fun _ _ _ _ haccepted ↦
    h.apply (Writes.accepted_iff.mp haccepted)

theorem RegistryDb.WellKeyed.empty : RegistryDb.WellKeyed {} := ⟨meets_nil _, meets_nil _⟩

end Xyena.Businesses
