import Xyena.Businesses.Changes

/-!
# The standing of a business

Reviews and applied requests are all that changes a business, and each of them hashes
the record anew. What a business was registered as stays, an unreviewed record is as
it was created, and the risk flags tell the reviews that a record has been through: a
suspension leaves its flag behind, whatever comes after it.
-/

namespace Xyena.Businesses

open Xyena.Foundation Xyena.Foundation.Session

/-! ## What the source promises -/

/-- The columns that nothing changes after the registration. -/
structure SameRegistration (first row : Business) : Prop where
  id : row.id = first.id
  tenantId : row.tenantId = first.tenantId
  businessId : row.businessId = first.businessId
  registryNumber : row.registryNumber = first.registryNumber
  businessType : row.businessType = first.businessType
  incorporationDate : row.incorporationDate = first.incorporationDate
  createdBy : row.createdBy = first.createdBy

/-- The entry has registered the business for an operator. -/
def Registers (platform : RegistryPlatform) (e : RegistryEntry) (first : Business) : Prop :=
  e.output = .ok (.business first) ∧ ∃ scope body, e.input.request = .createBusiness scope body ∧
    scope.roles.contains "REGISTRY_OPERATOR" = true ∧ body.incorporationDate ≤ e.input.today ∧
    first = newBusiness platform e.input scope body

/-- The entry has suspended the business. -/
def Suspends (e : RegistryEntry) (id : String) : Prop :=
  ∃ row, e.output = .ok (.business row) ∧ row.id = id ∧ row.status = .suspended

def WasSuspended (history : List RegistryEntry) (id : String) : Prop := ∃ e ∈ history, Suspends e id

/-- The flags of a business, by its status and whether it was ever suspended. -/
def standingFlags (suspended : Bool) : BusinessStatus → List String
  | .pendingReview => ["PENDING_IDENTITY_REVIEW"]
  | .active => if suspended then ["REGISTRY_SUSPENDED"] else []
  | .suspended => ["REGISTRY_SUSPENDED"]
  | .dissolved => if suspended then ["REGISTRY_DISSOLVED", "REGISTRY_SUSPENDED"] else ["REGISTRY_DISSOLVED"]
  | .rejected => ["REGISTRY_REJECTED"]

/-- What a stored business shows of the run before it. -/
structure Standing (platform : RegistryPlatform) (history : List RegistryEntry) (row : Business) : Prop where
  registered : ∃ first, (∃ e ∈ history, Registers platform e first) ∧ SameRegistration first row ∧
    (row.version = 1 → row = first)
  pending : row.status = .pendingReview ↔ row.version = 1
  version : 1 ≤ row.version
  hash : 1 < row.version → row.sourceHash = canonicalHash platform (identity row)
  stateCode : row.registeredAddress.lookup "state_code" = some row.registeredStateCode
  flags : ∃ suspended, (suspended = true ↔ WasSuspended history row.id) ∧
    row.riskFlags = standingFlags suspended row.status
  suspended : row.status = .suspended → WasSuspended history row.id
  unreviewed : row.status = .pendingReview → ¬WasSuspended history row.id

/-! ## Histories -/

section Histories

variable {platform : RegistryPlatform} {history : List RegistryEntry} {e : RegistryEntry} {row : Business}

theorem wasSuspended_snoc {id : String} :
    WasSuspended (history ++ [e]) id ↔ WasSuspended history id ∨ Suspends e id := by
  simp only [WasSuspended, List.mem_append, List.mem_singleton, or_and_right, exists_or, exists_eq_left]

/-- What one more entry leaves of the standing of a business that it does not suspend. -/
theorem Standing.later (h : Standing platform history row) (hquiet : ¬Suspends e row.id) :
    Standing platform (history ++ [e]) row := by
  have hsame : WasSuspended (history ++ [e]) row.id ↔ WasSuspended history row.id := by
    rw [wasSuspended_snoc, or_iff_left hquiet]
  obtain ⟨first, ⟨entry, hentry, hregisters⟩, hfirst⟩ := h.registered
  refine ⟨⟨first, ⟨entry, List.mem_append_left _ hentry, hregisters⟩, hfirst⟩, h.pending, h.version,
    h.hash, h.stateCode, ?_, ?_, ?_⟩
  · simpa only [hsame] using h.flags
  · simpa only [hsame] using h.suspended
  · simpa only [hsame] using h.unreviewed

theorem SameRegistration.trans {first second third : Business} (hfirst : SameRegistration first second)
    (hsecond : SameRegistration second third) : SameRegistration first third where
  id := hsecond.id.trans hfirst.id
  tenantId := hsecond.tenantId.trans hfirst.tenantId
  businessId := hsecond.businessId.trans hfirst.businessId
  registryNumber := hsecond.registryNumber.trans hfirst.registryNumber
  businessType := hsecond.businessType.trans hfirst.businessType
  incorporationDate := hsecond.incorporationDate.trans hfirst.incorporationDate
  createdBy := hsecond.createdBy.trans hfirst.createdBy

/-- The registration of a later version. -/
theorem Standing.registered_later {new : Business} (h : Standing platform history row)
    (hsame : SameRegistration row new) (hversion : new.version = row.version + 1) :
    ∃ first, (∃ entry ∈ history ++ [e], Registers platform entry first) ∧ SameRegistration first new ∧
      (new.version = 1 → new = first) := by
  obtain ⟨first, ⟨entry, hentry, hregisters⟩, hfirst, -⟩ := h.registered
  have hlater := h.version
  exact ⟨first, ⟨entry, List.mem_append_left _ hentry, hregisters⟩, hfirst.trans hsame, fun hone ↦ by omega⟩

end Histories

/-! ## Flags -/

/-- The flags after a review are those of the new status. -/
theorem reviewFlags_standing {suspended : Bool} {status target : BusinessStatus} (h : target ∈ allowed status)
    (hsuspended : status = .suspended → suspended = true)
    (hpending : status = .pendingReview → suspended = false) :
    reviewFlags (standingFlags suspended status) target =
      standingFlags (suspended || target = .suspended) target := by
  cases status <;> cases target <;> cases suspended <;> simp [allowed] at h hsuspended hpending <;>
    decide +kernel

/-! ## One call -/

section Calls

variable {platform : RegistryPlatform} {db : RegistryDb} {call : RegistryCall} {answer : RegistryAnswer}
  {writes : Writes} {history : List RegistryEntry} {e : RegistryEntry} {row : Business}

theorem standing_new {scope : BrowserScope} {body : BusinessCreate} (h : Creates db call scope body)
    (hinput : e.input = call) (houtput : e.output = .ok (.business (newBusiness platform call scope body)))
    (hfresh : ¬WasSuspended history (newBusiness platform call scope body).id) :
    Standing platform (history ++ [e]) (newBusiness platform call scope body) := by
  have hnever : ¬WasSuspended (history ++ [e]) (newBusiness platform call scope body).id := by
    rw [wasSuspended_snoc, not_or]
    refine ⟨hfresh, ?_⟩
    rintro ⟨row, hrow, -, hstatus⟩
    rw [houtput] at hrow
    cases hrow
    cases hstatus
  constructor
  case registered =>
    refine ⟨_, ⟨e, List.mem_append_right _ (List.mem_singleton_self e), houtput, scope, body, ?_, h.role,
      ?_, ?_⟩, ⟨rfl, rfl, rfl, rfl, rfl, rfl, rfl⟩, fun _ ↦ rfl⟩
    · rw [hinput]
      exact h.request
    · rw [hinput]
      exact h.past
    · rw [hinput]
  case pending => exact ⟨fun _ ↦ rfl, fun _ ↦ rfl⟩
  case version => exact le_rfl
  case hash => exact fun hlater ↦ absurd hlater (lt_irrefl 1)
  case stateCode => rfl
  case flags => exact ⟨false, by simp [hnever], rfl⟩
  case suspended => exact fun hstatus ↦ by cases hstatus
  case unreviewed => exact fun _ ↦ hnever

theorem standing_transition {target : BusinessStatus} {reviewer : String} (h : Standing platform history row)
    (hallowed : target ∈ allowed row.status) (hlisted : target ≠ .pendingReview)
    (houtput : e.output = .ok (.business (Business.transition platform row target reviewer))) :
    Standing platform (history ++ [e]) (Business.transition platform row target reviewer) := by
  have hsuspends : Suspends e row.id ↔ target = .suspended := by
    constructor
    · rintro ⟨other, hother, -, hstatus⟩
      rw [houtput] at hother
      cases hother
      exact hstatus
    · exact fun htarget ↦ ⟨_, houtput, rfl, htarget⟩
  have hlater := h.version
  obtain ⟨suspended, hwas, hflags⟩ := h.flags
  have hnow : WasSuspended (history ++ [e]) row.id ↔ (suspended || target = .suspended) = true := by
    rw [wasSuspended_snoc, hsuspends, ← hwas, Bool.or_eq_true, decide_eq_true_eq]
  constructor
  case registered => exact h.registered_later ⟨rfl, rfl, rfl, rfl, rfl, rfl, rfl⟩ rfl
  case pending =>
    exact ⟨fun hstatus ↦ absurd hstatus hlisted, fun hone ↦
      absurd hone (Nat.ne_of_gt (Nat.succ_lt_succ hlater))⟩
  case version => exact Nat.succ_pos row.version
  case hash => exact fun _ ↦ rfl
  case stateCode => exact h.stateCode
  case flags =>
    refine ⟨suspended || target = .suspended, hnow.symm, ?_⟩
    change reviewFlags row.riskFlags target = _
    rw [hflags]
    refine reviewFlags_standing hallowed (fun hstatus ↦ hwas.mpr (h.suspended hstatus)) fun hstatus ↦ ?_
    exact Bool.eq_false_iff.mpr fun hyes ↦ h.unreviewed hstatus (hwas.mp hyes)
  case suspended => exact fun hstatus ↦ hnow.mpr (Bool.or_eq_true_iff.mpr (Or.inr (decide_eq_true hstatus)))
  case unreviewed => exact fun hstatus ↦ absurd hstatus hlisted

theorem standing_patched {patch : Patch} {reviewer : String} {new : Business}
    (h : Standing platform history row)
    (hmade : Patched platform row patch reviewer new) (haddress : new.registeredAddress.lookup "state_code" =
      some new.registeredStateCode) (hversion : 2 ≤ row.version) (hquiet : ¬Suspends e row.id) :
    Standing platform (history ++ [e]) new := by
  have hsame : WasSuspended (history ++ [e]) new.id ↔ WasSuspended history row.id := by
    rw [hmade.id, wasSuspended_snoc, or_iff_left hquiet]
  have hnew := hmade.version
  constructor
  case registered =>
    exact h.registered_later ⟨hmade.id, hmade.tenantId, hmade.businessId, hmade.registryNumber,
      hmade.businessType, hmade.incorporationDate, hmade.createdBy⟩ hmade.version
  case pending =>
    have hreviewed : row.status ≠ .pendingReview := fun hstatus ↦ by
      have hone := h.pending.mp hstatus
      omega
    exact ⟨fun hstatus ↦ absurd (hmade.status.symm.trans hstatus) hreviewed, fun hone ↦ by omega⟩
  case version => omega
  case hash => exact fun _ ↦ hmade.sourceHash
  case stateCode => exact haddress
  case flags => simpa only [hsame, hmade.riskFlags, hmade.status] using h.flags
  case suspended => simpa only [hsame, hmade.status] using h.suspended
  case unreviewed => simpa only [hsame, hmade.status] using h.unreviewed

/-- A patch moves the registered state along with the address. -/
theorem stateCode_patched {patch : Patch} {reviewer : String} {new : Business}
    (h : row.registeredAddress.lookup "state_code" = some row.registeredStateCode)
    (hpatch : Business.patch platform row patch reviewer = .ok new) :
    new.registeredAddress.lookup "state_code" = some new.registeredStateCode := by
  obtain ⟨relocated, hrelocated, hpatch⟩ := bind_ok.mp hpatch
  obtain rfl := Except.ok.inj hpatch
  unfold Business.relocate at hrelocated
  split at hrelocated
  · obtain rfl := Except.ok.inj hrelocated
    exact h
  · split at hrelocated
    · cases hrelocated
    next code hcode =>
      obtain rfl := Except.ok.inj hrelocated
      exact hcode

end Calls

/-! ## Runs -/

/-- The invariant of a run: all businesses have their standing, and requests target reviewed records. -/
structure Stood (platform : RegistryPlatform) (history : List RegistryEntry) (db : RegistryDb) : Prop where
  standing : ∀ row ∈ db.businesses, Standing platform history row
  targets : ∀ change ∈ db.changes, 2 ≤ change.targetVersion
  answered : ∀ e ∈ history, ∀ row, e.output = .ok (.business row) → ∃ stored ∈ db.businesses,
    stored.id = row.id

section Runs

variable {platform : RegistryPlatform} {db : RegistryDb} {call : RegistryCall} {answer : RegistryAnswer}
  {writes : Writes} {history : List RegistryEntry} {e : RegistryEntry}

theorem not_suspends_of_change {change : ChangeRequest} (houtput : e.output = .ok (.change change))
    (id : String) : ¬Suspends e id := by
  rintro ⟨row, hrow, -⟩
  rw [houtput] at hrow
  cases hrow

/-- The answers of a run name stored businesses, whatever rows a call writes. -/
theorem answered_apply {writes : Writes} (h : Stood platform history db) (e : RegistryEntry)
    (hnew : ∀ row, e.output = .ok (.business row) → ∃ stored ∈ (writes.apply db).businesses,
      stored.id = row.id) :
    ∀ entry ∈ history ++ [e], ∀ row, entry.output = .ok (.business row) →
      ∃ stored ∈ (writes.apply db).businesses, stored.id = row.id := by
  intro entry hentry row hrow
  rcases List.mem_append.mp hentry with hold | hlast
  · obtain ⟨stored, hstored, hid⟩ := h.answered entry hold row hrow
    have hkept : stored.id ∈ (writes.apply db).businesses.map Business.id :=
      RowWrite.key_mem_applyAll businessConstraints writes.businesses (List.mem_map_of_mem hstored)
    obtain ⟨later, hlater, hsame⟩ := List.mem_map.mp hkept
    exact ⟨later, hlater, hsame.trans hid⟩
  · obtain rfl := List.mem_singleton.mp hlast
    exact hnew row hrow

theorem Stood.apply (h : Stood platform history db) (hmove : Move platform db call answer writes)
    (haccepted : writes.Accepted db) (hinput : e.input = call) (houtput : e.output = .ok answer) :
    Stood platform (history ++ [e]) (writes.apply db) := by
  cases hmove with
  | created scope body hcreates =>
    have hfresh := RowWrite.accepted_insert.mp (RowWrite.accepted_of_singleton haccepted.businesses)
    have hnot : ¬WasSuspended history (newBusiness platform call scope body).id := by
      rintro ⟨entry, hentry, row, hrow, hid, -⟩
      obtain ⟨stored, hstored, hsame⟩ := h.answered entry hentry row hrow
      exact (hfresh stored hstored).1 (hid.symm.trans hsame.symm)
    have hquiet (id : String) : ¬Suspends e id := by
      rintro ⟨row, hrow, -, hstatus⟩
      rw [houtput] at hrow
      cases hrow
      cases hstatus
    refine ⟨fun row hrow ↦ ?_, h.targets, answered_apply h e fun row hrow ↦ ?_⟩
    · rcases List.mem_append.mp hrow with hold | hnew
      · exact (h.standing row hold).later (hquiet row.id)
      · rw [List.mem_singleton.mp hnew]
        exact standing_new hcreates hinput houtput hnot
    · rw [houtput] at hrow
      cases hrow
      exact ⟨_, List.mem_append_right _ (List.mem_singleton_self _), rfl⟩
  | transitioned scope identifier body expectedVersion row hrequest hrow hallowed =>
    have hstored := (business_ok hrow).1
    refine ⟨fun other hother ↦ ?_, h.targets, answered_apply h e fun new hnew ↦ ?_⟩
    · rcases Table.mem_replace hother with rfl | ⟨hold, hne⟩
      · exact standing_transition (h.standing row hstored) hallowed body.targetStatus_listed houtput
      · refine (h.standing other hold).later ?_
        rintro ⟨new, hnew, hid, -⟩
        rw [houtput] at hnew
        cases hnew
        exact hne hid.symm
    · rw [houtput] at hnew
      cases hnew
      exact ⟨_, Table.changed_mem_replace hstored rfl, rfl⟩
  | proposed scope identifier body row hrequest hrow hstatus =>
    have hreviewed : 2 ≤ row.version := by
      have hstanding := h.standing row (business_ok hrow).1
      have hpending : row.version ≠ 1 := fun hone ↦ by
        rcases hstatus with hactive | hsuspended
        · cases hactive.symm.trans (hstanding.pending.mpr hone)
        · cases hsuspended.symm.trans (hstanding.pending.mpr hone)
      have hfirst := hstanding.version
      omega
    refine ⟨fun other hother ↦ (h.standing other hother).later (not_suspends_of_change houtput _), ?_,
      answered_apply h e fun new hnew ↦ ?_⟩
    · intro change hchange
      rcases List.mem_append.mp hchange with hold | hnew
      · exact h.targets change hold
      · rw [List.mem_singleton.mp hnew]
        exact hreviewed
    · rw [houtput] at hnew
      cases hnew
  | approved scope changeId reason change row patched happroves =>
    have hstored := (business_ok happroves.held).1
    have hstanding := h.standing row hstored
    have htarget := h.targets change happroves.stored
    have hversion := happroves.version
    have hdecided : ∀ other ∈ (approvalWrites scope change reason patched).apply db |>.changes,
        2 ≤ other.targetVersion := by
      intro other hother
      rcases Table.mem_replace hother with rfl | ⟨hold, -⟩
      · exact htarget
      · exact h.targets other hold
    refine ⟨fun other hother ↦ ?_, hdecided, answered_apply h e fun new hnew ↦ ?_⟩
    · rcases Table.mem_replace hother with rfl | ⟨hold, -⟩
      · exact standing_patched hstanding (patched_of_patch happroves.made)
          (stateCode_patched hstanding.stateCode happroves.made) (by omega) (not_suspends_of_change houtput _)
      · exact (h.standing other hold).later (not_suspends_of_change houtput _)
    · rw [houtput] at hnew
      cases hnew
  | rejected scope changeId reason change row hdecides =>
    refine ⟨fun other hother ↦ (h.standing other hother).later (not_suspends_of_change houtput _), ?_,
      answered_apply h e fun new hnew ↦ ?_⟩
    · intro other hother
      rcases Table.mem_replace hother with rfl | ⟨hold, -⟩
      · exact h.targets change hdecides.stored
      · exact h.targets other hold
    · rw [houtput] at hnew
      cases hnew

theorem Stood.step (h : Stood platform history db) (call : RegistryCall) :
    Stood platform (history ++ [(registry platform).entry db call]) ((registry platform).step db call).2 := by
  rcases (sessions platform).step_cases db call with
    ⟨failure, hstep⟩ | ⟨answer, hserve, -⟩ | ⟨answer, writes, hserve, -, haccepted, hstep⟩
  · have houtput : ((registry platform).entry db call).output = .error failure := congrArg Prod.fst hstep
    have hquiet (row : Business) : ¬((registry platform).entry db call).output = .ok (.business row) := by
      rw [houtput]
      exact fun hrow ↦ by cases hrow
    rw [registry, hstep]
    refine ⟨fun row hrow ↦ (h.standing row hrow).later fun hsuspends ↦ hquiet _ hsuspends.choose_spec.1,
      h.targets, ?_⟩
    intro entry hentry row hrow
    rcases List.mem_append.mp hentry with hold | hlast
    · exact h.answered entry hold row hrow
    · rw [List.mem_singleton.mp hlast] at hrow
      exact absurd hrow (hquiet row)
  · obtain ⟨writes, ⟨⟩, -⟩ := moved_of_serve hserve
  · have houtput : ((registry platform).entry db call).output = .ok answer := congrArg Prod.fst hstep
    rw [registry, hstep]
    exact h.apply (move_of_serve hserve) (Writes.accepted_iff.mp haccepted) rfl houtput

/-- In every run all businesses have their standing. -/
theorem businesses_standing (platform : RegistryPlatform) (calls : List RegistryCall) :
    ∀ row ∈ ((registry platform).run {} calls).businesses,
      Standing platform ((registry platform).log {} calls) row := by
  have hstart : Stood platform [] {} := ⟨by simp, by simp, by simp⟩
  exact ((registry platform).history_invariant_all (Stood platform) hstart
    (fun _ _ call h ↦ h.step call) calls).standing

end Runs

theorem active_listed : BusinessStatus.active ≠ .pendingReview := BusinessStatus.noConfusion

theorem suspended_listed : BusinessStatus.suspended ≠ .pendingReview := BusinessStatus.noConfusion

/-- A business is activated, suspended and activated again. -/
def suspendedOnce : List RegistryCall :=
  [asking steelId 0 (.createBusiness operator
      (registration "meridian_steel" "MH-2020-0001" steelName_form steelNumber_form)),
    asking "" 0 (.transitionStatus reviewer steelId ⟨.active, "Papers are complete", active_listed⟩ 1),
    asking "" 0 (.transitionStatus reviewer steelId ⟨.suspended, "Papers have expired", suspended_listed⟩ 2),
    asking "" 0 (.transitionStatus reviewer steelId ⟨.active, "Papers were renewed", active_listed⟩ 3)]

theorem suspendedOnce_standing : ∃ row ∈ ((registry sampleRegistry).run {} suspendedOnce).businesses,
    row.status = .active ∧ row.riskFlags = ["REGISTRY_SUSPENDED"] ∧
      Standing sampleRegistry ((registry sampleRegistry).log {} suspendedOnce) row := by
  have hstored : ∃ row ∈ ((registry sampleRegistry).run {} suspendedOnce).businesses,
      row.status = .active ∧ row.riskFlags = ["REGISTRY_SUSPENDED"] := by
    decide +kernel
  obtain ⟨row, hrow, hactive, hflags⟩ := hstored
  exact ⟨row, hrow, hactive, hflags, businesses_standing sampleRegistry suspendedOnce row hrow⟩

end Xyena.Businesses
