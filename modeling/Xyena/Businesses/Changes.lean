import Xyena.Businesses.Identifiers

/-!
# Change requests and the records they target

An approval does not look at the status of the business again, but every
operation that changes a business also raises its version. A request whose
target version still is the version of its business therefore finds the status
that it was submitted in. What an approval changes is the business that the
lookup returns for the identifier of the request's business, which is that
business only as long as no other one has the identifier for a name.
-/

namespace Xyena.Businesses

open Xyena.Foundation Xyena.Foundation.Session

/-! ## What the source promises -/

abbrev RegistryEntry := Entry RegistryDb RegistryCall (Except RegistryError RegistryAnswer)

/-- An applied request has changed its business, in the version that it targets, by its patch. -/
def Applied (platform : RegistryPlatform) (before after : List Business) (scope : BrowserScope)
    (decided : ChangeRequest) : Prop :=
  ∃ old ∈ before, old.id = decided.businessId ∧ old.version = decided.targetVersion ∧
    (old.status = .active ∨ old.status = .suspended) ∧
    ∃ new, Patched platform old decided.requestedPatch scope.userId new ∧
      after = Table.replace Business.id new before

/-- A review has raised the version of one business. -/
def Reviewed (before after : List Business) (row : Business) : Prop :=
  ∃ old ∈ before, row.id = old.id ∧ row.version = old.version + 1 ∧ after = Table.replace Business.id row before

/-- Businesses change by applied requests and reviews only, and a new one is in its first version. -/
def Lawful (platform : RegistryPlatform) (e : RegistryEntry) : Prop :=
  match e.input.request, e.output with
  | .createBusiness .., .ok (.business row) =>
    row.version = 1 ∧ e.after.businesses = e.before.businesses ++ [row]
  | .transitionStatus .., .ok (.business row) => Reviewed e.before.businesses e.after.businesses row
  | .decideChange scope _ true _, .ok (.change decided) =>
    Applied platform e.before.businesses e.after.businesses scope decided
  | _, _ => e.after.businesses = e.before.businesses

/-- The entry approves the request and returns it. -/
def Approval (change : ChangeRequest) (e : RegistryEntry) : Prop :=
  (∃ scope changeId reason, e.input.request = .decideChange scope changeId true reason) ∧
    e.output = .ok (.change change)

/-- Every applied request was approved. -/
def Approved (history : List RegistryEntry) (db : RegistryDb) : Prop :=
  ∀ change ∈ db.changes, change.status = .approved → ∃ e ∈ history, Approval change e

/-- Of the requests for one version of a business at most one is applied. -/
def AppliedOnce (db : RegistryDb) : Prop :=
  ∀ first ∈ db.changes, ∀ second ∈ db.changes, first.status = .approved → second.status = .approved →
    first.businessId = second.businessId → first.targetVersion = second.targetVersion → first = second

/-- The lookup of every approval that the database takes returns the business of the request. -/
def PicksOwn (platform : RegistryPlatform) (db : RegistryDb) (call : RegistryCall) : Prop :=
  ∀ scope changeId reason change row patched,
    Approves platform db call scope changeId reason change row patched → call.refused = false →
    (approvalWrites scope change reason patched).Accepted db → row.id = change.businessId

/-! ## Requests and their businesses -/

/-- The business of a request is stored, in the targeted version or a later one. In the targeted version it
still has a status that the request could be submitted in. -/
structure Targets (rows : List Business) (change : ChangeRequest) (row : Business) : Prop where
  stored : row ∈ rows
  id : row.id = change.businessId
  tenant : row.tenantId = change.tenantId
  version : change.targetVersion ≤ row.version
  status : row.version = change.targetVersion → row.status = .active ∨ row.status = .suspended

structure Regular (db : RegistryDb) : Prop where
  keyed : db.WellKeyed
  targets : ∀ change ∈ db.changes, ∃ row, Targets db.businesses change row

section Regular

variable {platform : RegistryPlatform} {db : RegistryDb} {call : RegistryCall} {answer : RegistryAnswer}
  {writes : Writes}

/-- A later version of a business is a target, too. -/
theorem Targets.replace {rows : List Business} {change : ChangeRequest} {row new : Business}
    (hkeys : (rows.map Business.id).Nodup) (hrow : row ∈ rows) (hid : new.id = row.id)
    (htenant : new.tenantId = row.tenantId) (hversion : new.version = row.version + 1)
    (h : ∃ target, Targets rows change target) :
    ∃ target, Targets (Table.replace Business.id new rows) change target := by
  obtain ⟨target, h⟩ := h
  by_cases hsame : target.id = row.id
  · obtain rfl := Table.eq_of_key hkeys h.stored hrow hsame
    have hlater := h.version
    exact ⟨new, Table.changed_mem_replace hrow hid.symm, hid.trans h.id, htenant.trans h.tenant, by omega,
      fun hequal ↦ by omega⟩
  · exact ⟨target, Table.mem_replace_of_ne h.stored (hid ▸ hsame), h.id, h.tenant, h.version, h.status⟩

/-- A decided request has the target of the submitted one. -/
theorem Targets.decide {rows : List Business} {changes : List ChangeRequest} {change : ChangeRequest}
    (h : ∀ change ∈ changes, ∃ row, Targets rows change row) (hchange : change ∈ changes)
    (status : ChangeStatus) (reviewer reason : String) (appliedVersion : Option Nat) :
    ∀ row ∈ Table.replace ChangeRequest.id (change.decide status reviewer reason appliedVersion) changes,
      ∃ target, Targets rows row target := by
  intro row hrow
  rcases Table.mem_replace hrow with rfl | ⟨hold, -⟩
  · obtain ⟨target, htarget⟩ := h change hchange
    exact ⟨target, htarget.stored, htarget.id, htarget.tenant, htarget.version, htarget.status⟩
  · exact h row hold

theorem Decides.stored {scope : BrowserScope} {changeId reason : String} {approve : Bool}
    {change : ChangeRequest} {row : Business}
    (h : Decides platform db call scope changeId approve reason change row) : change ∈ db.changes :=
  List.mem_of_find?_eq_some h.found

theorem Regular.apply (h : Regular db) (hmove : Move platform db call answer writes)
    (haccepted : writes.Accepted db) : Regular (writes.apply db) := by
  refine ⟨h.keyed.apply haccepted, ?_⟩
  have hkeys := h.keyed.businesses.keys
  cases hmove with
  | created scope body hcreates =>
    intro change hchange
    obtain ⟨row, hrow⟩ := h.targets change hchange
    exact ⟨row, List.mem_append_left _ hrow.stored, hrow.id, hrow.tenant, hrow.version, hrow.status⟩
  | transitioned scope identifier body expectedVersion row hrequest hrow =>
    intro change hchange
    exact Targets.replace hkeys (business_ok hrow).1 rfl rfl rfl (h.targets change hchange)
  | proposed scope identifier body row hrequest hrow hstatus =>
    intro change hchange
    rcases List.mem_append.mp hchange with hold | hnew
    · exact h.targets change hold
    · obtain rfl := List.mem_singleton.mp hnew
      exact ⟨row, (business_ok hrow).1, rfl, business_tenant hrow, le_rfl, fun _ ↦ hstatus⟩
  | approved scope changeId reason change row patched happroves =>
    have hmade := patched_of_patch happroves.made
    refine Targets.decide (fun other hother ↦ ?_) happroves.stored _ _ _ _
    exact Targets.replace hkeys (business_ok happroves.held).1 hmade.id hmade.tenantId hmade.version
      (h.targets other hother)
  | rejected scope changeId reason change row hdecides =>
    exact Targets.decide h.targets hdecides.stored _ _ _ _

theorem Regular.step (platform : RegistryPlatform) (h : Regular db) (call : RegistryCall) :
    Regular ((registry platform).step db call).2 :=
  (sessions platform).step_kept Regular h fun _ _ hserve _ haccepted ↦
    h.apply (move_of_serve hserve) (Writes.accepted_iff.mp haccepted)

theorem Regular.empty : Regular {} := ⟨.empty, fun _ hchange ↦ absurd hchange List.not_mem_nil⟩

end Regular

/-! ## Applied requests -/

/-- Applied requests target earlier versions of their businesses, and no two of them the same one. -/
structure Spent (db : RegistryDb) : Prop where
  earlier : ∀ change ∈ db.changes, change.status = .approved → ∀ row ∈ db.businesses,
    row.id = change.businessId → change.targetVersion < row.version
  once : AppliedOnce db

section Spent

variable {platform : RegistryPlatform} {db : RegistryDb} {call : RegistryCall} {answer : RegistryAnswer}
  {writes : Writes}

theorem earlier_replace {rows : List Business} {changes : List ChangeRequest} {row new : Business}
    (h : ∀ change ∈ changes, change.status = .approved → ∀ row ∈ rows, row.id = change.businessId →
      change.targetVersion < row.version)
    (hrow : row ∈ rows) (hid : new.id = row.id) (hversion : new.version = row.version + 1) :
    ∀ change ∈ changes, change.status = .approved → ∀ other ∈ Table.replace Business.id new rows,
      other.id = change.businessId → change.targetVersion < other.version := by
  intro change hchange hstatus other hother hbusiness
  rcases Table.mem_replace hother with rfl | ⟨hold, -⟩
  · have hbefore := h change hchange hstatus row hrow (hid.symm.trans hbusiness)
    omega
  · exact h change hchange hstatus other hold hbusiness

/-- Requests that are not applied do not count. -/
theorem AppliedOnce.of_applied {changes : List ChangeRequest} {rows : List Business} (h : AppliedOnce db)
    (hchanges : ∀ change ∈ changes, change.status = .approved → change ∈ db.changes) :
    AppliedOnce { businesses := rows, changes := changes } := by
  intro first hfirst second hsecond hfirstStatus hsecondStatus
  exact h first (hchanges first hfirst hfirstStatus) second (hchanges second hsecond hsecondStatus)
    hfirstStatus hsecondStatus

theorem Spent.apply (h : Spent db) (hregular : Regular db) (hmove : Move platform db call answer writes)
    (hrefused : call.refused = false) (haccepted : writes.Accepted db) (hown : PicksOwn platform db call) :
    Spent (writes.apply db) := by
  cases hmove with
  | created scope body hcreates =>
    refine ⟨fun change hchange hstatus row hrow hid ↦ ?_, h.once⟩
    rcases List.mem_append.mp hrow with hold | hnew
    · exact h.earlier change hchange hstatus row hold hid
    · obtain rfl := List.mem_singleton.mp hnew
      obtain ⟨target, htarget⟩ := hregular.targets change hchange
      have hfresh : call.uuid 0 ≠ target.id :=
        (RowWrite.accepted_insert.mp (RowWrite.accepted_of_singleton haccepted.businesses) target
          htarget.stored).1
      exact absurd (hid.trans htarget.id.symm) hfresh
  | transitioned scope identifier body expectedVersion row hrequest hrow =>
    exact ⟨earlier_replace h.earlier (business_ok hrow).1 rfl rfl, h.once⟩
  | proposed scope identifier body row =>
    have hold : ∀ change ∈ db.changes ++ [newChange call scope row body], change.status = .approved →
        change ∈ db.changes := by
      intro change hchange hstatus
      rcases List.mem_append.mp hchange with hold | hnew
      · exact hold
      · rw [List.mem_singleton.mp hnew] at hstatus
        cases hstatus
    exact ⟨fun change hchange hstatus ↦ h.earlier change (hold change hchange hstatus) hstatus,
      h.once.of_applied hold⟩
  | approved scope changeId reason change row patched happroves =>
    have hmade := patched_of_patch happroves.made
    have hrow := (business_ok happroves.held).1
    have hsame := hown scope changeId reason change row patched happroves hrefused haccepted
    have hlater := earlier_replace h.earlier hrow hmade.id hmade.version
    -- an applied request for this version would target an earlier one
    have hfirst (old : ChangeRequest) (hold : old ∈ db.changes) (hstatus : old.status = .approved)
        (hbusiness : old.businessId = change.businessId) : old.targetVersion ≠ change.targetVersion := by
      have hearlier := h.earlier old hold hstatus row hrow (hsame.trans hbusiness.symm)
      have hversion := happroves.version
      omega
    constructor
    · intro other hother hstatus
      rcases Table.mem_replace hother with rfl | ⟨hold, -⟩
      · intro new hnew hid
        rcases Table.mem_replace hnew with rfl | ⟨-, hne⟩
        · change change.targetVersion < new.version
          rw [hmade.version, happroves.version]
          omega
        · exact absurd (hid.trans (hsame.symm.trans hmade.id.symm)) hne
      · exact hlater other hold hstatus
    · intro first hfirstMem second hsecondMem hfirstStatus hsecondStatus hbusiness hversion
      rcases Table.mem_replace hfirstMem with rfl | ⟨hold, -⟩
      · rcases Table.mem_replace hsecondMem with rfl | ⟨hold', -⟩
        · rfl
        · exact absurd hversion.symm (hfirst second hold' hsecondStatus hbusiness.symm)
      · rcases Table.mem_replace hsecondMem with rfl | ⟨hold', -⟩
        · exact absurd hversion (hfirst first hold hfirstStatus hbusiness)
        · exact h.once first hold second hold' hfirstStatus hsecondStatus hbusiness hversion
  | rejected scope changeId reason change row hdecides =>
    have hold : ∀ other ∈ Table.replace ChangeRequest.id
        (change.decide .rejected scope.userId reason change.appliedVersion) db.changes,
        other.status = .approved → other ∈ db.changes := by
      intro other hother hstatus
      rcases Table.mem_replace hother with rfl | ⟨hold, -⟩
      · cases hstatus
      · exact hold
    exact ⟨fun other hother hstatus ↦ h.earlier other (hold other hother hstatus) hstatus,
      h.once.of_applied hold⟩

end Spent

/-! ## The exact condition -/

section Condition

variable {platform : RegistryPlatform} {db : RegistryDb} {call : RegistryCall}

/-- A call that leaves the businesses alone is lawful unless it answers with a change of them. -/
theorem lawful_of_error {failure : RegistryError}
    (h : (registry platform).step db call = (.error failure, db)) :
    Lawful platform ((registry platform).entry db call) := by
  rw [Lawful, Machine.entry, h]
  split <;> simp_all

/-- The rows of an approval that the database takes are those of a lawful one exactly when the lookup has
returned the business of the request. -/
theorem applied_iff {scope : BrowserScope} {changeId reason : String} {change : ChangeRequest}
    {row patched : Business} (h : Regular db)
    (happroves : Approves platform db call scope changeId reason change row patched) :
    Applied platform db.businesses (Table.replace Business.id patched db.businesses) scope
      (change.decide .approved scope.userId reason (some patched.version)) ↔
      row.id = change.businessId := by
  have hmade := patched_of_patch happroves.made
  have hrow := (business_ok happroves.held).1
  constructor
  · rintro ⟨old, hold, hid, -, -, new, hnew, hafter⟩
    by_contra hne
    have hother : row.id ≠ new.id := fun hsame ↦ hne (hsame.trans (hnew.id.trans hid))
    have hkept : row ∈ Table.replace Business.id patched db.businesses :=
      hafter ▸ Table.mem_replace_of_ne hrow hother
    rcases Table.mem_replace hkept with rfl | ⟨-, hchanged⟩
    · have hversion := hmade.version
      omega
    · exact hchanged hmade.id.symm
  · intro hsame
    obtain ⟨target, htarget⟩ := h.targets change happroves.stored
    obtain rfl := Table.eq_of_key h.keyed.businesses.keys htarget.stored hrow (htarget.id.trans hsame.symm)
    exact ⟨target, hrow, hsame, happroves.version, htarget.status happroves.version, patched, hmade, rfl⟩

theorem lawful_entry_iff (h : Regular db) :
    Lawful platform ((registry platform).entry db call) ↔ PicksOwn platform db call := by
  constructor
  · intro hlawful scope changeId reason change row patched happroves hrefused haccepted
    have hstep := (sessions platform).step_commit (serve_of_approves happroves) hrefused
      (Writes.accepted_iff.mpr haccepted)
    rw [Lawful, Machine.entry, registry, hstep, happroves.request] at hlawful
    exact (applied_iff h happroves).mp hlawful
  · intro hown
    rcases (sessions platform).step_cases db call with
      ⟨failure, hstep⟩ | ⟨answer, hserve, -⟩ | ⟨answer, writes, hserve, hrefused, haccepted, hstep⟩
    · exact lawful_of_error hstep
    · obtain ⟨writes, ⟨⟩, -⟩ := moved_of_serve hserve
    · rw [Lawful, Machine.entry, registry, hstep]
      cases move_of_serve hserve with
      | created scope body hcreates =>
        rw [hcreates.request]
        exact ⟨rfl, rfl⟩
      | transitioned scope identifier body expectedVersion row hrequest hrow =>
        rw [hrequest]
        exact ⟨row, (business_ok hrow).1, rfl, rfl, rfl⟩
      | proposed scope identifier body row hrequest =>
        rw [hrequest]
        rfl
      | approved scope changeId reason change row patched happroves =>
        rw [happroves.request]
        exact (applied_iff h happroves).mpr
          (hown scope changeId reason change row patched happroves hrefused (Writes.accepted_iff.mp haccepted))
      | rejected scope changeId reason change row hdecides =>
        rw [hdecides.request]
        rfl

end Condition

/-! ## Runs -/

section Runs

variable {platform : RegistryPlatform}

/-- Approved requests come from approvals. -/
theorem Approved.apply {history : List RegistryEntry} {db : RegistryDb} {call : RegistryCall}
    {answer : RegistryAnswer} {writes : Writes} (h : Approved history db)
    (hmove : Move platform db call answer writes)
    (hstep : (registry platform).step db call = (.ok answer, writes.apply db)) :
    Approved (history ++ [(registry platform).entry db call]) (writes.apply db) := by
  have hold (change : ChangeRequest) (hchange : change ∈ db.changes) (hstatus : change.status = .approved) :
      ∃ e ∈ history ++ [(registry platform).entry db call], Approval change e := by
    obtain ⟨e, he, happroval⟩ := h change hchange hstatus
    exact ⟨e, List.mem_append_left _ he, happroval⟩
  intro change hchange hstatus
  cases hmove with
  | created => exact hold change hchange hstatus
  | transitioned => exact hold change hchange hstatus
  | proposed =>
    rcases List.mem_append.mp hchange with hmem | hnew
    · exact hold change hmem hstatus
    · rw [List.mem_singleton.mp hnew] at hstatus
      cases hstatus
  | approved scope changeId reason request row patched happroves =>
    rcases Table.mem_replace hchange with rfl | ⟨hmem, -⟩
    · refine ⟨_, List.mem_append_right _ (List.mem_singleton_self _),
        ⟨scope, changeId, reason, happroves.request⟩, ?_⟩
      rw [Machine.entry, hstep]
    · exact hold change hmem hstatus
  | rejected =>
    rcases Table.mem_replace hchange with rfl | ⟨hmem, -⟩
    · cases hstatus
    · exact hold change hmem hstatus

theorem approved_of_run (platform : RegistryPlatform) (calls : List RegistryCall) :
    Approved ((registry platform).log {} calls) ((registry platform).run {} calls) := by
  refine (sessions platform).commit_history Approved (fun _ _ ↦ True) (by simp [Approved]) ?_ ?_ calls
    fun _ _ ↦ trivial
  · intro history db e h change hchange hstatus
    obtain ⟨earlier, hearlier, happroval⟩ := h change hchange hstatus
    exact ⟨earlier, List.mem_append_left _ hearlier, happroval⟩
  · intro history db call answer writes h _ hserve _ _ hstep
    exact h.apply (move_of_serve hserve) hstep

theorem spent_of_run (platform : RegistryPlatform) (calls : List RegistryCall)
    (hown : ∀ e ∈ (registry platform).log {} calls, PicksOwn platform e.before e.input) :
    Spent ((registry platform).run {} calls) := by
  have hstart : Regular {} ∧ Spent {} := ⟨.empty, by simp, by simp [AppliedOnce]⟩
  refine ((sessions platform).commit_history (fun _ db ↦ Regular db ∧ Spent db) (PicksOwn platform) hstart
    (fun _ _ _ h ↦ h) ?_ calls hown).2
  intro history db call answer writes h hown hserve hrefused haccepted _
  have hmove := move_of_serve hserve
  have haccepted := Writes.accepted_iff.mp haccepted
  exact ⟨h.1.apply hmove haccepted, h.2.apply h.1 hmove hrefused haccepted hown⟩

end Runs

/-- Changes are applied to the records that they target all through a run, exactly when every approval of
it finds the business of its request. -/
theorem changes_applied_fresh_iff (platform : RegistryPlatform) (calls : List RegistryCall) :
    ((∀ e ∈ (registry platform).log {} calls, Lawful platform e) ∧
      Approved ((registry platform).log {} calls) ((registry platform).run {} calls) ∧
      AppliedOnce ((registry platform).run {} calls)) ↔
      ∀ e ∈ (registry platform).log {} calls, PicksOwn platform e.before e.input := by
  have hlawful : (∀ e ∈ (registry platform).log {} calls, Lawful platform e) ↔
      ∀ e ∈ (registry platform).log {} calls, PicksOwn platform e.before e.input :=
    (registry platform).forall_log_iff Regular .empty (fun _ call h ↦ h.step platform call)
      (fun _ _ h ↦ lawful_entry_iff h) calls
  constructor
  · exact fun h ↦ hlawful.mp h.1
  · exact fun hown ↦ ⟨hlawful.mpr hown, approved_of_run platform calls, (spent_of_run platform calls hown).once⟩

/-! ## A business with the name of another one -/

def reviewer : BrowserScope := ⟨"tenant", "reviewer", ["REGISTRY_REVIEWER"]⟩

def rename (legalName : String) : ChangeRequestCreate where
  targetVersion := 2
  patch := { legalName := some legalName }
  reason := "The company was renamed"
  targetVersion_pos := by decide
  primaryGstin_form := noGstin_form

/-- A call that draws one identifier. The database returns the selected row with the given number. -/
def asking (id : String) (choice : Nat) (request : Request) : RegistryCall where
  request := request
  uuid _ := id
  today := 739000
  choice := choice

def steelId : String := "5d4c1b7e-2f60-4a9b-8f0d-6f1e7a3b9c20"

/-- Two requests for one version of an active business, and a rejected business that has the identifier of
the active one for its business ID. The database finds the rejected business for one request and the
active one for the other. -/
def twoNames : List RegistryCall :=
  [asking steelId 0 (.createBusiness operator
      (registration "meridian_steel" "MH-2020-0001" steelName_form steelNumber_form)),
    asking "" 0 (.transitionStatus reviewer "meridian_steel" ⟨.active, "Papers are complete", by simp⟩ 1),
    asking "first" 0 (.createChangeRequest operator "meridian_steel" (rename "Meridian Alloys")),
    asking "second" 0 (.createChangeRequest operator "meridian_steel" (rename "Meridian Metals")),
    asking "other" 0 (.createBusiness operator
      (registration steelId "MH-2020-0002" (by decide +kernel) (by decide +kernel))),
    asking "" 0 (.transitionStatus reviewer "MH-2020-0002" ⟨.rejected, "Papers are missing", by simp⟩ 1),
    asking "" 1 (.decideChange reviewer "first" true "Renamed"),
    asking "" 0 (.decideChange reviewer "second" true "Renamed")]

theorem changes_applied_twice :
    ¬((∀ e ∈ (registry sampleRegistry).log {} twoNames, Lawful sampleRegistry e) ∧
      Approved ((registry sampleRegistry).log {} twoNames) ((registry sampleRegistry).run {} twoNames) ∧
      AppliedOnce ((registry sampleRegistry).run {} twoNames)) := by
  have hboth : ∃ first ∈ ((registry sampleRegistry).run {} twoNames).changes,
      ∃ second ∈ ((registry sampleRegistry).run {} twoNames).changes,
        first.status = .approved ∧ second.status = .approved ∧ first.businessId = second.businessId ∧
          first.targetVersion = second.targetVersion ∧ first ≠ second := by
    decide +kernel
  obtain ⟨first, hfirst, second, hsecond, hfirstStatus, hsecondStatus, hbusiness, hversion, hne⟩ := hboth
  rintro ⟨-, -, honce⟩
  exact hne (honce first hfirst second hsecond hfirstStatus hsecondStatus hbusiness hversion)

end Xyena.Businesses
