import Xyena.Businesses.Moves

/-!
# Identifiers of businesses

A business is looked up by any of four identifiers, which are unique each in
its own column. An identifier is unambiguous as long as no two businesses of a
tenant share a name across columns, and a run keeps it so exactly when its
creations and approved changes bring no such name.
-/

namespace Xyena.Businesses

open Xyena.Foundation Xyena.Foundation.Session

/-- Every identifier selects at most one business of a tenant. -/
def Unambiguous (platform : RegistryPlatform) (db : RegistryDb) : Prop :=
  ∀ tenantId identifier, ∀ first ∈ db.businesses, ∀ second ∈ db.businesses,
    matchesIdentifier platform tenantId identifier first = true →
      matchesIdentifier platform tenantId identifier second = true → first = second

/-- The identifiers that are compared with a text as it is. -/
def names (row : Business) : List String := [row.id, row.businessId, row.registryNumber]

/-- No name of one business is a name or the GSTIN of the other one. -/
structure Apart (platform : RegistryPlatform) (first second : Business) : Prop where
  names : ∀ name ∈ names first, name ∉ names second
  gstin : ∀ name ∈ Businesses.names first, second.primaryGstin ≠ some (platform.upper name)
  gstin' : ∀ name ∈ Businesses.names second, first.primaryGstin ≠ some (platform.upper name)

theorem Apart.symm {platform : RegistryPlatform} {first second : Business}
    (h : Apart platform first second) : Apart platform second first :=
  ⟨fun name hsecond hfirst ↦ h.names name hfirst hsecond, h.gstin', h.gstin⟩

/-- Different businesses of one tenant are apart. -/
def Separate (platform : RegistryPlatform) (first second : Business) : Prop :=
  first.tenantId = second.tenantId → first.id ≠ second.id → Apart platform first second

def AllApart (platform : RegistryPlatform) (rows : List Business) : Prop :=
  ∀ first ∈ rows, ∀ second ∈ rows, Separate platform first second

/-! ## Lookups of businesses that are apart -/

section Lookups

variable {platform : RegistryPlatform} {tenantId identifier : String} {first second : Business}

theorem matches_iff : matchesIdentifier platform tenantId identifier first = true ↔
    first.tenantId = tenantId ∧
      (identifier ∈ names first ∨ first.primaryGstin = some (platform.upper identifier)) := by
  simp only [matchesIdentifier, names, Bool.and_eq_true, Bool.or_eq_true, beq_iff_eq, List.mem_cons,
    List.not_mem_nil, or_false, or_assoc, eq_comm (a := identifier)]

theorem gstin_ne {rows : List Business} (hmeets : businessConstraints.Meets rows) (hfirst : first ∈ rows)
    (hsecond : second ∈ rows) (htenant : first.tenantId = second.tenantId) (hid : first.id ≠ second.id)
    {gstin : String} (hgstin : first.primaryGstin = some gstin) : second.primaryGstin ≠ some gstin := by
  have hclash := hmeets.unique first hfirst second hsecond hid
  simp only [businessConstraints, Bool.or_eq_false_iff] at hclash
  intro hsame
  simp [gstinClash, hgstin, hsame, htenant] at hclash

/-- Unique identifiers are names that do not overlap. -/
theorem unambiguous_iff {db : RegistryDb} (hkeyed : db.WellKeyed) :
    Unambiguous platform db ↔ AllApart platform db.businesses := by
  constructor
  · intro hunique first hfirst second hsecond htenant hid
    have hnone (identifier : String)
        (hfirstMatches : identifier ∈ names first ∨ first.primaryGstin = some (platform.upper identifier))
        (hsecondMatches : identifier ∈ names second ∨
          second.primaryGstin = some (platform.upper identifier)) : False := by
      have hsame := hunique second.tenantId identifier first hfirst second hsecond
        (matches_iff.mpr ⟨htenant, hfirstMatches⟩) (matches_iff.mpr ⟨rfl, hsecondMatches⟩)
      exact hid (congrArg Business.id hsame)
    exact ⟨fun name h h' ↦ hnone name (Or.inl h) (Or.inl h'), fun name h h' ↦ hnone name (Or.inl h) (Or.inr h'),
      fun name h h' ↦ hnone name (Or.inr h') (Or.inl h)⟩
  · intro hapart tenantId identifier first hfirst second hsecond hfirstMatches hsecondMatches
    obtain ⟨hfirstTenant, hfirstMatches⟩ := matches_iff.mp hfirstMatches
    obtain ⟨hsecondTenant, hsecondMatches⟩ := matches_iff.mp hsecondMatches
    have htenant := hfirstTenant.trans hsecondTenant.symm
    by_contra hne
    have hid : first.id ≠ second.id := fun hid ↦
      hne (Table.eq_of_key hkeyed.businesses.keys hfirst hsecond hid)
    have happart := hapart first hfirst second hsecond htenant hid
    rcases hfirstMatches with hname | hgstin
    · rcases hsecondMatches with hname' | hgstin'
      · exact happart.names identifier hname hname'
      · exact happart.gstin identifier hname hgstin'
    · rcases hsecondMatches with hname' | hgstin'
      · exact happart.gstin' identifier hname' hgstin
      · exact gstin_ne hkeyed.businesses hfirst hsecond htenant hid hgstin hgstin'

end Lookups

/-! ## The exact condition -/

section Condition

variable (platform : RegistryPlatform) (db : RegistryDb) (call : RegistryCall)

/-- A creation or an approved change that the database takes brings no name or GSTIN that is an identifier
of another business in another column. -/
structure BringsApart : Prop where
  created : ∀ scope body, Creates db call scope body → call.refused = false →
    Writes.Accepted { businesses := [.insert (newBusiness platform call scope body)] } db →
    ∀ old ∈ db.businesses, old.tenantId = scope.tenantId →
      Apart platform (newBusiness platform call scope body) old
  approved : ∀ scope changeId reason change row patched,
    Approves platform db call scope changeId reason change row patched → call.refused = false →
    (approvalWrites scope change reason patched).Accepted db →
    ∀ gstin ∈ change.requestedPatch.primaryGstin, ∀ old ∈ db.businesses, old.tenantId = scope.tenantId →
      old.id ≠ row.id → ∀ name ∈ names old, platform.upper name ≠ gstin

variable {platform db call}

/-- A business keeps its names, and its GSTIN is none of the others' names. -/
theorem AllApart.replace {rows : List Business} {row new : Business} (h : AllApart platform rows)
    (hrow : row ∈ rows) (hid : new.id = row.id) (htenant : new.tenantId = row.tenantId)
    (hnames : names new = names row)
    (hgstin : ∀ old ∈ rows, old.tenantId = row.tenantId → old.id ≠ row.id →
      ∀ name ∈ names old, new.primaryGstin ≠ some (platform.upper name)) :
    AllApart platform (Table.replace Business.id new rows) := by
  have hnew (old : Business) (hold : old ∈ rows) (hsame : old.tenantId = row.tenantId)
      (hne : old.id ≠ row.id) : Apart platform new old := by
    have happart := h row hrow old hold hsame.symm (Ne.symm hne)
    exact ⟨hnames ▸ happart.names, hnames ▸ happart.gstin, hgstin old hold hsame hne⟩
  intro first hfirst second hsecond hsame hne
  rcases Table.mem_replace hfirst with rfl | ⟨hold, -⟩
  · rcases Table.mem_replace hsecond with rfl | ⟨hold, -⟩
    · exact absurd rfl hne
    · exact hnew second hold (hsame.symm.trans htenant) (hid ▸ Ne.symm hne)
  · rcases Table.mem_replace hsecond with rfl | ⟨hold', -⟩
    · exact (hnew first hold (hsame.trans htenant) (hid ▸ hne)).symm
    · exact h first hold second hold' hsame hne

theorem AllApart.concat {rows : List Business} {row : Business} (h : AllApart platform rows)
    (hnew : ∀ old ∈ rows, old.tenantId = row.tenantId → Apart platform row old) :
    AllApart platform (rows ++ [row]) := by
  have hsymm (first second : Business) (hpair : Separate platform first second) :
      Separate platform second first := fun htenant hid ↦ (hpair htenant.symm (Ne.symm hid)).symm
  exact Table.pairs_append hsymm h (fun old hold htenant _ ↦ (hnew old hold htenant).symm)
    fun _ hid ↦ absurd rfl hid

theorem patched_names {row patched : Business} {patch : Patch} {reviewer : String}
    (h : Patched platform row patch reviewer patched) : names patched = names row := by
  rw [names, names, h.id, h.businessId, h.registryNumber]

/-- A call keeps the businesses apart exactly when it brings no overlap. -/
theorem apart_step_iff (hapart : AllApart platform db.businesses) :
    AllApart platform ((registry platform).step db call).2.businesses ↔ BringsApart platform db call := by
  constructor
  · intro hafter
    constructor
    · intro scope body hcreates hrefused haccepted old hold htenant
      have hstep := (sessions platform).step_commit (serve_of_creates hcreates) hrefused
        (Writes.accepted_iff.mpr haccepted)
      rw [registry, hstep] at hafter
      have hfresh : call.uuid 0 ≠ old.id :=
        (RowWrite.accepted_insert.mp (RowWrite.accepted_of_singleton haccepted.businesses) old hold).1
      exact hafter _ (List.mem_append_right _ (List.mem_singleton_self _)) old (List.mem_append_left _ hold)
        htenant.symm hfresh
    · intro scope changeId reason change row patched happroves hrefused haccepted gstin hgstin old hold
        htenant hid name hname hupper
      have hstep := (sessions platform).step_commit (serve_of_approves happroves) hrefused
        (Writes.accepted_iff.mpr haccepted)
      rw [registry, hstep] at hafter
      have hmade := patched_of_patch happroves.made
      have hrow := business_ok happroves.held
      have hnew : patched ∈ Table.replace Business.id patched db.businesses :=
        Table.changed_mem_replace hrow.1 hmade.id.symm
      have hold' : old ∈ Table.replace Business.id patched db.businesses :=
        Table.mem_replace_of_ne hold (hmade.id ▸ hid)
      have htenants : patched.tenantId = old.tenantId :=
        hmade.tenantId.trans ((business_tenant happroves.held).trans htenant.symm)
      refine (hafter patched hnew old hold' htenants (hmade.id ▸ Ne.symm hid)).gstin' name hname ?_
      rw [hmade.primaryGstin, Option.mem_def.mp hgstin, hupper]
      rfl
  · intro hbrings
    refine (sessions platform).step_kept (fun after ↦ AllApart platform after.businesses) hapart ?_
    intro answer writes hserve hrefused haccepted
    have haccepted := Writes.accepted_iff.mp haccepted
    cases move_of_serve hserve with
    | created scope body hcreates =>
      exact hapart.concat (hbrings.created scope body hcreates hrefused haccepted)
    | transitioned scope identifier body expectedVersion row hrequest hrow hallowed =>
      have hstored := (business_ok hrow).1
      exact hapart.replace hstored rfl rfl rfl fun old hold htenant hid ↦
        (hapart row hstored old hold htenant.symm (Ne.symm hid)).gstin'
    | proposed => exact hapart
    | approved scope changeId reason change row patched happroves =>
      have hmade := patched_of_patch happroves.made
      have hstored := (business_ok happroves.held).1
      refine hapart.replace hstored hmade.id hmade.tenantId (patched_names hmade)
        fun old hold htenant hid name hname ↦ ?_
      rw [hmade.primaryGstin]
      cases hgstin : change.requestedPatch.primaryGstin with
      | none => exact (hapart row hstored old hold htenant.symm (Ne.symm hid)).gstin' name hname
      | some gstin =>
        intro hsame
        exact hbrings.approved scope changeId reason change row patched happroves hrefused haccepted gstin
          (Option.mem_def.mpr hgstin) old hold (htenant.trans (business_tenant happroves.held)) hid name hname
          (Option.some.inj hsame).symm
    | rejected => exact hapart

end Condition

/-- Identifiers are unambiguous all through a run exactly when no call of it brings an overlap. -/
theorem identifiers_unambiguous_iff (platform : RegistryPlatform) (calls : List RegistryCall) :
    (∀ e ∈ (registry platform).log {} calls, Unambiguous platform e.after) ↔
      ∀ e ∈ (registry platform).log {} calls, BringsApart platform e.before e.input := by
  refine (registry platform).always_iff RegistryDb.WellKeyed (Unambiguous platform) (BringsApart platform)
    .empty (fun _ _ first hfirst ↦ nomatch hfirst) (fun _ call h ↦ h.step platform call) ?_ calls
  intro db call hkeyed hunique
  rw [unambiguous_iff (hkeyed.step platform call)]
  exact apart_step_iff ((unambiguous_iff hkeyed).mp hunique)

/-! ## A business ID that is a registry number -/

def sampleRegistry : RegistryPlatform where
  sha256 text := "sha256 of " ++ text
  upper := String.toUpper

def operator : BrowserScope := ⟨"tenant", "operator", ["REGISTRY_OPERATOR"]⟩

theorem steelName_form : businessIdForm "meridian_steel" = true := by decide +kernel

theorem steelNumber_form : registryNumberForm "MH-2020-0001" = true := by decide +kernel

theorem noGstin_form : ∀ gstin ∈ (none : Option String), gstinForm gstin = true := by simp

def registration (businessId registryNumber : String) (hid : businessIdForm businessId = true)
    (hnumber : registryNumberForm registryNumber = true) : BusinessCreate where
  registryNumber := registryNumber
  businessId := businessId
  businessType := .company
  legalName := "Meridian Steel"
  incorporationDate := 737425
  registeredStateCode := "27"
  addressLine1 := "12 Dock Road"
  city := "Mumbai"
  postalCode := "400001"
  registryNumber_form := hnumber
  businessId_form := hid
  primaryGstin_form := noGstin_form

def drawing (draw : String) (request : Request) : RegistryCall where
  request := request
  uuid index := draw ++ "-" ++ toString index
  today := 739000

/-- The ID of the first business is the registry number of the second one. -/
def sharedNumber : List RegistryCall :=
  [drawing "first" (.createBusiness operator
      (registration "123456" "MH-2020-0001" (by decide +kernel) steelNumber_form)),
    drawing "second" (.createBusiness operator
      (registration "meridian_steel" "123456" steelName_form (by decide +kernel)))]

theorem identifier_shared :
    ¬ ∀ e ∈ (registry sampleRegistry).log {} sharedNumber, Unambiguous sampleRegistry e.after := by
  have hboth : ∃ e ∈ (registry sampleRegistry).log {} sharedNumber,
      ∃ first ∈ e.after.businesses, ∃ second ∈ e.after.businesses,
        matchesIdentifier sampleRegistry "tenant" "123456" first = true ∧
          matchesIdentifier sampleRegistry "tenant" "123456" second = true ∧ first ≠ second := by
    decide +kernel
  intro hunique
  obtain ⟨e, he, first, hfirst, second, hsecond, hfirstMatches, hsecondMatches, hne⟩ := hboth
  exact hne (hunique e he "tenant" "123456" first hfirst second hsecond hfirstMatches hsecondMatches)

end Xyena.Businesses
