import Xyena.Gst.FilingFrozen

/-!
# Verified invoices

`invoice_get` and `invoice_verify` of `demos/gst-portal/gst_portal/mcp_service.py`.
A claim about an invoice is compared with the stored row, and the answer is
signed as the answer of `invoice_get` is. Between two calls the portal may have
served any number of others.
-/

namespace Xyena.Gst.Verification

open Xyena.Foundation Xyena.Foundation.Session
open Filing (FilingDb FilingCall FilingPlatform Folder Invoice folderOf Regular portal statusText)
open Portal (InvoiceStatus InvoiceLine)

/-! ## The service -/

/-- The HMAC under the token of the service, and `str.upper`. -/
structure VerifyPlatform extends FilingPlatform where
  hmac : String → String
  upper : String → String

/-- The fields of a signed scope that the service reads. -/
structure RuntimeScope where
  tenantId : String
  organizationId : String
  callId : String

structure Enterprise where
  id : String
  tenantId : String
  status : String

inductive VerifyError where
  | notFound (text : String)
  | value (text : String)
  | invalidOperation
deriving DecidableEq, Repr

/-- What a call names its invoice by. -/
structure InvoiceQuery where
  invoiceId : Option String := none
  sellerGstin : Option String := none
  invoiceNumber : Option String := none
  financialYear : Option String := none

/-- What a caller claims of an invoice. -/
structure Claims where
  invoiceId : String
  claimedTotal : Option String
  claimedBuyerGstin : Option String
  claimedStatus : Option String

structure Comparison where
  claimed : String
  source : String
  agrees : Bool
deriving DecidableEq, Repr

structure Verdict where
  invoiceId : String
  verified : Bool
  eligibleRegisteredInvoice : Bool
  comparisons : List (String × Comparison)
  sourceRecord : Json

/-- An answer of the service. -/
structure Wrapped (Data : Type) where
  schemaVersion : String
  requestId : String
  recordVersion : Nat
  updatedAt : Int
  retrievedAt : Int
  data : Data
  sourceSignature : String
  sourceHash : String

/-- An optional text that counts as given. -/
def given : Option String → Option String
  | none => none
  | some text => if text = "" then none else some text

section Service

variable (platform : VerifyPlatform) (enterprises : List Enterprise) (db : FilingDb) (scope : RuntimeScope)
  (retrieved : Int)

/-- `_enterprise`. -/
def enterprise : Except VerifyError Enterprise :=
  match enterprises.find? fun row ↦ row.id == scope.organizationId && row.tenantId == scope.tenantId &&
      row.status == "ACTIVE" with
  | some row => .ok row
  | none => .error (.notFound "Enterprise was not found in the signed runtime scope.")

/-- The condition that a query puts on an invoice. -/
def InvoiceQuery.condition (query : InvoiceQuery) : Except VerifyError (Invoice → Bool) :=
  match given query.invoiceId, given query.sellerGstin, given query.invoiceNumber,
    given query.financialYear with
  | some id, _, _, _ => .ok fun row ↦ row.id == id
  | none, some seller, some number, some year =>
    .ok fun row ↦ row.sellerGstin == platform.upper seller && row.invoiceNumber == platform.upper number &&
      row.financialYear == year
  | _, _, _, _ => .error (.value "Provide invoice_id or seller_gstin, invoice_number and financial_year.")

/-- The invoice of a query in the scope of a call. -/
def sourceInvoice (query : InvoiceQuery) : Except VerifyError Invoice := do
  let owner ← enterprise enterprises scope
  let condition ← query.condition platform
  match db.invoices.find? fun row ↦ row.tenantId == scope.tenantId && row.enterpriseId == owner.id &&
      condition row with
  | some row => return row
  | none => .error (.notFound "Invoice was not found in the signed enterprise scope.")

/-- What an answer is signed over. -/
def signedBody (schemaVersion : String) (data : Json) (recordVersion : Nat) (updatedAt : Int) : Json :=
  .obj
    [("schema_version", .str schemaVersion),
      ("source_system", .str "xyena-demo-gst"),
      ("request_id", .str scope.callId),
      ("record_version", .int recordVersion),
      ("updated_at", .str (Calendar.isoformat updatedAt)),
      ("retrieved_at", .str (Calendar.isoformat retrieved)),
      ("fresh_until", .str (Calendar.isoformat (retrieved + 300000000))),
      ("data", data),
      ("security_labels", .strings ["EXTERNAL_DATA", "SYNTHETIC_DEMO_SOURCE"])]

/-- `_wrap`. -/
def wrap (schemaVersion : String) (data : Json) (recordVersion : Nat) (updatedAt : Int) : Wrapped Json where
  schemaVersion := schemaVersion
  requestId := scope.callId
  recordVersion := recordVersion
  updatedAt := updatedAt
  retrievedAt := retrieved
  data := data
  sourceSignature :=
    platform.hmac ((signedBody scope retrieved schemaVersion data recordVersion updatedAt).dumps true)
  sourceHash := Filing.canonicalHash platform.toFilingPlatform data

/-- The answer with a stored invoice. -/
def invoiceAnswer (row : Invoice) (lines : List InvoiceLine) : Wrapped Json :=
  wrap platform scope retrieved "gst.invoice.v1" (Filing.invoiceProjection row lines) row.version
    row.updatedAt

/-- `invoice_get`. The database returns the lines in any order. -/
def invoiceGet (arrange : List InvoiceLine → List InvoiceLine) (query : InvoiceQuery) :
    Except VerifyError (Wrapped Json) := do
  let row ← sourceInvoice platform enterprises db scope query
  return invoiceAnswer platform scope retrieved row (arrange (folderOf db row).lines)

/-- `Decimal(claimed_total).quantize(Decimal("0.01"))`. -/
def readTotal (text : String) : Except VerifyError Quantized :=
  match (Numeral.parse text).map quantize with
  | none => .error .invalidOperation
  | some .invalid => .error .invalidOperation
  | some value => .ok value

def quantizedText : Quantized → String
  | .cents negative value => (if negative then "-" else "") ++ centsText value
  | _ => "NaN"

/-- Whether an amount is that of a stored column. -/
def sameAmount (cents : Int) : Quantized → Bool
  | .cents negative value => decide ((if negative then -(value : Int) else value) = cents)
  | _ => false

def compareTotal (row : Invoice) : Option String → Except VerifyError (List (String × Comparison))
  | none => return []
  | some claimed => do
    let amount ← readTotal claimed
    return [("total_invoice_value",
      ⟨quantizedText amount, centsText row.totalInvoiceValue, sameAmount row.totalInvoiceValue amount⟩)]

/-- The comparison of a text, which does not look at its case. -/
def compareText (name source : String) : Option String → List (String × Comparison)
  | none => []
  | some claimed => [(name, ⟨platform.upper claimed, source, platform.upper claimed == source⟩)]

/-- `invoice_verify`. -/
def invoiceVerify (arrange : List InvoiceLine → List InvoiceLine) (claims : Claims) :
    Except VerifyError (Wrapped Verdict) := do
  let row ← sourceInvoice platform enterprises db scope { invoiceId := some claims.invoiceId }
  let source := invoiceAnswer platform scope retrieved row (arrange (folderOf db row).lines)
  let total ← compareTotal row claims.claimedTotal
  let comparisons := total ++ compareText platform "buyer_gstin" row.buyerGstin claims.claimedBuyerGstin ++
    compareText platform "status" (statusText row.status) claims.claimedStatus
  return { source with
    schemaVersion := "gst.invoice-verification.v1"
    data := {
      invoiceId := claims.invoiceId
      verified := !comparisons.isEmpty && comparisons.all fun item ↦ item.2.agrees
      eligibleRegisteredInvoice := statusText row.status == "REGISTERED"
      comparisons := comparisons
      sourceRecord := source.data } }

end Service

/-! ## What the source promises -/

/-- A claimed amount reads as the stored one. -/
def ClaimsAmount (cents : Int) (claimed : String) : Prop :=
  ∃ negative value, (Numeral.parse claimed).map quantize = some (.cents negative value) ∧
    (if negative then -(value : Int) else value) = cents

/-- Something is claimed, and all of it is stored. -/
structure Matches (platform : VerifyPlatform) (row : Invoice) (claims : Claims) : Prop where
  something : claims.claimedTotal ≠ none ∨ claims.claimedBuyerGstin ≠ none ∨ claims.claimedStatus ≠ none
  total : ∀ claimed ∈ claims.claimedTotal, ClaimsAmount row.totalInvoiceValue claimed
  buyer : ∀ claimed ∈ claims.claimedBuyerGstin, platform.upper claimed = row.buyerGstin
  status : ∀ claimed ∈ claims.claimedStatus, platform.upper claimed = statusText row.status

/-- The verdict on claims about a stored invoice. -/
structure Judges (platform : VerifyPlatform) (row : Invoice) (claims : Claims) (verdict : Verdict) :
    Prop where
  verified : verdict.verified = true ↔ Matches platform row claims
  eligible : verdict.eligibleRegisteredInvoice = true ↔ row.status = .registered
  sourceRecord : ∃ lines, verdict.sourceRecord = Filing.invoiceProjection row lines

/-! ## One verification -/

section Verdict

variable {platform : VerifyPlatform} {enterprises : List Enterprise} {db : FilingDb} {scope : RuntimeScope}
  {retrieved : Int} {arrange : List InvoiceLine → List InvoiceLine} {claims : Claims} {row : Invoice}

theorem statusText_injective : Function.Injective statusText := by
  intro first second h
  cases first <;> cases second <;> first | rfl | simp [statusText] at h

theorem sameAmount_iff {cents : Int} {amount : Quantized} : sameAmount cents amount = true ↔
    ∃ negative value, amount = .cents negative value ∧ (if negative then -(value : Int) else value) =
      cents := by
  cases amount <;> simp [sameAmount]

theorem readTotal_ok {text : String} {amount : Quantized} : readTotal text = .ok amount ↔
    (Numeral.parse text).map quantize = some amount ∧ amount ≠ .invalid := by
  unfold readTotal
  split
  next h => simp [h]
  next h =>
    simp only [h, reduceCtorEq, Option.some.injEq, false_iff, not_and, not_not]
    exact fun hsame ↦ hsame.symm
  next value hne h =>
    rw [h, Except.ok.injEq, Option.some.injEq]
    refine ⟨fun hsame ↦ ⟨hsame, ?_⟩, fun hsame ↦ hsame.1⟩
    rintro rfl
    exact hne hsame

/-- The comparison of the total agrees exactly when the stored amount is claimed. -/
theorem compareTotal_ok {total : List (String × Comparison)}
    (h : compareTotal row claims.claimedTotal = .ok total) :
    (total = [] ↔ claims.claimedTotal = none) ∧ ((total.all fun item ↦ item.2.agrees) = true ↔
      ∀ claimed ∈ claims.claimedTotal, ClaimsAmount row.totalInvoiceValue claimed) := by
  cases hclaimed : claims.claimedTotal with
  | none =>
    rw [hclaimed] at h
    obtain rfl := Except.ok.inj h
    simp
  | some claimed =>
    rw [hclaimed] at h
    obtain ⟨amount, hamount, h⟩ := bind_ok.mp h
    obtain rfl := Except.ok.inj h
    obtain ⟨hread, -⟩ := readTotal_ok.mp hamount
    refine ⟨by simp, ?_⟩
    simp only [List.all_cons, List.all_nil, Bool.and_true, sameAmount_iff, Option.mem_some_iff, forall_eq',
      ClaimsAmount, hread, Option.some.injEq]

theorem compareText_all {name source : String} {claimed : Option String} :
    ((compareText platform name source claimed).all fun item ↦ item.2.agrees) = true ↔
      ∀ text ∈ claimed, platform.upper text = source := by
  cases claimed <;> simp [compareText]

theorem compareText_eq_nil {name source : String} {claimed : Option String} :
    compareText platform name source claimed = [] ↔ claimed = none := by
  cases claimed <;> simp [compareText]

/-- Whether a total can be compared does not depend on the invoice. -/
theorem compareTotal_isOk (other : Invoice) {claimed : Option String} {total : List (String × Comparison)}
    (h : compareTotal row claimed = .ok total) : ∃ compared, compareTotal other claimed = .ok compared := by
  cases claimed with
  | none => exact ⟨[], rfl⟩
  | some claimed =>
    obtain ⟨amount, hamount, -⟩ := bind_ok.mp h
    exact ⟨_, bind_ok.mpr ⟨amount, hamount, rfl⟩⟩

theorem sourceInvoice_ok {id : String}
    (h : sourceInvoice platform enterprises db scope { invoiceId := some id } = .ok row) : id ≠ "" ∧
      ∃ owner, enterprise enterprises scope = .ok owner ∧ row ∈ db.invoices ∧ row.id = id ∧
        row.tenantId = scope.tenantId ∧ row.enterpriseId = owner.id := by
  obtain ⟨owner, howner, h⟩ := bind_ok.mp h
  obtain ⟨condition, hcondition, h⟩ := bind_ok.mp h
  by_cases hid : id = ""
  · rw [hid] at hcondition
    cases hcondition
  · have hgiven : given (some id) = some id := if_neg hid
    simp only [InvoiceQuery.condition, hgiven] at hcondition
    obtain rfl := Except.ok.inj hcondition
    split at h
    next found hfound =>
      obtain rfl := Except.ok.inj h
      have hselected := List.find?_some hfound
      simp only [Bool.and_eq_true, beq_iff_eq] at hselected
      exact ⟨hid, owner, howner, List.mem_of_find?_eq_some hfound, hselected.2, hselected.1.1, hselected.1.2⟩
    · cases h

variable (platform scope) in
/-- A stored invoice of the scope is found by its identifier. -/
theorem sourceInvoice_of_mem (hregular : Regular db) {owner : Enterprise} (hid : row.id ≠ "")
    (howner : enterprise enterprises scope = .ok owner) (hrow : row ∈ db.invoices)
    (htenant : row.tenantId = scope.tenantId) (henterprise : row.enterpriseId = owner.id) :
    sourceInvoice platform enterprises db scope { invoiceId := some row.id } = .ok row := by
  have hgiven : given (some row.id) = some row.id := if_neg hid
  refine bind_ok.mpr ⟨owner, howner, bind_ok.mpr ⟨fun other ↦ other.id == row.id, ?_, ?_⟩⟩
  · simp only [InvoiceQuery.condition, hgiven]
  · rw [Table.find?_eq_some_of_unique hrow (by simp [htenant, henterprise]) fun other hother hselected ↦ ?_]
    · rfl
    · simp only [Bool.and_eq_true, beq_iff_eq] at hselected
      exact Table.eq_of_key hregular.keyed.keys hother hrow hselected.2

/-- The verdict of a verification is the one on the stored invoice. -/
theorem judges_of_ok {answer : Wrapped Verdict}
    (h : invoiceVerify platform enterprises db scope retrieved arrange claims = .ok answer) :
    ∃ row, sourceInvoice platform enterprises db scope { invoiceId := some claims.invoiceId } = .ok row ∧
      Judges platform row claims answer.data ∧ answer.recordVersion = row.version ∧
      ∃ total, compareTotal row claims.claimedTotal = .ok total := by
  obtain ⟨row, hrow, h⟩ := bind_ok.mp h
  obtain ⟨total, htotal, h⟩ := bind_ok.mp h
  obtain rfl := Except.ok.inj h
  obtain ⟨hnil, hagrees⟩ := compareTotal_ok htotal
  refine ⟨row, hrow, ⟨?_, ?_, ⟨_, rfl⟩⟩, rfl, total, htotal⟩
  · simp only [Bool.and_eq_true, List.all_append, Bool.not_eq_true', List.isEmpty_eq_false_iff, hagrees,
      compareText_all, ne_eq, List.append_eq_nil_iff, hnil, compareText_eq_nil]
    constructor
    · rintro ⟨hsome, ⟨htotal, hbuyer⟩, hstatus⟩
      exact ⟨by tauto, htotal, hbuyer, hstatus⟩
    · rintro ⟨hsome, htotal, hbuyer, hstatus⟩
      exact ⟨by tauto, ⟨htotal, hbuyer⟩, hstatus⟩
  · rw [beq_iff_eq]
    exact ⟨fun hstatus ↦ statusText_injective hstatus, fun hstatus ↦ hstatus ▸ rfl⟩

/-- A verification carries the record that `invoice_get` answers, with its hash and its signature. -/
theorem invoiceGet_of_verify {answer : Wrapped Verdict}
    (h : invoiceVerify platform enterprises db scope retrieved arrange claims = .ok answer) :
    ∃ record, invoiceGet platform enterprises db scope retrieved arrange
        { invoiceId := some claims.invoiceId } = .ok record ∧
      answer.data.sourceRecord = record.data ∧ answer.sourceHash = record.sourceHash ∧
      answer.sourceSignature = record.sourceSignature := by
  obtain ⟨row, hrow, h⟩ := bind_ok.mp h
  obtain ⟨total, -, h⟩ := bind_ok.mp h
  obtain rfl := Except.ok.inj h
  exact ⟨_, bind_ok.mpr ⟨row, hrow, rfl⟩, rfl, rfl, rfl⟩

end Verdict

/-! ## Verdicts at different times -/

section Times

variable {platform : VerifyPlatform} {first last : Invoice} {claims : Claims}

/-- Without a claimed status a match does not depend on the status. -/
theorem Matches.congr (hcontent : Filing.content last = Filing.content first)
    (hstatus : claims.claimedStatus = none ∨ last.status = first.status) (h : Matches platform first claims) :
    Matches platform last claims where
  something := h.something
  total := by
    have htotal := congrArg Portal.Invoice.totalInvoiceValue hcontent
    simp only [Filing.content] at htotal
    rw [htotal]
    exact h.total
  buyer := by
    have hbuyer := congrArg Portal.Invoice.buyerGstin hcontent
    simp only [Filing.content] at hbuyer
    rw [hbuyer]
    exact h.buyer
  status := by
    rcases hstatus with hnone | hsame
    · simp [hnone]
    · rw [hsame]
      exact h.status

theorem matches_congr (hcontent : Filing.content last = Filing.content first)
    (hstatus : claims.claimedStatus = none ∨ last.status = first.status) :
    Matches platform last claims ↔ Matches platform first claims :=
  ⟨.congr hcontent.symm (hstatus.imp_right Eq.symm), .congr hcontent hstatus⟩

/-- A registered invoice stays registered until it is cancelled. -/
theorem registered_or_cancelled (hforward : Filing.path first.status <+: Filing.path last.status)
    (hfirst : first.status = .registered) : last.status = .registered ∨ last.status = .cancelled := by
  rw [hfirst] at hforward
  cases hlast : last.status <;> rw [hlast] at hforward <;> simp [Filing.path] at hforward ⊢

end Times

/-- Whatever the portal serves between two verifications of the same claims, the second one is served when
the first one was. Both judge the stored invoice, and they agree unless a status is claimed; a verified
registered invoice is verified again unless it has been cancelled. -/
theorem verification_stable (platform : VerifyPlatform) (enterprises : List Enterprise) {start : FilingDb}
    (hstart : Regular start) (earlier later : List FilingCall) (scope : RuntimeScope) (claims : Claims)
    (retrieved other : Int) (arrange arrangeOther : List InvoiceLine → List InvoiceLine)
    {first : Wrapped Verdict} (h : invoiceVerify platform enterprises
      ((portal platform.toFilingPlatform).run start earlier) scope retrieved arrange claims = .ok first) :
    ∃ row ∈ ((portal platform.toFilingPlatform).run start earlier).invoices,
      ∃ last ∈ ((portal platform.toFilingPlatform).run start (earlier ++ later)).invoices,
        ∃ second, invoiceVerify platform enterprises
            ((portal platform.toFilingPlatform).run start (earlier ++ later)) scope other arrangeOther
              claims =
              .ok second ∧
          row.id = claims.invoiceId ∧ last.id = claims.invoiceId ∧
          Judges platform row claims first.data ∧ Judges platform last claims second.data ∧
          first.recordVersion ≤ second.recordVersion ∧
          (claims.claimedStatus = none → second.data.verified = first.data.verified) ∧
          (first.data.eligibleRegisteredInvoice = true → last.status ≠ .cancelled →
            second.data.eligibleRegisteredInvoice = true ∧ second.data.verified = first.data.verified) := by
  obtain ⟨row, hrow, hjudges, hversion, total, htotal⟩ := judges_of_ok h
  obtain ⟨hgiven, owner, howner, hstored, hid, htenant, henterprise⟩ := sourceInvoice_ok hrow
  obtain ⟨last, hlast, hlastId, hfrozen⟩ := Filing.frozen_of_run platform.toFilingPlatform hstart earlier
    later row hstored
  have hcontent : Filing.content last = Filing.content row := hfrozen.content
  have hregular := (Filing.folders platform.toFilingPlatform).inv_run hstart (earlier ++ later)
  have hsame : last.id = claims.invoiceId := hlastId.trans hid
  have hfound := sourceInvoice_of_mem platform scope hregular (hsame ▸ hgiven) howner
    hlast ((congrArg Portal.Invoice.tenantId hcontent).trans htenant)
    ((congrArg Portal.Invoice.enterpriseId hcontent).trans henterprise)
  rw [hsame] at hfound
  obtain ⟨compared, hcompared⟩ := compareTotal_isOk last htotal
  have hsecond : ∃ second, invoiceVerify platform enterprises
      ((portal platform.toFilingPlatform).run start (earlier ++ later)) scope other arrangeOther claims =
        .ok second := ⟨_, bind_ok.mpr ⟨last, hfound, bind_ok.mpr ⟨compared, hcompared, rfl⟩⟩⟩
  obtain ⟨second, hsecond⟩ := hsecond
  obtain ⟨judged, hjudged, hjudgesSecond, hversionSecond, -⟩ := judges_of_ok hsecond
  obtain rfl : last = judged := Except.ok.inj (hfound.symm.trans hjudged)
  refine ⟨row, hstored, last, hlast, second, hsecond, hid, hsame, hjudges, hjudgesSecond, ?_, fun hnone ↦ ?_,
    fun heligible hcancelled ↦ ?_⟩
  · rw [hversion, hversionSecond]
    exact hfrozen.version
  · rw [Bool.eq_iff_iff, hjudges.verified, hjudgesSecond.verified]
    exact matches_congr hcontent (.inl hnone)
  · have hregistered := hjudges.eligible.mp heligible
    have hstill := (registered_or_cancelled hfrozen.forward hregistered).resolve_right hcancelled
    refine ⟨hjudgesSecond.eligible.mpr hstill, ?_⟩
    rw [Bool.eq_iff_iff, hjudges.verified, hjudgesSecond.verified]
    exact matches_congr hcontent (.inr (hstill.trans hregistered.symm))

/-! ## The registered valve -/

def gstEnterprises : List Enterprise := [⟨"ent_1", "tenant", "ACTIVE"⟩]

def valveScope : RuntimeScope := ⟨"tenant", "ent_1", "call_1"⟩

/-- The right total, with a status in lower case. -/
def valveClaims : Claims := ⟨"bill-0", some " 10.610", none, some "registered"⟩

def verifyPlatform : VerifyPlatform :=
  { Filing.samplePlatform with hmac := fun text ↦ "signed " ++ text, upper := String.toUpper }

theorem registered_valve : ((invoiceVerify verifyPlatform gstEnterprises
    ((portal verifyPlatform.toFilingPlatform).run {} Filing.filings) valveScope 1757000000000002 id
      valveClaims).toOption.map fun answer ↦ answer.data.verified) = some true := by
  decide +kernel

/-- The claims are verified when the invoice is registered, and they are judged again when it has been
cancelled. -/
theorem valve_verified : ∃ first second : Wrapped Verdict, first.data.verified = true ∧
    ∃ last ∈ ((portal verifyPlatform.toFilingPlatform).run {} (Filing.filings ++ Filing.cancelling)).invoices,
      last.id = "bill-0" ∧ Judges verifyPlatform last valveClaims second.data := by
  obtain ⟨first, hfirst, hverified⟩ := Option.map_eq_some_iff.mp registered_valve
  obtain ⟨-, -, last, hlast, second, -, -, hid, -, hjudges, -⟩ := verification_stable verifyPlatform
    gstEnterprises Filing.empty_regular Filing.filings Filing.cancelling valveScope valveClaims
    1757000000000002 1757000000000003 id id (toOption_eq_some.mp hfirst)
  exact ⟨first, second, hverified, last, hlast, hid, hjudges⟩

end Xyena.Gst.Verification
