import Xyena.Demo.PdfScan
import Xyena.Demo.Judge

/-!
# The intake of documents

`scan_judge_pdf` of `apps/api/routes/demo.py` after its rate limit, with
`_extract_invoice_claims`: the upload is checked and scanned, the claims of a clean
document are read from its preview, and two calls compare them with the source. The
scan handles a payload that is no document, and no other error of the PDF library.
File names are left out, and so are the identifiers, hashes and times of a report.
-/

namespace Xyena.Demo

open Xyena.Foundation Xyena.Contracts

/-! ## Claims -/

/-- What the PDF library makes of a payload. -/
inductive PdfDocument where
  | unreadable
  /-- The number of its pages raises. -/
  | uncounted
  /-- Its pages are counted; its structure or its metadata raise. -/
  | broken (pageCount : Nat)
  | read (reader : PdfReader)

/-- What the route takes from its libraries: the alphabets of the expressions with the digits among them,
upper case, the texts of lists and dictionaries, and what is read from a payload. -/
structure IntakePlatform where
  alphabet : Alphabet
  decimal : Char → Bool
  decimal_space : ∀ char, isSpace char = true → decimal char = false
  upper : String → String
  container : Json → String
  read : List UInt8 → PdfDocument

/-- `[A-Z]`, ignoring case. -/
def anyLetter (char : Char) : Bool := char.isAlpha || ['\u0130', '\u0131', '\u017f', '\u212a'].contains char

/-- `\d`. -/
def IntakePlatform.digit (platform : IntakePlatform) (char : Char) : Bool :=
  if char.toNat < 128 then char.isDigit else platform.decimal char

/-- An expression with one group, which is what begins with the first character of a group behind the
label. -/
structure ClaimPattern where
  key : String
  label : String
  mark : Regex := .empty
  begins : Char → Bool
  group : Regex

def ClaimPattern.expression (pattern : ClaimPattern) : Regex :=
  .sequence [literal pattern.label, spaces, pattern.mark, pattern.group]

/-- `(?:INR|Rs\.?|₹)?\s*`. -/
def currencyMark : Regex :=
  .sequence [.optional (.anyOf (literal "inr")
      [.sequence [literal "rs", .optional (.one (· == '.'))], .one (· == '\u20b9')]), spacesOpt]

def claimPatterns (platform : IntakePlatform) : List ClaimPattern :=
  let reference := fun char : Char ↦ anyLetter char || char.isDigit || char == '/' || char == '-'
  let gstin := fun char : Char ↦ anyLetter char || char.isDigit
  let status := fun char : Char ↦ anyLetter char || char == '_'
  let amount := fun char : Char ↦ char.isDigit || char == ','
  [{ key := "invoice_number", label := "invoice reference", begins := reference
     group := .repeated reference 1 none },
    { key := "buyer_gstin", label := "buyer gstin", begins := gstin, group := .repeated gstin 15 (some 15) },
    { key := "claimed_status", label := "claimed status", begins := status, group := .repeated status 1 none },
    { key := "claimed_total", label := "invoice total", mark := currencyMark, begins := amount
      group := .sequence [.repeated amount 1 none, .one (· == '.'), .repeated platform.digit 2 (some 2)] }]

/-- `match.group(1)`. -/
def ClaimPattern.value (pattern : ClaimPattern) (matched : List Char) : List Char :=
  (matched.drop pattern.label.length).dropWhile fun char ↦ !pattern.begins char

/-- `match.group(1).replace(",", "").upper()`, if the expression is found. -/
def ClaimPattern.claim (pattern : ClaimPattern) (alphabet : Alphabet) (text : List Char) : Option String :=
  (pattern.expression.search alphabet.word text).map fun span ↦
    String.ofList (((pattern.value ((text.take span.2).drop span.1)).filter (· != ',')).map upperLetter)

abbrev Claims := List (String × String)

/-- `_extract_invoice_claims`. -/
def extractInvoiceClaims (platform : IntakePlatform) (text : String) : Claims :=
  (claimPatterns platform).filterMap fun pattern ↦
    (pattern.claim platform.alphabet text.toList).map fun claim ↦ (pattern.key, claim)

/-- `claims[key]`. -/
def claimed (claims : Claims) (key : String) : String := (claims.lookup key).getD ""

def claimsJson (claims : Claims) : Json := .obj (claims.map fun claim ↦ (claim.1, .str claim.2))

def missingClaims (claims : Claims) : List String :=
  ["buyer_gstin", "claimed_status", "claimed_total", "invoice_number"].filter fun key ↦
    !(claims.any (·.1 == key))

/-! ## Reports -/

inductive IntakeClassification where
  | scanned (classification : Classification)
  | amountMismatch
  | verifiedSourceMatch
deriving DecidableEq, Repr

/-- The report of a scan with what the intake changes of it. -/
structure IntakeReport where
  scan : PdfScanReport
  classification : IntakeClassification
  flagged : Bool
  riskScore : Nat
  reasonCodes : List String
  documentVerification : String
  claimChecks : Dict
  toolSteps : List AgentTraceStep := []
  toolCallsExecuted : Nat := 0
  handling : String

def intakeEvidence : Dict :=
  [("explicit_verification_required", .bool true),
    ("intake_decision", .str "INDEPENDENT_SOURCE_VERIFICATION_REQUIRED")]

/-- The report as the scan has left it. -/
def scannedReport (scan : PdfScanReport) : IntakeReport where
  scan := scan
  classification := .scanned scan.classification
  flagged := scan.flagged
  riskScore := scan.riskScore
  reasonCodes := scan.reasonCodes
  documentVerification := scan.documentVerification
  claimChecks := intakeEvidence
  handling := scan.handling

/-- A refusal, or an exception that the route does not handle. -/
inductive IntakeFailure where
  | refused (failure : HttpException)
  | raised
deriving DecidableEq, Repr

/-! ## Calls -/

def documentPurpose : String := "judge_demo_document_claim_verification"

def documentSearch (claims : Claims) : JudgeCall where
  toolName := "gst.invoices.search"
  arguments := [("query", .str (claimed claims "invoice_number")),
    ("status", .str (claimed claims "claimed_status")), ("limit", .int 5)]
  purpose := documentPurpose

def documentVerify (claims : Claims) (invoiceId : String) : JudgeCall where
  toolName := "gst.invoices.verify"
  arguments := [("invoice_id", .str invoiceId), ("claimed_total", .str (claimed claims "claimed_total")),
    ("claimed_buyer_gstin", .str (claimed claims "buyer_gstin")),
    ("claimed_status", .str (claimed claims "claimed_status"))]
  purpose := documentPurpose

/-- `verification.get("comparisons", {})`, which has to be a dictionary. -/
def comparisonsOf (verification : Dict) : Option Dict :=
  match verification.lookup "comparisons" with
  | none => some []
  | some (.obj comparisons) => some comparisons
  | some _ => none

/-- The codes of the comparisons that do not match. -/
def mismatchCodes (upper : String → String) (comparisons : Dict) : List String :=
  comparisons.filterMap fun comparison ↦
    match comparison.2 with
    | .obj fields => if isTrue fields "match" then none else some (upper comparison.1 ++ "_MISMATCH")
    | _ => none

section Intake

variable (settings : JudgeSettings) (platform : IntakePlatform) (scan : PdfScanReport) (claims : Claims)

/-- The report over a verification of the claims. -/
def comparedReport (invoiceId : String) (comparisons : Dict) (verified : Bool) (steps : List AgentTraceStep) :
    IntakeReport :=
  let mismatches := mismatchCodes platform.upper comparisons
  { scannedReport scan with
    classification := if verified then .verifiedSourceMatch else .amountMismatch
    flagged := !verified
    riskScore := if verified then 0 else 70
    reasonCodes := if verified then []
      else if mismatches.isEmpty then ["DOCUMENT_CLAIM_MISMATCH"] else mismatches
    documentVerification := if verified then "SOURCE_MATCH" else "SOURCE_MISMATCH"
    claimChecks := intakeEvidence ++ [("claims", claimsJson claims), ("invoice_id", .str invoiceId),
      ("comparisons", .obj comparisons), ("source_match", .bool verified)]
    toolSteps := steps
    toolCallsExecuted := steps.length
    handling := if verified then "Document claims matched the independently retrieved GST source."
      else "Document claims disagree with the independently retrieved GST source." }

/-- The report over a call that has not completed. -/
def uncheckedReport (reason handling : String) (steps : List AgentTraceStep) : IntakeReport :=
  { scannedReport scan with
    classification := .scanned .reviewRequired
    flagged := true
    riskScore := 45
    reasonCodes := [reason]
    claimChecks := intakeEvidence ++ [("claims", claimsJson claims), ("source_match", .bool false)]
    toolSteps := steps
    toolCallsExecuted := steps.length
    handling := handling }

end Intake

/-! ## The route -/

structure IntakeRequest where
  contentType : Option String
  payload : List UInt8

def maximumPdfBytes : Nat := 2 * 1024 * 1024

/-- `%PDF-`. -/
def pdfSignature : List UInt8 := [0x25, 0x50, 0x44, 0x46, 0x2d]

/-- `content_type.split(";", 1)[0].lower()`. -/
def mediaType (contentType : Option String) : String :=
  (String.ofList ((contentType.getD "").toList.takeWhile (· ≠ ';'))).toLower

/-- `_scan_pdf_document`, with the errors that it does not handle. -/
def scanDocument (alphabet : Alphabet) : PdfDocument → Except IntakeFailure PdfScanReport
  | .unreadable => (scanPdfDocument alphabet none).mapError .refused
  | .uncounted => .error .raised
  | .broken pageCount =>
    if maximumPdfPages < pageCount then
      .error (.refused ⟨413, "The judge scanner accepts at most 8 PDF pages."⟩)
    else .error .raised
  | .read reader => (scanPdfDocument alphabet (some reader)).mapError .refused

/-- The upload, once it is checked and scanned. -/
def scanUpload (platform : IntakePlatform) (request : IntakeRequest) : Except IntakeFailure PdfScanReport :=
  if mediaType request.contentType ∉ ["application/pdf", "application/octet-stream"] then
    .error (.refused ⟨415, "Upload one PDF using application/pdf."⟩)
  else if maximumPdfBytes < request.payload.length then
    .error (.refused ⟨413, "The judge scanner accepts PDF files up to 2 MB."⟩)
  else if !pdfSignature.isPrefixOf request.payload then
    .error (.refused ⟨422, "The uploaded content does not have a PDF signature."⟩)
  else scanDocument platform.alphabet (platform.read request.payload)

end Xyena.Demo
