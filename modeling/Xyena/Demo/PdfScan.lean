import Xyena.Foundation.Collapsing
import Xyena.Foundation.PyText

/-!
# The scanner for uploaded documents

`_scan_pdf_document` of `apps/api/routes/demo.py` with its patterns. What the PDF
library reads from a document, the texts of the pages, the metadata and the
structure, is the input; a page whose extraction fails has no text. Identifiers,
hashes, sizes and times of the report are left out. A pattern ignores case as
the expressions of the Python standard library do, where four letters outside
ASCII belong to ASCII letters.
-/

namespace Xyena.Demo

open Xyena.Foundation

/-! ## Characters -/

/-- Which characters outside ASCII are letters or digits. -/
structure Alphabet where
  alphanumeric : Char → Bool
  alphanumeric_space : ∀ char, isSpace char = true → alphanumeric char = false

/-- `\w`: ASCII letters and digits, the underscore, and the letters and digits of other alphabets. -/
def Alphabet.word (alphabet : Alphabet) (char : Char) : Bool :=
  if char.toNat < 128 then char.isAlphanum || char == '_' else alphabet.alphanumeric char

/-- Whether a letter of a pattern, in lower case, stands for the character. -/
def sameLetter (letter char : Char) : Bool :=
  char == letter || char == letter.toUpper ||
    [('i', '\u0130'), ('i', '\u0131'), ('s', '\u017f'), ('k', '\u212a')].contains (letter, char)

/-! ## Patterns -/

/-- The letters of a word, in either case. -/
def literal (text : String) : Regex := .sequence (text.toList.map fun letter ↦ .one (sameLetter letter))

/-- One of some words. -/
def oneOf (first : String) (others : List String) : Regex := .anyOf (literal first) (others.map literal)

/-- `\s+`. -/
def spaces : Regex := .repeated isSpace 1 none

/-- `\s*`. -/
def spacesOpt : Regex := .repeated isSpace 0 none

/-- `.` repeated up to a number of times; it matches every character. -/
def upTo (count : Nat) : Regex := .repeated (fun _ ↦ true) 0 (some count)

/-- `(the\s+)?`. -/
def theOpt : Regex := .optional (.sequence [literal "the", spaces])

inductive Severity where
  | medium
  | high
  | critical
deriving DecidableEq, Repr

structure InjectionPattern where
  category : String
  severity : Severity
  expression : Regex

/-- `_INJECTION_PATTERNS`. -/
def injectionPatterns : List InjectionPattern :=
  [⟨"instruction_override", .critical, .sequence [literal "ignore", spaces,
      .optional (oneOf "all" ["any", "the"]), spacesOpt,
      oneOf "previous" ["prior", "system", "developer"], spaces, literal "instruction",
      .optional (literal "s")]⟩,
    ⟨"authority_impersonation", .high, .sequence [.boundary, oneOf "system" ["developer"], spaces,
      oneOf "prompt" ["message", "instruction"], .boundary]⟩,
    ⟨"guardian_bypass", .critical, .sequence [oneOf "bypass" ["disable", "skip", "override"], spaces,
      theOpt, literal "guardian"]⟩,
    ⟨"unsafe_tool_request", .critical, .sequence [.boundary, oneOf "call" ["invoke", "execute", "run"],
      spaces, theOpt, oneOf "tool" ["mcp", "ledger", "payment", "disbursement"]]⟩,
    ⟨"secret_exfiltration", .critical, .sequence [.boundary, oneOf "reveal" ["print", "return", "expose"],
      .boundary, upTo 40, .boundary,
      .anyOf (.sequence [literal "api", spacesOpt, literal "key"]) [literal "secret", literal "token",
        literal "credential", .sequence [literal "system", spacesOpt, literal "prompt"]], .boundary]⟩,
    ⟨"concealment", .high, .sequence [.alt (.sequence [literal "do", spaces, literal "not"])
        (.sequence [literal "don", .one fun char ↦ char == '\u0027' || char == '\u2019', literal "t"]),
      spaces, oneOf "tell" ["show", "inform"], spaces, theOpt, oneOf "user" ["reviewer", "operator"]]⟩,
    ⟨"priority_escalation", .high, .alt
      (.sequence [oneOf "higher" ["highest"], spaces, literal "priority"])
      (.sequence [literal "must", spaces, literal "obey", spaces, literal "this", spaces,
        literal "document"])⟩,
    ⟨"role_manipulation", .medium, .sequence [.boundary, literal "act", spaces, literal "as", .boundary,
      upTo 35, .boundary, oneOf "admin" ["system", "guardian", "approver"], .boundary]⟩,
    ⟨"prompt_markup", .medium, .alt
      (.sequence [literal "<", .optional (literal "/"), oneOf "system" ["assistant", "developer", "tool"],
        literal ">"])
      (.sequence [literal "[", oneOf "system" ["developer"], literal "]"])⟩]

/-! ## Documents and reports -/

structure PdfStructureEvidence where
  encrypted : Bool := false
  hasOpenAction : Bool := false
  hasAdditionalActions : Bool := false
  hasJavascript : Bool := false
  hasEmbeddedFiles : Bool := false
  annotationCount : Nat := 0
deriving DecidableEq, Repr

/-- What the PDF library reads from a document. -/
structure PdfReader where
  pages : List String
  metadata : List String := []
  pdfStructure : PdfStructureEvidence := {}

structure PdfThreatFinding where
  category : String
  severity : Severity
  page : Option Nat
  snippet : String
deriving DecidableEq, Repr

inductive Classification where
  | blockedPromptInjection
  | reviewRequired
  | noInjectionFound
deriving DecidableEq, Repr

structure PdfScanReport where
  pageCount : Nat
  classification : Classification
  flagged : Bool
  riskScore : Nat
  reasonCodes : List String
  findings : List PdfThreatFinding
  pdfStructure : PdfStructureEvidence
  extractedPreview : String
  documentVerification : String
  handling : String
deriving DecidableEq, Repr

/-- The HTTP status and the detail of a refusal. -/
structure HttpException where
  statusCode : Nat
  detail : String
deriving DecidableEq, Repr

def maximumPdfPages : Nat := 8

def maximumExtractedCharacters : Nat := 20000

/-! ## The scan -/

/-- The pages that are read, with their numbers, until no characters remain. -/
def extractPages : Nat → Nat → List String → List (Nat × List Char)
  | _, _, [] => []
  | remaining, number, page :: rest =>
    if remaining = 0 then []
    else
      let extracted := page.toList.take remaining
      (number, extracted) :: extractPages (remaining - extracted.length) (number + 1) rest

def pageText (reader : PdfReader) : List (Nat × List Char) :=
  if reader.pdfStructure.encrypted then [] else extractPages maximumExtractedCharacters 1 reader.pages

def metadataText (reader : PdfReader) : List Char :=
  (" ".intercalate (reader.metadata.filter (· ≠ ""))).toList

/-- What is searched: the pages and, without a page number, the metadata. -/
def sources (reader : PdfReader) : List (Option Nat × List Char) :=
  (pageText reader).map (fun page ↦ (some page.1, page.2)) ++
    if (metadataText reader).isEmpty then [] else [(none, metadataText reader)]

/-- `re.sub(r"\s+", " ", source[start:end]).strip()`, cut to 240 characters. -/
def snippet (source : List Char) (span : Nat × Nat) : String :=
  String.ofList ((stripChars (collapse isSpace ' ' ((source.take (span.2 + 85)).drop (span.1 - 55)))).take 240)

section Scan

variable (alphabet : Alphabet)

/-- The findings of one pattern. -/
def patternFindings (pattern : InjectionPattern) (sources : List (Option Nat × List Char)) :
    List PdfThreatFinding :=
  sources.filterMap fun source ↦
    (pattern.expression.search alphabet.word source.2).map fun span ↦
      ⟨pattern.category, pattern.severity, source.1, snippet source.2 span⟩

def scanFindings (reader : PdfReader) : List PdfThreatFinding :=
  injectionPatterns.flatMap fun pattern ↦ patternFindings alphabet pattern (sources reader)

def structuralReasons (evidence : PdfStructureEvidence) : List String :=
  (if evidence.encrypted then ["ENCRYPTED_DOCUMENT"] else []) ++
  (if evidence.hasJavascript then ["EMBEDDED_JAVASCRIPT"] else []) ++
  (if evidence.hasOpenAction then ["AUTOMATIC_OPEN_ACTION"] else []) ++
  (if evidence.hasAdditionalActions then ["ADDITIONAL_PDF_ACTIONS"] else []) ++
  (if evidence.hasEmbeddedFiles then ["EMBEDDED_FILES"] else [])

def Severity.weight : Severity → Nat
  | .medium => 10
  | .high => 20
  | .critical => 35

/-- `[ \t]`. -/
def isBlank (char : Char) : Bool := char == ' ' || char == '\t'

/-- The texts of the pages with an empty line between two of them. -/
def joinPages (pages : List (List Char)) : List Char := ['\n', '\n'].intercalate pages

/-- The text that a report shows and that claims are read from. -/
def preview (pages : List (List Char)) : List Char :=
  (stripChars (collapse isBlank ' ' (joinPages pages))).take 1400

/-- `_scan_pdf_document`; `none` stands for a payload that the PDF library cannot read. -/
def scanPdfDocument : Option PdfReader → Except HttpException PdfScanReport
  | none => .error ⟨422, "The uploaded file is not a readable PDF document."⟩
  | some reader =>
    if maximumPdfPages < reader.pages.length then
      .error ⟨413, "The judge scanner accepts at most 8 PDF pages."⟩
    else
      let findings := scanFindings alphabet reader
      let structural := structuralReasons reader.pdfStructure
      let score := min 100 (findings.map fun finding ↦ finding.severity.weight).sum
      let classification :=
        if !findings.isEmpty then Classification.blockedPromptInjection
        else if !structural.isEmpty then .reviewRequired
        else .noInjectionFound
      .ok {
        pageCount := reader.pages.length
        classification := classification
        flagged := classification ≠ .noInjectionFound
        riskScore := min 100 (score + 15 * structural.length)
        reasonCodes := (findings.map fun finding ↦ finding.category.toUpper).eraseDups ++ structural
        findings := findings
        pdfStructure := reader.pdfStructure
        extractedPreview := String.ofList (preview ((pageText reader).map Prod.snd))
        documentVerification := if classification ≠ .noInjectionFound then "BLOCKED" else "NOT_CHECKED"
        handling := if !findings.isEmpty then
            "Document quarantined from agent instructions and authorization context."
          else "Document contains no detected injection; source verification is still required." }

end Scan

end Xyena.Demo
