import Xyena.Demo.Intake
import Xyena.Demo.Verdict

/-!
# What a document can do

A document that is found clean can have the source searched and asked for a comparison,
with words of its own in the arguments and nothing else, and it is trusted just when both
calls were governed and the source has verified its claims. Any other one asks for nothing.
-/

namespace Xyena.Demo

open Xyena.Foundation Xyena.Contracts

/-! ## What is claimed -/

/-- The upload has been scanned, nothing was found in it, and it states all the claims. -/
structure CleanClaims (platform : IntakePlatform) (request : IntakeRequest) (claims : Claims) : Prop where
  scanned : ∃ scan, scanUpload platform request = .ok scan ∧ scan.flagged = false ∧
    claims = extractInvoiceClaims platform scan.extractedPreview
  complete : missingClaims claims = []

/-- The source was searched for the invoice of the claims, and has compared the first one found. -/
def Compared (container : Json → String) (claims : Claims) (verification : Dict)
    (events : List JudgeEvent) : Prop :=
  ∃ search item, List.Forall₂ Governed
      [(documentSearch claims, search),
        (documentVerify claims (textAt container item "id"), verification)] events ∧
    firstItem search = some item

theorem not_of_isSpace {accepts : Char → Bool}
    (h : ∀ char, accepts char = true → isSpace char = false) {char : Char}
    (hspace : isSpace char = true) : accepts char = false :=
  Bool.eq_false_of_not_eq_true fun haccepts ↦ Bool.false_ne_true ((h char haccepts).symm.trans hspace)

theorem literal_length {word : Char → Bool} {letters : List Char} {before matched after : List Char}
    (h : Regex.Matches word (.sequence (letters.map fun letter ↦ .one (sameLetter letter)))
      before matched after) : matched.length = letters.length := by
  induction letters generalizing before matched with
  | nil =>
    obtain rfl : matched = [] := h
    rfl
  | cons letter letters ih =>
    obtain ⟨first, rest, rfl, ⟨-, hleast, hmost⟩, hrest⟩ := h
    have hone := hmost 1 rfl
    rw [List.length_append, ih hrest, List.length_cons]
    omega

/-- The group of a pattern accepts no white space, and nothing that may stand before it begins it. -/
structure ClaimPattern.Separate (pattern : ClaimPattern) : Prop where
  begins : ∀ char, pattern.begins char = true → isSpace char = false
  mark : pattern.mark.Within fun char ↦ !pattern.begins char
  group : pattern.group.Within fun char ↦ !isSpace char

/-- What is taken of a match are characters of its group. -/
theorem ClaimPattern.Separate.value {pattern : ClaimPattern} (h : pattern.Separate) {word : Char → Bool}
    {before matched after : List Char} (hmatched : pattern.expression.Matches word before matched after) :
    ∀ char ∈ pattern.value matched, isSpace char = false := by
  obtain ⟨label, _, rfl, hlabel, gap, _, rfl, ⟨hgap, -⟩, mark, _, rfl, hmark, group, _, rfl, hgroup, rfl⟩ :=
    hmatched
  have hlength : label.length = pattern.label.length := literal_length hlabel
  have hbefore : ∀ char ∈ gap ++ mark, (!pattern.begins char) = true := by
    intro char hchar
    rcases List.mem_append.mp hchar with hspace | hsign
    · exact (Bool.not_eq_true' _).mpr (not_of_isSpace h.begins (hgap char hspace))
    · exact hmark.within h.mark char hsign
  have hvalue : pattern.value (label ++ (gap ++ (mark ++ (group ++ [])))) =
      group.dropWhile fun char ↦ !pattern.begins char := by
    rw [ClaimPattern.value, ← hlength, List.drop_left, ← List.append_assoc gap, List.append_nil,
      List.dropWhile_append_of_pos hbefore]
  rw [hvalue]
  intro char hchar
  have hinside := hgroup.within h.group char ((List.dropWhile_sublist _).mem hchar)
  simpa using hinside

section Calls

variable {settings : JudgeSettings} {platform : IntakePlatform} {scan : PdfScanReport} {claims : Claims}

/-- What the calls about the claims come to. -/
inductive ClaimCheck (settings : JudgeSettings) (platform : IntakePlatform) (scan : PdfScanReport)
    (claims : Claims) (events : List JudgeEvent) : Except IntakeFailure IntakeReport → Prop where
  | unchecked {steps : List AgentTraceStep} {reason handling : String}
      (missing : ∀ verification, ¬Compared platform.container claims verification events)
      (shown : settings.serviceToken.isSome = true → steps = shownSteps events) :
      ClaimCheck settings platform scan claims events
        (.ok (uncheckedReport scan claims reason handling steps))
  | raised {verification : Dict} (compared : Compared platform.container claims verification events)
      (broken : comparisonsOf verification = none) :
      ClaimCheck settings platform scan claims events (.error .raised)
  | compared {verification comparisons : Dict} {invoiceId : String}
      (compared : Compared platform.container claims verification events)
      (readable : comparisonsOf verification ≠ none) :
      ClaimCheck settings platform scan claims events
        (.ok (comparedReport platform scan claims invoiceId comparisons (isTrue verification "verified")
          (shownSteps events)))

theorem compared_unique {container : Json → String} {first second : Dict} {events : List JudgeEvent}
    (hfirst : Compared container claims first events) (hsecond : Compared container claims second events) :
    first = second := by
  obtain ⟨search, item, hanswers, -⟩ := hfirst
  obtain ⟨search', item', hanswers', -⟩ := hsecond
  have hsame := List.left_unique_forall₂' governed_unique hanswers hanswers'
  simp only [List.cons.injEq, Prod.mk.injEq, and_true] at hsame
  exact hsame.2.2

/-- A report of the check is a match just when the source has verified the claims. -/
theorem ClaimCheck.matched {report : IntakeReport} {events : List JudgeEvent}
    (h : ClaimCheck settings platform scan claims events (.ok report)) :
    report.classification = .verifiedSourceMatch ↔
      ∃ verification, Compared platform.container claims verification events ∧
        isTrue verification "verified" = true := by
  cases h with
  | unchecked missing shown =>
    refine iff_of_false (fun hmatch ↦ by cases hmatch) ?_
    rintro ⟨verification, hcompared, -⟩
    exact missing verification hcompared
  | @compared verification comparisons invoiceId compared readable =>
    rw [comparedReport]
    constructor
    · intro hmatch
      refine ⟨verification, compared, ?_⟩
      by_contra hclaim
      simp [hclaim] at hmatch
    · rintro ⟨other, hother, hclaim⟩
      rw [compared_unique compared hother]
      simp [hclaim]

/-- A report of the check is trusted just when it is a match, and shows the calls. -/
theorem ClaimCheck.shown {report : IntakeReport} {events : List JudgeEvent}
    (h : ClaimCheck settings platform scan claims events (.ok report)) :
    (report.flagged = false ↔ report.classification = .verifiedSourceMatch) ∧
      report.toolCallsExecuted = report.toolSteps.length ∧
      (settings.serviceToken.isSome = true → report.toolSteps = shownSteps events) := by
  cases h with
  | unchecked missing shown => exact ⟨by simp [uncheckedReport], rfl, shown⟩
  | @compared verification comparisons invoiceId compared readable =>
    refine ⟨?_, rfl, fun _ ↦ rfl⟩
    rw [comparedReport]
    cases isTrue verification "verified" <;> simp

end Calls

/-! ## Intakes -/

section Intakes

variable {settings : JudgeSettings} {platform : IntakePlatform} {request : IntakeRequest}

theorem CleanClaims.unique {first second : Claims} (hfirst : CleanClaims platform request first)
    (hsecond : CleanClaims platform request second) : first = second := by
  obtain ⟨scan, hscan, -, rfl⟩ := hfirst.scanned
  obtain ⟨other, hother, -, rfl⟩ := hsecond.scanned
  cases hscan.symm.trans hother
  rfl

end Intakes

end Xyena.Demo
