import Mathlib.Data.List.Forall2
import Xyena.Foundation.Decimal

/-!
# How finite decimal numbers are written

A finite number is written as a sign, digits, a point with further digits and a
power of ten, of which only some digits must be there. `Numeral.parse` reads
exactly these texts, as long as the number is within the range of the exponents.
-/

namespace Xyena.Foundation

/-! ## Written numbers -/

/-- Decimal digits with their values. -/
def DigitsText (chars : List Char) (digits : List Nat) : Prop :=
  List.Forall₂ (fun char digit ↦ decimalDigit char = some digit) chars digits

/-- An optional sign; `true` stands for a minus. -/
inductive SignText : List Char → Bool → Prop where
  | absent : SignText [] false
  | plus : SignText ['+'] false
  | minus : SignText ['-'] true

/-- An optional point with the digits behind it. -/
inductive FractionText : List Char → List Nat → Prop where
  | absent : FractionText [] []
  | point {chars : List Char} {digits : List Nat} (hdigits : DigitsText chars digits) :
      FractionText ('.' :: chars) digits

/-- An optional power of ten. -/
inductive PowerText : List Char → Int → Prop where
  | absent : PowerText [] 0
  | given {marker : Char} {sign chars : List Char} {negative : Bool} {digits : List Nat}
      (hmarker : marker = 'e' ∨ marker = 'E') (hsign : SignText sign negative)
      (hdigits : DigitsText chars digits) (hne : digits ≠ []) :
      PowerText (marker :: (sign ++ chars)) (if negative then -(digitsValue digits) else digitsValue digits)

/-- A number without its sign: its coefficient and its exponent. -/
inductive UnsignedText : List Char → Nat → Int → Prop where
  | mk {whole fraction power : List Char} {wholeDigits fractionDigits : List Nat} {shift : Int}
      (hwhole : DigitsText whole wholeDigits) (hfraction : FractionText fraction fractionDigits)
      (hpower : PowerText power shift) (hne : wholeDigits ++ fractionDigits ≠ []) :
      UnsignedText (whole ++ (fraction ++ power)) (digitsValue (wholeDigits ++ fractionDigits))
        (shift - fractionDigits.length)

/-- A finite decimal number: whether it is negative, its coefficient and its exponent. -/
inductive DecimalText : List Char → Bool → Nat → Int → Prop where
  | mk {sign chars : List Char} {negative : Bool} {coefficient : Nat} {exponent : Int}
      (hsign : SignText sign negative) (hunsigned : UnsignedText chars coefficient exponent) :
      DecimalText (sign ++ chars) negative coefficient exponent

/-! ## Characters -/

theorem toLower_of_le {char : Char} (h : 128 ≤ char.toNat) : char.toLower = char := by
  refine dif_neg ?_
  rintro ⟨-, hle⟩
  have hnat : char.toNat ≤ 90 := UInt32.le_iff_toNat_le.mp hle
  omega

/-- What is true of all ASCII characters and of all others is true of every character. -/
theorem char_cases (holds : Char → Prop) (hascii : ∀ code < 128, holds (Char.ofNat code))
    (hother : ∀ char : Char, 128 ≤ char.toNat → holds char) (char : Char) : holds char := by
  rcases Nat.lt_or_ge char.toNat 128 with hlt | hge
  · rw [← Char.ofNat_toNat char]
    exact hascii char.toNat hlt
  · exact hother char hge

theorem toLower_eq_e_iff (char : Char) : char.toLower = 'e' ↔ char = 'e' ∨ char = 'E' := by
  refine char_cases (fun char ↦ char.toLower = 'e' ↔ char = 'e' ∨ char = 'E') (by decide) ?_ char
  intro char h
  rw [toLower_of_le h]
  refine ⟨Or.inl, ?_⟩
  rintro (rfl | rfl)
  · rfl
  · exact absurd h (by decide)

/-- A digit is no letter, no sign and no point. -/
theorem decimalDigit_ne {char : Char} {digit : Nat} (h : decimalDigit char = some digit) :
    char ≠ '+' ∧ char ≠ '-' ∧ char ≠ '.' ∧ char.toLower ≠ 'i' ∧ char.toLower ≠ 'n' ∧ char.toLower ≠ 's' := by
  refine char_cases (fun char ↦ (decimalDigit char).isSome = true → char ≠ '+' ∧ char ≠ '-' ∧
    char ≠ '.' ∧ char.toLower ≠ 'i' ∧ char.toLower ≠ 'n' ∧ char.toLower ≠ 's') (by decide) ?_ char
    (Option.isSome_of_eq_some h)
  intro char hge _
  rw [toLower_of_le hge]
  refine ⟨?_, ?_, ?_, ?_, ?_, ?_⟩ <;> rintro rfl <;> exact absurd hge (by decide)

/-! ## Scanners -/

theorem spanDigits_spec (chars : List Char) :
    ∃ taken, chars = taken ++ (spanDigits chars).2 ∧ DigitsText taken (spanDigits chars).1 := by
  induction chars with
  | nil => exact ⟨[], rfl, .nil⟩
  | cons char rest ih =>
    rw [spanDigits]
    split
    next hnone => exact ⟨[], rfl, .nil⟩
    next digit hdigit =>
      obtain ⟨taken, hrest, hdigits⟩ := ih
      exact ⟨char :: taken, congrArg (char :: ·) hrest, .cons hdigit hdigits⟩

/-- The scanner takes all the digits. -/
theorem spanDigits_append {taken rest : List Char} {digits : List Nat} (h : DigitsText taken digits)
    (hrest : ∀ char ∈ rest.head?, decimalDigit char = none) : spanDigits (taken ++ rest) = (digits, rest) := by
  induction h with
  | nil =>
    cases rest with
    | nil => rfl
    | cons char rest =>
      rw [List.nil_append, spanDigits, hrest char rfl]
  | cons hdigit _ ih =>
    rw [List.cons_append, spanDigits, hdigit, ih]

theorem spanSign_spec (chars : List Char) :
    ∃ sign, chars = sign ++ (spanSign chars).2 ∧ SignText sign (spanSign chars).1 := by
  rw [spanSign.eq_def]
  split
  · exact ⟨['+'], rfl, .plus⟩
  · exact ⟨['-'], rfl, .minus⟩
  · exact ⟨[], rfl, .absent⟩

theorem spanSign_append {sign rest : List Char} {negative : Bool} (h : SignText sign negative)
    (hrest : ∀ char ∈ rest.head?, char ≠ '+' ∧ char ≠ '-') : spanSign (sign ++ rest) = (negative, rest) := by
  cases h with
  | plus => rfl
  | minus => rfl
  | absent =>
    cases rest with
    | nil => rfl
    | cons char rest =>
      obtain ⟨hplus, hminus⟩ := hrest char rfl
      rw [List.nil_append, spanSign]
      · exact fun _ h ↦ hplus (List.cons.inj h).1
      · exact fun _ h ↦ hminus (List.cons.inj h).1

/-- The digits behind a point, when there is one. -/
def spanFraction : List Char → List Nat × List Char
  | '.' :: rest => spanDigits rest
  | rest => ([], rest)

theorem spanFraction_spec (chars : List Char) :
    ∃ taken, chars = taken ++ (spanFraction chars).2 ∧ FractionText taken (spanFraction chars).1 := by
  rw [spanFraction.eq_def]
  split
  next rest =>
    obtain ⟨taken, hrest, hdigits⟩ := spanDigits_spec rest
    exact ⟨'.' :: taken, congrArg ('.' :: ·) hrest, .point hdigits⟩
  · exact ⟨[], rfl, .absent⟩

theorem spanFraction_append {fraction rest : List Char} {digits : List Nat} (h : FractionText fraction digits)
    (hrest : ∀ char ∈ rest.head?, decimalDigit char = none ∧ char ≠ '.') :
    spanFraction (fraction ++ rest) = (digits, rest) := by
  cases h with
  | point hdigits => exact spanDigits_append hdigits fun char hchar ↦ (hrest char hchar).1
  | absent =>
    cases rest with
    | nil => rfl
    | cons char rest =>
      rw [List.nil_append, spanFraction]
      exact fun _ h ↦ (hrest char rfl).2 (List.cons.inj h).1

/-! ## Numbers -/

theorem parseExponent_sound {chars : List Char} {shift : Int} (h : parseExponent chars = some shift) :
    PowerText chars shift := by
  cases chars with
  | nil =>
    rw [parseExponent] at h
    rw [← Option.some.inj h]
    exact .absent
  | cons marker rest =>
    rw [parseExponent] at h
    split at h
    next hmarker =>
      obtain ⟨sign, hrest, hsign⟩ := spanSign_spec rest
      obtain ⟨taken, htaken, hdigits⟩ := spanDigits_spec (spanSign rest).2
      dsimp only at h
      split at h
      · cases h
      next digits hne hspan =>
        rw [hspan, List.append_nil] at htaken
        rw [hspan] at hdigits
        have hwritten : rest = sign ++ taken := hrest.trans (congrArg (sign ++ ·) htaken)
        have hpower := PowerText.given ((toLower_eq_e_iff marker).mp hmarker) hsign hdigits hne
        rwa [← hwritten, Option.some.inj h] at hpower
      · cases h
    · cases h

theorem parseExponent_complete {chars : List Char} {shift : Int} (h : PowerText chars shift) :
    parseExponent chars = some shift := by
  cases h with
  | absent => rfl
  | @given marker sign taken negative digits hmarker hsign hdigits hne =>
    have hhead : ∀ char ∈ taken.head?, char ≠ '+' ∧ char ≠ '-' := by
      cases hdigits with
      | nil => exact absurd rfl hne
      | cons hdigit _ =>
        rintro char ⟨⟩
        exact ⟨(decimalDigit_ne hdigit).1, (decimalDigit_ne hdigit).2.1⟩
    have hspan : spanDigits taken = (digits, []) := by
      have happend : spanDigits (taken ++ []) = (digits, []) := spanDigits_append hdigits (by simp)
      rwa [List.append_nil] at happend
    rw [parseExponent, if_pos ((toLower_eq_e_iff marker).mpr hmarker), spanSign_append hsign hhead]
    dsimp only
    rw [hspan]
    cases digits with
    | nil => exact absurd rfl hne
    | cons digit rest => rfl

theorem parseFinite_eq (negative : Bool) (chars : List Char) :
    parseFinite negative chars =
      if (spanDigits chars).1 ++ (spanFraction (spanDigits chars).2).1 = [] then none
      else (parseExponent (spanFraction (spanDigits chars).2).2).bind fun shift ↦
        if exponentInRange (digitsValue ((spanDigits chars).1 ++ (spanFraction (spanDigits chars).2).1))
            (shift - (spanFraction (spanDigits chars).2).1.length) then
          some (.finite negative (digitsValue ((spanDigits chars).1 ++ (spanFraction (spanDigits chars).2).1))
            (shift - (spanFraction (spanDigits chars).2).1.length))
        else none := rfl

theorem parseFinite_sound {negative : Bool} {chars : List Char} {numeral : Numeral}
    (h : parseFinite negative chars = some numeral) : ∃ coefficient exponent,
      UnsignedText chars coefficient exponent ∧ exponentInRange coefficient exponent = true ∧
        numeral = .finite negative coefficient exponent := by
  rw [parseFinite_eq] at h
  split at h
  · cases h
  next hne =>
    obtain ⟨shift, hshift, h⟩ := Option.bind_eq_some_iff.mp h
    split at h
    next hrange =>
      obtain ⟨whole, hwhole, hdigits⟩ := spanDigits_spec chars
      obtain ⟨fraction, hfraction, hfractionDigits⟩ := spanFraction_spec (spanDigits chars).2
      have hwritten : chars = whole ++ (fraction ++ (spanFraction (spanDigits chars).2).2) :=
        hwhole.trans (congrArg (whole ++ ·) hfraction)
      have htext := UnsignedText.mk hdigits hfractionDigits (parseExponent_sound hshift) hne
      rw [← hwritten] at htext
      exact ⟨_, _, htext, hrange, (Option.some.inj h).symm⟩
    · cases h

theorem PowerText.head {chars : List Char} {shift : Int} (h : PowerText chars shift) :
    ∀ char ∈ chars.head?, decimalDigit char = none ∧ char ≠ '.' := by
  cases h with
  | absent => simp
  | given hmarker =>
    rintro char ⟨⟩
    rcases hmarker with rfl | rfl <;> decide

theorem FractionText.head {fraction power : List Char} {digits : List Nat} {shift : Int}
    (h : FractionText fraction digits) (hpower : PowerText power shift) :
    ∀ char ∈ (fraction ++ power).head?, decimalDigit char = none := by
  cases h with
  | absent => exact fun char hchar ↦ (hpower.head char hchar).1
  | point hdigits =>
    rintro char ⟨⟩
    decide

theorem parseFinite_complete {negative : Bool} {chars : List Char} {coefficient : Nat} {exponent : Int}
    (h : UnsignedText chars coefficient exponent) (hrange : exponentInRange coefficient exponent = true) :
    parseFinite negative chars = some (.finite negative coefficient exponent) := by
  cases h with
  | mk hwhole hfraction hpower hne =>
    rw [parseFinite_eq, spanDigits_append hwhole (hfraction.head hpower)]
    dsimp only
    rw [spanFraction_append hfraction hpower.head]
    dsimp only
    rw [if_neg hne, parseExponent_complete hpower, Option.bind_some, if_pos hrange]

/-- A number begins with a digit or with a point. -/
theorem UnsignedText.head {chars : List Char} {coefficient : Nat} {exponent : Int}
    (h : UnsignedText chars coefficient exponent) :
    ∃ char rest, chars = char :: rest ∧ (char = '.' ∨ ∃ digit, decimalDigit char = some digit) := by
  cases h with
  | mk hwhole hfraction hpower hne =>
    cases hwhole with
    | cons hdigit _ => exact ⟨_, _, rfl, Or.inr ⟨_, hdigit⟩⟩
    | nil =>
      cases hfraction with
      | absent => exact absurd rfl hne
      | point _ => exact ⟨_, _, rfl, Or.inl rfl⟩

/-- No number begins like the name of a special value, or with a sign. -/
theorem UnsignedText.head_ne {chars : List Char} {coefficient : Nat} {exponent : Int}
    (h : UnsignedText chars coefficient exponent) :
    ∃ char rest, chars = char :: rest ∧ char ≠ '+' ∧ char ≠ '-' ∧
      char.toLower ≠ 'i' ∧ char.toLower ≠ 'n' ∧ char.toLower ≠ 's' := by
  obtain ⟨char, rest, rfl, rfl | ⟨digit, hdigit⟩⟩ := h.head
  · exact ⟨_, _, rfl, by decide⟩
  · obtain ⟨hplus, hminus, -, hletters⟩ := decimalDigit_ne hdigit
    exact ⟨_, _, rfl, hplus, hminus, hletters⟩

theorem UnsignedText.no_sign {chars : List Char} {coefficient : Nat} {exponent : Int}
    (h : UnsignedText chars coefficient exponent) : ∀ char ∈ chars.head?, char ≠ '+' ∧ char ≠ '-' := by
  obtain ⟨first, rest, rfl, hplus, hminus, -⟩ := h.head_ne
  rintro char ⟨⟩
  exact ⟨hplus, hminus⟩

theorem parseUnsigned_complete {negative : Bool} {chars : List Char} {coefficient : Nat} {exponent : Int}
    (h : UnsignedText chars coefficient exponent) (hrange : exponentInRange coefficient exponent = true) :
    parseUnsigned negative chars = some (.finite negative coefficient exponent) := by
  obtain ⟨char, rest, rfl, -, -, hi, hn, hs⟩ := h.head_ne
  have hinf : (char :: rest).map Char.toLower ≠ "inf".toList := fun h ↦ hi (List.cons.inj h).1
  have hinfinity : (char :: rest).map Char.toLower ≠ "infinity".toList := fun h ↦ hi (List.cons.inj h).1
  have hnan : ((char :: rest).map Char.toLower).take 3 ≠ "nan".toList := fun h ↦ hn (List.cons.inj h).1
  have hsnan : ((char :: rest).map Char.toLower).take 4 ≠ "snan".toList := fun h ↦ hs (List.cons.inj h).1
  simp only [parseUnsigned, hinf, hinfinity, hnan, hsnan, decide_false, Bool.or_self, Bool.false_and,
    Bool.false_eq_true, if_false]
  exact parseFinite_complete h hrange

theorem parseUnsigned_sound {negative other : Bool} {chars : List Char} {coefficient : Nat} {exponent : Int}
    (h : parseUnsigned negative chars = some (.finite other coefficient exponent)) :
    UnsignedText chars coefficient exponent ∧ exponentInRange coefficient exponent = true ∧
      other = negative := by
  rw [parseUnsigned] at h
  split at h
  · cases h
  · split at h
    · cases h
    · split at h
      · cases h
      · obtain ⟨_, _, htext, hrange, hnumeral⟩ := parseFinite_sound h
        obtain ⟨rfl, rfl, rfl⟩ := Numeral.finite.inj hnumeral
        exact ⟨htext, hrange, rfl⟩

/-- What remains of a text when white space around it and underscores in it are left out. -/
def numeralChars (text : String) : List Char := (stripChars text.toList).filter (· ≠ '_')

/-- A text is read as a finite number exactly when it is written for it. -/
theorem parse_eq_finite_iff {text : String} {negative : Bool} {coefficient : Nat} {exponent : Int} :
    Numeral.parse text = some (.finite negative coefficient exponent) ↔
      DecimalText (numeralChars text) negative coefficient exponent ∧
        exponentInRange coefficient exponent = true := by
  have hparse : Numeral.parse text =
      parseUnsigned (spanSign (numeralChars text)).1 (spanSign (numeralChars text)).2 := rfl
  rw [hparse]
  constructor
  · intro h
    obtain ⟨htext, hrange, rfl⟩ := parseUnsigned_sound h
    obtain ⟨sign, hwritten, hsign⟩ := spanSign_spec (numeralChars text)
    have hdecimal := DecimalText.mk hsign htext
    rw [← hwritten] at hdecimal
    exact ⟨hdecimal, hrange⟩
  · rintro ⟨hdecimal, hrange⟩
    generalize numeralChars text = chars at hdecimal ⊢
    cases hdecimal with
    | mk hsign hunsigned =>
      rw [spanSign_append hsign hunsigned.no_sign]
      exact parseUnsigned_complete hunsigned hrange

end Xyena.Foundation
