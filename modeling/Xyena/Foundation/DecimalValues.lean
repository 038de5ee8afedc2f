import Mathlib.Data.List.Induction
import Xyena.Foundation.DecimalRounding
import Xyena.Foundation.DecimalSyntax

/-!
# The values of written numbers

What a text denotes, apart from how it is read, and the amounts that rounding
makes of it. The range of the decimal type only matters for texts of more than
`longestCoefficient` characters.
-/

namespace Xyena.Foundation

/-! ## Denotation -/

/-- The value of a sign, a coefficient and an exponent. -/
def decimalValue (negative : Bool) (coefficient : Nat) (exponent : Int) : Rat :=
  (if negative then -(coefficient : Rat) else coefficient) * 10 ^ exponent

/-- A text is written for a finite number with this value. -/
def Written (text : String) (value : Rat) : Prop :=
  ∃ negative coefficient exponent, DecimalText (numeralChars text) negative coefficient exponent ∧
    value = decimalValue negative coefficient exponent

/-- A text is written for a finite number of the decimal type with this value. -/
def Denotes (text : String) (value : Rat) : Prop :=
  ∃ negative coefficient exponent, DecimalText (numeralChars text) negative coefficient exponent ∧
    exponentInRange coefficient exponent = true ∧ value = decimalValue negative coefficient exponent

section Denotation

variable {text : String} {value : Rat}

theorem Denotes.written (h : Denotes text value) : Written text value := by
  obtain ⟨negative, coefficient, exponent, htext, -, hvalue⟩ := h
  exact ⟨negative, coefficient, exponent, htext, hvalue⟩

theorem denotes_iff_parse : Denotes text value ↔ ∃ negative coefficient exponent,
    Numeral.parse text = some (.finite negative coefficient exponent) ∧
      value = decimalValue negative coefficient exponent := by
  simp only [parse_eq_finite_iff, Denotes, and_assoc]

/-- A text denotes one number at most. -/
theorem Denotes.unique {other : Rat} (h : Denotes text value) (hother : Denotes text other) :
    value = other := by
  obtain ⟨negative, coefficient, exponent, hparse, rfl⟩ := denotes_iff_parse.mp h
  obtain ⟨negative', coefficient', exponent', hparse', rfl⟩ := denotes_iff_parse.mp hother
  obtain ⟨rfl, rfl, rfl⟩ := Numeral.finite.inj (Option.some.inj (hparse.symm.trans hparse'))
  rfl

end Denotation

/-! ## Rounded amounts -/

section Amounts

variable {text : String} {value : Rat} {amount : Int}

theorem hundredfold (coefficient : Nat) (exponent : Int) :
    100 * decimalValue false coefficient exponent = coefficient * 10 ^ (exponent + 2) := by
  rw [zpow_add₀ (by norm_num), decimalValue, if_neg Bool.false_ne_true]
  norm_num
  ring

/-- A negative number is not rounded to a positive one. -/
theorem halfEven_negative (coefficient : Nat) (exponent : Int) :
    halfEven (100 * decimalValue true coefficient exponent) ≤ 0 := by
  refine halfEven_nonpos ?_
  have hpos : 0 ≤ (coefficient : Rat) * 10 ^ exponent :=
    mul_nonneg (Nat.cast_nonneg coefficient) (zpow_nonneg (by norm_num) _)
  rw [decimalValue, if_pos rfl, neg_mul]
  linarith

/-- Rounding gives a positive amount exactly for the texts that denote a number whose rounded value is
positive and within the precision. -/
theorem positiveCents_iff :
    positiveCents ((Numeral.parse text).map quantize) = some amount ↔
      ∃ value, Denotes text value ∧ amount = halfEven (100 * value) ∧ 0 < amount ∧
        amount < 10 ^ precision := by
  constructor
  · intro h
    cases hparse : Numeral.parse text with
    | none => simp [hparse, positiveCents] at h
    | some numeral =>
      rw [hparse, Option.map_some] at h
      cases numeral with
      | infinity => cases h
      | nan => cases h
      | signalingNan => cases h
      | finite negative coefficient exponent =>
        rw [quantize] at h
        cases hrounded : hundredths coefficient exponent with
        | none => simp [hrounded, positiveCents] at h
        | some cents =>
          cases negative with
          | true => simp [hrounded, positiveCents] at h
          | false =>
            simp only [hrounded, positiveCents, Option.ite_none_left_eq_some, Option.some.injEq] at h
            obtain ⟨hne, rfl⟩ := h
            obtain ⟨hvalue, hlt⟩ := hundredths_iff.mp hrounded
            rw [← hundredfold] at hvalue
            exact ⟨_, denotes_iff_parse.mpr ⟨_, _, _, hparse, rfl⟩, hvalue, by omega, by exact_mod_cast hlt⟩
  · rintro ⟨value, hdenotes, hvalue, hpos, hlt⟩
    obtain ⟨negative, coefficient, exponent, hparse, rfl⟩ := denotes_iff_parse.mp hdenotes
    cases negative with
    | true =>
      have hnonpos := halfEven_negative coefficient exponent
      omega
    | false =>
      obtain ⟨cents, rfl⟩ := Int.eq_ofNat_of_zero_le hpos.le
      rw [hundredfold] at hvalue
      have hrounded := hundredths_iff.mpr ⟨hvalue, by exact_mod_cast hlt⟩
      have hne : cents ≠ 0 := by omega
      simp [hparse, quantize, hrounded, positiveCents, hne]

end Amounts

/-! ## Texts within the reach of the decimal type -/

theorem decimalDigit_lt {char : Char} {digit : Nat} (h : decimalDigit char = some digit) : digit < 10 := by
  obtain ⟨first, hfound, rfl⟩ := Option.map_eq_some_iff.mp h
  have hrange := List.find?_some hfound
  simp only [decide_eq_true_eq] at hrange
  omega

theorem digitsValue_lt {digits : List Nat} (h : ∀ digit ∈ digits, digit < 10) :
    digitsValue digits < 10 ^ digits.length := by
  induction digits using List.reverseRecOn with
  | nil => decide
  | append_singleton digits last ih =>
    have hdigits := ih fun digit hdigit ↦ h digit (List.mem_append_left _ hdigit)
    have hlast := h last (List.mem_append_right _ List.mem_cons_self)
    have hstep : digitsValue (digits ++ [last]) = 10 * digitsValue digits + last := by
      rw [digitsValue, List.foldl_append]
      rfl
    rw [hstep, List.length_append, List.length_singleton, Nat.pow_succ]
    omega

section Lengths

variable {chars : List Char} {digits : List Nat} {coefficient : Nat} {exponent : Int}

theorem DigitsText.lt_ten (h : DigitsText chars digits) : ∀ digit ∈ digits, digit < 10 := by
  induction h with
  | nil => simp
  | cons hdigit _ ih => exact List.forall_mem_cons.mpr ⟨decimalDigit_lt hdigit, ih⟩

theorem FractionText.lt_ten (h : FractionText chars digits) : ∀ digit ∈ digits, digit < 10 := by
  cases h with
  | absent => simp
  | point hdigits => exact hdigits.lt_ten

theorem FractionText.length_le (h : FractionText chars digits) : digits.length ≤ chars.length := by
  cases h with
  | absent => exact Nat.le_refl _
  | point hdigits => exact hdigits.length_eq ▸ Nat.le_succ _

theorem UnsignedText.length_le (h : UnsignedText chars coefficient exponent) :
    (Nat.toDigits 10 coefficient).length ≤ chars.length := by
  cases h with
  | @mk whole fraction power wholeDigits fractionDigits shift hwhole hfraction hpower hne =>
    have hlt := digitsValue_lt (List.forall_mem_append.mpr ⟨hwhole.lt_ten, hfraction.lt_ten⟩)
    have hshort := (Nat.length_toDigits_le_iff (by decide) (List.length_pos_of_ne_nil hne)).mpr hlt
    have hlength := hwhole.length_eq
    have hfractionLength := hfraction.length_le
    simp only [List.length_append] at hshort ⊢
    omega

theorem DecimalText.length_le {negative : Bool} (h : DecimalText chars negative coefficient exponent) :
    (Nat.toDigits 10 coefficient).length ≤ chars.length := by
  cases h with
  | mk _ hunsigned =>
    rw [List.length_append]
    exact hunsigned.length_le.trans (Nat.le_add_left _ _)

theorem length_numeralChars_le (text : String) : (numeralChars text).length ≤ text.toList.length := by
  calc
    (numeralChars text).length ≤ (stripChars text.toList).length := List.length_filter_le _ _
    _ ≤ (text.toList.dropWhile isSpace).length := by
      rw [stripChars, List.length_reverse]
      exact (List.dropWhile_sublist isSpace).length_le.trans_eq List.length_reverse
    _ ≤ text.toList.length := (List.dropWhile_sublist isSpace).length_le

end Lengths

/-- A number with a positive rounded value within the precision is one of the decimal type, as long as
its coefficient is not too long. -/
theorem inRange_of_rounded {coefficient : Nat} {exponent amount : Int} (hne : coefficient ≠ 0)
    (hlength : (Nat.toDigits 10 coefficient).length ≤ longestCoefficient)
    (hvalue : amount = halfEven (coefficient * 10 ^ (exponent + 2))) (hpos : 0 < amount)
    (hlt : amount < 10 ^ precision) : exponentInRange coefficient exponent = true := by
  have hnear := abs_le.mp (halfEven_near ((coefficient : Rat) * 10 ^ (exponent + 2)))
  rw [← hvalue] at hnear
  have hone : (1 : Rat) ≤ amount := by exact_mod_cast hpos
  have hmost : (amount : Rat) + 1 ≤ 10 ^ precision := by exact_mod_cast hlt
  have hlow : (10 : Rat) ^ (-1 : Int) < 10 ^ ((Nat.toDigits 10 coefficient).length + (exponent + 2)) := by
    calc
      (10 : Rat) ^ (-1 : Int) < 1 / 2 := by norm_num
      _ ≤ coefficient * 10 ^ (exponent + 2) := by linarith
      _ < 10 ^ ((Nat.toDigits 10 coefficient).length + (exponent + 2)) := magnitude_lt _ _
  have hhigh : (10 : Rat) ^ ((Nat.toDigits 10 coefficient).length - 1 + (exponent + 2)) <
      10 ^ (precision : Int) := by
    calc
      (10 : Rat) ^ ((Nat.toDigits 10 coefficient).length - 1 + (exponent + 2)) ≤
          coefficient * 10 ^ (exponent + 2) := le_magnitude hne _
      _ < 10 ^ precision := by linarith
      _ = 10 ^ (precision : Int) := (zpow_natCast _ _).symm
  have hleast := (zpow_lt_zpow_iff_right₀ (by norm_num)).mp hlow
  have hgreatest := (zpow_lt_zpow_iff_right₀ (by norm_num)).mp hhigh
  simp only [longestCoefficient, precision] at hlength hgreatest
  rw [exponentInRange, decide_eq_true_eq, longestCoefficient]
  omega

/-- For a text of ordinary length the range of the decimal type is no condition of its own. -/
theorem Written.denotes {text : String} {value : Rat} {amount : Int} (h : Written text value)
    (hlength : text.toList.length ≤ longestCoefficient) (hvalue : amount = halfEven (100 * value))
    (hpos : 0 < amount) (hlt : amount < 10 ^ precision) : Denotes text value := by
  obtain ⟨negative, coefficient, exponent, htext, rfl⟩ := h
  cases negative with
  | true =>
    have hnonpos := halfEven_negative coefficient exponent
    omega
  | false =>
    have hdigits := (htext.length_le.trans (length_numeralChars_le text)).trans hlength
    rw [hundredfold] at hvalue
    have hne : coefficient ≠ 0 := by
      rintro rfl
      rw [Nat.cast_zero, zero_mul, halfEven_small le_rfl (by norm_num)] at hvalue
      omega
    exact ⟨_, _, _, htext, inRange_of_rounded hne hdigits hvalue hpos hlt, rfl⟩

end Xyena.Foundation
