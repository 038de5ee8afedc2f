import Mathlib.Algebra.Order.Field.Power
import Mathlib.Data.Rat.Lemmas
import Xyena.Foundation.Decimal

/-!
# Rounding a decimal number to hundredths

`hundredths` works on the digits of a coefficient and on the exponent. It gives
the hundredths of the number, rounded half to even, whenever they have at most
as many digits as the precision, and nothing otherwise.
-/

namespace Xyena.Foundation

/-! ## Rounded quotients -/

/-- Only the quotient counts. -/
theorem divHalfEven_mul (numerator denominator : Nat) {factor : Nat} (h : 0 < factor) :
    divHalfEven (factor * numerator) (factor * denominator) = divHalfEven numerator denominator := by
  have htwice : 2 * (factor * (numerator % denominator)) = factor * (2 * (numerator % denominator)) :=
    Nat.mul_left_comm _ _ _
  have hlt : factor * (2 * (numerator % denominator)) < factor * denominator ↔
      2 * (numerator % denominator) < denominator := Nat.mul_lt_mul_left h
  have heq : factor * (2 * (numerator % denominator)) = factor * denominator ↔
      2 * (numerator % denominator) = denominator := Nat.mul_right_inj (Nat.pos_iff_ne_zero.mp h)
  simp only [divHalfEven, Nat.mul_div_mul_left _ _ h, Nat.mul_mod_mul_left, htwice, hlt, heq]

theorem halfEven_div (numerator : Nat) {denominator : Nat} (h : 0 < denominator) :
    halfEven ((numerator : Rat) / denominator) = divHalfEven numerator denominator := by
  have hne : (denominator : Int) ≠ 0 := by exact_mod_cast Nat.pos_iff_ne_zero.mp h
  obtain ⟨factor, hnumerator, hdenominator⟩ :=
    Rat.exists_eq_mul_div_num_and_eq_mul_div_den (numerator : Int) hne
  push_cast at hnumerator hdenominator
  have hnonneg : 0 ≤ (numerator : Rat) / denominator := by positivity
  generalize (numerator : Rat) / denominator = value at *
  have hnum : (value.num.natAbs : Int) = value.num := Int.natAbs_of_nonneg (Rat.num_nonneg.mpr hnonneg)
  have hfactor : 0 < factor := by
    by_contra hle
    have hprod : factor * value.den ≤ 0 := mul_nonpos_of_nonpos_of_nonneg (not_lt.mp hle) (by positivity)
    omega
  obtain ⟨natural, rfl⟩ := Int.eq_ofNat_of_zero_le hfactor.le
  have hscaled : numerator = natural * value.num.natAbs ∧ denominator = natural * value.den := by
    constructor
    · rw [← hnum] at hnumerator
      exact_mod_cast hnumerator
    · exact_mod_cast hdenominator
  rw [halfEven, if_pos hnonneg]
  obtain ⟨rfl, rfl⟩ := hscaled
  rw [divHalfEven_mul _ _ (by exact_mod_cast hfactor)]

theorem halfEven_natCast (value : Nat) : halfEven value = value := by
  have hquotient := halfEven_div value Nat.one_pos
  rw [Nat.cast_one, div_one] at hquotient
  rw [hquotient]
  simp [divHalfEven, Nat.mod_one]

theorem halfEven_nonpos {value : Rat} (h : value ≤ 0) : halfEven value ≤ 0 := by
  have hzero := halfEven_natCast 0
  rw [Nat.cast_zero] at hzero
  exact (halfEven_mono h).trans_eq hzero

/-! ## Digits -/

theorem lt_pow_digits (coefficient : Nat) : coefficient < 10 ^ (Nat.toDigits 10 coefficient).length :=
  (Nat.length_toDigits_le_iff (by decide) Nat.length_toDigits_pos).mp (Nat.le_refl _)

theorem pow_digits_le {coefficient : Nat} (h : coefficient ≠ 0) :
    10 ^ ((Nat.toDigits 10 coefficient).length - 1) ≤ coefficient := by
  by_contra hlt
  rcases Nat.eq_zero_or_pos ((Nat.toDigits 10 coefficient).length - 1) with hone | hmore
  · rw [hone] at hlt
    omega
  · have hshort := (Nat.length_toDigits_le_iff (by decide) hmore).mpr (not_le.mp hlt)
    omega

section Magnitude

variable {coefficient : Nat} {exponent : Int}

theorem magnitude_lt (coefficient : Nat) (exponent : Int) :
    (coefficient : Rat) * 10 ^ exponent < 10 ^ ((Nat.toDigits 10 coefficient).length + exponent) := by
  have hlt : (coefficient : Rat) < 10 ^ (Nat.toDigits 10 coefficient).length := by
    exact_mod_cast lt_pow_digits coefficient
  calc
    (coefficient : Rat) * 10 ^ exponent < 10 ^ (Nat.toDigits 10 coefficient).length * 10 ^ exponent :=
      mul_lt_mul_of_pos_right hlt (zpow_pos (by norm_num) exponent)
    _ = 10 ^ ((Nat.toDigits 10 coefficient).length + exponent) := by
      rw [zpow_add₀ (by norm_num), zpow_natCast]

theorem le_magnitude (h : coefficient ≠ 0) (exponent : Int) :
    (10 : Rat) ^ ((Nat.toDigits 10 coefficient).length - 1 + exponent) ≤ coefficient * 10 ^ exponent := by
  have hplaces : ((Nat.toDigits 10 coefficient).length : Int) - 1 =
      ((Nat.toDigits 10 coefficient).length - 1 : Nat) :=
    (Nat.cast_pred Nat.length_toDigits_pos).symm
  have hle : (10 : Rat) ^ ((Nat.toDigits 10 coefficient).length - 1) ≤ coefficient := by
    exact_mod_cast pow_digits_le h
  calc
    (10 : Rat) ^ ((Nat.toDigits 10 coefficient).length - 1 + exponent) =
        10 ^ ((Nat.toDigits 10 coefficient).length - 1) * 10 ^ exponent := by
      rw [zpow_add₀ (by norm_num), hplaces, zpow_natCast]
    _ ≤ coefficient * 10 ^ exponent := mul_le_mul_of_nonneg_right hle (zpow_nonneg (by norm_num) exponent)

end Magnitude

/-! ## Hundredths -/

/-- A value below one half is rounded to nothing. -/
theorem halfEven_small {value : Rat} (hnonneg : 0 ≤ value) (hlt : value < 1 / 2) : halfEven value = 0 := by
  have hnear := (abs_le.mp (halfEven_near value)).2
  have hbelow : (halfEven value : Rat) < 1 := by linarith
  have hint : halfEven value < 1 := by exact_mod_cast hbelow
  have hpos := halfEven_nonneg hnonneg
  omega

/-- The hundredths before the check of the number of digits. -/
theorem halfEven_shifted (coefficient : Nat) (shift : Int) :
    halfEven ((coefficient : Rat) * 10 ^ shift) =
      ((if 0 ≤ shift then coefficient * 10 ^ shift.toNat
        else divHalfEven coefficient (10 ^ (-shift).toNat) : Nat) : Int) := by
  split
  next hshift =>
    obtain ⟨places, rfl⟩ := Int.eq_ofNat_of_zero_le hshift
    rw [zpow_natCast, Int.toNat_natCast, ← halfEven_natCast]
    push_cast
    rfl
  next hshift =>
    obtain ⟨places, hplaces⟩ := Int.eq_ofNat_of_zero_le (Int.neg_nonneg.mpr (not_le.mp hshift).le)
    obtain rfl : shift = -places := by omega
    rw [zpow_neg, zpow_natCast, ← div_eq_mul_inv, Int.neg_neg, Int.toNat_natCast,
      ← halfEven_div _ (Nat.pow_pos (by decide))]
    push_cast
    rfl

/-- The hundredths of a number are its rounded value, as long as they have few enough digits. -/
theorem hundredths_iff {coefficient cents : Nat} {exponent : Int} :
    hundredths coefficient exponent = some cents ↔
      (cents : Int) = halfEven (coefficient * 10 ^ (exponent + 2)) ∧ cents < 10 ^ precision := by
  have hbelow := magnitude_lt coefficient (exponent + 2)
  have hnonneg : 0 ≤ (coefficient : Rat) * 10 ^ (exponent + 2) :=
    mul_nonneg (Nat.cast_nonneg coefficient) (zpow_nonneg (by norm_num) _)
  simp only [hundredths, Int.add_assoc]
  split
  next hzero =>
    rw [hzero, Nat.cast_zero, zero_mul, halfEven_small le_rfl (by norm_num), Option.some.injEq]
    refine ⟨?_, fun h ↦ (Int.natCast_eq_zero.mp h.1).symm⟩
    rintro rfl
    exact ⟨rfl, Nat.pow_pos (by decide)⟩
  next hne =>
    have habove := le_magnitude hne (exponent + 2)
    split
    next hmany =>
      -- the number of digits alone puts the value out of reach
      refine ⟨fun h ↦ (nomatch h), fun ⟨hcents, hlt⟩ ↦ ?_⟩
      have hlarge : ((10 ^ precision : Nat) : Rat) ≤ coefficient * 10 ^ (exponent + 2) := by
        rw [Nat.cast_pow, ← zpow_natCast]
        refine le_trans (zpow_le_zpow_right₀ (by norm_num) ?_) habove
        omega
      have hrounded := halfEven_mono hlarge
      rw [halfEven_natCast, ← hcents] at hrounded
      omega
    next =>
      split
      next hfew =>
        have hsmall : (coefficient : Rat) * 10 ^ (exponent + 2) < 1 / 2 := by
          calc
            (coefficient : Rat) * 10 ^ (exponent + 2) <
                10 ^ ((Nat.toDigits 10 coefficient).length + (exponent + 2)) := hbelow
            _ ≤ 10 ^ (-1 : Int) := zpow_le_zpow_right₀ (by norm_num) (by omega)
            _ < 1 / 2 := by norm_num
        rw [halfEven_small hnonneg hsmall, Option.some.injEq]
        refine ⟨?_, fun h ↦ (Int.natCast_eq_zero.mp h.1).symm⟩
        rintro rfl
        exact ⟨rfl, Nat.pow_pos (by decide)⟩
      next =>
        rw [halfEven_shifted, Int.natCast_inj]
        generalize (if 0 ≤ exponent + 2 then coefficient * 10 ^ (exponent + 2).toNat
          else divHalfEven coefficient (10 ^ (-(exponent + 2)).toNat)) = rounded
        split
        next hfits =>
          rw [Option.some.injEq]
          constructor
          · rintro rfl
            exact ⟨rfl, hfits⟩
          · exact fun h ↦ h.1.symm
        next hfits =>
          refine ⟨fun h ↦ (nomatch h), ?_⟩
          rintro ⟨rfl, hlt⟩
          exact absurd hlt hfits

end Xyena.Foundation
