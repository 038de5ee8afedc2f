import Mathlib.Algebra.Order.BigOperators.Group.List
import Xyena.Foundation.Decimal

/-!
# Decimal arithmetic with a limited precision

A decimal number is a coefficient with an exponent. An operation computes the
exact result and rounds its coefficient to the digits of the context, half to
even; the default context has 28 digits. A number can be written with several
coefficients, but the values of the results do not depend on which one is
taken. Results whose coefficients fit are exact.
-/

namespace Xyena.Foundation

@[ext] structure DecimalNumber where
  coefficient : Int
  exponent : Int
deriving DecidableEq, Repr

/-- The nearest integer, and of two nearest the one away from zero. -/
def halfAway (value : Rat) : Int :=
  if 0 ≤ value then ⌊value + 1 / 2⌋ else -⌊-value + 1 / 2⌋

theorem halfAway_nonneg {value : Rat} (h : 0 ≤ value) : 0 ≤ halfAway value := by
  rw [halfAway, if_pos h]
  exact Int.floor_nonneg.mpr (by linarith)

theorem halfAway_intCast (value : Int) : halfAway value = value := by
  have hhalf : ⌊(1 / 2 : Rat)⌋ = 0 := by norm_num
  rw [halfAway]
  split
  · rw [Int.floor_intCast_add, hhalf, add_zero]
  · rw [← Int.cast_neg, Int.floor_intCast_add, hhalf, add_zero, neg_neg]

/-- A number of a whole bound is not rounded over the bound. -/
theorem halfAway_le {value : Rat} {bound : Int} (hnonneg : 0 ≤ value) (h : value ≤ bound) :
    halfAway value ≤ bound := by
  rw [halfAway, if_pos hnonneg, ← Int.lt_add_one_iff, Int.floor_lt]
  push_cast
  linarith

/-- A number is rounded to something negative when it lies half a unit below zero. -/
theorem halfAway_neg_iff {value : Rat} : halfAway value < 0 ↔ value ≤ -1 / 2 := by
  rw [halfAway]
  split
  next hnonneg =>
    have hfloor : 0 ≤ ⌊value + 1 / 2⌋ := Int.floor_nonneg.mpr (by linarith)
    exact iff_of_false (not_lt.mpr hfloor) (by linarith)
  next hneg =>
    rw [neg_lt_zero, Int.floor_pos]
    constructor <;> intro h <;> linarith

theorem abs_halfAway_le {value : Rat} {bound : Int} (h : |value| ≤ bound) : |halfAway value| ≤ bound := by
  obtain ⟨hlow, hhigh⟩ := abs_le.mp h
  rcases le_or_gt 0 value with hnonneg | hneg
  · rw [abs_of_nonneg (halfAway_nonneg hnonneg)]
    exact halfAway_le hnonneg hhigh
  · have hflip : halfAway value = -halfAway (-value) := by
      rw [halfAway, if_neg (not_le.mpr hneg), halfAway, if_pos (by linarith)]
    rw [hflip, abs_neg, abs_of_nonneg (halfAway_nonneg (by linarith))]
    exact halfAway_le (by linarith) (by linarith)

/-- Half of a whole number, rounded, is the larger one of two parts that differ by at most one. -/
theorem halfAway_half {value : Int} (h : 0 ≤ value) : halfAway (value / 2) = (value + 1) / 2 := by
  have hnonneg : (0 : Rat) ≤ value / 2 := by
    have hvalue : (0 : Rat) ≤ value := by exact_mod_cast h
    linarith
  rw [halfAway, if_pos hnonneg, ← add_div]
  exact_mod_cast Rat.floor_intCast_div_natCast (value + 1) 2

namespace DecimalNumber

/-- A number with two decimals. -/
def cents (value : Int) : DecimalNumber := ⟨value, -2⟩

def value (number : DecimalNumber) : Rat := number.coefficient * 10 ^ number.exponent

/-! ## Operations in the context -/

/-- The coefficient is rounded to the digits of the context. -/
def round (number : DecimalNumber) : DecimalNumber :=
  let magnitude := number.coefficient.natAbs
  if magnitude < 10 ^ precision then number
  else
    let dropped := (Nat.toDigits 10 magnitude).length - precision
    { coefficient := number.coefficient.sign * divHalfEven magnitude (10 ^ dropped)
      exponent := number.exponent + dropped }

def mul (first second : DecimalNumber) : DecimalNumber :=
  round ⟨first.coefficient * second.coefficient, first.exponent + second.exponent⟩

/-- The coefficient of a number with respect to an exponent that is not larger than its own. -/
def scaled (number : DecimalNumber) (exponent : Int) : Int :=
  number.coefficient * 10 ^ (number.exponent - exponent).toNat

def add (first second : DecimalNumber) : DecimalNumber :=
  let exponent := min first.exponent second.exponent
  round ⟨first.scaled exponent + second.scaled exponent, exponent⟩

def sub (first second : DecimalNumber) : DecimalNumber :=
  let exponent := min first.exponent second.exponent
  round ⟨first.scaled exponent - second.scaled exponent, exponent⟩

/-- The quotient by two. -/
def half (number : DecimalNumber) : DecimalNumber :=
  round ⟨5 * number.coefficient, number.exponent - 1⟩

/-- The quotient by a hundred. -/
def percent (number : DecimalNumber) : DecimalNumber :=
  round ⟨number.coefficient, number.exponent - 2⟩

/-- `sum(numbers, Decimal("0"))`. -/
def sum (numbers : List DecimalNumber) : DecimalNumber := numbers.foldl add ⟨0, 0⟩

/-- `number.quantize(Decimal("0.01"), rounding=ROUND_HALF_UP)` in hundredths, `none` when it has too many
digits. -/
def toCents (number : DecimalNumber) : Option Int :=
  let rounded := halfAway (100 * number.value)
  if rounded.natAbs < 10 ^ precision then some rounded else none

example : (mul ⟨10 ^ 17, -3⟩ ⟨10 ^ 17, -2⟩).toCents = none := by decide +kernel

/-! ## Exact results -/

/-- The integers that a coefficient of the context can be. -/
def Fits (coefficient : Int) : Prop := coefficient.natAbs < 10 ^ precision

theorem fits_of_abs_le {coefficient bound : Int} (h : |coefficient| ≤ bound) (hbound : bound < 10 ^ precision) :
    Fits coefficient := by
  have hlt : (coefficient.natAbs : Int) < 10 ^ precision := by
    rw [Int.natCast_natAbs]
    exact h.trans_lt hbound
  exact_mod_cast hlt

theorem fits_of_nonneg {coefficient : Int} (hnonneg : 0 ≤ coefficient) (h : coefficient < 10 ^ precision) :
    Fits coefficient :=
  fits_of_abs_le (abs_of_nonneg hnonneg).le h

theorem round_exact {coefficient exponent : Int} (h : Fits coefficient) :
    round ⟨coefficient, exponent⟩ = ⟨coefficient, exponent⟩ := if_pos h

theorem toCents_exact {number : DecimalNumber} (h : Fits (halfAway (100 * number.value))) :
    number.toCents = some (halfAway (100 * number.value)) := if_pos h

theorem value_cents (amount : Int) : 100 * (cents amount).value = amount := by
  rw [value, cents]
  norm_num
  ring

theorem toCents_cents {amount : Int} (h : Fits amount) : (cents amount).toCents = some amount := by
  have hvalue : halfAway (100 * (cents amount).value) = amount := by
    rw [value_cents, halfAway_intCast]
  rw [toCents_exact (by rwa [hvalue]), hvalue]

theorem add_cents {first second : Int} (h : Fits (first + second)) :
    add (cents first) (cents second) = cents (first + second) := by
  simp only [add, cents, scaled, min_self, sub_self, Int.toNat_zero, pow_zero, mul_one]
  exact round_exact h

theorem sub_cents {first second : Int} (h : Fits (first - second)) :
    sub (cents first) (cents second) = cents (first - second) := by
  simp only [sub, cents, scaled, min_self, sub_self, Int.toNat_zero, pow_zero, mul_one]
  exact round_exact h

/-- Half of an amount with two decimals, rounded to two decimals. -/
theorem toCents_half {amount : Int} (h : Fits (5 * amount)) (hrounded : Fits (halfAway (amount / 2))) :
    (half (cents amount)).toCents = some (halfAway (amount / 2)) := by
  have hhalf : half (cents amount) = ⟨5 * amount, -3⟩ := round_exact h
  have hvalue : 100 * (half (cents amount)).value = amount / 2 := by
    rw [hhalf, value]
    norm_num
    ring
  rw [toCents_exact (by rwa [hvalue]), hvalue]

theorem Fits.mono {small large : Int} (h : Fits large) (hnonneg : 0 ≤ small) (hle : small ≤ large) :
    Fits small := by
  have habs : small.natAbs ≤ large.natAbs := by omega
  exact habs.trans_lt h

/-- Amounts without a negative one are added exactly when their sum fits. -/
theorem foldl_add_cents {amounts : List Int} (hnonneg : ∀ amount ∈ amounts, 0 ≤ amount) {start : Int}
    (hstart : 0 ≤ start) (h : Fits (start + amounts.sum)) :
    (amounts.map cents).foldl add (cents start) = cents (start + amounts.sum) := by
  induction amounts generalizing start with
  | nil => simp
  | cons amount amounts ih =>
    obtain ⟨hamount, hrest⟩ := List.forall_mem_cons.mp hnonneg
    have hsum : 0 ≤ amounts.sum := List.sum_nonneg hrest
    rw [List.sum_cons, ← add_assoc] at h ⊢
    rw [List.map_cons, List.foldl_cons, add_cents (h.mono (by omega) (by omega))]
    exact ih hrest (by omega) h

theorem toCents_sum {amounts : List Int} (hnonneg : ∀ amount ∈ amounts, 0 ≤ amount) (h : Fits amounts.sum) :
    (sum (amounts.map cents)).toCents = some amounts.sum := by
  cases amounts with
  | nil => decide +kernel
  | cons amount amounts =>
    obtain ⟨hamount, hrest⟩ := List.forall_mem_cons.mp hnonneg
    have hsum : 0 ≤ amounts.sum := List.sum_nonneg hrest
    rw [List.sum_cons] at h ⊢
    have hfirst : add ⟨0, 0⟩ (cents amount) = cents amount := by
      simp only [add, cents, scaled]
      norm_num
      exact round_exact (h.mono hamount (by omega))
    rw [sum, List.map_cons, List.foldl_cons, hfirst, foldl_add_cents hrest hamount h, toCents_cents h]

end DecimalNumber

end Xyena.Foundation
