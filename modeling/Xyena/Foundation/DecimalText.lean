import Xyena.Foundation.Calendar
import Xyena.Foundation.Decimal

/-!
# Texts of numbers with fixed decimals

A column with a fixed number of decimals is read back with all of them. The
number counts units of the last place.
-/

namespace Xyena.Foundation

/-- The digits of a number with the point before the last `places` of them. -/
def placesDigits (places value : Nat) : List Char :=
  Nat.toDigits 10 (value / 10 ^ places) ++ '.' :: Calendar.digits places value

/-- `str(value)` of a number with `places` decimals. -/
def placesText (places : Nat) (value : Int) : String :=
  String.ofList (if value < 0 then '-' :: placesDigits places value.natAbs else
    placesDigits places value.natAbs)

example : placesText 3 1250 = "1.250" := by decide

/-- The low digits of a number tell its remainder. -/
theorem mod_of_digits {width first second : Nat}
    (h : Calendar.digits width first = Calendar.digits width second) :
    first % 10 ^ width = second % 10 ^ width := by
  induction width generalizing first second with
  | zero => simp [Nat.mod_one]
  | succ width ih =>
    simp only [Calendar.digits] at h
    obtain ⟨hhigh, hlow⟩ := List.append_inj h (by simp)
    have hdigit : ∀ a < 10, ∀ b < 10, Char.ofNat (48 + a) = Char.ofNat (48 + b) → a = b := by decide
    have hlast : first % 10 = second % 10 :=
      hdigit _ (Nat.mod_lt _ (by decide)) _ (Nat.mod_lt _ (by decide)) (List.cons.inj hlow).1
    have hrest : first / 10 % 10 ^ width = second / 10 % 10 ^ width := ih hhigh
    rw [Nat.pow_succ', Nat.mod_mul, Nat.mod_mul, hlast, hrest]

theorem placesDigits_injective {places first second : Nat}
    (h : placesDigits places first = placesDigits places second) : first = second := by
  have hlength : ('.' :: Calendar.digits places first).length =
      ('.' :: Calendar.digits places second).length := by simp
  obtain ⟨hwhole, hlast⟩ := List.append_inj' h hlength
  have hdiv := Json.toDigits_injective hwhole
  have hmod := mod_of_digits (List.cons.inj hlast).2
  rw [← Nat.div_add_mod first (10 ^ places), ← Nat.div_add_mod second (10 ^ places), hdiv, hmod]

theorem placesDigits_ne_minus {places value : Nat} {tail : List Char} :
    placesDigits places value ≠ '-' :: tail := by
  intro h
  cases hdigits : Nat.toDigits 10 (value / 10 ^ places) with
  | nil => exact Nat.toDigits_ne_nil hdigits
  | cons digit digits =>
    rw [placesDigits, hdigits] at h
    rw [(List.cons.inj h).1] at hdigits
    exact Json.toDigits_head_ne_minus hdigits

/-- Numbers with the same decimals are told apart by their texts. -/
theorem placesText_injective {places : Nat} {first second : Int}
    (h : placesText places first = placesText places second) : first = second := by
  have hchars := String.ofList_injective h
  split at hchars <;> split at hchars
  · have habs := placesDigits_injective (List.cons.inj hchars).2
    omega
  · exact absurd hchars.symm placesDigits_ne_minus
  · exact absurd hchars placesDigits_ne_minus
  · have habs := placesDigits_injective hchars
    omega

end Xyena.Foundation
