import Mathlib.Algebra.Order.Field.Rat
import Mathlib.Data.Rat.Floor
import Mathlib.Tactic.FieldSimp
import Mathlib.Tactic.Linarith
import Xyena.Foundation.JsonText
import Xyena.Foundation.PyText

/-!
# Decimal numerals and amounts in hundredths

`Numeral.parse` reads a text as the constructor of a decimal number does: white
space around it and underscores in it do not count, any Unicode decimal digit
is a digit, and infinities and NaNs have texts of their own. `quantize` rounds
a numeral to hundredths, half to even, within a precision of 28 digits. Amounts
are integers that count hundredths; `centsText` is their text. A `Rounding` says
what a column keeps of a number that is no multiple of its unit.
-/

namespace Xyena.Foundation

/-! ## Numerals -/

inductive Numeral where
  | finite (negative : Bool) (coefficient : Nat) (exponent : Int)
  | infinity (negative : Bool)
  | nan
  | signalingNan
deriving DecidableEq, Repr

/-- The digits zero of the Unicode decimal digits, each followed by the other nine. -/
def decimalZeros : List Nat :=
  [0x30, 0x660, 0x6f0, 0x7c0, 0x966, 0x9e6, 0xa66, 0xae6, 0xb66, 0xbe6, 0xc66, 0xce6, 0xd66, 0xde6,
    0xe50, 0xed0, 0xf20, 0x1040, 0x1090, 0x17e0, 0x1810, 0x1946, 0x19d0, 0x1a80, 0x1a90, 0x1b50,
    0x1bb0, 0x1c40, 0x1c50, 0xa620, 0xa8d0, 0xa900, 0xa9d0, 0xa9f0, 0xaa50, 0xabf0, 0xff10, 0x104a0,
    0x10d30, 0x11066, 0x110f0, 0x11136, 0x111d0, 0x112f0, 0x11450, 0x114d0, 0x11650, 0x116c0, 0x11730,
    0x118e0, 0x11950, 0x11c50, 0x11d50, 0x11da0, 0x11f50, 0x16a60, 0x16ac0, 0x16b50, 0x1d7ce, 0x1d7d8,
    0x1d7e2, 0x1d7ec, 0x1d7f6, 0x1e140, 0x1e2f0, 0x1e4f0, 0x1e950, 0x1fbf0]

def decimalDigit (char : Char) : Option Nat :=
  (decimalZeros.find? fun first ↦ decide (first ≤ char.toNat ∧ char.toNat < first + 10)).map
    (char.toNat - ·)

/-- The value of digits, most significant first. -/
def digitsValue (digits : List Nat) : Nat := digits.foldl (fun value digit ↦ 10 * value + digit) 0

/-- The digits that a text begins with, and what follows them. -/
def spanDigits : List Char → List Nat × List Char
  | [] => ([], [])
  | char :: rest =>
    match decimalDigit char with
    | none => ([], char :: rest)
    | some digit => (digit :: (spanDigits rest).1, (spanDigits rest).2)

/-- An optional sign; `true` stands for a minus. -/
def spanSign : List Char → Bool × List Char
  | '+' :: rest => (false, rest)
  | '-' :: rest => (true, rest)
  | rest => (false, rest)

def parseExponent : List Char → Option Int
  | [] => some 0
  | marker :: rest =>
    if marker.toLower = 'e' then
      let signed := spanSign rest
      match spanDigits signed.2 with
      | ([], _) => none
      | (digits, []) => some (if signed.1 then -(digitsValue digits) else digitsValue digits)
      | _ => none
    else none

/-- The length of the longest coefficient. -/
def longestCoefficient : Nat := 999999999999999999

/-- The limits of the coefficient and of the exponent of an exact conversion. -/
def exponentInRange (coefficient : Nat) (exponent : Int) : Bool :=
  decide ((Nat.toDigits 10 coefficient).length ≤ longestCoefficient ∧ -1999999999999999997 ≤ exponent ∧
    exponent + (Nat.toDigits 10 coefficient).length - 1 ≤ 999999999999999999)

def parseFinite (negative : Bool) (chars : List Char) : Option Numeral :=
  let whole := spanDigits chars
  let fraction := match whole.2 with
    | '.' :: rest => spanDigits rest
    | rest => ([], rest)
  if whole.1 ++ fraction.1 = [] then none
  else do
    let coefficient := digitsValue (whole.1 ++ fraction.1)
    let exponent := (← parseExponent fraction.2) - fraction.1.length
    if exponentInRange coefficient exponent then some (.finite negative coefficient exponent) else none

/-- A payload of digits may follow the letters of a NaN. -/
def onlyDigits (chars : List Char) : Bool := (spanDigits chars).2.isEmpty

def parseUnsigned (negative : Bool) (chars : List Char) : Option Numeral :=
  let lower := chars.map Char.toLower
  if lower = "inf".toList || lower = "infinity".toList then some (.infinity negative)
  else if lower.take 3 = "nan".toList && onlyDigits (chars.drop 3) then some .nan
  else if lower.take 4 = "snan".toList && onlyDigits (chars.drop 4) then some .signalingNan
  else parseFinite negative chars

/-- `Decimal(text)`, `none` when the text is no numeral. -/
def Numeral.parse (text : String) : Option Numeral :=
  let signed := spanSign ((stripChars text.toList).filter (· ≠ '_'))
  parseUnsigned signed.1 signed.2

/-! ## Rounding to hundredths -/

/-- The quotient, rounded to the nearest integer and to the even one of two nearest. -/
def divHalfEven (numerator denominator : Nat) : Nat :=
  let quotient := numerator / denominator
  let twice := 2 * (numerator % denominator)
  if twice < denominator || (twice = denominator && quotient % 2 = 0) then quotient else quotient + 1

/-- The largest number of digits of a rounded coefficient. -/
def precision : Nat := 28

/-- The number of hundredths in `coefficient * 10 ^ exponent`. A value with too many digits, and one
that is far below one hundredth, is not computed. -/
def hundredths (coefficient : Nat) (exponent : Int) : Option Nat :=
  let digits : Int := (Nat.toDigits 10 coefficient).length
  if coefficient = 0 then some 0
  else if (precision : Int) < digits + exponent + 2 then none
  else if digits + exponent + 2 < 0 then some 0
  else
    let rounded := if 0 ≤ exponent + 2 then coefficient * 10 ^ (exponent + 2).toNat
      else divHalfEven coefficient (10 ^ (-(exponent + 2)).toNat)
    if rounded < 10 ^ precision then some rounded else none

/-- What rounding a numeral to hundredths gives. -/
inductive Quantized where
  | invalid
  | nan
  | cents (negative : Bool) (value : Nat)
deriving DecidableEq, Repr

/-- `value.quantize(Decimal("0.01"))`. -/
def quantize : Numeral → Quantized
  | .finite negative coefficient exponent =>
    match hundredths coefficient exponent with
    | none => .invalid
    | some value => .cents negative value
  | .infinity _ => .invalid
  | .nan => .nan
  | .signalingNan => .invalid

example : (Numeral.parse " 75_000.005 ").map quantize = some (.cents false 7500000) := by decide

/-- The positive amount, in hundredths, of what rounding gives. -/
def positiveCents : Option Quantized → Option Int
  | some (.cents false cents) => if cents = 0 then none else some cents
  | _ => none

theorem positiveCents_pos {rounded : Option Quantized} {amount : Int}
    (h : positiveCents rounded = some amount) : 0 < amount := by
  unfold positiveCents at h
  split at h
  next cents =>
    obtain ⟨hne, hcents⟩ := Option.ite_none_left_eq_some.mp h
    have hamount := Option.some.inj hcents
    omega
  · cases h

/-- The positive amount of a text, in hundredths, with what is raised for a text without an amount and for
an amount that is not positive. -/
def positiveAmount {Failure : Type} (malformed notPositive : Failure) (text : String) : Except Failure Int :=
  match (Numeral.parse text).map quantize with
  | none => .error malformed
  | some .invalid => .error malformed
  | some .nan => .error notPositive
  | some (.cents negative cents) => if negative || cents = 0 then .error notPositive else .ok cents

section PositiveAmount

variable {Failure : Type} {malformed notPositive : Failure} {text : String} {amount : Int}

theorem toOption_positiveAmount :
    (positiveAmount malformed notPositive text).toOption =
      positiveCents ((Numeral.parse text).map quantize) := by
  rw [positiveAmount]
  split
  next h => rw [h]; rfl
  next h => rw [h]; rfl
  next h => rw [h]; rfl
  next negative cents h =>
    rw [h]
    cases negative with
    | true => rfl
    | false => by_cases hcents : cents = 0 <;> simp [hcents, positiveCents, Except.toOption]

theorem positiveAmount_pos (h : positiveAmount malformed notPositive text = .ok amount) : 0 < amount := by
  have hoption : (positiveAmount malformed notPositive text).toOption =
      positiveCents ((Numeral.parse text).map quantize) := toOption_positiveAmount
  rw [h] at hoption
  exact positiveCents_pos hoption.symm

end PositiveAmount

/-! ## Numbers that are no multiple of a unit -/

/-- The nearest integer, and the even one of two nearest. -/
def halfEven (value : Rat) : Int :=
  if 0 ≤ value then divHalfEven value.num.natAbs value.den else -divHalfEven value.num.natAbs value.den

theorem halfEven_nonneg {value : Rat} (h : 0 ≤ value) : 0 ≤ halfEven value := by
  rw [halfEven, if_pos h]
  exact Int.natCast_nonneg _

/-- A rounded quotient is off by at most one half. -/
theorem divHalfEven_near (numerator : Nat) {denominator : Nat} (h : 0 < denominator) :
    2 * numerator ≤ (2 * divHalfEven numerator denominator + 1) * denominator ∧
      2 * divHalfEven numerator denominator * denominator ≤ 2 * numerator + denominator := by
  have hdiv := Nat.div_add_mod' numerator denominator
  have hmod := Nat.mod_lt numerator h
  simp only [divHalfEven]
  generalize numerator / denominator = quotient at *
  generalize numerator % denominator = rest at *
  split
  next hdown =>
    simp only [Bool.or_eq_true, Bool.and_eq_true, decide_eq_true_eq] at hdown
    constructor
    · have hrest : 2 * rest ≤ denominator := by omega
      rw [← hdiv]
      linarith
    · rw [← hdiv]
      linarith
  next hup =>
    simp only [Bool.or_eq_true, Bool.and_eq_true, decide_eq_true_eq, not_or] at hup
    have hrest : denominator ≤ 2 * rest := Nat.not_lt.mp hup.1
    constructor
    · rw [← hdiv]
      linarith
    · rw [← hdiv]
      linarith

theorem halfEven_near (value : Rat) : |(halfEven value : Rat) - value| ≤ 1 / 2 := by
  have hden : (0 : Rat) < value.den := by exact_mod_cast value.den_pos
  obtain ⟨hlow, hhigh⟩ := divHalfEven_near value.num.natAbs value.den_pos
  have hlow' : 2 * (value.num.natAbs : Rat) ≤
      (2 * divHalfEven value.num.natAbs value.den + 1) * value.den := by exact_mod_cast hlow
  have hhigh' : 2 * (divHalfEven value.num.natAbs value.den : Rat) * value.den ≤
      2 * value.num.natAbs + value.den := by exact_mod_cast hhigh
  have hvalue : value.num = value * value.den := (Rat.mul_den_eq_num value).symm
  rw [abs_le, halfEven]
  split
  next hnonneg =>
    have habs : (value.num.natAbs : Rat) = value * value.den := by
      rw [← hvalue, ← Int.cast_natCast, Int.natAbs_of_nonneg (Rat.num_nonneg.mpr hnonneg)]
    rw [habs] at hlow' hhigh'
    push_cast
    constructor <;> nlinarith
  next hneg =>
    have habs : (value.num.natAbs : Rat) = -(value * value.den) := by
      have hnum : value.num ≤ 0 := (Rat.num_neg.mpr (not_le.mp hneg)).le
      rw [← hvalue, ← Int.cast_natCast, Int.ofNat_natAbs_of_nonpos hnum, Int.cast_neg]
    rw [habs] at hlow' hhigh'
    push_cast
    constructor <;> nlinarith

theorem halfEven_mono {first second : Rat} (h : first ≤ second) : halfEven first ≤ halfEven second := by
  by_contra hlt
  have hnext : (halfEven second : Rat) + 1 ≤ halfEven first := by exact_mod_cast not_le.mp hlt
  have hfirst := abs_le.mp (halfEven_near first)
  have hsecond := abs_le.mp (halfEven_near second)
  -- both values lie in the middle between the two integers
  obtain rfl : first = second := by linarith
  exact hlt le_rfl

/-- What a numeric column keeps of a number, counted in the unit of the column. -/
structure Rounding where
  round : Rat → Int
  round_mono : ∀ {first second : Rat}, first ≤ second → round first ≤ round second
  round_whole : ∀ value : Int, round value = value

namespace Rounding

variable (rounding : Rounding) {value : Rat} {bound : Int}

theorem round_le (h : value ≤ bound) : rounding.round value ≤ bound := by
  rw [← rounding.round_whole bound]
  exact rounding.round_mono h

theorem le_round (h : (bound : Rat) ≤ value) : bound ≤ rounding.round value := by
  rw [← rounding.round_whole bound]
  exact rounding.round_mono h

theorem round_nonneg (h : 0 ≤ value) : 0 ≤ rounding.round value :=
  rounding.le_round (by simpa using h)

/-- A counter in whole units is kept together with what is added to it. -/
def Adds (amount : Rat) : Prop :=
  ∀ counter : Int, rounding.round (counter + amount) = counter + rounding.round amount

theorem adds_whole (amount : Int) : rounding.Adds amount := by
  intro counter
  rw [← Int.cast_add, rounding.round_whole, rounding.round_whole]

/-- The rounding to the nearest integer, and to the larger one of two nearest. -/
def halfUp : Rounding where
  round value := ⌊value + 1 / 2⌋
  round_mono h := Int.floor_mono (by linarith)
  round_whole value := by
    rw [Int.floor_intCast_add]
    norm_num

theorem halfUp_adds (amount : Rat) : halfUp.Adds amount := by
  intro counter
  simp only [halfUp, add_assoc, Int.floor_intCast_add]

end Rounding

/-! ## The text of an amount -/

/-- The digits of hundredths with the point before the last two. -/
def pointDigits (value : Nat) : List Char :=
  Nat.toDigits 10 (value / 100) ++ ['.', Nat.digitChar (value / 10 % 10), Nat.digitChar (value % 10)]

/-- `str(amount)` of an amount with two decimals. -/
def centsText (cents : Int) : String :=
  String.ofList (if cents < 0 then '-' :: pointDigits cents.natAbs else pointDigits cents.natAbs)

example : centsText 7500005 = "75000.05" := by decide

theorem digitChar_injective {first second : Nat} (hfirst : first < 10) (hsecond : second < 10)
    (h : Nat.digitChar first = Nat.digitChar second) : first = second := by
  have hdigits : ∀ a < 10, ∀ b < 10, Nat.digitChar a = Nat.digitChar b → a = b := by decide
  exact hdigits first hfirst second hsecond h

theorem pointDigits_injective {first second : Nat} (h : pointDigits first = pointDigits second) :
    first = second := by
  obtain ⟨hwhole, hlast⟩ := List.append_inj' h rfl
  simp only [List.cons.injEq, and_true, true_and] at hlast
  have hdiv := Json.toDigits_injective hwhole
  have htens := digitChar_injective (Nat.mod_lt _ (by decide)) (Nat.mod_lt _ (by decide)) hlast.1
  have hunits := digitChar_injective (Nat.mod_lt _ (by decide)) (Nat.mod_lt _ (by decide)) hlast.2
  omega

theorem pointDigits_ne_minus {value : Nat} {tail : List Char} : pointDigits value ≠ '-' :: tail := by
  intro h
  cases hdigits : Nat.toDigits 10 (value / 100) with
  | nil => exact Nat.toDigits_ne_nil hdigits
  | cons digit digits =>
    rw [pointDigits, hdigits] at h
    rw [(List.cons.inj h).1] at hdigits
    exact Json.toDigits_head_ne_minus hdigits

/-- Amounts are told apart by their texts. -/
theorem centsText_injective {first second : Int} (h : centsText first = centsText second) :
    first = second := by
  have hchars := String.ofList_injective h
  split at hchars <;> split at hchars
  · have habs := pointDigits_injective (List.cons.inj hchars).2
    omega
  · exact absurd hchars.symm pointDigits_ne_minus
  · exact absurd hchars pointDigits_ne_minus
  · have habs := pointDigits_injective hchars
    omega

end Xyena.Foundation
