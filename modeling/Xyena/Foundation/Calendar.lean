import Mathlib.Data.List.Basic
import Mathlib.Tactic.Linarith

/-!
# Instants as ISO 8601 texts

The proleptic Gregorian calendar as `datetime` of the Python standard library
computes it. An instant is a number of microseconds since the start of 1970,
and the instants of `datetime` reach from year 1 to year 9999. Among these the
text of an instant in UTC tells it apart from all others.
-/

namespace Xyena.Foundation.Calendar

/-! ## Dates -/

@[ext] structure Date where
  year : Nat
  month : Nat
  day : Nat
deriving DecidableEq, Repr

/-- The days before a month, counted from 1, in a year that is not a leap year. -/
def daysBefore : Nat → Nat
  | 2 => 31
  | 3 => 59
  | 4 => 90
  | 5 => 120
  | 6 => 151
  | 7 => 181
  | 8 => 212
  | 9 => 243
  | 10 => 273
  | 11 => 304
  | 12 => 334
  | _ => 0

def daysBeforeMonth (leap : Bool) (month : Nat) : Nat :=
  daysBefore month + if leap && decide (2 < month) then 1 else 0

/-- Month and day of the day with a number, from 0, of its year. -/
def monthDay (leap : Bool) (number : Nat) : Nat × Nat :=
  let guess := (number + 50) / 32
  let month := if number < daysBeforeMonth leap guess then guess - 1 else guess
  (month, number - daysBeforeMonth leap month + 1)

def isLeap (year : Nat) : Bool := year % 4 = 0 ∧ (year % 100 ≠ 0 ∨ year % 400 = 0)

/-- `_days_before_year`. -/
def daysBeforeYear (year : Nat) : Nat :=
  (year - 1) * 365 + (year - 1) / 4 - (year - 1) / 100 + (year - 1) / 400

/-- `_ord2ymd`, for days counted from 0 at the first day of year 1. -/
def ofOrdinal (ordinal : Nat) : Date :=
  let inEra := ordinal % 146097
  let centuries := inEra / 36524
  let inCentury := inEra % 36524
  let inCycle := inCentury % 1461
  let years := inCycle / 365
  let year := ordinal / 146097 * 400 + centuries * 100 + inCentury / 1461 * 4 + years + 1
  if years = 4 ∨ centuries = 4 then { year := year - 1, month := 12, day := 31 }
  else
    let leap := decide (years = 3 ∧ (inCentury / 1461 ≠ 24 ∨ centuries = 3))
    { year := year
      month := (monthDay leap (inCycle % 365)).1
      day := (monthDay leap (inCycle % 365)).2 }

/-- `_ymd2ord`, for days counted from 0. -/
def toOrdinal (date : Date) : Nat :=
  daysBeforeYear date.year + daysBeforeMonth (isLeap date.year) date.month + date.day - 1

example : ofOrdinal 719162 = ⟨1970, 1, 1⟩ ∧ ofOrdinal 738944 = ⟨2024, 2, 29⟩ := by decide

theorem monthDay_spec (leap : Bool) {number : Nat} (h : number < 365) :
    daysBeforeMonth leap (monthDay leap number).1 + (monthDay leap number).2 = number + 1 := by
  have hall : ∀ leap, ∀ number < 365,
      daysBeforeMonth leap (monthDay leap number).1 + (monthDay leap number).2 = number + 1 := by
    decide +kernel
  exact hall leap number h

/-- The days before a year whose number is given by its place in the cycles of the calendar. -/
theorem daysBeforeYear_eq (eras centuries cycles years : Nat) (hcenturies : centuries ≤ 3)
    (hcycles : cycles ≤ 24) (hyears : years ≤ 3) :
    daysBeforeYear (eras * 400 + centuries * 100 + cycles * 4 + years + 1) =
      eras * 146097 + centuries * 36524 + cycles * 1461 + years * 365 := by
  unfold daysBeforeYear
  have hfour : (eras * 400 + centuries * 100 + cycles * 4 + years) / 4 =
      eras * 100 + centuries * 25 + cycles := by omega
  have hhundred : (eras * 400 + centuries * 100 + cycles * 4 + years) / 100 =
      eras * 4 + centuries := by omega
  have hera : (eras * 400 + centuries * 100 + cycles * 4 + years) / 400 = eras := by omega
  rw [Nat.add_sub_cancel, hfour, hhundred, hera]
  omega

theorem isLeap_eq (eras centuries cycles years : Nat) (hcenturies : centuries ≤ 3)
    (hcycles : cycles ≤ 24) (hyears : years ≤ 3) :
    isLeap (eras * 400 + centuries * 100 + cycles * 4 + years + 1) =
      decide (years = 3 ∧ (cycles ≠ 24 ∨ centuries = 3)) := by
  unfold isLeap
  rw [decide_eq_decide]
  omega

section Cycles

variable (eras centuries cycles : Nat) {years : Nat} (hcenturies : centuries ≤ 3)
  (hcycles : cycles ≤ 24) (hyears : years ≤ 3)
include hcenturies hcycles

/-- The last day of a leap year. -/
theorem toOrdinal_last (hfull : cycles ≠ 24 ∨ centuries = 3) :
    toOrdinal ⟨eras * 400 + centuries * 100 + cycles * 4 + 3 + 1, 12, 31⟩ =
      eras * 146097 + centuries * 36524 + cycles * 1461 + 3 * 365 + 365 := by
  have hdays := daysBeforeYear_eq eras centuries cycles 3 hcenturies hcycles (Nat.le_refl 3)
  have hleap := isLeap_eq eras centuries cycles 3 hcenturies hcycles (Nat.le_refl 3)
  have hyear : daysBeforeMonth true 12 = 335 := rfl
  simp only [toOrdinal, hdays, hleap, hfull, and_self, decide_true, hyear]
  omega

include hyears

/-- Any other day of a year. -/
theorem toOrdinal_inner {number : Nat} (hnumber : number < 365) {leap : Bool}
    (hleap : leap = decide (years = 3 ∧ (cycles ≠ 24 ∨ centuries = 3))) :
    toOrdinal ⟨eras * 400 + centuries * 100 + cycles * 4 + years + 1, (monthDay leap number).1,
      (monthDay leap number).2⟩ =
      eras * 146097 + centuries * 36524 + cycles * 1461 + years * 365 + number := by
  have hdays := daysBeforeYear_eq eras centuries cycles years hcenturies hcycles hyears
  have hspec := monthDay_spec leap hnumber
  have hyear := (isLeap_eq eras centuries cycles years hcenturies hcycles hyears).trans hleap.symm
  simp only [toOrdinal, hdays, hyear]
  omega

end Cycles

/-- A day is told apart by its date. -/
theorem toOrdinal_ofOrdinal (ordinal : Nat) : toOrdinal (ofOrdinal ordinal) = ordinal := by
  simp only [ofOrdinal]
  have hera := Nat.div_add_mod' ordinal 146097
  have hinEra := Nat.mod_lt ordinal (by decide : 0 < 146097)
  have hcentury := Nat.div_add_mod' (ordinal % 146097) 36524
  have hinCentury := Nat.mod_lt (ordinal % 146097) (by decide : 0 < 36524)
  generalize ordinal / 146097 = eras at *
  generalize ordinal % 146097 = inEra at *
  have hcycle := Nat.div_add_mod' (inEra % 36524) 1461
  have hinCycle := Nat.mod_lt (inEra % 36524) (by decide : 0 < 1461)
  generalize inEra / 36524 = centuries at *
  generalize inEra % 36524 = inCentury at *
  have hyear := Nat.div_add_mod' (inCentury % 1461) 365
  have hinYear := Nat.mod_lt (inCentury % 1461) (by decide : 0 < 365)
  generalize inCentury / 1461 = cycles at *
  generalize inCentury % 1461 = inCycle at *
  generalize inCycle / 365 = years at *
  generalize inCycle % 365 = number at *
  split
  next hlast =>
    rcases hlast with rfl | rfl
    · have hlast := toOrdinal_last eras centuries cycles (by omega) (by omega) (by omega)
      have hnumber : number = 0 := by omega
      rw [Nat.add_sub_cancel]
      exact hlast.trans (by linarith)
    · have hlast := toOrdinal_last eras 3 24 (by omega) (by omega) (by omega)
      have hzero : cycles = 0 ∧ years = 0 ∧ number = 0 := by omega
      obtain ⟨rfl, rfl, rfl⟩ := hzero
      have hfirst : eras * 400 + 4 * 100 + 0 * 4 + 0 + 1 - 1 =
          eras * 400 + 3 * 100 + 24 * 4 + 3 + 1 := by simp
      rw [hfirst, hlast]
      linarith
  next hinner =>
    rw [toOrdinal_inner eras centuries cycles (by omega) (by omega) (by omega) hinYear rfl]
    linarith

theorem ofOrdinal_injective {first second : Nat} (h : ofOrdinal first = ofOrdinal second) :
    first = second := by
  rw [← toOrdinal_ofOrdinal first, h, toOrdinal_ofOrdinal]

/-- The days up to the end of year 9999 fit the fields of a text. -/
theorem ofOrdinal_bounds {ordinal : Nat} (h : ordinal < 3652059) :
    (ofOrdinal ordinal).year < 10 ^ 4 ∧ (ofOrdinal ordinal).month < 10 ^ 2 ∧
      (ofOrdinal ordinal).day < 10 ^ 2 := by
  have hall : ∀ leap, ∀ number < 365, (monthDay leap number).1 < 10 ^ 2 ∧
      (monthDay leap number).2 < 10 ^ 2 := by decide +kernel
  have hcenturies : ordinal % 146097 / 36524 ≤ 4 := by omega
  have hcycles : ordinal % 146097 % 36524 / 1461 ≤ 24 := by omega
  have hyears : ordinal % 146097 % 36524 % 1461 / 365 ≤ 4 := by omega
  have hyear : ordinal / 146097 * 400 + ordinal % 146097 / 36524 * 100 +
      ordinal % 146097 % 36524 / 1461 * 4 + ordinal % 146097 % 36524 % 1461 / 365 + 1 < 10 ^ 4 := by
    omega
  simp only [ofOrdinal]
  split
  · exact ⟨(Nat.sub_le _ 1).trans_lt hyear, by simp, by simp⟩
  · exact ⟨hyear, hall _ _ (Nat.mod_lt _ (by decide))⟩

/-! ## Instants -/

/-- `datetime.min` and the end of `datetime.max`, in microseconds since the start of 1970. -/
def minimum : Int := -62135596800000000

def supremum : Int := 253402300800000000

/-- The instants that `datetime` has. -/
def InRange (instant : Int) : Prop := minimum ≤ instant ∧ instant < supremum

instance (instant : Int) : Decidable (InRange instant) := inferInstanceAs (Decidable (_ ∧ _))

/-- The low `width` decimal digits of a number, most significant first. -/
def digits : Nat → Nat → List Char
  | 0, _ => []
  | width + 1, value => digits width (value / 10) ++ [Char.ofNat (48 + value % 10)]

/-- The microseconds of a text. They are left out when they are zero. -/
def fraction (microsecond : Nat) : List Char :=
  if microsecond = 0 then [] else '.' :: digits 6 microsecond

/-- `date.isoformat`, for days counted from 0 at the first day of year 1. -/
def dateText (day : Nat) : String :=
  let date := ofOrdinal day
  String.ofList (digits 4 date.year ++ '-' :: digits 2 date.month ++ '-' :: digits 2 date.day)

/-- `datetime.isoformat` in UTC. -/
def isoformat (instant : Int) : String :=
  let elapsed := (instant - minimum).toNat
  let date := ofOrdinal (elapsed / 86400000000)
  let second := elapsed / 1000000
  String.ofList (digits 4 date.year ++ '-' :: digits 2 date.month ++ '-' :: digits 2 date.day ++
    'T' :: digits 2 (second / 3600 % 24) ++ ':' :: digits 2 (second / 60 % 60) ++
    ':' :: digits 2 (second % 60) ++
    (fraction (elapsed % 1000000) ++ "+00:00".toList))

example : isoformat 1709210096000005 = "2024-02-29T12:34:56.000005+00:00" := by decide +kernel

@[simp] theorem length_digits (width value : Nat) : (digits width value).length = width := by
  induction width generalizing value with
  | zero => rfl
  | succ width ih => simp [digits, ih]

/-- Numbers below `10 ^ width` are told apart by their digits. -/
theorem digits_injective {width first second : Nat} (hfirst : first < 10 ^ width)
    (hsecond : second < 10 ^ width) (h : digits width first = digits width second) :
    first = second := by
  induction width generalizing first second with
  | zero => omega
  | succ width ih =>
    simp only [digits] at h
    obtain ⟨hhigh, hlow⟩ := List.append_inj h (by simp)
    have hdiv : first / 10 = second / 10 := ih (by omega) (by omega) hhigh
    have hdigit : ∀ a < 10, ∀ b < 10, Char.ofNat (48 + a) = Char.ofNat (48 + b) → a = b := by decide
    have hmod : first % 10 = second % 10 :=
      hdigit _ (by omega) _ (by omega) (List.cons.inj hlow).1
    omega

theorem fraction_injective {first second : Nat} (hfirst : first < 10 ^ 6) (hsecond : second < 10 ^ 6)
    (h : fraction first = fraction second) : first = second := by
  unfold fraction at h
  split at h
  next hzero =>
    split at h
    next hzero' => rw [hzero, hzero']
    · cases h
  · split at h
    · cases h
    · exact digits_injective hfirst hsecond (List.cons.inj h).2

/-- The text tells the days of `date` apart. -/
theorem dateText_injective {first second : Nat} (hfirst : first < 3652059) (hsecond : second < 3652059)
    (h : dateText first = dateText second) : first = second := by
  obtain ⟨hyear, hmonth, hday⟩ := ofOrdinal_bounds hfirst
  obtain ⟨hyear', hmonth', hday'⟩ := ofOrdinal_bounds hsecond
  have hchars := String.ofList_injective h
  simp only [List.append_assoc, List.cons_append] at hchars
  obtain ⟨hyears, hrest⟩ := List.append_inj hchars (by simp)
  obtain ⟨hmonths, hdays⟩ := List.append_inj (List.cons.inj hrest).2 (by simp)
  refine ofOrdinal_injective (Date.ext ?_ ?_ ?_)
  · exact digits_injective hyear hyear' hyears
  · exact digits_injective hmonth hmonth' hmonths
  · exact digits_injective hday hday' (List.cons.inj hdays).2

/-- The text tells the instants of `datetime` apart. -/
theorem isoformat_injective {first second : Int} (hfirst : InRange first) (hsecond : InRange second)
    (h : isoformat first = isoformat second) : first = second := by
  obtain ⟨hmin, hmax⟩ := hfirst
  obtain ⟨hmin', hmax'⟩ := hsecond
  simp only [minimum, supremum] at hmin hmax hmin' hmax'
  have hchars := String.ofList_injective h
  simp only [minimum] at hchars
  set elapsed := (first - -62135596800000000).toNat with helapsed
  set other := (second - -62135596800000000).toNat with hother
  have hdays : elapsed / 86400000000 < 3652059 := by omega
  have hdays' : other / 86400000000 < 3652059 := by omega
  obtain ⟨hyear, hmonth, hday⟩ := ofOrdinal_bounds hdays
  obtain ⟨hyear', hmonth', hday'⟩ := ofOrdinal_bounds hdays'
  simp only [List.append_assoc, List.cons_append] at hchars
  obtain ⟨h₁, hchars⟩ := List.append_inj hchars (by simp)
  obtain ⟨h₂, hchars⟩ := List.append_inj (List.cons.inj hchars).2 (by simp)
  obtain ⟨h₃, hchars⟩ := List.append_inj (List.cons.inj hchars).2 (by simp)
  obtain ⟨h₄, hchars⟩ := List.append_inj (List.cons.inj hchars).2 (by simp)
  obtain ⟨h₅, hchars⟩ := List.append_inj (List.cons.inj hchars).2 (by simp)
  obtain ⟨h₆, hchars⟩ := List.append_inj (List.cons.inj hchars).2 (by simp)
  have hdate : ofOrdinal (elapsed / 86400000000) = ofOrdinal (other / 86400000000) :=
    Date.ext (digits_injective hyear hyear' h₁) (digits_injective hmonth hmonth' h₂)
      (digits_injective hday hday' h₃)
  have hday := ofOrdinal_injective hdate
  have hhour := digits_injective (by omega) (by omega) h₄
  have hminute := digits_injective (by omega) (by omega) h₅
  have hsecond := digits_injective (by omega) (by omega) h₆
  have hmicrosecond := fraction_injective (by omega) (by omega) (List.append_cancel_right hchars)
  omega

end Xyena.Foundation.Calendar
