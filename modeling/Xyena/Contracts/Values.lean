import Xyena.Foundation.Json

/-!
# Identifiers, instants and digests

The values that every contract of the platform is built from. Identifiers are
128-bit numbers with the usual dashed text, instants are microseconds, and the
SHA-256 digest of a text is a parameter of whatever uses it.
-/

namespace Xyena.Contracts

open Xyena.Foundation

/-- A 128-bit identifier. -/
abbrev Uuid := BitVec 128

instance : LawfulBEq Uuid := inferInstance

namespace Uuid

/-- The dashed lower-case text of an identifier. -/
def str (id : Uuid) : String :=
  let digits := Json.hexDigits 32 id.toNat
  String.ofList (digits.take 8 ++ '-' :: (digits.drop 8).take 4 ++ '-' :: (digits.drop 12).take 4 ++
    '-' :: (digits.drop 16).take 4 ++ '-' :: digits.drop 20)

example : str 0x20000000000040008000000000000001 = "20000000-0000-4000-8000-000000000001" := by
  decide

theorem str_injective {first second : Uuid} (h : str first = str second) : first = second := by
  have hchars := String.ofList_injective h
  simp only [List.append_assoc, List.cons_append] at hchars
  obtain ⟨h₁, hchars⟩ := List.append_inj hchars (by simp)
  obtain ⟨h₂, hchars⟩ := List.append_inj (List.cons.inj hchars).2 (by simp)
  obtain ⟨h₃, hchars⟩ := List.append_inj (List.cons.inj hchars).2 (by simp)
  obtain ⟨h₄, hchars⟩ := List.append_inj (List.cons.inj hchars).2 (by simp)
  have h₅ := (List.cons.inj hchars).2
  have hsplit (digits : List Char) : digits = digits.take 8 ++ ((digits.drop 8).take 4 ++
      ((digits.drop 12).take 4 ++ ((digits.drop 16).take 4 ++ digits.drop 20))) := by
    have step (n k : Nat) : digits.drop n = (digits.drop n).take k ++ digits.drop (n + k) := by
      rw [← List.drop_drop, List.take_append_drop]
    rw [← step 16 4, ← step 12 4, ← step 8 4, List.take_append_drop]
  have hdigits : Json.hexDigits 32 first.toNat = Json.hexDigits 32 second.toNat := by
    rw [hsplit (Json.hexDigits 32 first.toNat), h₁, h₂, h₃, h₄, h₅, ← hsplit]
  refine BitVec.eq_of_toNat_eq (Json.hexDigits_injective ?_ ?_ hdigits)
  · simpa using first.isLt
  · simpa using second.isLt

@[simp] theorem str_inj {first second : Uuid} : str first = str second ↔ first = second :=
  ⟨str_injective, fun h ↦ h ▸ rfl⟩

theorem map_str_inj {first second : List Uuid} :
    first.map str = second.map str ↔ first = second :=
  (List.map_injective_iff.mpr fun _ _ h ↦ str_injective h).eq_iff

theorem optionMap_str_inj {first second : Option Uuid} :
    first.map str = second.map str ↔ first = second :=
  (Option.map_injective fun _ _ h ↦ str_injective h).eq_iff

end Uuid

/-- An instant, in microseconds. -/
abbrev Time := Int

def seconds (count : Int) : Time := count * 1000000

def minutes (count : Int) : Time := seconds (60 * count)

theorem lt_add_seconds {count : Int} (hcount : 0 < count) (instant : Time) :
    instant < instant + seconds count :=
  Int.lt_add_of_pos_right instant (Int.mul_pos hcount (by decide))

theorem lt_add_minutes {count : Int} (hcount : 0 < count) (instant : Time) :
    instant < instant + minutes count :=
  lt_add_seconds (Int.mul_pos (by decide) hcount) instant

/-- Whether an optional text counts as given: neither absent nor empty. -/
def truthy (text : Option String) : Bool := text.any (· ≠ "")

/-- `str(value) if value else None` for an optional identifier. -/
def optionalId (id : Option Uuid) : Json := .ofOption (id.map Uuid.str)

end Xyena.Contracts
