import Mathlib.Data.List.Infix

/-!
# Trimming a list from its front

Items are dropped from the front while the list is too large and more than one
item is left. What remains is the longest suffix that fits, or the last item.
When a list can only get smaller by losing its front, exactly the suffixes of
what remains fit.
-/

namespace Xyena.Foundation

variable {α : Type*}

/-- Drop items from the front while `tooLarge` holds and more than one item is left. -/
def trim (tooLarge : List α → Bool) : List α → List α
  | [] => []
  | [item] => [item]
  | item :: next :: rest =>
    if tooLarge (item :: next :: rest) then trim tooLarge (next :: rest) else item :: next :: rest

variable {tooLarge : List α → Bool} {items : List α}

theorem trim_suffix (tooLarge : List α → Bool) (items : List α) : trim tooLarge items <:+ items := by
  induction items with
  | nil => exact List.suffix_rfl
  | cons item rest ih =>
    cases rest with
    | nil => exact List.suffix_rfl
    | cons next rest =>
      rw [trim]
      split
      · exact ih.trans (List.suffix_cons item _)
      · exact List.suffix_rfl

/-- The loop has ended: the rest fits, or there is nothing left to drop. -/
theorem trim_stops (tooLarge : List α → Bool) (items : List α) :
    tooLarge (trim tooLarge items) = false ∨ (trim tooLarge items).length ≤ 1 := by
  induction items with
  | nil => exact Or.inr (Nat.zero_le 1)
  | cons item rest ih =>
    cases rest with
    | nil => exact Or.inr (Nat.le_refl 1)
    | cons next rest =>
      rw [trim]
      split
      · exact ih
      next hfits => exact Or.inl (Bool.not_eq_true _ ▸ hfits)

/-- Every suffix that fits is a suffix of what remains. -/
theorem suffix_trim {other : List α} (hother : other <:+ items) (hne : other ≠ [])
    (hfits : tooLarge other = false) : other <:+ trim tooLarge items := by
  induction items with
  | nil => exact hother
  | cons item rest ih =>
    cases rest with
    | nil => exact hother
    | cons next rest =>
      rw [trim]
      split
      next hover =>
        rcases List.suffix_cons_iff.mp hother with rfl | hrest
        · rw [hfits] at hover
          cases hover
        · exact ih hrest
      · exact hother

/-- Without a suffix that fits, the last item remains. -/
theorem trim_eq_getLast (h : ∀ other, other <:+ items → other ≠ [] → tooLarge other = true) :
    trim tooLarge items = items.getLast?.toList := by
  induction items with
  | nil => rfl
  | cons item rest ih =>
    cases rest with
    | nil => rfl
    | cons next rest =>
      rw [trim, if_pos (h _ List.suffix_rfl (List.cons_ne_nil _ _)), List.getLast?_cons_cons]
      exact ih fun other hother ↦ h other (hother.trans (List.suffix_cons item _))

/-- What a list is trimmed to under a budget: the longest suffix within the budget, or the last item when
no suffix with an item in it is. -/
structure LongestWithin (size : List α → Int) (budget : Int) (items kept : List α) : Prop where
  suffix : kept <:+ items
  longest : ∀ other, other <:+ items → other ≠ [] → size other ≤ budget →
    size kept ≤ budget ∧ other.length ≤ kept.length
  last : (∀ other, other <:+ items → other ≠ [] → budget < size other) →
    kept = items.getLast?.toList
  exceeds : budget < size kept → kept.length ≤ 1

theorem longestWithin_trim (size : List α → Int) (budget : Int) (items : List α) :
    LongestWithin size budget items (trim (fun kept ↦ decide (budget < size kept)) items) where
  suffix := trim_suffix _ items
  longest other hother hne hfits := by
    have hsuffix : other <:+ trim (fun kept ↦ decide (budget < size kept)) items :=
      suffix_trim hother hne (by simpa using hfits)
    refine ⟨?_, hsuffix.length_le⟩
    rcases trim_stops (fun kept ↦ decide (budget < size kept)) items with hwithin | hshort
    · simpa using hwithin
    · -- one item is left, and the suffix that fits has an item of it
      have hlength := List.length_pos_iff.mpr hne
      have heq := hsuffix.eq_of_length (by have := hsuffix.length_le; omega)
      rwa [← heq]
  last h := trim_eq_getLast fun other hother hne ↦ decide_eq_true (h other hother hne)
  exceeds hover := by
    rcases trim_stops (fun kept ↦ decide (budget < size kept)) items with hwithin | hshort
    · simp only [decide_eq_false_iff_not] at hwithin
      exact absurd hover hwithin
    · exact hshort

/-- If a list gets no larger when it loses its front and anything fits at all, then exactly the suffixes
of what remains fit. -/
theorem LongestWithin.fits_iff {size : List α → Int} {budget : Int} {kept other : List α}
    (h : LongestWithin size budget items kept)
    (hsize : ∀ first second : List α, first <:+ second → size first ≤ size second)
    (hfits : size kept ≤ budget) (hother : other <:+ items) (hne : other ≠ []) :
    size other ≤ budget ↔ other <:+ kept := by
  constructor
  · intro hwithin
    exact List.suffix_of_suffix_length_le hother h.suffix (h.longest other hother hne hwithin).2
  · intro hsuffix
    exact Int.le_trans (hsize other kept hsuffix) hfits

end Xyena.Foundation
