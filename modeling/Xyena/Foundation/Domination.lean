import Mathlib.Data.List.Dedup
import Mathlib.Data.List.Perm.Basic

/-!
# Lists that dominate another

A list dominates another when it is at least as long and has, for each element
of the other, one that is above it. Maxima, numbers of distinct keys and
conditions on all elements follow this order, and reordered lists dominate each
other, so what is monotone in it does not depend on the order of a list.
-/

namespace Xyena.Foundation

variable {α β : Type} {above : α → α → Prop}

/-- Each element of the first list has one above it in the second, which is at least as long. -/
structure Dominated (above : α → α → Prop) (first second : List α) : Prop where
  length : first.length ≤ second.length
  covered : ∀ low ∈ first, ∃ high ∈ second, above low high

namespace Dominated

/-! ## Lists above a list -/

theorem of_perm (hrefl : ∀ value, above value value) {first second : List α} (h : first.Perm second) :
    Dominated above first second :=
  ⟨Nat.le_of_eq h.length_eq, fun low hlow ↦ ⟨low, h.mem_iff.mp hlow, hrefl low⟩⟩

theorem append (hrefl : ∀ value, above value value) (first added : List α) :
    Dominated above first (first ++ added) :=
  ⟨by simp, fun low hlow ↦ ⟨low, List.mem_append_left added hlow, hrefl low⟩⟩

/-- One part of a list is replaced by a list that dominates it. -/
theorem replace (hrefl : ∀ value, above value value) {first second : List α}
    (h : Dominated above first second) (before after : List α) :
    Dominated above (before ++ first ++ after) (before ++ second ++ after) where
  length := by
    simp only [List.length_append]
    have hlength := h.length
    omega
  covered low hlow := by
    simp only [List.mem_append] at hlow ⊢
    rcases hlow with (hbefore | hfirst) | hafter
    · exact ⟨low, Or.inl (Or.inl hbefore), hrefl low⟩
    · obtain ⟨high, hhigh, habove⟩ := h.covered low hfirst
      exact ⟨high, Or.inl (Or.inr hhigh), habove⟩
    · exact ⟨low, Or.inr hafter, hrefl low⟩

/-! ## What follows the order -/

variable {first second : List α}

theorem all_of_all (h : Dominated above first second) {good : α → Bool}
    (hgood : ∀ low high, above low high → good high = true → good low = true)
    (hall : second.all good = true) : first.all good = true := by
  rw [List.all_eq_true] at hall ⊢
  intro low hlow
  obtain ⟨high, hhigh, habove⟩ := h.covered low hlow
  exact hgood low high habove (hall high hhigh)

/-- The number of distinct keys grows when elements keep theirs. -/
theorem dedup_length_le [DecidableEq β] (h : Dominated above first second) {key : α → β}
    (hkey : ∀ low high, above low high → key low = key high) :
    (first.map key).dedup.length ≤ (second.map key).dedup.length := by
  refine (List.subperm_of_subset (List.nodup_dedup _) fun value hvalue ↦ ?_).length_le
  obtain ⟨low, hlow, rfl⟩ := List.mem_map.mp (List.mem_dedup.mp hvalue)
  obtain ⟨high, hhigh, habove⟩ := h.covered low hlow
  rw [hkey low high habove]
  exact List.mem_dedup.mpr (List.mem_map_of_mem hhigh)

/-- The greatest value grows; `default` stands for that of the empty list. -/
theorem max_le (h : Dominated above first second) {value : α → Nat} {default : Nat}
    (hvalue : ∀ low high, above low high → value low ≤ value high) (hfirst : first ≠ []) :
    (first.map value).max?.getD default ≤ (second.map value).max?.getD default := by
  cases hmax : (first.map value).max? with
  | none => exact absurd (List.map_eq_nil_iff.mp (List.max?_eq_none_iff.mp hmax)) hfirst
  | some greatest =>
    obtain ⟨low, hlow, rfl⟩ := List.mem_map.mp (List.max?_mem hmax)
    obtain ⟨high, hhigh, habove⟩ := h.covered low hlow
    calc
      value low ≤ value high := hvalue low high habove
      _ ≤ (second.map value).max?.getD default :=
        List.le_max?_getD_of_mem (List.mem_map_of_mem hhigh)

end Dominated

end Xyena.Foundation
