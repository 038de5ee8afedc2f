import Xyena.Foundation.RowWrite

/-!
# What several selections cover

Several claims select rows of one table. What they select together is counted
once, what each of them selects is counted for each, and the two totals of a
column without negative values agree when no two claims share a positive row.
-/

namespace Xyena.Foundation.Table

variable {Row Claim : Type*} {selects : Claim → Row → Bool} {column : Row → Int} {rows : List Row}

/-- The rows that some claim selects. -/
def covered (selects : Claim → Row → Bool) (rows : List Row) (claims : List Claim) : List Row :=
  rows.filter fun row ↦ claims.any fun claim ↦ selects claim row

theorem flatMap_selected (selected : Row → Bool) (rows : List Row) :
    (rows.flatMap fun row ↦ if selected row then [row] else []) = rows.filter selected := by
  induction rows with
  | nil => rfl
  | cons row rest ih =>
    rw [List.flatMap_cons, ih, List.filter_cons]
    cases selected row <;> rfl

theorem sum_nonneg (hcolumn : ∀ row ∈ rows, 0 ≤ column row) : 0 ≤ sum column rows :=
  (sum_zero rows).ge.trans (sum_le_sum hcolumn)

theorem filter_nonneg (hcolumn : ∀ row ∈ rows, 0 ≤ column row) (selected : Row → Bool) :
    ∀ row ∈ rows.filter selected, 0 ≤ column row :=
  fun row hrow ↦ hcolumn row (List.mem_of_mem_filter hrow)

/-- A sum without negative terms is zero only when every term is. -/
theorem sum_nonpos_iff (hcolumn : ∀ row ∈ rows, 0 ≤ column row) :
    sum column rows ≤ 0 ↔ ∀ row ∈ rows, column row = 0 := by
  constructor
  · intro h row hrow
    exact Int.le_antisymm ((le_sum hcolumn hrow).trans h) (hcolumn row hrow)
  · intro h
    rw [sum_congr h, sum_zero]

/-- One more claim covers what it selects, and what is shared is counted once. -/
theorem sum_covered_cons (selects : Claim → Row → Bool) (column : Row → Int) (rows : List Row)
    (claim : Claim) (claims : List Claim) :
    sum column (covered selects rows (claim :: claims)) +
        sum column ((covered selects rows claims).filter (selects claim)) =
      sum column (rows.filter (selects claim)) + sum column (covered selects rows claims) := by
  induction rows with
  | nil => rfl
  | cons row rest ih =>
    simp only [covered, List.filter_cons, List.any_cons] at ih ⊢
    cases hfirst : selects claim row <;> cases claims.any fun other ↦ selects other row <;>
      simp only [hfirst, Bool.or_false, Bool.or_true, if_true, Bool.false_eq_true, if_false,
        List.filter_cons, sum_cons] <;> omega

theorem shared_nonneg (selects : Claim → Row → Bool) (hcolumn : ∀ row ∈ rows, 0 ≤ column row)
    (claim : Claim) (claims : List Claim) :
    ∀ row ∈ (covered selects rows claims).filter (selects claim), 0 ≤ column row :=
  filter_nonneg (filter_nonneg hcolumn _) _

/-- The rows that a claim shares with the others count nothing. -/
theorem shared_nonpos_iff (hcolumn : ∀ row ∈ rows, 0 ≤ column row) (claim : Claim) (claims : List Claim) :
    sum column ((covered selects rows claims).filter (selects claim)) ≤ 0 ↔
      ∀ other ∈ claims, ∀ row ∈ rows, selects claim row = true → selects other row = true →
        column row = 0 := by
  rw [sum_nonpos_iff (shared_nonneg selects hcolumn claim claims)]
  simp only [covered, List.mem_filter, List.any_eq_true]
  constructor
  · intro h other hother row hrow hclaim hselects
    exact h row ⟨⟨hrow, other, hother, hselects⟩, hclaim⟩
  · rintro h row ⟨⟨hrow, other, hother, hselects⟩, hclaim⟩
    exact h other hother row hrow hclaim hselects

theorem sum_covered_le (selects : Claim → Row → Bool) (hcolumn : ∀ row ∈ rows, 0 ≤ column row)
    (claims : List Claim) :
    sum column (covered selects rows claims) ≤
      sum (fun claim ↦ sum column (rows.filter (selects claim))) claims := by
  induction claims with
  | nil => simp [covered]
  | cons claim claims ih =>
    have hcons := sum_covered_cons selects column rows claim claims
    have hshared := sum_nonneg (shared_nonneg selects hcolumn claim claims)
    rw [sum_cons]
    omega

/-- The claims together are covered exactly when no two of them share a positive row. -/
theorem sum_le_covered_iff (hcolumn : ∀ row ∈ rows, 0 ≤ column row) (claims : List Claim) :
    sum (fun claim ↦ sum column (rows.filter (selects claim))) claims ≤
        sum column (covered selects rows claims) ↔
      claims.Pairwise fun first second ↦ ∀ row ∈ rows, selects first row = true →
        selects second row = true → column row = 0 := by
  induction claims with
  | nil => simp [covered]
  | cons claim claims ih =>
    have hcons := sum_covered_cons selects column rows claim claims
    have hleast := sum_covered_le selects hcolumn claims
    have hshared := sum_nonneg (shared_nonneg selects hcolumn claim claims)
    rw [List.pairwise_cons, ← ih, ← shared_nonpos_iff hcolumn, sum_cons]
    omega

end Xyena.Foundation.Table
