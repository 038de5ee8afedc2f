import Mathlib.Data.List.Sort
import Mathlib.Order.Basic
import Xyena.Foundation.Table

/-!
# Rows in the order of a stamp

`ORDER BY` with and without `DESC`. Rows that were added with ever larger stamps
already stand in their order, and the newest of them is the last one.
-/

namespace Xyena.Foundation.Table

variable {Row : Type*}

/-- `ORDER BY stamp`. -/
def orderBy (stamp : Row → Int) (rows : List Row) : List Row :=
  rows.insertionSort fun first second ↦ stamp first ≤ stamp second

/-- `ORDER BY stamp DESC`. -/
def orderByDesc (stamp : Row → Int) (rows : List Row) : List Row :=
  rows.insertionSort fun first second ↦ stamp second ≤ stamp first

section Descending

variable {stamp : Row → Int} {rows : List Row}

theorem mem_orderByDesc {row : Row} : row ∈ orderByDesc stamp rows ↔ row ∈ rows :=
  (List.perm_insertionSort _ rows).mem_iff

theorem orderByDesc_sorted :
    (orderByDesc stamp rows).Pairwise fun first second ↦ stamp second ≤ stamp first :=
  List.pairwise_insertionSort (fun first second ↦ stamp second ≤ stamp first) rows

/-- Rows with different stamps. -/
theorem orderByDesc_strict (h : rows.Pairwise fun first second ↦ stamp first ≠ stamp second) :
    (orderByDesc stamp rows).Pairwise fun first second ↦ stamp second < stamp first := by
  have hdistinct : (orderByDesc stamp rows).Pairwise fun first second ↦ stamp first ≠ stamp second :=
    ((List.perm_insertionSort _ rows).pairwise_iff fun hne ↦ hne.symm).mpr h
  exact orderByDesc_sorted.imp₂ (fun _ _ hle hne ↦ lt_of_le_of_ne hle hne.symm) hdistinct

end Descending

/-- The rows stand in the order of their stamps, and no two stamps agree. -/
def Increasing (stamp : Row → Int) (rows : List Row) : Prop :=
  rows.Pairwise fun first second ↦ stamp first < stamp second

variable {stamp : Row → Int} {rows : List Row}

theorem Increasing.filter (h : Increasing stamp rows) (selected : Row → Bool) :
    Increasing stamp (rows.filter selected) :=
  List.Pairwise.filter selected h

theorem Increasing.orderBy_eq (h : Increasing stamp rows) : orderBy stamp rows = rows :=
  List.Pairwise.insertionSort_eq (h.imp fun hlt ↦ Int.le_of_lt hlt)

/-- `ORDER BY stamp LIMIT 1`. -/
theorem head_orderBy {row : Row} (h : (orderBy stamp rows).head? = some row) :
    row ∈ rows ∧ ∀ other ∈ rows, stamp row ≤ stamp other := by
  have hperm := List.perm_insertionSort (fun first second ↦ stamp first ≤ stamp second) rows
  have hsorted := List.pairwise_insertionSort (fun first second ↦ stamp first ≤ stamp second) rows
  rw [orderBy] at h
  refine ⟨hperm.mem_iff.mp (List.mem_of_head? h), fun other hother ↦ ?_⟩
  have hplace := hperm.mem_iff.mpr hother
  cases hlist : rows.insertionSort fun first second ↦ stamp first ≤ stamp second with
  | nil => simp [hlist] at h
  | cons first rest =>
    rw [hlist] at h hsorted hplace
    obtain rfl : first = row := by simpa using h
    rcases List.mem_cons.mp hplace with rfl | hlater
    · exact le_rfl
    · exact (List.pairwise_cons.mp hsorted).1 other hlater

/-- A row behind all others in an order is inserted at the end. -/
theorem orderedInsert_last {order : Row → Row → Prop} [DecidableRel order] {row : Row}
    (h : ∀ other ∈ rows, ¬order row other) : rows.orderedInsert order row = rows ++ [row] := by
  induction rows with
  | nil => rfl
  | cons first rest ih =>
    rw [List.forall_mem_cons] at h
    rw [List.orderedInsert_of_not_le (h := h.1), ih h.2, List.cons_append]

theorem Increasing.orderByDesc_eq (h : Increasing stamp rows) :
    orderByDesc stamp rows = rows.reverse := by
  induction rows with
  | nil => rfl
  | cons row rest ih =>
    obtain ⟨hrow, hrest⟩ := List.pairwise_cons.mp h
    have hsorted : List.insertionSort (fun first second ↦ stamp second ≤ stamp first) rest =
        rest.reverse := ih hrest
    rw [orderByDesc, List.insertionSort_cons, hsorted, List.reverse_cons]
    refine orderedInsert_last fun other hother ↦ ?_
    exact not_le_of_gt (hrow other (List.mem_reverse.mp hother))

theorem Increasing.latest_eq (h : Increasing stamp rows) : latest stamp rows = rows.getLast? := by
  induction rows with
  | nil => rfl
  | cons row rest ih =>
    obtain ⟨hrow, hrest⟩ := List.pairwise_cons.mp h
    have hlatest := ih hrest
    cases rest with
    | nil => rfl
    | cons next rest =>
      rw [latest, hlatest, List.getLast?_cons_cons]
      cases hlast : (next :: rest).getLast? with
      | none => simp at hlast
      | some last => exact if_pos (hrow last (List.mem_of_getLast? hlast))

end Xyena.Foundation.Table
