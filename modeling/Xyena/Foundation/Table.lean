import Mathlib.Data.List.Basic
import Mathlib.Data.List.Nodup

/-!
# Tables as lists of rows

A table is the list of its rows in insertion order. The statements that the
services issue are a filtered update, the newest row of a selection, and an
insert that a uniqueness constraint may refuse.
-/

namespace Xyena.Foundation.Table

variable {Row Key : Type*}

/-- `UPDATE … SET … WHERE selected`. -/
def update (selected : Row → Bool) (change : Row → Row) (rows : List Row) : List Row :=
  rows.map fun row ↦ if selected row then change row else row

/-- Store a changed row in the place of the row with its key. -/
def replace [BEq Key] (key : Row → Key) (changed : Row) (rows : List Row) : List Row :=
  update (fun row ↦ key row == key changed) (fun _ ↦ changed) rows

/-- `ORDER BY stamp DESC LIMIT 1`; of rows with one stamp the first one inserted is taken. -/
def latest (stamp : Row → Int) : List Row → Option Row
  | [] => none
  | row :: rest =>
    match latest stamp rest with
    | none => some row
    | some other => if stamp row < stamp other then some other else some row

/-- Insert a row unless it conflicts with a stored one. -/
def insert (conflicts : Row → Row → Bool) (row : Row) (rows : List Row) : Option (List Row) :=
  if rows.any (conflicts row) then none else some (rows ++ [row])

theorem mem_update {selected : Row → Bool} {change : Row → Row} {rows : List Row} {row : Row} :
    row ∈ update selected change rows ↔
      ∃ old ∈ rows, row = if selected old then change old else old := by
  simp only [update, List.mem_map]
  exact exists_congr fun old ↦ and_congr_right fun _ ↦ eq_comm

/-- An update keeps every column that the change keeps. -/
theorem map_update (column : Row → Key) {selected : Row → Bool} {change : Row → Row}
    (hkeep : ∀ row, column (change row) = column row) (rows : List Row) :
    (update selected change rows).map column = rows.map column := by
  simp only [update, List.map_map]
  refine List.map_congr_left fun row _ ↦ ?_
  simp only [Function.comp_apply]
  split
  · exact hkeep row
  · rfl

section Replace

variable [BEq Key] [LawfulBEq Key] {key : Row → Key} {changed row : Row} {rows : List Row}

/-- The column of keys is not touched. -/
@[simp] theorem map_key_replace (key : Row → Key) (changed : Row) (rows : List Row) :
    (replace key changed rows).map key = rows.map key := by
  simp only [replace, update, List.map_map]
  refine List.map_congr_left fun row _ ↦ ?_
  simp only [Function.comp_apply]
  split
  next hkey => exact (beq_iff_eq.mp hkey).symm
  · rfl

theorem mem_replace (h : row ∈ replace key changed rows) :
    row = changed ∨ row ∈ rows ∧ key row ≠ key changed := by
  obtain ⟨old, hold, rfl⟩ := mem_update.mp h
  split
  · exact Or.inl rfl
  next hkey => exact Or.inr ⟨hold, by simpa using hkey⟩

theorem mem_replace_of_ne (hrow : row ∈ rows) (hkey : key row ≠ key changed) :
    row ∈ replace key changed rows :=
  mem_update.mpr ⟨row, hrow, by rw [if_neg (by simpa using hkey)]⟩

theorem changed_mem_replace (hrow : row ∈ rows) (hkey : key row = key changed) :
    changed ∈ replace key changed rows :=
  mem_update.mpr ⟨row, hrow, by rw [if_pos (by simpa using hkey)]⟩

end Replace

theorem latest_mem {stamp : Row → Int} {rows : List Row} {row : Row}
    (h : latest stamp rows = some row) : row ∈ rows := by
  induction rows with
  | nil => cases h
  | cons first rest ih =>
    simp only [latest] at h
    split at h
    · exact Option.some.inj h ▸ List.mem_cons_self
    next other hrest =>
      split at h
      · obtain rfl := Option.some.inj h
        exact List.mem_cons_of_mem _ (ih hrest)
      · exact Option.some.inj h ▸ List.mem_cons_self

/-- The newest row of a selection is a selected row of the table. -/
theorem latest_filter_spec {stamp : Row → Int} {selected : Row → Bool} {rows : List Row} {row : Row}
    (h : latest stamp (rows.filter selected) = some row) : row ∈ rows ∧ selected row = true :=
  List.mem_filter.mp (latest_mem h)

theorem latest_eq_none {stamp : Row → Int} {rows : List Row} :
    latest stamp rows = none ↔ rows = [] := by
  cases rows with
  | nil => simp [latest]
  | cons first rest =>
    simp only [latest, reduceCtorEq, iff_false]
    split
    · simp
    · split <;> simp

/-- No selected row is newer than the newest one. -/
theorem latest_max {stamp : Row → Int} {rows : List Row} {row : Row}
    (h : latest stamp rows = some row) : ∀ other ∈ rows, stamp other ≤ stamp row := by
  induction rows generalizing row with
  | nil => cases h
  | cons first rest ih =>
    simp only [latest] at h
    split at h
    next hrest =>
      obtain rfl := Option.some.inj h
      rw [latest_eq_none.mp hrest]
      simp
    next newest hrest =>
      have hbound := ih hrest
      split at h
      next hlt =>
        obtain rfl := Option.some.inj h
        exact List.forall_mem_cons.mpr ⟨Int.le_of_lt hlt, hbound⟩
      next hge =>
        obtain rfl := Option.some.inj h
        exact List.forall_mem_cons.mpr ⟨Int.le_refl _, fun other hother ↦
          Int.le_trans (hbound other hother) (Int.not_lt.mp hge)⟩

theorem insert_eq_some {conflicts : Row → Row → Bool} {row : Row} {rows after : List Row} :
    insert conflicts row rows = some after ↔
      (∀ old ∈ rows, conflicts row old = false) ∧ after = rows ++ [row] := by
  unfold insert
  split
  next h =>
    obtain ⟨old, hold, hconflict⟩ := List.any_eq_true.mp h
    simp only [reduceCtorEq, false_iff, not_and]
    intro hfree
    rw [hfree old hold] at hconflict
    cases hconflict
  next h =>
    rw [Bool.not_eq_true, List.any_eq_false] at h
    simp only [Option.some.injEq]
    constructor
    · rintro rfl
      exact ⟨fun old hold ↦ by simpa using h old hold, rfl⟩
    · rintro ⟨-, rfl⟩
      rfl

/-- Two rows of a table with distinct keys are one row when their keys agree. -/
theorem eq_of_key {key : Row → Key} {rows : List Row} (hkeys : (rows.map key).Nodup)
    {first second : Row} (hfirst : first ∈ rows) (hsecond : second ∈ rows)
    (h : key first = key second) : first = second :=
  List.inj_on_of_nodup_map hkeys hfirst hsecond h

/-- With distinct keys, storing a changed row updates the one row that it came from. -/
theorem replace_eq_update [BEq Key] [LawfulBEq Key] {key : Row → Key} {rows : List Row} {old : Row}
    (hkeys : (rows.map key).Nodup) (hold : old ∈ rows) (change : Row → Row)
    (hkey : key (change old) = key old) :
    replace key (change old) rows = update (fun row ↦ key row == key old) change rows := by
  simp only [replace, update, hkey]
  refine List.map_congr_left fun row hrow ↦ ?_
  split
  next hsame => rw [eq_of_key hkeys hrow hold (beq_iff_eq.mp hsame)]
  · rfl

/-- Storing a changed row keeps every column that the change keeps. -/
theorem map_replace [BEq Key] [LawfulBEq Key] {key : Row → Key} {rows : List Row} {old changed : Row}
    {Column : Type*} {column : Row → Column} (hkeys : (rows.map key).Nodup) (hold : old ∈ rows)
    (hkey : key changed = key old) (hcolumn : column changed = column old) :
    (replace key changed rows).map column = rows.map column := by
  simp only [replace, update, List.map_map]
  refine List.map_congr_left fun row hrow ↦ ?_
  simp only [Function.comp_apply]
  split
  next hsame =>
    rw [eq_of_key hkeys hrow hold ((beq_iff_eq.mp hsame).trans hkey), hcolumn]
  · rfl

/-- What holds of some row still holds of some row after a changed one was stored, when the change does
not take it away. -/
theorem exists_replace [BEq Key] [LawfulBEq Key] {key : Row → Key} {rows : List Row} {old : Row}
    (changed : Row) {P : Row → Prop} (hkeys : (rows.map key).Nodup) (hold : old ∈ rows)
    (hkey : key changed = key old) (hkept : P old → P changed) (h : ∃ row ∈ rows, P row) :
    ∃ row ∈ replace key changed rows, P row := by
  obtain ⟨row, hrow, hP⟩ := h
  by_cases hsame : key row = key changed
  · obtain rfl := eq_of_key hkeys hrow hold (hsame.trans hkey)
    exact ⟨changed, changed_mem_replace hrow hsame, hkept hP⟩
  · exact ⟨row, mem_replace_of_ne hrow hsame, hP⟩

/-- A relation between all rows of a table holds after an append when the new row is related to
itself and to the old rows. -/
theorem pairs_append {Related : Row → Row → Prop} {rows : List Row} {row : Row}
    (hsymm : ∀ first second, Related first second → Related second first)
    (hrows : ∀ first ∈ rows, ∀ second ∈ rows, Related first second)
    (hnew : ∀ old ∈ rows, Related old row) (hself : Related row row) :
    ∀ first ∈ rows ++ [row], ∀ second ∈ rows ++ [row], Related first second := by
  intro first hfirst second hsecond
  rcases List.mem_append.mp hfirst with hold₁ | hnew₁ <;>
    rcases List.mem_append.mp hsecond with hold₂ | hnew₂
  · exact hrows first hold₁ second hold₂
  · rw [List.mem_singleton.mp hnew₂]
    exact hnew first hold₁
  · rw [List.mem_singleton.mp hnew₁]
    exact hsymm _ _ (hnew second hold₂)
  · rw [List.mem_singleton.mp hnew₁, List.mem_singleton.mp hnew₂]
    exact hself

/-- Appending a row with a new key keeps the keys distinct. -/
theorem nodup_keys_append {key : Row → Key} {rows : List Row} {row : Row}
    (hkeys : (rows.map key).Nodup) (hnew : ∀ old ∈ rows, key row ≠ key old) :
    ((rows ++ [row]).map key).Nodup := by
  rw [List.map_append, List.map_singleton, List.nodup_append]
  refine ⟨hkeys, List.nodup_singleton _, ?_⟩
  intro stored hstored last hlast
  obtain ⟨old, hold, rfl⟩ := List.mem_map.mp hstored
  rw [List.mem_singleton.mp hlast]
  exact (hnew old hold).symm

/-- A search finds the only row that it can find. -/
theorem find?_eq_some_of_unique {selected : Row → Bool} {rows : List Row} {row : Row} (hrow : row ∈ rows)
    (hselected : selected row = true)
    (hunique : ∀ other ∈ rows, selected other = true → other = row) :
    rows.find? selected = some row := by
  cases hfind : rows.find? selected with
  | none => exact absurd hselected (List.find?_eq_none.mp hfind row hrow)
  | some found => rw [hunique found (List.mem_of_find?_eq_some hfind) (List.find?_some hfind)]

/-- With distinct keys the rows with the key of a row are just this row. -/
theorem filter_eq_singleton [BEq Key] [LawfulBEq Key] {key : Row → Key} {rows : List Row} {row : Row}
    (hkeys : (rows.map key).Nodup) (hrow : row ∈ rows) :
    rows.filter (fun other ↦ key other == key row) = [row] := by
  induction rows with
  | nil => cases hrow
  | cons first rest ih =>
    rw [List.map_cons, List.nodup_cons] at hkeys
    rcases List.mem_cons.mp hrow with rfl | hrest
    · have hnone : rest.filter (fun other ↦ key other == key row) = [] := by
        refine List.filter_eq_nil_iff.mpr fun other hother hsame ↦ hkeys.1 ?_
        exact beq_iff_eq.mp hsame ▸ List.mem_map_of_mem hother
      rw [List.filter_cons, if_pos (beq_self_eq_true (key row)), hnone]
    · have hne : key first ≠ key row := fun hsame ↦ hkeys.1 (hsame ▸ List.mem_map_of_mem hrest)
      rw [List.filter_cons, if_neg (by simpa using hne)]
      exact ih hkeys.2 hrest

/-- With distinct keys a selection by the key of a selected row finds just this row. -/
theorem filter_key_and [BEq Key] [LawfulBEq Key] {key : Row → Key} {rows : List Row} {row : Row}
    {selected : Row → Bool} (hkeys : (rows.map key).Nodup) (hrow : row ∈ rows)
    (hselected : selected row = true) :
    rows.filter (fun other ↦ key other == key row && selected other) = [row] := by
  rw [← List.filter_filter]
  exact filter_eq_singleton (hkeys.sublist (List.filter_sublist.map key))
    (List.mem_filter.mpr ⟨hrow, hselected⟩)

/-- Of rows with distinct keys that are all one row there is at most one. -/
theorem length_le_one {key : Row → Key} {rows : List Row} (hkeys : (rows.map key).Nodup)
    (hsame : ∀ first ∈ rows, ∀ second ∈ rows, first = second) : rows.length ≤ 1 := by
  rcases rows with _ | ⟨first, _ | ⟨second, rest⟩⟩
  · simp
  · simp
  · have heq := hsame first (by simp) second (by simp)
    simp [heq] at hkeys

theorem eq_of_length_le_one {rows : List Row} (h : rows.length ≤ 1) {first second : Row}
    (hfirst : first ∈ rows) (hsecond : second ∈ rows) : first = second := by
  rcases rows with _ | ⟨row, _ | ⟨other, rest⟩⟩
  · cases hfirst
  · rw [List.mem_singleton.mp hfirst, List.mem_singleton.mp hsecond]
  · simp at h

end Xyena.Foundation.Table
