import Mathlib.Algebra.Order.BigOperators.Group.List
import Mathlib.Algebra.Order.Ring.Int
import Xyena.Foundation.Table

/-!
# Writes to keyed tables

A session writes a row of a table by inserting it or by storing a changed
version of it. The table has a primary key and columns that are unique among its
rows, and the commit is refused when the written row clashes with another one.
Tables that only such writes change keep their keys distinct and their unique
columns unique. Sums over the rows follow the written row.
-/

namespace Xyena.Foundation

/-- The write of one row. -/
inductive RowWrite (Row : Type*) where
  | insert (row : Row)
  | update (row : Row)

/-- The primary key of a table and the clashes between rows with different keys. -/
structure Constraints (Row Key : Type*) where
  key : Row → Key
  clash : Row → Row → Bool := fun _ _ ↦ false
  clash_symm : ∀ first second, clash first second = clash second first := by intros; rfl

/-- The rows of a table that meets its constraints. -/
structure Constraints.Meets {Row Key : Type*} (constraints : Constraints Row Key)
    (rows : List Row) : Prop where
  keys : (rows.map constraints.key).Nodup
  unique : ∀ first ∈ rows, ∀ second ∈ rows, constraints.key first ≠ constraints.key second →
    constraints.clash first second = false

theorem meets_nil {Row Key : Type*} (constraints : Constraints Row Key) : constraints.Meets [] :=
  ⟨List.nodup_nil, by simp⟩

namespace RowWrite

variable {Row Key : Type*} [DecidableEq Key]

def row : RowWrite Row → Row
  | .insert row => row
  | .update row => row

/-- Whether the constraints admit the write. -/
def accepted (constraints : Constraints Row Key) (rows : List Row) : RowWrite Row → Bool
  | .insert row => rows.all fun old ↦
    decide (constraints.key row ≠ constraints.key old) && !constraints.clash row old
  | .update row => rows.all fun old ↦
    decide (constraints.key row = constraints.key old) || !constraints.clash row old

def apply (constraints : Constraints Row Key) (rows : List Row) : RowWrite Row → List Row
  | .insert row => rows ++ [row]
  | .update row => Table.replace constraints.key row rows

variable {constraints : Constraints Row Key} {rows : List Row} {written other : Row}

theorem accepted_insert : accepted constraints rows (.insert written) = true ↔
    ∀ old ∈ rows, constraints.key written ≠ constraints.key old ∧
      constraints.clash written old = false := by
  simp [accepted]

theorem accepted_update : accepted constraints rows (.update written) = true ↔
    ∀ old ∈ rows, constraints.key written ≠ constraints.key old →
      constraints.clash written old = false := by
  simp [accepted, or_iff_not_imp_left]

/-- A row of the written table is the written row or an old one with another key. -/
theorem mem_apply {write : RowWrite Row} (haccepted : write.accepted constraints rows = true)
    (h : other ∈ write.apply constraints rows) :
    other = write.row ∨ other ∈ rows ∧ constraints.key other ≠ constraints.key write.row := by
  cases write with
  | insert row =>
    rcases List.mem_append.mp h with hold | hnew
    · exact Or.inr ⟨hold, ((accepted_insert.mp haccepted other hold).1).symm⟩
    · exact Or.inl (List.mem_singleton.mp hnew)
  | update row => exact Table.mem_replace h

/-- An accepted write keeps the constraints. -/
theorem meets_apply {write : RowWrite Row} (h : constraints.Meets rows)
    (haccepted : write.accepted constraints rows = true) :
    constraints.Meets (write.apply constraints rows) := by
  constructor
  · cases write with
    | insert row =>
      exact Table.nodup_keys_append h.keys fun old hold ↦ (accepted_insert.mp haccepted old hold).1
    | update row =>
      rw [apply, Table.map_key_replace]
      exact h.keys
  · have hwritten (old : Row) (hold : old ∈ rows)
        (hkey : constraints.key write.row ≠ constraints.key old) :
        constraints.clash write.row old = false := by
      cases write with
      | insert row => exact (accepted_insert.mp haccepted old hold).2
      | update row => exact accepted_update.mp haccepted old hold hkey
    intro first hfirst second hsecond hkey
    rcases mem_apply haccepted hfirst with rfl | ⟨hfirst, -⟩
    · rcases mem_apply haccepted hsecond with rfl | ⟨hsecond, -⟩
      · exact absurd rfl hkey
      · exact hwritten second hsecond hkey
    · rcases mem_apply haccepted hsecond with rfl | ⟨hsecond, -⟩
      · rw [constraints.clash_symm]
        exact hwritten first hfirst hkey.symm
      · exact h.unique first hfirst second hsecond hkey

/-! ## Several writes -/

/-- The rows after all writes of a session, in their order. -/
def applyAll (constraints : Constraints Row Key) (rows : List Row) (writes : List (RowWrite Row)) :
    List Row :=
  writes.foldl (apply constraints) rows

/-- Whether the constraints admit each write after the ones before it. -/
def acceptedAll (constraints : Constraints Row Key) (rows : List Row) : List (RowWrite Row) → Bool
  | [] => true
  | write :: rest =>
    write.accepted constraints rows && acceptedAll constraints (write.apply constraints rows) rest

@[simp] theorem applyAll_nil : applyAll constraints rows [] = rows := rfl

@[simp] theorem applyAll_cons (write : RowWrite Row) (rest : List (RowWrite Row)) :
    applyAll constraints rows (write :: rest) =
      applyAll constraints (write.apply constraints rows) rest := rfl

theorem applyAll_append (first second : List (RowWrite Row)) :
    applyAll constraints rows (first ++ second) =
      applyAll constraints (applyAll constraints rows first) second :=
  List.foldl_append

theorem acceptedAll_cons {write : RowWrite Row} {rest : List (RowWrite Row)} :
    acceptedAll constraints rows (write :: rest) = true ↔
      write.accepted constraints rows = true ∧
        acceptedAll constraints (write.apply constraints rows) rest = true := by
  rw [acceptedAll, Bool.and_eq_true]

theorem accepted_of_singleton {write : RowWrite Row}
    (h : acceptedAll constraints rows [write] = true) : write.accepted constraints rows = true :=
  (acceptedAll_cons.mp h).1

/-- The rows of a table after one of its rows was written. -/
theorem mem_written {write : RowWrite Row} (haccepted : acceptedAll constraints rows [write] = true)
    (h : other ∈ applyAll constraints rows [write]) :
    other = write.row ∨ other ∈ rows ∧ constraints.key other ≠ constraints.key write.row :=
  mem_apply (accepted_of_singleton haccepted) h

/-- A property of all rows is kept by a write of a row that has it. -/
theorem forall_written {write : RowWrite Row} {P : Row → Prop} (h : ∀ row ∈ rows, P row)
    (haccepted : acceptedAll constraints rows [write] = true) (hwritten : P write.row) :
    ∀ row ∈ applyAll constraints rows [write], P row := by
  intro row hrow
  rcases mem_written haccepted hrow with rfl | ⟨hold, -⟩
  · exact hwritten
  · exact h row hold

/-- Storing a changed row keeps every column that the change keeps. -/
theorem map_update {Column : Type*} {column : Row → Column} (h : constraints.Meets rows)
    (hold : other ∈ rows) (hkey : constraints.key written = constraints.key other)
    (hcolumn : column written = column other) :
    (applyAll constraints rows [.update written]).map column = rows.map column :=
  Table.map_replace h.keys hold hkey hcolumn

/-- No key is lost. -/
theorem key_mem_apply {write : RowWrite Row} {key : Key} (h : key ∈ rows.map constraints.key) :
    key ∈ (write.apply constraints rows).map constraints.key := by
  cases write with
  | insert row =>
    rw [apply, List.map_append]
    exact List.mem_append_left _ h
  | update row =>
    rw [apply, Table.map_key_replace]
    exact h

/-- Storing a changed row is admitted when the change keeps what the row could clash by. -/
theorem acceptedAll_update (h : constraints.Meets rows) (hold : other ∈ rows)
    (hkey : constraints.key written = constraints.key other)
    (hclash : ∀ row, constraints.clash written row = constraints.clash other row) :
    acceptedAll constraints rows [.update written] = true := by
  refine acceptedAll_cons.mpr ⟨accepted_update.mpr fun row hrow hne ↦ ?_, rfl⟩
  rw [hclash]
  exact h.unique other hold row hrow (hkey ▸ hne)

/-- Inserted rows stand behind the others. -/
theorem applyAll_insert (rows new : List Row) :
    applyAll constraints rows (new.map .insert) = rows ++ new := by
  induction new generalizing rows with
  | nil => simp
  | cons row rest ih =>
    rw [List.map_cons, applyAll_cons, ih, apply, List.append_assoc, List.singleton_append]

/-- Rows are inserted together when none of them clashes with a row of the table or with another. -/
theorem acceptedAll_insert {new : List Row} :
    acceptedAll constraints rows (new.map .insert) = true ↔
      (∀ row ∈ new, ∀ old ∈ rows, constraints.key row ≠ constraints.key old ∧
        constraints.clash row old = false) ∧
      new.Pairwise fun first second ↦ constraints.key second ≠ constraints.key first ∧
        constraints.clash second first = false := by
  induction new generalizing rows with
  | nil => simp [acceptedAll]
  | cons row rest ih =>
    rw [List.map_cons, acceptedAll_cons, accepted_insert, ih, List.forall_mem_cons, List.pairwise_cons,
      apply]
    constructor
    · rintro ⟨hrow, hrest, hpairs⟩
      refine ⟨⟨hrow, fun new hnew old hold ↦ ?_⟩, fun new hnew ↦ ?_, hpairs⟩
      · exact hrest new hnew old (List.mem_append_left _ hold)
      · exact hrest new hnew row (List.mem_append_right _ (List.mem_singleton.mpr rfl))
    · rintro ⟨⟨hrow, hrest⟩, hfirst, hpairs⟩
      refine ⟨hrow, fun new hnew ↦ ?_, hpairs⟩
      exact List.forall_mem_append.mpr
        ⟨hrest new hnew, List.forall_mem_singleton.mpr (hfirst new hnew)⟩

theorem key_mem_applyAll (constraints : Constraints Row Key) (writes : List (RowWrite Row)) {key : Key}
    (h : key ∈ rows.map constraints.key) : key ∈ (applyAll constraints rows writes).map constraints.key := by
  induction writes generalizing rows with
  | nil => exact h
  | cons write rest ih => exact ih (key_mem_apply h)

/-- A row after several writes is a written row, or an old one that no write has changed. -/
theorem mem_applyAll {writes : List (RowWrite Row)} (h : other ∈ applyAll constraints rows writes) :
    (∃ write ∈ writes, other = write.row) ∨ other ∈ rows ∧
      ∀ changed, RowWrite.update changed ∈ writes → constraints.key changed ≠ constraints.key other := by
  induction writes generalizing rows with
  | nil => exact Or.inr ⟨h, by simp⟩
  | cons write rest ih =>
    rcases ih h with ⟨later, hlater, rfl⟩ | ⟨hcurrent, hrest⟩
    · exact Or.inl ⟨later, List.mem_cons_of_mem _ hlater, rfl⟩
    · cases write with
      | insert row =>
        rcases List.mem_append.mp hcurrent with hold | hnew
        · refine Or.inr ⟨hold, fun changed hchanged ↦ ?_⟩
          exact hrest changed (by simpa using hchanged)
        · exact Or.inl ⟨_, List.mem_cons_self, List.mem_singleton.mp hnew⟩
      | update row =>
        rcases Table.mem_replace hcurrent with rfl | ⟨hold, hne⟩
        · exact Or.inl ⟨_, List.mem_cons_self, rfl⟩
        · refine Or.inr ⟨hold, fun changed hchanged ↦ ?_⟩
          rcases List.mem_cons.mp hchanged with heq | hlater
          · rw [RowWrite.update.inj heq]
            exact hne.symm
          · exact hrest changed hlater

/-- A row that is inserted among several writes is new. -/
theorem key_ne_of_insert {writes : List (RowWrite Row)} {row : Row}
    (haccepted : acceptedAll constraints rows writes = true) (hinsert : RowWrite.insert row ∈ writes) :
    ∀ old ∈ rows, constraints.key row ≠ constraints.key old := by
  induction writes generalizing rows with
  | nil => cases hinsert
  | cons write rest ih =>
    obtain ⟨hfirst, hrest⟩ := acceptedAll_cons.mp haccepted
    intro old hold
    rcases List.mem_cons.mp hinsert with rfl | hlater
    · exact (accepted_insert.mp hfirst old hold).1
    · have hkey : constraints.key old ∈ (write.apply constraints rows).map constraints.key :=
        key_mem_apply (List.mem_map_of_mem hold)
      obtain ⟨current, hcurrent, hsame⟩ := List.mem_map.mp hkey
      rw [← hsame]
      exact ih hrest hlater current hcurrent

/-- Every row has a current version, of which holds what no write of it takes away. -/
theorem exists_applyAll (constraints : Constraints Row Key) (P : Row → Prop) {writes : List (RowWrite Row)}
    {row : Row} (hrow : row ∈ rows) (hP : P row) (hkept : ∀ changed, RowWrite.update changed ∈ writes →
      constraints.key changed = constraints.key row → P changed) :
    ∃ current ∈ applyAll constraints rows writes,
      constraints.key current = constraints.key row ∧ P current := by
  induction writes generalizing rows row with
  | nil => exact ⟨row, hrow, rfl, hP⟩
  | cons write rest ih =>
    have hrest (changed : Row) (hchanged : RowWrite.update changed ∈ rest) :=
      hkept changed (List.mem_cons_of_mem _ hchanged)
    cases write with
    | insert new => exact ih (List.mem_append_left _ hrow) hP hrest
    | update new =>
      by_cases hkey : constraints.key new = constraints.key row
      · have hnew : new ∈ Table.replace constraints.key new rows := Table.changed_mem_replace hrow hkey.symm
        rw [← hkey]
        exact ih hnew (hkept new List.mem_cons_self hkey) (by rwa [hkey])
      · exact ih (Table.mem_replace_of_ne hrow (Ne.symm hkey)) hP hrest

/-- Writes of rows outside a selection leave the selection alone. -/
theorem filter_applyAll_other {selected : Row → Bool} {writes : List (RowWrite Row)}
    (hwrites : ∀ write ∈ writes, selected write.row = false)
    (hkept : ∀ changed, RowWrite.update changed ∈ writes → ∀ row ∈ rows,
      constraints.key row = constraints.key changed → selected row = false) :
    (applyAll constraints rows writes).filter selected = rows.filter selected := by
  induction writes generalizing rows with
  | nil => rfl
  | cons write rest ih =>
    obtain ⟨hfirst, hrest⟩ := List.forall_mem_cons.mp hwrites
    rw [applyAll_cons, ih hrest]
    · cases write with
      | insert row =>
        have hnew : selected row = false := hfirst
        rw [apply, List.filter_append, List.filter_singleton, hnew]
        exact List.append_nil _
      | update row =>
        have hnew : selected row = false := hfirst
        have hold := hkept row List.mem_cons_self
        rw [apply, Table.replace, Table.update, List.filter_map]
        have hselected : rows.filter (selected ∘ fun old ↦
            if constraints.key old == constraints.key row then row else old) = rows.filter selected := by
          refine List.filter_congr fun old hstored ↦ ?_
          simp only [Function.comp_apply]
          split
          next hsame => rw [hold old hstored (beq_iff_eq.mp hsame), hnew]
          · rfl
        rw [hselected]
        refine (List.map_congr_left fun old hstored ↦ ?_).trans (List.map_id _)
        obtain ⟨hstored, howner⟩ := List.mem_filter.mp hstored
        refine if_neg fun hsame ↦ ?_
        rw [hold old hstored (beq_iff_eq.mp hsame)] at howner
        cases howner
    · intro changed hchanged row hrow hsame
      have hold := hkept changed (List.mem_cons_of_mem _ hchanged)
      cases write with
      | insert new =>
        rcases List.mem_append.mp hrow with hrow | hnew
        · exact hold row hrow hsame
        · rw [List.mem_singleton.mp hnew]
          exact hfirst
      | update new =>
        rcases Table.mem_replace hrow with rfl | ⟨hrow, -⟩
        · exact hfirst
        · exact hold row hrow hsame

/-- Storing changed versions of some rows changes just these rows. -/
theorem applyAll_update {change : Row → Row} (hkey : ∀ row, constraints.key (change row) = constraints.key row)
    {targets : List Row} (hkeys : (rows.map constraints.key).Nodup) (htargets : ∀ row ∈ targets, row ∈ rows)
    (hdistinct : (targets.map constraints.key).Nodup) :
    applyAll constraints rows (targets.map fun row ↦ .update (change row)) =
      Table.update (fun row ↦ constraints.key row ∈ targets.map constraints.key) change rows := by
  induction targets generalizing rows with
  | nil => simp [Table.update]
  | cons first rest ih =>
    obtain ⟨hfirst, hrest⟩ := List.forall_mem_cons.mp htargets
    rw [List.map_cons, List.nodup_cons] at hdistinct
    have happly : RowWrite.apply constraints rows (.update (change first)) =
        Table.update (fun row ↦ constraints.key row == constraints.key first) change rows :=
      Table.replace_eq_update hkeys hfirst change (hkey first)
    have hsame : (Table.update (fun row ↦ constraints.key row == constraints.key first) change rows).map
        constraints.key = rows.map constraints.key := Table.map_update constraints.key hkey rows
    rw [List.map_cons, applyAll_cons, happly, ih (by rwa [hsame]) ?_ hdistinct.2]
    · simp only [Table.update, List.map_map]
      refine List.map_congr_left fun row _ ↦ ?_
      simp only [Function.comp_apply, List.map_cons, List.mem_cons, decide_eq_true_eq, beq_iff_eq]
      by_cases hrow : constraints.key row = constraints.key first
      · rw [if_pos hrow, hkey, hrow, if_neg hdistinct.1, if_pos (Or.inl rfl)]
      · rw [if_neg hrow]
        simp only [hrow, false_or]
    · intro row hrow
      refine Table.mem_update.mpr ⟨row, hrest row hrow, (if_neg ?_).symm⟩
      intro hsame
      exact hdistinct.1 (beq_iff_eq.mp hsame ▸ List.mem_map_of_mem hrow)

/-- Storing changed versions of all rows of a selection changes just the selection. -/
theorem applyAll_update_filter {change : Row → Row}
    (hkey : ∀ row, constraints.key (change row) = constraints.key row) (selected : Row → Bool)
    (hkeys : (rows.map constraints.key).Nodup) :
    applyAll constraints rows ((rows.filter selected).map fun row ↦ .update (change row)) =
      Table.update selected change rows := by
  rw [applyAll_update hkey hkeys fun row hrow ↦ List.mem_of_mem_filter hrow]
  · refine List.map_congr_left fun row hrow ↦ ?_
    have hiff : constraints.key row ∈ (rows.filter selected).map constraints.key ↔ selected row = true := by
      constructor
      · intro hmem
        obtain ⟨found, hfound, hsame⟩ := List.mem_map.mp hmem
        obtain ⟨hstored, hselected⟩ := List.mem_filter.mp hfound
        rwa [← Table.eq_of_key hkeys hstored hrow hsame]
      · exact fun h ↦ List.mem_map_of_mem (List.mem_filter.mpr ⟨hrow, h⟩)
    simp only [decide_eq_true_eq, hiff]
  · exact hkeys.sublist (List.filter_sublist.map _)

theorem meets_applyAll {writes : List (RowWrite Row)} (h : constraints.Meets rows)
    (haccepted : acceptedAll constraints rows writes = true) :
    constraints.Meets (applyAll constraints rows writes) := by
  induction writes generalizing rows with
  | nil => exact h
  | cons write rest ih =>
    obtain ⟨hfirst, hrest⟩ := acceptedAll_cons.mp haccepted
    exact ih (meets_apply h hfirst) hrest

end RowWrite

namespace Table

variable {Row Key : Type*} [DecidableEq Key]

/-- The sum of a column of integers. -/
def sum (column : Row → Int) (rows : List Row) : Int := (rows.map column).sum

@[simp] theorem sum_nil (column : Row → Int) : sum column [] = 0 := rfl

@[simp] theorem sum_cons (column : Row → Int) (row : Row) (rows : List Row) :
    sum column (row :: rows) = column row + sum column rows := by
  simp [sum]

@[simp] theorem sum_append (column : Row → Int) (first second : List Row) :
    sum column (first ++ second) = sum column first + sum column second := by
  simp [sum]

theorem sum_zero (rows : List Row) : sum (fun _ ↦ 0) rows = 0 := by
  induction rows with
  | nil => rfl
  | cons row rows ih => simp [ih]

theorem sum_le_sum {first second : Row → Int} {rows : List Row} (h : ∀ row ∈ rows, first row ≤ second row) :
    sum first rows ≤ sum second rows := by
  induction rows with
  | nil => simp
  | cons row rows ih =>
    rw [sum_cons, sum_cons]
    exact Int.add_le_add (h row List.mem_cons_self)
      (ih fun other hother ↦ h other (List.mem_cons_of_mem _ hother))

/-- One row of a column without negative values is at most the sum. -/
theorem le_sum {column : Row → Int} {rows : List Row} {row : Row} (hcolumn : ∀ row ∈ rows, 0 ≤ column row)
    (hrow : row ∈ rows) : column row ≤ sum column rows := by
  refine List.single_le_sum ?_ _ (List.mem_map_of_mem hrow)
  rintro value hvalue
  obtain ⟨other, hother, rfl⟩ := List.mem_map.mp hvalue
  exact hcolumn other hother

theorem sum_congr {first second : Row → Int} {rows : List Row}
    (h : ∀ row ∈ rows, first row = second row) : sum first rows = sum second rows :=
  congrArg List.sum (List.map_congr_left h)

theorem sum_filter (column : Row → Int) (selected : Row → Bool) (rows : List Row) :
    sum column (rows.filter selected) = sum (fun row ↦ if selected row then column row else 0) rows := by
  induction rows with
  | nil => rfl
  | cons row rows ih =>
    rw [sum_cons, ← ih]
    cases hselected : selected row with
    | false => simp [hselected]
    | true => simp [hselected]

theorem sum_perm (column : Row → Int) {first second : List Row} (h : first.Perm second) :
    sum column first = sum column second :=
  (h.map column).sum_eq

/-- A selection by one of two conditions that exclude each other joins the two selections. -/
theorem filter_or_perm {first second : Row → Bool} {rows : List Row}
    (h : ∀ row ∈ rows, first row = true → second row = false) :
    (rows.filter fun row ↦ first row || second row).Perm
      (rows.filter first ++ rows.filter second) := by
  induction rows with
  | nil => exact .refl _
  | cons row rest ih =>
    have hrest := ih fun other hother ↦ h other (List.mem_cons_of_mem _ hother)
    cases hfirst : first row with
    | true =>
      have hsecond := h row List.mem_cons_self hfirst
      simpa [hfirst, hsecond] using hrest
    | false =>
      cases hsecond : second row with
      | true => simpa [hfirst, hsecond] using (hrest.cons row).trans List.perm_middle.symm
      | false => simpa [hfirst, hsecond] using hrest

/-- Storing a changed row moves the sum by the change. -/
theorem sum_replace {key : Row → Key} {rows : List Row} {old changed : Row} (column : Row → Int)
    (hkeys : (rows.map key).Nodup) (hold : old ∈ rows) (hkey : key changed = key old) :
    sum column (replace key changed rows) = sum column rows - column old + column changed := by
  induction rows with
  | nil => cases hold
  | cons first rest ih =>
    rw [List.map_cons, List.nodup_cons] at hkeys
    have hcons : replace key changed (first :: rest) =
        (if key first == key changed then changed else first) :: replace key changed rest := rfl
    rw [hcons, sum_cons, sum_cons]
    rcases List.mem_cons.mp hold with rfl | hrest
    · -- the rows behind the changed one have other keys
      have hkept : replace key changed rest = rest := by
        refine (List.map_congr_left fun row hrow ↦ ?_).trans (List.map_id rest)
        have hne : key row ≠ key changed := by
          rw [hkey]
          rintro heq
          exact hkeys.1 (heq ▸ List.mem_map_of_mem hrow)
        simp [hne]
      rw [hkept, if_pos (by simp [hkey])]
      omega
    · have hne : key first ≠ key changed := by
        rw [hkey]
        rintro heq
        exact hkeys.1 (heq ▸ List.mem_map_of_mem hrest)
      rw [if_neg (by simpa using hne), ih hkeys.2 hrest]
      omega

end Table

end Xyena.Foundation
