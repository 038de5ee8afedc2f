import Xyena.Foundation.Table

/-!
# Rows under a key

A row is looked up by its key, and other tables have rows that are about it. Both
views of a table only see what a write does to the rows under the key.
-/

namespace Xyena.Foundation.Table

variable {Row Key : Type*} [DecidableEq Key]

/-- The row with a key. -/
def lookup (key : Row → Key) (id : Key) (rows : List Row) : Option Row := rows.find? fun row ↦ key row == id

/-- The rows about the row with a key, in their order. -/
def owned (owner : Row → Key) (id : Key) (rows : List Row) : List Row := rows.filter fun row ↦ owner row == id

section Lookup

variable {key : Row → Key} {id : Key} {rows : List Row} {row : Row}

theorem lookup_spec (h : lookup key id rows = some row) : row ∈ rows ∧ key row = id :=
  ⟨List.mem_of_find?_eq_some h, by simpa using List.find?_some h⟩

theorem lookup_of_mem (key : Row → Key) (hkeys : (rows.map key).Nodup) (hrow : row ∈ rows) :
    lookup key (key row) rows = some row :=
  find?_eq_some_of_unique hrow (beq_self_eq_true _) fun _ hother hsame ↦
    eq_of_key hkeys hother hrow (beq_iff_eq.mp hsame)

theorem lookup_eq_none : lookup key id rows = none ↔ ∀ row ∈ rows, key row ≠ id := by
  simp [lookup, List.find?_eq_none]

theorem lookup_append_other (key : Row → Key) (hrow : key row ≠ id) :
    lookup key id (rows ++ [row]) = lookup key id rows := by
  have hnone : [row].find? (fun row ↦ key row == id) = none := by simpa using hrow
  rw [lookup, lookup, List.find?_append, hnone, Option.or_none]

theorem lookup_append_new (key : Row → Key) (hfresh : ∀ old ∈ rows, key row ≠ key old) :
    lookup key (key row) (rows ++ [row]) = some row := by
  have hnone : lookup key (key row) rows = none := lookup_eq_none.mpr fun old hold ↦ (hfresh old hold).symm
  rw [lookup] at hnone ⊢
  rw [List.find?_append, hnone, Option.none_or, List.find?_singleton, if_pos (beq_self_eq_true _)]

theorem lookup_replace_other (key : Row → Key) {changed : Row} (hchanged : key changed ≠ id) :
    lookup key id (replace key changed rows) = lookup key id rows := by
  induction rows with
  | nil => rfl
  | cons first rest ih =>
    have hcons : replace key changed (first :: rest) =
        (if key first == key changed then changed else first) :: replace key changed rest := rfl
    simp only [lookup] at ih ⊢
    rw [hcons, List.find?_cons, List.find?_cons, ih]
    by_cases hsame : key first = key changed
    · have hfirst : (key first == id) = false := by simpa [hsame] using hchanged
      have hnew : (key changed == id) = false := by simpa using hchanged
      rw [if_pos (beq_iff_eq.mpr hsame), hfirst, hnew]
    · rw [if_neg (by simpa using hsame)]

theorem lookup_replace_self (key : Row → Key) {changed : Row} (hkeys : (rows.map key).Nodup)
    (hrow : row ∈ rows) (hkey : key changed = key row) :
      lookup key (key row) (replace key changed rows) = some changed := by
  rw [← hkey]
  exact lookup_of_mem key (by rwa [map_key_replace]) (changed_mem_replace hrow hkey.symm)

/-- Changed rows are looked up under their old keys. -/
theorem lookup_map (key : Row → Key) {change : Row → Row} (hkey : ∀ row, key (change row) = key row) :
    lookup key id (rows.map change) = (lookup key id rows).map change := by
  rw [lookup, lookup, List.find?_map]
  congr 2
  funext row
  rw [Function.comp_apply, hkey]

end Lookup

section Owned

variable {owner : Row → Key} {id : Key} {rows new : List Row}

theorem mem_owned {row : Row} : row ∈ owned owner id rows ↔ row ∈ rows ∧ owner row = id := by
  simp [owned]

theorem owned_eq_nil (h : ∀ row ∈ rows, owner row ≠ id) : owned owner id rows = [] :=
  List.filter_eq_nil_iff.mpr fun row hrow hsame ↦ h row hrow (beq_iff_eq.mp hsame)

theorem owned_append_own (h : ∀ row ∈ new, owner row = id) :
    owned owner id (rows ++ new) = owned owner id rows ++ new := by
  rw [owned, List.filter_append, List.filter_eq_self.mpr fun row hrow ↦ beq_iff_eq.mpr (h row hrow), owned]

theorem owned_append_other (h : ∀ row ∈ new, owner row ≠ id) :
    owned owner id (rows ++ new) = owned owner id rows := by
  have hnone : owned owner id new = [] := owned_eq_nil h
  rw [owned] at hnone ⊢
  rw [List.filter_append, hnone, List.append_nil, owned]

end Owned

end Xyena.Foundation.Table
