import Xyena.Foundation.JsonText

/-!
# Documents that agree up to the order of their fields

`Agrees` compares two documents part by part and looks a field up wherever it
stands. As long as no object repeats a key this is the equality of normal forms,
so two such documents have one compact text exactly when they agree.
-/

namespace Xyena.Foundation.Json

/-! ## Agreement -/

mutual

/-- No object repeats a key. -/
def distinctKeys : Json → Bool
  | .null => true
  | .bool _ => true
  | .int _ => true
  | .float _ => true
  | .str _ => true
  | .arr items => distinctKeysItems items
  | .obj fields => decide (fields.map Prod.fst).Nodup && distinctKeysFields fields

def distinctKeysItems : List Json → Bool
  | [] => true
  | item :: rest => distinctKeys item && distinctKeysItems rest

def distinctKeysFields : List (String × Json) → Bool
  | [] => true
  | (_, value) :: rest => distinctKeys value && distinctKeysFields rest

end

mutual

/-- Equality up to the order of the fields of every object. -/
def Agrees : Json → Json → Prop
  | .null, .null => True
  | .bool first, .bool second => first = second
  | .int first, .int second => first = second
  | .float first, .float second => first = second
  | .str first, .str second => first = second
  | .arr items, .arr others => AgreesItems items others
  | .obj fields, .obj others => fields.length = others.length ∧ AgreesFields fields others
  | _, _ => False

def AgreesItems : List Json → List Json → Prop
  | [], [] => True
  | item :: rest, other :: others => Agrees item other ∧ AgreesItems rest others
  | _, _ => False

/-- Each of the fields has one under its key among the others. -/
def AgreesFields : List (String × Json) → List (String × Json) → Prop
  | [], _ => True
  | (key, value) :: rest, others =>
    (∃ other, (key, other) ∈ others ∧ Agrees value other) ∧ AgreesFields rest others

end

example : Agrees (.obj [("a", .int 1), ("b", .null)]) (.obj [("b", .null), ("a", .int 1)]) :=
  ⟨rfl, ⟨_, List.mem_cons_of_mem _ List.mem_cons_self, rfl⟩, ⟨_, List.mem_cons_self, trivial⟩, trivial⟩

/-! ## Sorted fields -/

theorem normalizeFields_eq_map (fields : List (String × Json)) :
    normalizeFields fields = fields.map fun field ↦ (field.1, field.2.normalize) := by
  induction fields with
  | nil => rfl
  | cons field rest ih => rw [normalizeFields, ih, List.map_cons]

/-- Arrays are the same when their items are, one by one. -/
theorem same_arr_iff {first second : List Json} :
    Same (.arr first) (.arr second) ↔ List.Forall₂ Same first second := by
  simp only [Same, normalize, Json.arr.injEq]
  induction first generalizing second with
  | nil => cases second <;> simp [normalizeItems]
  | cons item rest ih =>
    cases second with
    | nil => simp [normalizeItems]
    | cons other others => simp [normalizeItems, ih, Same]

section Fields

variable {α : Type} {first second : List (String × α)}

/-- Fields with distinct keys are sorted in one way only. -/
theorem sortFields_eq_of_perm (hkeys : (first.map Prod.fst).Nodup) (h : first.Perm second) :
    sortFields first = sortFields second := by
  let before : String × α → String × α → Prop := fun left right ↦ left.1 ≤ right.1
  have htotal : Std.Total before := ⟨fun left right ↦ String.le_total left.1 right.1⟩
  have htrans : IsTrans (String × α) before := ⟨fun _ _ _ hleft hright ↦ String.le_trans hleft hright⟩
  have hperm : (sortFields first).Perm (sortFields second) :=
    (sortFields_perm first).trans (h.trans (sortFields_perm second).symm)
  refine hperm.eq_of_pairwise (fun left right hleft hright hle hge ↦ ?_)
    (List.pairwise_insertionSort before first) (List.pairwise_insertionSort before second)
  have hsame : left.1 = right.1 := String.le_antisymm hle hge
  have hmem : right ∈ first := h.mem_iff.mpr ((sortFields_perm second).mem_iff.mp hright)
  exact List.inj_on_of_nodup_map hkeys ((sortFields_perm first).mem_iff.mp hleft) hmem hsame

/-- Two lists of fields are sorted to one list exactly when they have the same fields. -/
theorem sortFields_eq_iff (hfirst : (first.map Prod.fst).Nodup) :
    sortFields first = sortFields second ↔ first.length = second.length ∧ first ⊆ second := by
  constructor
  · intro h
    have hperm : first.Perm second := (sortFields_perm first).symm.trans (h ▸ sortFields_perm second)
    exact ⟨hperm.length_eq, hperm.subset⟩
  · rintro ⟨hlength, hsubset⟩
    have hsubperm := List.subperm_of_subset hfirst.of_map hsubset
    exact sortFields_eq_of_perm hfirst (hsubperm.perm_of_length_le (Nat.le_of_eq hlength.symm))

end Fields

theorem same_obj_iff {fields others : List (String × Json)} (hfields : (fields.map Prod.fst).Nodup) :
    Same (.obj fields) (.obj others) ↔ fields.length = others.length ∧
      ∀ field ∈ fields, ∃ other, (field.1, other) ∈ others ∧ Same field.2 other := by
  have hnormal : ((normalizeFields fields).map Prod.fst).Nodup := by rwa [map_fst_normalizeFields]
  rw [Same, normalize, normalize, obj.injEq, sortFields_eq_iff hnormal, normalizeFields_eq_map,
    normalizeFields_eq_map, List.length_map, List.length_map]
  refine and_congr_right fun _ ↦ ⟨fun h field hfield ↦ ?_, fun h field hfield ↦ ?_⟩
  · obtain ⟨found, hfound, heq⟩ := List.mem_map.mp (h (List.mem_map_of_mem hfield))
    obtain ⟨hkey, hvalue⟩ := Prod.mk.inj heq
    exact ⟨found.2, hkey ▸ hfound, hvalue.symm⟩
  · obtain ⟨stored, hstored, rfl⟩ := List.mem_map.mp hfield
    obtain ⟨other, hother, hsame⟩ := h stored hstored
    exact List.mem_map.mpr ⟨(stored.1, other), hother, Prod.ext rfl hsame.symm⟩

/-! ## Agreement and normal forms -/

mutual

/-- Documents agree exactly when their normal forms are equal. -/
theorem agrees_iff_same (first second : Json) (hfirst : first.distinctKeys = true) :
    Agrees first second ↔ Same first second := by
  cases first with
  | null => cases second <;> simp [Agrees, Same, normalize]
  | bool value => cases second <;> simp [Agrees, Same, normalize]
  | int value => cases second <;> simp [Agrees, Same, normalize]
  | float text => cases second <;> simp [Agrees, Same, normalize]
  | str value => cases second <;> simp [Agrees, Same, normalize]
  | arr items =>
    cases second with
    | arr others =>
      rw [Agrees, agreesItems_iff_same items others hfirst, Same, normalize, normalize, arr.injEq]
    | _ => simp [Agrees, Same, normalize]
  | obj fields =>
    cases second with
    | obj others =>
      obtain ⟨hkeys, hvalues⟩ := Bool.and_eq_true_iff.mp hfirst
      rw [Agrees, agreesFields_iff_same fields others hvalues, same_obj_iff (of_decide_eq_true hkeys)]
    | _ => simp [Agrees, Same, normalize]

theorem agreesItems_iff_same (items others : List Json) (h : distinctKeysItems items = true) :
    AgreesItems items others ↔ normalizeItems items = normalizeItems others := by
  cases items with
  | nil => cases others <;> simp [AgreesItems, normalizeItems]
  | cons item rest =>
    cases others with
    | nil => simp [AgreesItems, normalizeItems]
    | cons other others =>
      obtain ⟨hitem, hrest⟩ := Bool.and_eq_true_iff.mp h
      rw [AgreesItems, agrees_iff_same item other hitem, agreesItems_iff_same rest others hrest, Same,
        normalizeItems, normalizeItems, List.cons.injEq]

theorem agreesFields_iff_same (fields others : List (String × Json)) (h : distinctKeysFields fields = true) :
    AgreesFields fields others ↔
      ∀ field ∈ fields, ∃ other, (field.1, other) ∈ others ∧ Same field.2 other := by
  cases fields with
  | nil => simp [AgreesFields]
  | cons field rest =>
    cases field with
    | mk key value =>
      obtain ⟨hvalue, hrest⟩ := Bool.and_eq_true_iff.mp h
      have hagrees (other : Json) := agrees_iff_same value other hvalue
      rw [AgreesFields, agreesFields_iff_same rest others hrest, List.forall_mem_cons]
      simp only [hagrees]

end

/-- Two documents without repeated keys have one compact text exactly when they agree. -/
theorem dumps_eq_iff (ascii : Bool) {first second : Json} (hfirst : first.wellFormed = true)
    (hsecond : second.wellFormed = true) (hkeys : first.distinctKeys = true) :
    dumps ascii first = dumps ascii second ↔ Agrees first second := by
  rw [agrees_iff_same first second hkeys]
  refine ⟨same_of_dumps ascii hfirst hsecond, fun hsame ↦ ?_⟩
  rw [dumps, dumps, hsame]

end Xyena.Foundation.Json
