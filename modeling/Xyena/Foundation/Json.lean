import Mathlib.Algebra.Ring.Nat
import Mathlib.Data.List.Sort

/-!
# JSON values and their compact text

Objects are kept as field lists in the order in which they were built.
`Json.normalize` sorts the fields of every object, so two values are the same
JSON document when their normal forms are equal. `Json.dumps` is the compact
text with sorted keys; its flag selects whether characters outside the
printable ASCII range are escaped.
-/

namespace Xyena.Foundation

/-- A JSON value. A number that is not an integer is kept as its shortest decimal text. -/
inductive Json where
  | null
  | bool (value : Bool)
  | int (value : Int)
  | float (text : String)
  | str (value : String)
  | arr (items : List Json)
  | obj (fields : List (String × Json))

namespace Json

/-- A text or null, as an optional text is dumped. -/
def ofOption : Option String → Json
  | none => .null
  | some value => .str value

def strings (values : List String) : Json := .arr (values.map .str)

/-! ## Normal form -/

def sortFields {α : Type} (fields : List (String × α)) : List (String × α) :=
  fields.insertionSort fun first second ↦ first.1 ≤ second.1

mutual

/-- Sort the fields of every object. -/
def normalize : Json → Json
  | .null => .null
  | .bool value => .bool value
  | .int value => .int value
  | .float text => .float text
  | .str value => .str value
  | .arr items => .arr (normalizeItems items)
  | .obj fields => .obj (sortFields (normalizeFields fields))

def normalizeItems : List Json → List Json
  | [] => []
  | item :: rest => normalize item :: normalizeItems rest

def normalizeFields : List (String × Json) → List (String × Json)
  | [] => []
  | (key, value) :: rest => (key, normalize value) :: normalizeFields rest

end

/-- Equality of documents, in which the order of object fields does not count. -/
def Same (first second : Json) : Prop := first.normalize = second.normalize

theorem lookup_eq_some {α : Type} {fields : List (String × α)}
    (hkeys : (fields.map Prod.fst).Nodup) {key : String} {value : α} :
    fields.lookup key = some value ↔ (key, value) ∈ fields := by
  induction fields with
  | nil => simp
  | cons head rest ih =>
    obtain ⟨name, stored⟩ := head
    rw [List.map_cons, List.nodup_cons] at hkeys
    rw [List.lookup_cons]
    by_cases hname : key = name
    · subst hname
      simp only [beq_self_eq_true, Option.some.injEq, List.mem_cons, Prod.mk.injEq, true_and]
      refine ⟨fun h ↦ Or.inl h.symm, ?_⟩
      rintro (rfl | hrest)
      · rfl
      · exact absurd (List.mem_map_of_mem (f := Prod.fst) hrest) hkeys.1
    · simp only [beq_eq_false_iff_ne.mpr hname, List.mem_cons, Prod.mk.injEq, hname, false_and,
        false_or]
      exact ih hkeys.2

theorem sortFields_perm {α : Type} (fields : List (String × α)) :
    (sortFields fields).Perm fields :=
  List.perm_insertionSort _ fields

theorem lookup_sortFields {α : Type} {fields : List (String × α)}
    (hkeys : (fields.map Prod.fst).Nodup) (key : String) :
    (sortFields fields).lookup key = fields.lookup key := by
  have hperm := sortFields_perm fields
  have hsorted : ((sortFields fields).map Prod.fst).Nodup :=
    (hperm.map Prod.fst).nodup_iff.mpr hkeys
  ext value
  rw [lookup_eq_some hsorted, lookup_eq_some hkeys, hperm.mem_iff]

theorem map_fst_normalizeFields (fields : List (String × Json)) :
    (normalizeFields fields).map Prod.fst = fields.map Prod.fst := by
  induction fields with
  | nil => rfl
  | cons head rest ih => exact congrArg (head.1 :: ·) ih

theorem lookup_normalizeFields (fields : List (String × Json)) (key : String) :
    (normalizeFields fields).lookup key = (fields.lookup key).map normalize := by
  induction fields with
  | nil => rfl
  | cons head rest ih =>
    rw [normalizeFields, List.lookup_cons, List.lookup_cons, ih]
    split <;> rfl

/-- Documents that agree up to field order agree in every field. -/
theorem Same.lookup {first second : List (String × Json)}
    (h : Same (.obj first) (.obj second)) (hfirst : (first.map Prod.fst).Nodup)
    (hsecond : (second.map Prod.fst).Nodup) (key : String) :
    (first.lookup key).map normalize = (second.lookup key).map normalize := by
  have hfields : sortFields (normalizeFields first) = sortFields (normalizeFields second) := by
    simpa only [Same, normalize, Json.obj.injEq] using h
  have hlookup := congrArg (List.lookup key) hfields
  rw [lookup_sortFields (by rwa [map_fst_normalizeFields]),
    lookup_sortFields (by rwa [map_fst_normalizeFields])] at hlookup
  simpa only [lookup_normalizeFields] using hlookup

theorem normalizeItems_strings (values : List String) :
    normalizeItems (values.map .str) = values.map .str := by
  induction values with
  | nil => rfl
  | cons value rest ih => exact congrArg (Json.str value :: ·) ih

@[simp] theorem normalize_strings (values : List String) :
    (strings values).normalize = strings values :=
  congrArg Json.arr (normalizeItems_strings values)

@[simp] theorem normalize_ofOption (value : Option String) :
    (ofOption value).normalize = ofOption value := by
  cases value <;> rfl

@[simp] theorem strings_inj {first second : List String} :
    strings first = strings second ↔ first = second := by
  simp only [strings, Json.arr.injEq]
  exact (List.map_injective_iff.mpr fun _ _ h ↦ Json.str.inj h).eq_iff

@[simp] theorem ofOption_inj {first second : Option String} :
    ofOption first = ofOption second ↔ first = second := by
  cases first <;> cases second <;> simp [ofOption]

/-! ## Compact text -/

def hexDigit (value : Nat) : Char :=
  if value < 10 then Char.ofNat (48 + value) else Char.ofNat (87 + value)

/-- The low `width` hexadecimal digits of a number, most significant first. -/
def hexDigits : Nat → Nat → List Char
  | 0, _ => []
  | width + 1, value => hexDigits width (value / 16) ++ [hexDigit (value % 16)]

theorem hexDigit_injective {first second : Nat} (hfirst : first < 16) (hsecond : second < 16)
    (h : hexDigit first = hexDigit second) : first = second := by
  have hdigits : ∀ a < 16, ∀ b < 16, hexDigit a = hexDigit b → a = b := by decide
  exact hdigits first hfirst second hsecond h

@[simp] theorem length_hexDigits (width value : Nat) : (hexDigits width value).length = width := by
  induction width generalizing value with
  | zero => rfl
  | succ width ih => simp [hexDigits, ih]

/-- Numbers below `16 ^ width` are told apart by their digits. -/
theorem hexDigits_injective {width first second : Nat} (hfirst : first < 16 ^ width)
    (hsecond : second < 16 ^ width) (h : hexDigits width first = hexDigits width second) :
    first = second := by
  induction width generalizing first second with
  | zero => omega
  | succ width ih =>
    simp only [hexDigits] at h
    obtain ⟨hhigh, hlow⟩ := List.append_inj h (by simp)
    have hdiv : first / 16 = second / 16 := ih (by omega) (by omega) hhigh
    have hmod : first % 16 = second % 16 :=
      hexDigit_injective (by omega) (by omega) (List.cons.inj hlow).1
    omega

def unicodeEscape (code : Nat) : List Char := '\\' :: 'u' :: hexDigits 4 code

/-- The escape rules of the encoder; with `ascii` set everything outside the space-to-tilde range
is written as one or two `\u` escapes. -/
def escapeChar (ascii : Bool) (char : Char) : List Char :=
  match char.toNat with
  | 0x22 => ['\\', '\"']
  | 0x5c => ['\\', '\\']
  | 0x0a => ['\\', 'n']
  | 0x0d => ['\\', 'r']
  | 0x09 => ['\\', 't']
  | 0x08 => ['\\', 'b']
  | 0x0c => ['\\', 'f']
  | code =>
    if code < 0x20 then unicodeEscape code
    else if ascii && decide (0x7e < code) then
      if code < 0x10000 then unicodeEscape code
      else unicodeEscape (0xd800 + (code - 0x10000) / 0x400) ++
        unicodeEscape (0xdc00 + (code - 0x10000) % 0x400)
    else [char]

def quote (ascii : Bool) (text : String) : List Char :=
  '\"' :: text.toList.flatMap (escapeChar ascii) ++ ['\"']

mutual

def dumpChars (ascii : Bool) : Json → List Char
  | .null => "null".toList
  | .bool true => "true".toList
  | .bool false => "false".toList
  | .int value => (toString value).toList
  | .float text => text.toList
  | .str value => quote ascii value
  | .arr items => '[' :: dumpItems ascii items ++ [']']
  | .obj fields => '\x7b' :: dumpFields ascii fields ++ ['\x7d']

def dumpItems (ascii : Bool) : List Json → List Char
  | [] => []
  | [item] => dumpChars ascii item
  | item :: rest => dumpChars ascii item ++ ',' :: dumpItems ascii rest

def dumpFields (ascii : Bool) : List (String × Json) → List Char
  | [] => []
  | [(key, value)] => quote ascii key ++ ':' :: dumpChars ascii value
  | (key, value) :: rest =>
    quote ascii key ++ ':' :: dumpChars ascii value ++ ',' :: dumpFields ascii rest

end

/-- `json.dumps(value, sort_keys=True, separators=(",", ":"), ensure_ascii=ascii)`. -/
def dumps (ascii : Bool) (value : Json) : String :=
  String.ofList (dumpChars ascii value.normalize)

example : dumps false (.obj [("b", .arr [.int (-3), .null]), ("a", .str "x\n")]) =
    "\x7b\"a\":\"x\\n\",\"b\":[-3,null]\x7d" := by decide

end Json

end Xyena.Foundation
