import Xyena.Foundation.Json

/-!
# The default text of a document

`json.dumps(value)` without options: fields in their own order, a blank behind
every comma and colon, and nothing outside ASCII. An array never gets longer
when items are taken away from its front.
-/

namespace Xyena.Foundation.Json

mutual

def plainChars : Json → List Char
  | .null => "null".toList
  | .bool true => "true".toList
  | .bool false => "false".toList
  | .int value => (toString value).toList
  | .float text => text.toList
  | .str value => quote true value
  | .arr items => '[' :: plainItems items ++ [']']
  | .obj fields => '\x7b' :: plainFields fields ++ ['\x7d']

def plainItems : List Json → List Char
  | [] => []
  | [item] => plainChars item
  | item :: rest => plainChars item ++ ',' :: ' ' :: plainItems rest

def plainFields : List (String × Json) → List Char
  | [] => []
  | [(key, value)] => quote true key ++ ':' :: ' ' :: plainChars value
  | (key, value) :: rest =>
    quote true key ++ ':' :: ' ' :: plainChars value ++ ',' :: ' ' :: plainFields rest

end

/-- `json.dumps(value)`. -/
def plainText (value : Json) : String := String.ofList (plainChars value)

example : plainText (.obj [("b", .arr [.int (-3), .null]), ("a", .str "é")]) =
    "\x7b\"b\": [-3, null], \"a\": \"\\u00e9\"\x7d" := by decide

theorem length_plainItems_cons (item : Json) (rest : List Json) :
    (plainItems rest).length ≤ (plainItems (item :: rest)).length := by
  cases rest with
  | nil => exact Nat.zero_le _
  | cons next rest =>
    rw [plainItems.eq_3 item (next :: rest) (by simp), List.length_append, List.length_cons,
      List.length_cons]
    omega

theorem length_plainItems_suffix {first second : List Json} (h : first <:+ second) :
    (plainItems first).length ≤ (plainItems second).length := by
  obtain ⟨dropped, rfl⟩ := h
  induction dropped with
  | nil => exact Nat.le_refl _
  | cons item dropped ih => exact ih.trans (length_plainItems_cons item (dropped ++ first))

end Xyena.Foundation.Json
