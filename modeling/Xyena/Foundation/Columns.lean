import Xyena.Foundation.Json

/-!
# Columns

What the database takes into its text and JSONB columns. It refuses some values
that the host language has, and a statement that carries one of them raises.
-/

namespace Xyena.Foundation

/-- A text column refuses the null character. -/
def textStorable (text : String) : Bool := !text.toList.contains '\x00'

/-- A text column of bounded width. -/
def fits (width : Nat) (text : String) : Bool :=
  decide (text.toList.length ≤ width) && textStorable text

mutual

/-- A JSONB column refuses the null character and numbers that are not finite. -/
def jsonStorable : Json → Bool
  | .null => true
  | .bool _ => true
  | .int _ => true
  | .float text => text != "NaN" && text != "Infinity" && text != "-Infinity"
  | .str value => textStorable value
  | .arr items => itemsStorable items
  | .obj fields => fieldsStorable fields

def itemsStorable : List Json → Bool
  | [] => true
  | item :: rest => jsonStorable item && itemsStorable rest

def fieldsStorable : List (String × Json) → Bool
  | [] => true
  | (key, value) :: rest => textStorable key && jsonStorable value && fieldsStorable rest

end

end Xyena.Foundation
