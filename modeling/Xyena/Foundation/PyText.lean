import Xyena.Foundation.Json

/-!
# Texts and truth values of host-language data

`str.strip`, `str(value)` and the truth value of JSON data, as the services
apply them to what they receive.
-/

namespace Xyena.Foundation

/-- The characters that `str.strip` removes. -/
def isSpace (char : Char) : Bool :=
  let code := char.toNat
  decide (0x09 ≤ code ∧ code ≤ 0x0d) || decide (0x1c ≤ code ∧ code ≤ 0x20) ||
    decide (0x2000 ≤ code ∧ code ≤ 0x200a) ||
    code ∈ [0x85, 0xa0, 0x1680, 0x2028, 0x2029, 0x202f, 0x205f, 0x3000]

def stripChars (chars : List Char) : List Char :=
  ((chars.dropWhile isSpace).reverse.dropWhile isSpace).reverse

/-- `text.strip()`. -/
def strip (text : String) : String := String.ofList (stripChars text.toList)

/-- `text[:count]`. -/
def clip (count : Nat) (text : String) : String := String.ofList (text.toList.take count)

/-- Whether nothing is left of a text when it is stripped. -/
def blank (text : String) : Bool := strip text == ""

example : blank " \t\u3000" = true := by decide

namespace Json

/-- The truth value of a value; zero has two texts. -/
def truthy : Json → Bool
  | .null => false
  | .bool value => value
  | .int value => value != 0
  | .float text => text != "0.0" && text != "-0.0"
  | .str value => value != ""
  | .arr items => !items.isEmpty
  | .obj fields => !fields.isEmpty

/-- `str(value)`. How a list or a dictionary is shown is left to `container`. -/
def text (container : Json → String) : Json → String
  | .null => "None"
  | .bool true => "True"
  | .bool false => "False"
  | .int value => toString value
  | .float "NaN" => "nan"
  | .float "Infinity" => "inf"
  | .float "-Infinity" => "-inf"
  | .float text => text
  | .str value => value
  | value => container value

end Json

end Xyena.Foundation
