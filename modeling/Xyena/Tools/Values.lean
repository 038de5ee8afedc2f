import Xyena.Contracts.Tools

/-!
# Values that tools return

What a tool returns is a value of the host language: JSON data that may also
hold tuples and model objects. The broker encodes it twice, once to measure it
and once to hash it, and the two encoders treat model objects differently.
-/

namespace Xyena.Tools

open Xyena.Foundation Xyena.Contracts

/-- A value of the host language. A model object has a type, a JSON dump and a text. -/
inductive PyValue where
  | none
  | bool (value : Bool)
  | int (value : Int)
  | float (text : String)
  | str (value : String)
  | list (items : List PyValue)
  | tuple (items : List PyValue)
  | dict (fields : List (String × PyValue))
  | model (typeName : String) (dump : Json) (text : String)

namespace PyValue

/-! ## Encoders -/

/-- The first failure of a list of encodings, or all of them. -/
def collect {α : Type} : List (Except String α) → Except String (List α)
  | [] => .ok []
  | .error typeName :: _ => .error typeName
  | .ok value :: rest => (collect rest).map (value :: ·)

/-- The same for the fields of an object, which are encoded in the order of their keys. -/
def collectFields (fields : List (String × Except String Json)) :
    Except String (List (String × Json)) :=
  collect ((Json.sortFields fields).map fun field ↦ field.2.map (field.1, ·))

mutual

/-- What the canonical encoder makes of a value. It raises on a model object and names its type. -/
def canonical : PyValue → Except String Json
  | .none => .ok .null
  | .bool value => .ok (.bool value)
  | .int value => .ok (.int value)
  | .float text => .ok (.float text)
  | .str value => .ok (.str value)
  | .list items => (collect (canonicalItems items)).map .arr
  | .tuple items => (collect (canonicalItems items)).map .arr
  | .dict fields => (collectFields (canonicalFields fields)).map .obj
  | .model typeName _ _ => .error typeName

def canonicalItems : List PyValue → List (Except String Json)
  | [] => []
  | item :: rest => canonical item :: canonicalItems rest

def canonicalFields : List (String × PyValue) → List (String × Except String Json)
  | [] => []
  | (key, value) :: rest => (key, canonical value) :: canonicalFields rest

end

mutual

/-- The encoding with `default=str`, in which a model object is its text. -/
def withText : PyValue → Json
  | .none => .null
  | .bool value => .bool value
  | .int value => .int value
  | .float text => .float text
  | .str value => .str value
  | .list items => .arr (withTextItems items)
  | .tuple items => .arr (withTextItems items)
  | .dict fields => .obj (withTextFields fields)
  | .model _ _ text => .str text

def withTextItems : List PyValue → List Json
  | [] => []
  | item :: rest => withText item :: withTextItems rest

def withTextFields : List (String × PyValue) → List (String × Json)
  | [] => []
  | (key, value) :: rest => (key, withText value) :: withTextFields rest

end

/-- The number of bytes of `json.dumps(value, default=str, separators=(",", ":"))`. -/
def encodedSize (value : PyValue) : Nat := (value.withText.dumpChars true).length

mutual

/-- JSON data as a value. -/
def ofJson : Json → PyValue
  | .null => .none
  | .bool value => .bool value
  | .int value => .int value
  | .float text => .float text
  | .str value => .str value
  | .arr items => .list (ofJsonItems items)
  | .obj fields => .dict (ofJsonFields fields)

def ofJsonItems : List Json → List PyValue
  | [] => []
  | item :: rest => ofJson item :: ofJsonItems rest

def ofJsonFields : List (String × Json) → List (String × PyValue)
  | [] => []
  | (key, value) :: rest => (key, ofJson value) :: ofJsonFields rest

end

/-! ## Projection of remote content -/

mutual

/-- `_content_projection`: lists and dictionaries are passed on as they are. -/
def contentProjection : PyValue → PyValue
  | .model _ dump _ => ofJson dump
  | .tuple items => .list (contentProjections items)
  | value => value

def contentProjections : List PyValue → List PyValue
  | [] => []
  | item :: rest => contentProjection item :: contentProjections rest

end

/-- The truth value of a value. -/
def truthy : PyValue → Bool
  | .none => false
  | .bool value => value
  | .int value => value != 0
  | .float text => text != "0.0" && text != "-0.0"
  | .str value => value != ""
  | .list items => !items.isEmpty
  | .tuple items => !items.isEmpty
  | .dict fields => !fields.isEmpty
  | .model _ _ _ => true

end PyValue

end Xyena.Tools
