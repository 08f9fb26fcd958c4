/-! Values of TOML documents: strings, integers of 64 bits, doubles, Booleans, date-times
kept as their text, arrays and tables. A table lists its keys in the order they were
defined. -/
namespace DomainModels.Toml

/-- A TOML value. -/
inductive Value where
  | string (s : String)
  | integer (i : Int)
  | float (f : Float)
  | boolean (b : Bool)
  | datetime (text : String)
  | array (items : List Value)
  | table (entries : List (String × Value))
  deriving Inhabited

/-- The name of a value's type, as errors give it. -/
def Value.typeName : Value → String
  | .string _ => "string"
  | .integer _ => "integer"
  | .float _ => "float"
  | .boolean _ => "boolean"
  | .datetime _ => "datetime"
  | .array _ => "array"
  | .table _ => "inline table"

end DomainModels.Toml
