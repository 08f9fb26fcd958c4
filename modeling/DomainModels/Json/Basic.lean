/-! JSON values as model files and instances carry them. Numbers keep the distinction a
reader of JSON text makes: an integer that fits in 64 bits stays an integer, every other
number is a double. Object fields keep the order in which they were written, and a key
written twice keeps its first position and its last value. -/
namespace DomainModels

/-- A JSON number: an integer in `[-2^63, 2^64)`, or a double. -/
inductive Number where
  | int (value : Int)
  | float (value : Float)

/-- A JSON value with ordered object fields. -/
inductive Json where
  | null
  | bool (value : Bool)
  | number (value : Number)
  | string (value : String)
  | array (items : List Json)
  | object (fields : List (String × Json))

instance : Inhabited Json := ⟨.null⟩

namespace Number

/-- The least signed 64-bit integer. -/
def i64Min : Int := -9223372036854775808
/-- The greatest signed 64-bit integer. -/
def i64Max : Int := 9223372036854775807
/-- The greatest unsigned 64-bit integer. -/
def u64Max : Int := 18446744073709551615

/-- The value as a double: an integer is rounded to the nearest double. -/
def toFloat : Number → Float
  | .int i => if 0 ≤ i then (i.toNat.toUInt64).toFloat else -((-i).toNat.toUInt64).toFloat
  | .float f => f

/-- The value as a signed 64-bit integer, when it is an integer in range. -/
def toI64? : Number → Option Int
  | .int i => if i64Min ≤ i ∧ i ≤ i64Max then some i else none
  | .float _ => none

/-- The value as an unsigned 64-bit integer, when it is an integer in range. -/
def toU64? : Number → Option Nat
  | .int i => if 0 ≤ i ∧ i ≤ u64Max then some i.toNat else none
  | .float _ => none

end Number

namespace Json

/-- An integer value. -/
def ofInt (i : Int) : Json := .number (.int i)

/-- A double value. -/
def ofFloat (f : Float) : Json := .number (.float f)

/-- The value stored under `key` in an object, the first such field. -/
def fieldsGet? (fields : List (String × Json)) (key : String) : Option Json :=
  match fields.find? (fun field => field.1 == key) with
  | some field => some field.2
  | none => none

/-- The value under `key` when this is an object holding it. -/
def get? (j : Json) (key : String) : Option Json :=
  match j with
  | .object fields => fieldsGet? fields key
  | _ => none

/-- Set `key` in an ordered field list: a present key keeps its position and takes the
new value; a new key goes to the end. -/
def fieldsInsert (fields : List (String × Json)) (key : String) (value : Json) :
    List (String × Json) :=
  if fields.any (fun field => field.1 == key) then
    fields.map fun field => if field.1 == key then (key, value) else field
  else fields ++ [(key, value)]

/-- The string when this is one. -/
def str? : Json → Option String
  | .string s => some s
  | _ => none

/-- The Boolean when this is one. -/
def bool? : Json → Option Bool
  | .bool b => some b
  | _ => none

/-- The fields when this is an object. -/
def obj? : Json → Option (List (String × Json))
  | .object fields => some fields
  | _ => none

/-- The items when this is an array. -/
def arr? : Json → Option (List Json)
  | .array items => some items
  | _ => none

/-- Whether this is `null`. -/
def isNull : Json → Bool
  | .null => true
  | _ => false

/-- The value as a signed 64-bit integer, when it is one. -/
def i64? : Json → Option Int
  | .number n => n.toI64?
  | _ => none

/-- The value as an unsigned 64-bit integer, when it is one. -/
def u64? : Json → Option Nat
  | .number n => n.toU64?
  | _ => none

/-- The value as a double, when it is a number. -/
def f64? : Json → Option Float
  | .number n => some n.toFloat
  | _ => none

end Json

end DomainModels
