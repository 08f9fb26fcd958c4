import DomainModels.Json.Write
import DomainModels.Text.Quote
/-! Reading typed values out of JSON, with the errors a reader of typed data reports: a
missing field, an unknown variant, a value of the wrong type or out of range. A record may
be written as an object, whose known keys are read in the order they appear and whose other
keys are ignored, or as an array of its fields in order. A variant of a tagged union is an
object whose `$class` key names it. -/
namespace DomainModels.Json

/-- Why a JSON value could not be read. -/
inductive DecodeError where
  | missingField (name : String)
  | unknownVariant (name : String) (expected : List String)
  | invalidType (found : String) (expected : String)
  | invalidValue (found : String) (expected : String)
  | invalidLength (length : Nat) (expected : String)
  deriving Repr, Inhabited

/-- A list of names in backquotes: one, two joined by `or`, or `one of` a list. -/
def oneOf (names : List String) : String :=
  let q := fun (n : String) => "`" ++ n ++ "`"
  match names with
  | [a] => q a
  | [a, b] => q a ++ " or " ++ q b
  | _ => "one of " ++ ", ".intercalate (names.map q)

/-- The text of a decoding error. -/
def DecodeError.text : DecodeError → String
  | .missingField n => "missing field `" ++ n ++ "`"
  | .unknownVariant n [] => "unknown variant `" ++ n ++ "`, there are no variants"
  | .unknownVariant n names => "unknown variant `" ++ n ++ "`, expected " ++ oneOf names
  | .invalidType found expected => "invalid type: " ++ found ++ ", expected " ++ expected
  | .invalidValue found expected => "invalid value: " ++ found ++ ", expected " ++ expected
  | .invalidLength n expected => "invalid length " ++ toString n ++ ", expected " ++ expected

/-- Reading a typed value. -/
abbrev Decoded := Except DecodeError

/-- How an unexpected value is described. -/
def describe : Json → String
  | .null => "null"
  | .bool b => "boolean `" ++ toString b ++ "`"
  | .number (.int i) => "integer `" ++ toString i ++ "`"
  | .number (.float f) => "floating point `" ++ numberNotation.render f ++ "`"
  | .string s => "string " ++ Text.quoteStr s
  | .array _ => "sequence"
  | .object _ => "map"

/-- Fail because a value has the wrong type. -/
def wrongType {α : Type} (j : Json) (expected : String) : Decoded α :=
  .error (.invalidType (describe j) expected)

/-- A string. -/
def decodeString : Json → Decoded String
  | .string s => .ok s
  | j => wrongType j "a string"

/-- A boolean. -/
def decodeBool : Json → Decoded Bool
  | .bool b => .ok b
  | j => wrongType j "a boolean"

/-- A signed 64-bit integer. -/
def decodeI64 : Json → Decoded Int
  | j@(.number (.int i)) =>
    if Number.i64Min ≤ i && i ≤ Number.i64Max then .ok i else .error (.invalidValue (describe j) "i64")
  | j => wrongType j "i64"

/-- A signed 32-bit integer. -/
def decodeI32 : Json → Decoded Int
  | j@(.number (.int i)) =>
    if -2147483648 ≤ i && i ≤ 2147483647 then .ok i else .error (.invalidValue (describe j) "i32")
  | j => wrongType j "i32"

/-- An unsigned 32-bit integer. -/
def decodeU32 : Json → Decoded Nat
  | j@(.number (.int i)) =>
    if 0 ≤ i && i ≤ 4294967295 then .ok i.toNat else .error (.invalidValue (describe j) "u32")
  | j => wrongType j "u32"

/-- An unsigned 64-bit integer. -/
def decodeU64 : Json → Decoded Nat
  | j@(.number (.int i)) =>
    if 0 ≤ i && i ≤ Number.u64Max then .ok i.toNat else .error (.invalidValue (describe j) "u64")
  | j => wrongType j "u64"

/-- A double; integers are converted. -/
def decodeF64 : Json → Decoded Float
  | .number n => .ok n.toFloat
  | j => wrongType j "f64"

/-- An optional value: `null` is none. -/
def decodeOption {α : Type} (dec : Json → Decoded α) : Json → Decoded (Option α)
  | .null => .ok none
  | j => some <$> dec j

/-- A sequence. -/
def decodeList {α : Type} (dec : Json → Decoded α) : Json → Decoded (List α)
  | .array items => items.mapM dec
  | j => wrongType j "a sequence"

/-- The fields of a record as read: by name, with the position each was written at. -/
structure Record where
  /-- what the record is called in errors, such as `struct Decorator` -/
  expecting : String
  /-- the declared fields, in order -/
  declared : List String
  /-- the fields present: name, value, position -/
  present : List (String × Json × Nat)
  /-- whether the record was written as an array -/
  positional : Bool
  /-- the number of items of an array -/
  length : Nat

/-- Open a record written as an object or as an array of its fields. -/
def Record.open (expecting : String) (declared : List String) : Json → Decoded Record
  | .object fields =>
    let indexed := (List.range fields.length).zip fields
    .ok { expecting, declared, positional := false, length := fields.length,
          present := indexed.filterMap fun (i, k, v) => if declared.contains k then some (k, v, i) else none }
  | .array items =>
    .ok { expecting, declared, positional := true, length := items.length,
          present := ((List.range items.length).zip (declared.zip items)).map fun (i, k, v) => (k, v, i) }
  | j => wrongType j expecting

/-- Read a field if present. -/
def Record.field {α : Type} (r : Record) (name : String) (dec : Json → Decoded α) : Decoded (Option α) :=
  match r.present.find? (·.1 == name) with
  | some (_, v, _) => some <$> dec v
  | none => .ok none

/-- The position a field was written at. -/
def Record.position (r : Record) (name : String) : Nat :=
  match r.present.find? (·.1 == name) with
  | some (_, _, i) => i
  | none => r.length

/-- The error of the field written first among those that failed. -/
def Record.check (r : Record) (results : List (String × Option DecodeError)) : Decoded Unit :=
  let failed := results.filterMap fun (n, e) => e.map fun err => (r.position n, err)
  match failed.foldl (fun (best : Option (Nat × DecodeError)) x =>
      match best with
      | some b => if x.1 < b.1 then some x else some b
      | none => some x) none with
  | some (_, err) => .error err
  | none => .ok ()

/-- The error of a read, if it failed. -/
def failure {α : Type} : Decoded α → Option DecodeError
  | .error e => some e
  | .ok _ => none

/-- A required field. -/
def Record.required {α : Type} (r : Record) (name : String) (read : Decoded (Option α)) : Decoded α := do
  match ← read with
  | some v => pure v
  | none =>
    if r.positional then
      .error (.invalidLength (r.declared.idxOf name)
        (r.expecting ++ " with " ++ toString r.declared.length ++ " elements"))
    else .error (.missingField name)

/-- A field with a default. -/
def Record.withDefault {α : Type} (read : Decoded (Option α)) (default : α) : Decoded α :=
  (·.getD default) <$> read

/-- Refuse an array with more items than the record has fields. -/
def Record.finish (r : Record) : Decoded Unit :=
  if r.positional && r.length > r.declared.length then
    .error (.invalidLength r.length "fewer elements in array")
  else .ok ()

/-- The variant a tagged union names in its `$class` key, and the rest of it. -/
def openVariant (enumName : String) (variants : List String) : Json → Decoded (String × Json)
  | .object fields =>
    let rec scan : List (String × Json) → Decoded (Option String)
      | [] => .ok none
      | (k, v) :: rest =>
        if k == "$class" then
          match v with
          | .string s => if variants.contains s then .ok (some s) else .error (.unknownVariant s variants)
          | other => wrongType other "variant identifier"
        else scan rest
    match scan fields with
    | .ok (some tag) => .ok (tag, .object (fields.filter (·.1 != "$class")))
    | .ok none => .error (.missingField "$class")
    | .error e => .error e
  | .array items =>
    match items with
    | [] => .error (.missingField "$class")
    | tag :: rest =>
      match tag with
      | .string s => if variants.contains s then .ok (s, .array rest) else .error (.unknownVariant s variants)
      | other => wrongType other "variant identifier"
  | j => wrongType j ("internally tagged enum " ++ enumName)

end DomainModels.Json
