import DomainModels.Settings.Layer
/-! Reading settings as values. The scalar readers convert generously: the texts `true`,
`on`, `yes`, `1` and their opposites are Booleans, numbers are Booleans by being nonzero,
texts of numbers are numbers, doubles round to whole numbers and scalars write out as texts.
Their errors name the setting's source.

Lists, records and enumerations are read by shape instead: a list from an array, a record
from a table by field name or from an array by field position, an enumeration from the
text of a case's name or a table with that name as its only key. Their errors describe
what was found without a source. Every error names the key under which it happened. -/
namespace DomainModels.Settings

namespace Setting

/-- The lower case of a text. -/
def lowered (s : String) : String := String.ofList (s.toList.map Char.toLower)

/-- A Boolean. -/
def toBool (s : Setting) : Reading Bool :=
  match s with
  | .boolean _ b => .ok b
  | .int _ i => .ok (i != 0)
  | .float _ f => .ok (f != 0.0)
  | .string o v =>
    let lower := lowered v
    if ["1", "true", "on", "yes"].contains lower then .ok true
    else if ["0", "false", "off", "no"].contains lower then .ok false
    else .error (.mismatch o (.str lower) "a boolean" none)
  | .nil o => .error (.mismatch o .unit "a boolean" none)
  | .table o _ => .error (.mismatch o .map "a boolean" none)
  | .array o _ => .error (.mismatch o .seq "a boolean" none)

/-- The whole number nearest a double, halves away from zero, held within 64 bits. -/
def roundToInt (f : Float) : Int :=
  let r := f.round
  if r.isNaN then 0
  else if r ≥ 9223372036854775807.0 then 9223372036854775807
  else if r ≤ -9223372036854775808.0 then -9223372036854775808
  else if r ≥ 0 then (r.toUInt64.toNat : Int) else -((-r).toUInt64.toNat : Int)

/-- A 64-bit integer. -/
def toInt (s : Setting) : Reading Int :=
  match s with
  | .int _ i => .ok i
  | .boolean _ b => .ok (if b then 1 else 0)
  | .float _ f => .ok (roundToInt f)
  | .string o v =>
    let lower := lowered v
    if ["true", "on", "yes"].contains lower then .ok 1
    else if ["false", "off", "no"].contains lower then .ok 0
    else match intOfText? v with
      | some i => .ok i
      | none => .error (.mismatch o (.str v) "an integer" none)
  | .nil o => .error (.mismatch o .unit "an integer" none)
  | .table o _ => .error (.mismatch o .map "an integer" none)
  | .array o _ => .error (.mismatch o .seq "an integer" none)

/-- What unsigned readers expect. -/
def unsignedExpected : String := "an unsigned 64 bit or less integer"

/-- An unsigned 64-bit integer. -/
def toUnsigned (s : Setting) : Reading Nat :=
  match s with
  | .int o i => if i < 0 then .error (.mismatch o (.int i) unsignedExpected none) else .ok i.toNat
  | .boolean _ b => .ok (if b then 1 else 0)
  | .float _ f =>
    let r := f.round
    .ok (if r.isNaN || r ≤ 0 then 0
      else if r ≥ 18446744073709551615.0 then 18446744073709551615 else r.toUInt64.toNat)
  | .string o v =>
    let lower := lowered v
    if ["true", "on", "yes"].contains lower then .ok 1
    else if ["false", "off", "no"].contains lower then .ok 0
    else
      let digits := if v.startsWith "+" then v.toList.drop 1 else v.toList
      let n := digitsValue digits
      if !digits.isEmpty && digits.all Char.isDigit && n ≤ 18446744073709551615 then .ok n
      else .error (.mismatch o (.str v) unsignedExpected none)
  | .nil o => .error (.mismatch o .unit unsignedExpected none)
  | .table o _ => .error (.mismatch o .map unsignedExpected none)
  | .array o _ => .error (.mismatch o .seq unsignedExpected none)

/-- A 32-bit signed integer: a 64-bit one in range. -/
def toInt32 (s : Setting) : Reading Int := do
  let i ← s.toInt
  if i < -2147483648 || i > 2147483647 then
    throw (.mismatch none (.int i) "a signed 32 bit or less integer" none)
  pure i

/-- A text: scalars are written out. -/
def toText (s : Setting) : Reading String :=
  match s with
  | .string _ v => .ok v
  | .boolean _ b => .ok (toString b)
  | .int _ i => .ok (toString i)
  | .float _ f => .ok (Decimal.displayFloat f)
  | .nil o => .error (.mismatch o .unit "a string" none)
  | .table o _ => .error (.mismatch o .map "a string" none)
  | .array o _ => .error (.mismatch o .seq "a string" none)

/-- How a reader by shape describes a setting it did not expect: doubles always show a
point or are not finite. -/
def describe : Setting → String
  | .nil _ => "unit value"
  | .boolean _ b => "boolean `" ++ toString b ++ "`"
  | .int _ i => "integer `" ++ toString i ++ "`"
  | .float _ f =>
    let text := Decimal.displayFloat f
    "floating point `" ++ (if f.isFinite && !text.contains '.' then text ++ ".0" else text) ++ "`"
  | .string _ s => "string " ++ Text.quoteStr s
  | .array _ _ => "sequence"
  | .table _ _ => "map"

/-- The error of a setting of the wrong shape for a reader expecting `what`. -/
def wrongShape (s : Setting) (what : String) : SettingsError :=
  .message ("invalid type: " ++ s.describe ++ ", expected " ++ what)

/-- A list of texts, from an array. -/
def toTexts (s : Setting) : Reading (List String) :=
  match s with
  | .array _ items => items.zipIdx.mapM fun (item, i) => (toText item).mapError (·.underIndex i)
  | other => .error (other.wrongShape "a sequence")

/-- An optional value: nothing is `none`. -/
def toOption {α : Type} (read : Setting → Reading α) (s : Setting) : Reading (Option α) :=
  match s with
  | .nil _ => .ok none
  | other => (read other).map some

/-- The name of an enumeration's case, from the list of its cases. -/
def toVariant (s : Setting) (name : String) (variants : List String) : Reading String :=
  let check (v : String) : Reading String :=
    if variants.contains v then .ok v
    else .error (.message ("enum " ++ name ++ " does not have variant constructor " ++ v))
  match s with
  | .string _ v => check v
  | .table _ [(k, _)] => check k
  | _ => .error (.message ("value of enum " ++ name ++
      " should be represented by either string or table with exactly one key"))

end Setting

/-- The fields of a record: by name from a table, by position from an array. -/
inductive Fields where
  | named (entries : List (String × Setting))
  | positional (items : List Setting)

/-- The fields of a record named `name`. -/
def Setting.toFields (s : Setting) (name : String) : Reading Fields :=
  match s with
  | .table _ es => .ok (.named es)
  | .array _ items => .ok (.positional items)
  | other => .error (other.wrongShape ("struct " ++ name))

namespace Fields

/-- Where a field stands among the fields, if it is given; `names` lists the record's
fields in order. -/
def place (fs : Fields) (names : List String) (k : String) : Option Nat :=
  match fs with
  | .named es => es.findIdx? (·.1 == k)
  | .positional items =>
    match names.idxOf? k with
    | some i => if i < items.length then some i else none
    | none => none

/-- A field read with `read`, or `default` when it is not given; its errors name the
field's key or position. -/
def get {α : Type} (fs : Fields) (names : List String) (k : String) (read : Setting → Reading α)
    (default : α) : Reading α :=
  match fs with
  | .named es =>
    match es.find? (·.1 == k) with
    | some (_, v) => (read v).mapError (·.underKey k)
    | none => .ok default
  | .positional items =>
    match names.idxOf? k with
    | some i =>
      match items[i]? with
      | some v => (read v).mapError (·.underIndex i)
      | none => .ok default
    | none => .ok default

/-- The failure of a read, if it failed. -/
def failure {α : Type} : Reading α → Option SettingsError
  | .error e => some e
  | .ok _ => none

/-- The failure of the field that stands first among the given ones, if any failed: the
fields are read in the order they are given. -/
def check (fs : Fields) (names : List String) (results : List (String × Option SettingsError)) :
    Reading Unit :=
  let failed := results.filterMap fun (k, e) =>
    match e, fs.place names k with
    | some e, some p => some (p, e)
    | _, _ => none
  match (failed.mergeSort fun a b => decide (a.1 ≤ b.1)).head? with
  | some (_, e) => .error e
  | none => .ok ()

end Fields

end DomainModels.Settings
