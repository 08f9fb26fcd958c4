import DomainModels.Json.Basic
import DomainModels.Decimal.Notation
/-! Writing JSON text, compact (no blanks at all) or pretty (two spaces per level, one
item per line, `": "` after a key). Strings escape the quote, the backslash and the
control characters below U+0020, the common ones by letter and the others as `\u00xx`;
everything else, non-ASCII included, is written as it is. -/
namespace DomainModels.Json

/-- Doubles in JSON text: the shortest digits that read back, a tie going to the even
candidate; positional while at most sixteen digits stand before the point or at most four
zeros after it, otherwise one digit and a signed exponent (`1e+20`, `1.5e-7`); an integral
value keeps `.0`. -/
def numberNotation : Decimal.Notation :=
  { tie := .toEven, plainDigits := some 16, leadingZeros := some 4, pointZero := true,
    plusExponent := true }

/-- The lowercase hexadecimal digit of a value below sixteen. -/
def hexDigit (n : Nat) : Char :=
  if n < 10 then Char.ofNat ('0'.toNat + n) else Char.ofNat ('a'.toNat + n - 10)

/-- The escaped form of one character inside a string. -/
def escapeChar (c : Char) : String :=
  if c == '"' then "\\\""
  else if c == '\\' then "\\\\"
  else if c.toNat < 0x20 then
    match c.toNat with
    | 8 => "\\b"
    | 9 => "\\t"
    | 10 => "\\n"
    | 12 => "\\f"
    | 13 => "\\r"
    | n => "\\u00" ++ String.singleton (hexDigit (n / 16)) ++ String.singleton (hexDigit (n % 16))
  else String.singleton c

/-- A string literal with its quotes. -/
def quote (s : String) : String :=
  "\"" ++ s.foldl (fun acc c => acc ++ escapeChar c) "" ++ "\""

/-- The text of a number; a double that is not finite has none and is written `null`. -/
def numberText : Number → String
  | .int i => toString i
  | .float f => if f.isNaN || f.isInf then "null" else numberNotation.render f

mutual

/-- Compact JSON text. -/
def compact : Json → String
  | .null => "null"
  | .bool b => if b then "true" else "false"
  | .number n => numberText n
  | .string s => quote s
  | .array items => "[" ++ compactItems items ++ "]"
  | .object fields => "\x7b" ++ compactFields fields ++ "\x7d"

/-- Array items separated by commas. -/
def compactItems : List Json → String
  | [] => ""
  | [v] => compact v
  | v :: rest => compact v ++ "," ++ compactItems rest

/-- Object fields separated by commas. -/
def compactFields : List (String × Json) → String
  | [] => ""
  | [(k, v)] => quote k ++ ":" ++ compact v
  | (k, v) :: rest => quote k ++ ":" ++ compact v ++ "," ++ compactFields rest

end

/-- Two spaces per level. -/
def indent (level : Nat) : String := String.ofList (List.replicate (2 * level) ' ')

mutual

/-- Pretty JSON text at a nesting level. -/
def pretty (level : Nat) : Json → String
  | .array [] => "[]"
  | .object [] => "\x7b\x7d"
  | .array items => "[\n" ++ prettyItems (level + 1) items ++ "\n" ++ indent level ++ "]"
  | .object fields => "\x7b\n" ++ prettyFields (level + 1) fields ++ "\n" ++ indent level ++ "\x7d"
  | v => compact v

/-- Array items, one per line. -/
def prettyItems (level : Nat) : List Json → String
  | [] => ""
  | [v] => indent level ++ pretty level v
  | v :: rest => indent level ++ pretty level v ++ ",\n" ++ prettyItems level rest

/-- Object fields, one per line. -/
def prettyFields (level : Nat) : List (String × Json) → String
  | [] => ""
  | [(k, v)] => indent level ++ quote k ++ ": " ++ pretty level v
  | (k, v) :: rest => indent level ++ quote k ++ ": " ++ pretty level v ++ ",\n" ++ prettyFields level rest

end

/-- Pretty JSON text of a whole value. -/
def prettyText (v : Json) : String := pretty 0 v

/-- Compact JSON text of a whole value. -/
def compactText (v : Json) : String := compact v

end DomainModels.Json
