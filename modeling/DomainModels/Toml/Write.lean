import DomainModels.Toml.Value
import DomainModels.Decimal.Notation
/-! Writing TOML documents. The root's plain keys come first; then every table that has
plain keys, and every empty table, gets a header with its full dotted path, a blank line
before each header but the first, in the order the tables are nested; tables holding only
tables get no header.
Arrays of up to one item stay on their line, longer ones put each item on its own line,
indented by four spaces and followed by a comma.

A string is written with the fewest escapes: in single quotes when it holds a backslash
and nothing that needs an escape (three single quotes when it holds one), otherwise in
double quotes with escapes, and in triple double quotes across lines when it holds a line
break. -/
namespace DomainModels.Toml

/-- Whether a key can be written bare. -/
def isBareKey (k : String) : Bool :=
  !k.isEmpty && k.all fun ch =>
    ('A' ≤ ch && ch ≤ 'Z') || ('a' ≤ ch && ch ≤ 'z') || ('0' ≤ ch && ch ≤ '9') || ch == '-' || ch == '_'

/-- The escape of a character inside double quotes. -/
def escapeChar (multiline : Bool) (ch : Char) : String :=
  match ch with
  | '\x08' => "\\b"
  | '\t' => "\\t"
  | '\n' => if multiline then "\n" else "\\n"
  | '\x0c' => "\\f"
  | '\r' => "\\r"
  | '"' => "\\\""
  | '\\' => "\\\\"
  | c =>
    if c.toNat ≤ 0x1f || c.toNat == 0x7f then
      let hex := (Nat.toDigits 16 c.toNat).map Char.toUpper
      "\\u" ++ String.ofList (List.replicate (4 - hex.length) '0' ++ hex)
    else String.singleton c

/-- How a string is quoted: whether it spans lines, and whether it is literal. -/
structure Quoting where
  multiline : Bool
  literal : Bool
  tripleLiteral : Bool

/-- The quoting of a string. It can be literal when it holds a backslash, no control
character but a tab, no run of three single quotes, and does not end in one. -/
def quotingOf (s : String) : Quoting :=
  let cs := s.toList
  let multiline := cs.contains '\n'
  let runs := (cs.splitBy fun a b => a == '\'' && b == '\'').filter (·.head? == some '\'')
  let longest := (runs.map List.length).foldl max 0
  let controls := cs.any fun ch =>
    ch != '\t' && ch != '\n' && (ch.toNat ≤ 0x1f || ch.toNat == 0x7f)
  let canBeLiteral := cs.contains '\\' && !controls && longest < 3 && cs.getLast? != some '\''
  { multiline, literal := canBeLiteral, tripleLiteral := canBeLiteral && !multiline && longest ≥ 1 }

/-- A string as TOML. -/
def quoteString (s : String) : String :=
  let q := quotingOf s
  if q.literal then
    if q.multiline then "'''\n" ++ s ++ "'''"
    else if q.tripleLiteral then "'''" ++ s ++ "'''"
    else "'" ++ s ++ "'"
  else
    let body := String.join (s.toList.map (escapeChar q.multiline))
    if q.multiline then "\"\"\"\n" ++ body ++ "\"\"\"" else "\"" ++ body ++ "\""

/-- A key as TOML: bare when it can be. -/
def keyText (k : String) : String := if isBareKey k then k else quoteString k

/-- A double as TOML: the shortest decimal, `.0` after a whole number. -/
def floatText (f : Float) : String :=
  if f.isNaN then "nan"
  else if f == 0.0 then (if (1.0 / f) < 0.0 then "-0.0" else "0.0")
  else
    let text := Decimal.displayFloat f
    if f.isFinite && f == f.floor then text ++ ".0" else text

mutual

/-- A value on one line, as inside an array or an inline table. -/
def inlineText : Value → String
  | .string s => quoteString s
  | .integer i => toString i
  | .float f => floatText f
  | .boolean b => if b then "true" else "false"
  | .datetime t => t
  | .array items => "[" ++ ", ".intercalate (inlineItems items) ++ "]"
  | .table entries => "\x7b " ++ ", ".intercalate (inlineEntries entries) ++ " \x7d"

/-- The items of an array on one line. -/
def inlineItems : List Value → List String
  | [] => []
  | v :: rest => inlineText v :: inlineItems rest

/-- The entries of an inline table. -/
def inlineEntries : List (String × Value) → List String
  | [] => []
  | (k, v) :: rest => (keyText k ++ " = " ++ inlineText v) :: inlineEntries rest

end

/-- A value after `key = `: arrays of two or more items across lines. -/
def valueText : Value → String
  | .array items =>
    if items.length ≤ 1 then inlineText (.array items)
    else "[" ++ String.join (items.map fun v => "\n    " ++ inlineText v ++ ",") ++ "\n]"
  | v => inlineText v

/-- Whether a value is written as a table of its own. -/
def isSection : Value → Bool
  | .table _ => true
  | _ => false

/-- The plain `key = value` lines of a table. -/
def plainLines (entries : List (String × Value)) : String :=
  String.join (entries.filterMap fun (k, v) =>
    if isSection v then none else some (keyText k ++ " = " ++ valueText v ++ "\n"))

mutual

/-- The tables below some entries, depth first, each with its path and plain lines. -/
def sectionsOf (path : List String) : List (String × Value) → List (List String × String)
  | [] => []
  | (k, v) :: rest => sectionsAt path k v ++ sectionsOf path rest

/-- The tables at and below a key's value. -/
def sectionsAt (path : List String) (k : String) : Value → List (List String × String)
  | .table inner =>
    let here := path ++ [k]
    let lines := plainLines inner
    (if lines.isEmpty && !inner.isEmpty then [] else [(here, lines)]) ++ sectionsOf here inner
  | _ => []

end

/-- A document of a root table. -/
def render (root : List (String × Value)) : String :=
  let top := plainLines root
  let tables := sectionsOf [] root
  let headers := tables.zipIdx.map fun ((path, lines), i) =>
    (if i == 0 && top.isEmpty then "" else "\n") ++ "[" ++ ".".intercalate (path.map keyText) ++ "]\n" ++ lines
  top ++ String.join headers

end DomainModels.Toml
