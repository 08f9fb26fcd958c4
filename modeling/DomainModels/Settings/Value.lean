import DomainModels.Toml.Value
import DomainModels.Json.Basic
import DomainModels.Decimal.Notation
import DomainModels.Text.Quote
/-! Settings as their sources give them: a tree of Booleans, whole numbers, doubles, texts,
arrays and tables, every setting remembering the source it came from, and the errors of
loading and reading settings. -/
namespace DomainModels.Settings

/-- A setting and the source it came from. -/
inductive Setting where
  | nil (origin : Option String)
  | boolean (origin : Option String) (b : Bool)
  | int (origin : Option String) (i : Int)
  | float (origin : Option String) (f : Float)
  | string (origin : Option String) (s : String)
  | array (origin : Option String) (items : List Setting)
  | table (origin : Option String) (entries : List (String × Setting))
  deriving Inhabited

/-- The source of a setting. -/
def Setting.origin : Setting → Option String
  | .nil o | .boolean o _ | .int o _ | .float o _ | .string o _ | .array o _ | .table o _ => o

/-- What a setting turned out to be, for errors. -/
inductive Unexpected where
  | boolean (b : Bool)
  | int (i : Int)
  | float (f : Float)
  | str (s : String)
  | unit
  | seq
  | map

/-- The description of what a setting turned out to be. -/
def Unexpected.text : Unexpected → String
  | .boolean b => "boolean `" ++ toString b ++ "`"
  | .int i => "64-bit integer `" ++ toString i ++ "`"
  | .float f => "floating point `" ++ Decimal.displayFloat f ++ "`"
  | .str s => "string " ++ Text.quoteStr s
  | .unit => "unit value"
  | .seq => "sequence"
  | .map => "map"

/-- Why settings could not be loaded. -/
inductive SettingsError where
  /-- A required file is missing. -/
  | notFound (name : String)
  /-- A file's extension names no known format. -/
  | unknownFormat (path : String)
  /-- A file could not be read. -/
  | unreadable (message : String)
  /-- A file's text is not valid in its format. -/
  | fileParse (uri : Option String) (cause : String)
  /-- A setting is not of the expected type. -/
  | mismatch (origin : Option String) (unexpected : Unexpected) (expected : String) (key : Option String)
  /-- Any other failure, by its text. -/
  | message (text : String)

/-- The text of an error. -/
def SettingsError.text : SettingsError → String
  | .notFound name => "configuration file " ++ Text.quoteStr name ++ " not found"
  | .unknownFormat path => "configuration file " ++ Text.quoteStr path ++ " is not of a registered file format"
  | .unreadable m => m
  | .fileParse uri cause => cause ++ ((uri.map (" in " ++ ·)).getD "")
  | .mismatch origin unexpected expected key =>
    "invalid type: " ++ unexpected.text ++ ", expected " ++ expected ++
      ((key.map fun k => " for key `" ++ k ++ "`").getD "") ++ ((origin.map (" in " ++ ·)).getD "")
  | .message m => m

/-- The error with a key or index put in front of the key it names. -/
def SettingsError.under (segment : String) (dot : Bool) : SettingsError → SettingsError
  | .mismatch origin unexpected expected key =>
    let rest := key.getD ""
    let sep := if dot && !rest.isEmpty && !rest.startsWith "[" then "." else ""
    .mismatch origin unexpected expected (some (segment ++ sep ++ rest))
  | e => e

/-- The error under a key. -/
def SettingsError.underKey (key : String) (e : SettingsError) : SettingsError := e.under key true

/-- The error under an index. -/
def SettingsError.underIndex (i : Nat) (e : SettingsError) : SettingsError :=
  e.under ("[" ++ toString i ++ "]") false

/-- Reading settings. -/
abbrev Reading := Except SettingsError

namespace Setting

/-- The settings of a TOML value from a source. -/
def ofToml (origin : Option String) : Toml.Value → Setting
  | .string s => .string origin s
  | .integer i => .int origin i
  | .float f => .float origin f
  | .boolean b => .boolean origin b
  | .datetime t => .string origin t
  | .array items => .array origin (items.attach.map fun ⟨v, _⟩ => ofToml origin v)
  | .table entries => .table origin (entries.attach.map fun ⟨(k, v), _⟩ => (k, ofToml origin v))
decreasing_by
  all_goals simp_wf
  all_goals
    first
    | (have h := List.sizeOf_lt_of_mem ‹_ ∈ items›; omega)
    | (have h := List.sizeOf_lt_of_mem ‹_ ∈ entries›; simp at h; omega)

/-- The settings of a JSON value from a source. Whole numbers within 64 bits stay
whole; other numbers are doubles. -/
def ofJson (origin : Option String) : Json → Setting
  | .null => .nil origin
  | .bool b => .boolean origin b
  | .number n =>
    match n.toI64? with
    | some i => .int origin i
    | none => .float origin n.toFloat
  | .string s => .string origin s
  | .array items => .array origin (items.attach.map fun ⟨v, _⟩ => ofJson origin v)
  | .object fields => .table origin (fields.attach.map fun ⟨(k, v), _⟩ => (k, ofJson origin v))
decreasing_by
  all_goals simp_wf
  all_goals
    first
    | (have h := List.sizeOf_lt_of_mem ‹_ ∈ items›; omega)
    | (have h := List.sizeOf_lt_of_mem ‹_ ∈ fields›; simp at h; omega)

/-- What a setting is, for errors. -/
def unexpected : Setting → Unexpected
  | .nil _ => .unit
  | .boolean _ b => .boolean b
  | .int _ i => .int i
  | .float _ f => .float f
  | .string _ s => .str s
  | .array _ _ => .seq
  | .table _ _ => .map

/-- The entries of a table setting. -/
def entries? : Setting → Option (List (String × Setting))
  | .table _ es => some es
  | _ => none

/-- An empty table from no source. -/
def emptyTable : Setting := .table none []

end Setting

end DomainModels.Settings
