import DomainModels.Settings.Value
/-! Laying settings over each other. Every source gives keys and settings; each key is read
as a path (`a.b`, `a[0]`, `a.b[-1].c`) and its setting is laid at that path of the settings
gathered so far. A table laid over a table merges key by key, recursively; any other
setting replaces what was there. The tables and arrays a path passes through are made when
missing, replacing whatever else stood in their place, and a key that is no path is taken
as a single name.

Environment variables are a source too: those named with the prefix, then `__`, in any
case. The rest of the name, in lower case, is the key, with `__` separating nested keys,
and the text is read as a Boolean, a whole number or a double when it is one. -/
namespace DomainModels.Settings

/-- A path to a setting. -/
inductive KeyPath where
  /-- A key of the root table. -/
  | name (key : String)
  /-- A key of the table at a path. -/
  | child (parent : KeyPath) (key : String)
  /-- An item of the array at a path; a negative index counts from the end. -/
  | index (parent : KeyPath) (i : Int)

namespace KeyPath

/-- Whether a character may stand in a key of a path. -/
def isKeyChar (ch : Char) : Bool :=
  ch.isAlphanum || ch == ' ' || ch == '_' || ch == '-'

/-- Whether a character is a blank around an index. -/
def isBlank (ch : Char) : Bool := ch == ' ' || ch == '\t'

/-- An index between brackets, blanks around it allowed, and the text after the closing
bracket. -/
def indexRun (cs : List Char) : Option (Int × List Char) :=
  let cs := cs.dropWhile isBlank
  let (negative, cs) := match cs with
    | '-' :: rest => (true, rest)
    | _ => (false, cs)
  let digits := cs.takeWhile Char.isDigit
  let cs := (cs.drop digits.length).dropWhile isBlank
  if digits.isEmpty then none
  else
    let n : Int := digits.foldl (fun acc ch => acc * 10 + (ch.toNat - '0'.toNat)) 0
    let v := if negative then -n else n
    if v < -9223372036854775808 || v > 9223372036854775807 then none
    else match cs with
      | ']' :: rest => some (v, rest)
      | _ => none

/-- The path after a prefix, reading `.key` and `[index]` suffixes one by one. Every
suffix takes at least two characters, so the fuel of the text's length suffices. -/
def suffixes : Nat → KeyPath → List Char → Option KeyPath
  | _, path, [] => some path
  | 0, _, _ :: _ => none
  | fuel + 1, path, '.' :: rest =>
    let k := rest.takeWhile isKeyChar
    if k.isEmpty then none else suffixes fuel (.child path (String.ofList k)) (rest.drop k.length)
  | fuel + 1, path, '[' :: rest =>
    match indexRun rest with
    | some (i, after) => suffixes fuel (.index path i) after
    | none => none
  | _ + 1, _, _ :: _ => none

/-- The path a key names: a name, then suffixes; a key that is not of this form names
itself. -/
def parse (key : String) : KeyPath :=
  let cs := key.toList
  let k := cs.takeWhile isKeyChar
  if k.isEmpty then .name key
  else (suffixes cs.length (.name (String.ofList k)) (cs.drop k.length)).getD (.name key)

end KeyPath

namespace Setting

/-- Entries with a key's setting replaced, or added at the end. -/
def setEntry (es : List (String × Setting)) (k : String) (v : Setting) : List (String × Setting) :=
  if es.any (·.1 == k) then es.map fun (k', x) => if k' == k then (k', v) else (k', x) else es ++ [(k, v)]

/-- Entries with a key's setting changed; a missing key is added, changed from nothing. -/
def updateEntry (es : List (String × Setting)) (k : String) (f : Setting → Setting) : List (String × Setting) :=
  match es.find? (·.1 == k) with
  | some (_, v) => setEntry es k (f v)
  | none => es ++ [(k, f (.nil none))]

/-- The position an index names in an array of `n` items. -/
def position (n : Nat) (i : Int) : Nat := if 0 ≤ i then i.toNat else n - i.natAbs

/-- Items with one changed; a position past the end first extends them with nothing. -/
def updateItem (items : List Setting) (i : Int) (f : Setting → Setting) : List Setting :=
  let p := position items.length i
  let items := items ++ List.replicate (p + 1 - items.length) (.nil none)
  items.modify p f

mutual

/-- Lay a setting over the one at a key of a table: tables merge key by key, anything
else replaces. A target that is not a table becomes an empty one first. -/
def layKey (target : Setting) (k : String) (v : Setting) : Setting :=
  let (origin, es) := match target with
    | .table o es => (o, es)
    | _ => (none, [])
  match v with
  | .table _ incoming =>
    let inner := ((es.find? (·.1 == k)).map Prod.snd).getD emptyTable
    .table origin (setEntry es k (layEntries inner incoming))
  | _ => .table origin (setEntry es k v)

/-- Lay entries one by one over a setting. -/
def layEntries (target : Setting) : List (String × Setting) → Setting
  | [] => target
  | (k, v) :: rest => layEntries (layKey target k v) rest

end

/-- Change the setting a path names, making the tables and arrays on the way: a missing
key or item starts as nothing, and a table or array expected where something else stands
replaces it. -/
def modifyAt : KeyPath → (Setting → Setting) → Setting → Setting
  | .name k, f, root =>
    match root with
    | .table o es => .table o (updateEntry es k f)
    | other => other
  | .child p k, f, root =>
    modifyAt p (fun v => match v with
      | .table o es => .table o (updateEntry es k f)
      | _ => .table none (updateEntry [] k f)) root
  | .index p i, f, root =>
    modifyAt p (fun v => match v with
      | .array o items => .array o (updateItem items i f)
      | _ => .array none (updateItem [] i f)) root

/-- Lay a setting at a path. -/
def layAt (path : KeyPath) (v : Setting) (root : Setting) : Setting :=
  match path with
  | .name k => layKey root k v
  | .child p k => modifyAt p (fun parent => layKey parent k v) root
  | .index p i => modifyAt p (fun parent => match parent with
      | .array o items => .array o (updateItem items i fun _ => v)
      | _ => .array none (updateItem [] i fun _ => v)) root

/-- Lay the settings of a source, key by key, each key read as a path. -/
def laySource (root : Setting) (source : List (String × Setting)) : Setting :=
  source.foldl (fun acc (k, v) => layAt (KeyPath.parse k) v acc) root

end Setting

/-- A Boolean from a text, as the standard library reads one: exactly `true` or
`false`. -/
def boolOfText? (s : String) : Option Bool :=
  if s == "true" then some true else if s == "false" then some false else none

/-- The value of decimal digits. -/
def digitsValue (ds : List Char) : Nat := ds.foldl (fun acc ch => acc * 10 + (ch.toNat - '0'.toNat)) 0

/-- A 64-bit integer from a text: an optional sign, then decimal digits. -/
def intOfText? (s : String) : Option Int :=
  let cs := s.toList
  let (negative, digits) := match cs with
    | '-' :: rest => (true, rest)
    | '+' :: rest => (false, rest)
    | _ => (false, cs)
  if digits.isEmpty || !digits.all Char.isDigit then none
  else
    let n : Int := digitsValue digits
    let v := if negative then -n else n
    if v < -9223372036854775808 || v > 9223372036854775807 then none else some v

/-- The double nearest `mantissa · 10^exponent`. Beyond the range of doubles the value is
infinite or zero without computing the power. -/
def scaled (mantissa : Nat) (exponent : Int) : Float :=
  let size : Int := (Nat.toDigits 10 mantissa).length
  if mantissa == 0 then 0.0
  else if exponent + size > 310 then 1.0 / 0.0
  else if exponent + size < -345 then 0.0
  else if 0 ≤ exponent then Float.ofScientific mantissa false exponent.toNat
  else Float.ofScientific mantissa true exponent.natAbs

/-- A signed exponent's value, if the text is one. -/
def exponentOfText? (cs : List Char) : Option Int :=
  let (negative, ds) := match cs with
    | '-' :: d => (true, d)
    | '+' :: d => (false, d)
    | _ => (false, cs)
  if ds.isEmpty || !ds.all Char.isDigit then none
  else
    let n : Int := digitsValue ds
    some (if negative then -n else n)

/-- A double from a text: digits with an optional point and fraction, at least one digit
in all, then an optional exponent; or `inf`, `infinity` or `nan` in any case. Each may
carry a sign. -/
def floatOfText? (s : String) : Option Float :=
  let cs := s.toList
  let (negative, body) := match cs with
    | '-' :: rest => (true, rest)
    | '+' :: rest => (false, rest)
    | _ => (false, cs)
  let lower := String.ofList (body.map Char.toLower)
  let signed (f : Float) : Float := if negative then -f else f
  if lower == "inf" || lower == "infinity" then some (signed (1.0 / 0.0))
  else if lower == "nan" then some (0.0 / 0.0)
  else
    let intPart := body.takeWhile Char.isDigit
    let rest := body.drop intPart.length
    let (fracPart, rest) := match rest with
      | '.' :: r => (r.takeWhile Char.isDigit, r.drop (r.takeWhile Char.isDigit).length)
      | _ => ([], rest)
    let expo : Option Int := match rest with
      | [] => some 0
      | e :: r => if e == 'e' || e == 'E' then exponentOfText? r else none
    if intPart.isEmpty && fracPart.isEmpty then none
    else expo.map fun e => signed (scaled (digitsValue (intPart ++ fracPart)) (e - fracPart.length))

/-- The setting of an environment variable's text: a Boolean if its lower case is `true`
or `false`, else a whole number or a double if it reads as one, else the text. -/
def environmentValue (origin : Option String) (text : String) : Setting :=
  match boolOfText? (String.ofList (text.toList.map Char.toLower)) with
  | some b => .boolean origin b
  | none =>
    match intOfText? text with
    | some i => .int origin i
    | none =>
      match floatOfText? text with
      | some f => .float origin f
      | none => .string origin text

/-- The source name of environment settings. -/
def environmentOrigin : String := "the environment"

/-- The settings of the environment variables whose names start with `pfx` and `__`, in
any case: the rest of the name in lower case, `__` written as `.`. -/
def environmentSettings (pfx : String) (vars : List (String × String)) : List (String × Setting) :=
  let head := String.ofList ((pfx ++ "__").toList.map Char.toLower)
  vars.filterMap fun (name, value) =>
    let lower := String.ofList (name.toList.map Char.toLower)
    if lower.startsWith head then
      let key := String.ofList (lower.toList.drop head.length)
      some (key.replace "__" ".", environmentValue (some environmentOrigin) value)
    else none

end DomainModels.Settings
