import DomainModels.Toml.Value
/-! Reading TOML documents. A document is a sequence of lines: blank lines, comments,
`key = value` pairs and table headers `[a.b]` or `[[a.b]]`. Keys are bare (letters,
digits, `-`, `_`) or quoted, and dotted keys define nested tables. Values are strings in
four quotings, integers (decimal, or hexadecimal, octal and binary after `0x`, `0o`,
`0b`), doubles, `true` and `false`, date-times, arrays and inline tables.

A failure is reported where it was found, with what was being read ("invalid array"),
what could have come next ("expected `]`") and why ("duplicate key `a` in document
root"). Its text shows the line with a caret under the column, both counted from one. -/
namespace DomainModels.Toml

/-- A reading failure: the character offset where it was found, the kind of thing being
read, what could have come next, and a cause. A committed failure ends the reading;
one that is not lets an enclosing optional part be skipped instead. -/
structure Failure where
  pos : Nat
  label : Option String := none
  expected : List String := []
  cause : Option String := none
  committed : Bool := false
  deriving Repr, Inhabited

namespace Failure

/-- Name what was being read, unless an inner part already did. -/
def withLabel (l : String) (f : Failure) : Failure :=
  if f.label.isSome then f else { f with label := some l }

/-- Add something that could have come next. -/
def expect (e : String) (f : Failure) : Failure := { f with expected := f.expected ++ [e] }

/-- Commit to the failure. -/
def commit (f : Failure) : Failure := { f with committed := true }

/-- The explanation: what was being read, what could have come next, and why, a line
each. -/
def message (f : Failure) : String :=
  let parts := (f.label.map ("invalid " ++ ·)).toList ++
    (if f.expected.isEmpty then [] else ["expected " ++ ", ".intercalate f.expected]) ++ f.cause.toList
  "\n".intercalate parts

end Failure

/-- The text still to read and its character offset. -/
structure Cursor where
  rest : List Char
  pos : Nat

namespace Cursor

/-- The next character. -/
def peek? (c : Cursor) : Option Char := c.rest.head?

/-- Past the next character. -/
def next (c : Cursor) : Cursor :=
  match c.rest with
  | [] => c
  | _ :: r => ⟨r, c.pos + 1⟩

/-- Past `n` characters. -/
def drop (c : Cursor) (n : Nat) : Cursor := ⟨c.rest.drop n, c.pos + Nat.min n c.rest.length⟩

/-- Whether the text continues with `s`. -/
def startsWith (c : Cursor) (s : String) : Bool := s.toList.isPrefixOf c.rest

/-- Past the characters that satisfy `p`, and the text of them. -/
def span (c : Cursor) (p : Char → Bool) : String × Cursor :=
  let taken := c.rest.takeWhile p
  (String.ofList taken, c.drop taken.length)

/-- A failure here. -/
def fail (c : Cursor) : Failure := { pos := c.pos }

end Cursor

/-- Reading a part of a document. -/
abbrev Reading (α : Type) := Except Failure (α × Cursor)

/-- A space or a tab. -/
def isBlank (ch : Char) : Bool := ch == ' ' || ch == '\t'

/-- Past spaces and tabs. -/
def blanks (c : Cursor) : Cursor := (c.span isBlank).2

/-- A character a comment may hold. -/
def isCommentChar (ch : Char) : Bool := ch == '\t' || (' ' ≤ ch && ch ≤ '~') || ch.toNat ≥ 0x80

/-- Past a comment, if one starts here. -/
def comment? (c : Cursor) : Option Cursor :=
  if c.peek? == some '#' then some (c.next.span isCommentChar).2 else none

/-- Past a line break, if one starts here. -/
def newline? (c : Cursor) : Option Cursor :=
  if c.startsWith "\n" then some (c.drop 1)
  else if c.startsWith "\r\n" then some (c.drop 2)
  else none

/-- Past a line break, or at the end. -/
def lineEnding? (c : Cursor) : Option Cursor :=
  match newline? c with
  | some c' => some c'
  | none => if c.rest.isEmpty then some c else none

/-- The rest of a line after a value or header: blanks, a comment, the line's end. -/
def lineTrailing (c : Cursor) : Except Failure Cursor :=
  let c := blanks c
  let c := (comment? c).getD c
  match lineEnding? c with
  | some c' => .ok c'
  | none => .error { pos := c.pos, expected := ["newline", "`#`"], committed := true }

/-- Past blanks, comments and line breaks. -/
def blanksAndComments (c : Cursor) : Cursor :=
  go c.rest.length c
where
  /-- Each round moves past one run; the fuel is the length of the text. -/
  go : Nat → Cursor → Cursor
    | 0, c => c
    | fuel + 1, c =>
      let c1 := blanks c
      match newline? c1 with
      | some c2 => go fuel c2
      | none =>
        match comment? c1 with
        | some c2 => go fuel c2
        | none => c1

/-- The value of a hexadecimal digit. -/
def hexValue? (ch : Char) : Option Nat :=
  if '0' ≤ ch && ch ≤ '9' then some (ch.toNat - '0'.toNat)
  else if 'a' ≤ ch && ch ≤ 'f' then some (ch.toNat - 'a'.toNat + 10)
  else if 'A' ≤ ch && ch ≤ 'F' then some (ch.toNat - 'A'.toNat + 10)
  else none

/-- A Unicode scalar value written with `n` hexadecimal digits, after `\u` or `\U`. -/
def hexEscape (n : Nat) (label : String) (c : Cursor) : Reading Char :=
  let digits := (c.rest.takeWhile fun ch => (hexValue? ch).isSome).take n
  let value := digits.foldl (fun acc ch => acc * 16 + (hexValue? ch).getD 0) 0
  if digits.length == n && value < 0x110000 && !(0xD800 ≤ value && value ≤ 0xDFFF) then
    .ok (Char.ofNat value, c.drop n)
  else .error { pos := c.pos, label := some label, committed := true }

/-- The characters an escape may name after the backslash. -/
def escapeNames : List String :=
  ["`b`", "`f`", "`n`", "`r`", "`t`", "`u`", "`U`", "`\\`", "`\"`"]

/-- An escape sequence after its backslash; a failure that is not committed means the
text ended. -/
def escape (c : Cursor) : Reading Char :=
  match c.peek? with
  | some 'b' => .ok ('\x08', c.next)
  | some 'f' => .ok ('\x0c', c.next)
  | some 'n' => .ok ('\n', c.next)
  | some 'r' => .ok ('\r', c.next)
  | some 't' => .ok ('\t', c.next)
  | some '\\' => .ok ('\\', c.next)
  | some '"' => .ok ('"', c.next)
  | some 'u' => hexEscape 4 "unicode 4-digit hex code" c.next
  | some 'U' => hexEscape 8 "unicode 8-digit hex code" c.next
  | some _ => .error { pos := c.next.pos, label := some "escape sequence", expected := escapeNames, committed := true }
  | none => .error c.fail

/-- A character a basic string holds as it is. -/
def isBasicChar (ch : Char) : Bool :=
  isBlank ch || ch == '!' || ('#' ≤ ch && ch ≤ '[') || (']' ≤ ch && ch ≤ '~') || ch.toNat ≥ 0x80

/-- A character a literal string holds. -/
def isLiteralChar (ch : Char) : Bool :=
  ch == '\t' || (' ' ≤ ch && ch ≤ '&') || ('(' ≤ ch && ch ≤ '~') || ch.toNat ≥ 0x80

/-- The body of a basic string up to its closing quote. The fuel is the length of the
text. -/
def basicBody : Nat → String → Cursor → Reading String
  | 0, _, c => .error { pos := c.pos, label := some "basic string", committed := true }
  | fuel + 1, acc, c =>
    match c.peek? with
    | some '"' => .ok (acc, c.next)
    | some '\\' =>
      match escape c.next with
      | .ok (ch, c') => basicBody fuel (acc.push ch) c'
      | .error f => .error (if f.committed then f else { pos := c.pos, label := some "basic string", committed := true })
    | some ch =>
      if isBasicChar ch then basicBody fuel (acc.push ch) c.next
      else .error { pos := c.pos, label := some "basic string", committed := true }
    | none => .error { pos := c.pos, label := some "basic string", committed := true }

/-- A basic string, at its opening quote. -/
def basicString (c : Cursor) : Reading String := basicBody c.rest.length "" c.next

/-- A literal string, at its opening quote. -/
def literalString (c : Cursor) : Reading String :=
  let (body, c') := c.next.span isLiteralChar
  if c'.peek? == some '\'' then .ok (body, c'.next)
  else .error { pos := c'.pos, label := some "literal string", committed := true }

/-- A character a multi-line basic string holds as it is. -/
def isMultiBasicChar (ch : Char) : Bool := isBasicChar ch && ch != '"'

/-- The body of a multi-line basic string up to its closing quotes: runs of one or two
quotes are text, a closing run of four or five keeps its first quotes, and a backslash
at the end of a line removes the line break and the blanks after it. -/
def multiBasicBody : Nat → String → Cursor → Reading String
  | 0, _, c => .error { pos := c.pos, label := some "multiline basic string", committed := true }
  | fuel + 1, acc, c =>
    let fail : Failure := { pos := c.pos, label := some "multiline basic string", committed := true }
    match c.peek? with
    | some '"' =>
      let run := (c.rest.takeWhile (· == '"')).length
      if run ≥ 3 then
        let kept := Nat.min (run - 3) 2
        .ok (acc ++ String.ofList (List.replicate kept '"'), c.drop (kept + 3))
      else multiBasicBody fuel (acc ++ String.ofList (List.replicate run '"')) (c.drop run)
    | some '\\' =>
      let afterBlanks := blanks c.next
      match newline? afterBlanks with
      | some c' => multiBasicBody fuel acc (skipSpace c')
      | none =>
        match escape c.next with
        | .ok (ch, c') => multiBasicBody fuel (acc.push ch) c'
        | .error f => .error (if f.committed then f else fail)
    | some ch =>
      match newline? c with
      | some c' => multiBasicBody fuel (acc.push '\n') c'
      | none => if isMultiBasicChar ch then multiBasicBody fuel (acc.push ch) c.next else .error fail
    | none => .error fail
where
  /-- Past blanks and line breaks. -/
  skipSpace (c : Cursor) : Cursor :=
    (c.span fun ch => isBlank ch || ch == '\n' || ch == '\r').2

/-- A multi-line basic string, at its opening quotes; a line break right after them is
dropped. -/
def multiBasicString (c : Cursor) : Reading String :=
  let c := c.drop 3
  let c := (newline? c).getD c
  multiBasicBody c.rest.length "" c

/-- The body of a multi-line literal string up to its closing quotes. -/
def multiLiteralBody : Nat → String → Cursor → Reading String
  | 0, _, c => .error { pos := c.pos, label := some "multiline literal string", committed := true }
  | fuel + 1, acc, c =>
    match c.peek? with
    | some '\'' =>
      let run := (c.rest.takeWhile (· == '\'')).length
      if run ≥ 3 then
        let kept := Nat.min (run - 3) 2
        .ok (acc ++ String.ofList (List.replicate kept '\''), c.drop (kept + 3))
      else multiLiteralBody fuel (acc ++ String.ofList (List.replicate run '\'')) (c.drop run)
    | some ch =>
      match newline? c with
      | some c' => multiLiteralBody fuel (acc.push '\n') c'
      | none =>
        if isLiteralChar ch then multiLiteralBody fuel (acc.push ch) c.next
        else .error { pos := c.pos, label := some "multiline literal string", committed := true }
    | none => .error { pos := c.pos, label := some "multiline literal string", committed := true }

/-- A multi-line literal string, at its opening quotes. -/
def multiLiteralString (c : Cursor) : Reading String :=
  let c := c.drop 3
  let c := (newline? c).getD c
  multiLiteralBody c.rest.length "" c

/-- Any string, at its opening quote. -/
def quotedString (c : Cursor) : Reading String :=
  if c.startsWith "\"\"\"" then multiBasicString c
  else if c.startsWith "'''" then multiLiteralString c
  else if c.startsWith "\"" then basicString c
  else literalString c

/-- A character of a bare key. -/
def isBareKeyChar (ch : Char) : Bool :=
  ('A' ≤ ch && ch ≤ 'Z') || ('a' ≤ ch && ch ≤ 'z') || ('0' ≤ ch && ch ≤ '9') || ch == '-' || ch == '_'

/-- One part of a key: bare, or a basic or literal string. -/
def simpleKey (c : Cursor) : Reading String :=
  match c.peek? with
  | some '"' => basicString c
  | some '\'' => literalString c
  | _ =>
    let (k, c') := c.span isBareKeyChar
    if k.isEmpty then .error c.fail else .ok (k, c')

/-- The further parts of a dotted key. A part that cannot be read after a dot ends the
key before that dot. -/
def keyParts : Nat → List String → Cursor → Reading (List String)
  | 0, acc, c => .ok (acc, c)
  | fuel + 1, acc, c =>
    if c.peek? == some '.' then
      match simpleKey (blanks c.next) with
      | .ok (k, c') => keyParts fuel (acc ++ [k]) (blanks c')
      | .error f => if f.committed then .error f else .ok (acc, c)
    else .ok (acc, c)

/-- A key, dotted or not, with the blanks around its parts. -/
def key (c : Cursor) : Reading (List String) :=
  match simpleKey (blanks c) with
  | .ok (k, c') => (keyParts c.rest.length [k] (blanks c')).mapError (·.withLabel "key")
  | .error f => .error (f.withLabel "key")

/-- The digits of a number part: digits, single underscores between them. A digit is
required after an underscore. -/
def digitRun (isDigit : Char → Bool) (c : Cursor) : Except Failure (List Char × Cursor) :=
  go c.rest.length [] c
where
  /-- The fuel is the length of the text. -/
  go : Nat → List Char → Cursor → Except Failure (List Char × Cursor)
    | 0, acc, c => .ok (acc, c)
    | fuel + 1, acc, c =>
      match c.peek? with
      | some '_' =>
        match c.next.peek? with
        | some d => if isDigit d then go fuel (acc ++ [d]) c.next.next
          else .error { pos := c.next.pos, expected := ["digit"], committed := true }
        | none => .error { pos := c.next.pos, expected := ["digit"], committed := true }
      | some d => if isDigit d then go fuel (acc ++ [d]) c.next else .ok (acc, c)
      | none => .ok (acc, c)

/-- Positive infinity. -/
def infinity : Float := 1.0 / 0.0

/-- A decimal digit. -/
def isDecimal (ch : Char) : Bool := '0' ≤ ch && ch ≤ '9'

/-- A decimal integer's text: a sign, then `0` or digits not starting with `0`. -/
def decimalInteger (c : Cursor) : Except Failure (Option Char × List Char × Cursor) :=
  let (sign, c1) := match c.peek? with
    | some '+' => (some '+', c.next)
    | some '-' => (some '-', c.next)
    | _ => (none, c)
  match c1.peek? with
  | some '0' => .ok (sign, ['0'], c1.next)
  | some d =>
    if isDecimal d then
      match digitRun.go isDecimal c1.next.rest.length [d] c1.next with
      | .ok (ds, c2) => .ok (sign, ds, c2)
      | .error f => .error (f.withLabel "integer")
    else .error (({ pos := c1.pos } : Failure).withLabel "integer")
  | none => .error (({ pos := c1.pos } : Failure).withLabel "integer")

/-- The value of digits in a base. -/
def digitsValue (base : Nat) (ds : List Char) : Nat :=
  ds.foldl (fun acc ch => acc * base + (hexValue? ch).getD 0) 0

/-- The 64-bit bounds of integers. -/
def int64Min : Int := -9223372036854775808

/-- The largest 64-bit integer. -/
def int64Max : Int := 9223372036854775807

/-- An integer in range, or the failure of one that is not. -/
def checkRange (pos : Nat) (i : Int) : Except Failure Int :=
  if i > int64Max then .error { pos, cause := some "number too large to fit in target type", committed := true }
  else if i < int64Min then .error { pos, cause := some "number too small to fit in target type", committed := true }
  else .ok i

/-- An integer after `0x`, `0o` or `0b`. -/
def prefixedInteger (base : Nat) (label : String) (isDigit : Char → Bool) (c : Cursor) :
    Except Failure (Value × Cursor) :=
  let body := c.drop 2
  match body.peek? with
  | some d =>
    if isDigit d then
      match digitRun isDigit body with
      | .ok (ds, c') => do
        let i ← checkRange c'.pos (digitsValue base ds)
        pure (.integer i, c')
      | .error f => .error (f.withLabel label)
    else .error { pos := body.pos, label := some label, committed := true }
  | none => .error { pos := body.pos, label := some label, committed := true }

/-- A double's text as a number: `Float.ofScientific` of its digits and exponent. -/
def decimalFloat (negative : Bool) (intDigits fracDigits : List Char) (exponent : Int) : Float :=
  let mantissa := digitsValue 10 (intDigits ++ fracDigits)
  let e := exponent - fracDigits.length
  let magnitude := if e ≥ 0 then Float.ofScientific mantissa false e.toNat else Float.ofScientific mantissa true (-e).toNat
  if negative then -magnitude else magnitude

/-- A double with a fraction, an exponent or both, after its integer part. A failure that
is not committed means the text is no double. -/
def floatTail (sign : Option Char) (intDigits : List Char) (c : Cursor) : Except Failure (Value × Cursor) := do
  let label (f : Failure) : Failure := f.withLabel "floating-point number"
  let (frac, c1) ← if c.peek? == some '.' then
      match c.next.peek? with
      | some d =>
        if isDecimal d then (digitRun isDecimal c.next).mapError label
        else .error (label { pos := c.next.pos, expected := ["digit"], committed := true })
      | none => .error (label { pos := c.next.pos, expected := ["digit"], committed := true })
    else .ok ([], c)
  let hasFrac := c.peek? == some '.'
  let (exponent, c2) ← if c1.peek? == some 'e' || c1.peek? == some 'E' then
      let c' := c1.next
      let (negExp, c'') := match c'.peek? with
        | some '+' => (false, c'.next)
        | some '-' => (true, c'.next)
        | _ => (false, c')
      match c''.peek? with
      | some d =>
        if isDecimal d then do
          let (ds, c3) ← (digitRun isDecimal c'').mapError label
          let n : Int := digitsValue 10 ds
          .ok (some (if negExp then -n else n), c3)
        else .error (label { pos := c''.pos, committed := true })
      | none => .error (label { pos := c''.pos, committed := true })
    else .ok (none, c1)
  if !hasFrac && exponent.isNone then .error (label c.fail)
  else
    let f := decimalFloat (sign == some '-') intDigits frac (exponent.getD 0)
    if f == infinity then .error (label { pos := c2.pos, committed := true })
    else .ok (.float f, c2)

/-- `inf` or `nan` with an optional sign. -/
def specialFloat (c : Cursor) : Reading Value :=
  let (negative, c1) := match c.peek? with
    | some '+' => (false, c.next)
    | some '-' => (true, c.next)
    | _ => (false, c)
  if c1.startsWith "inf" then .ok (.float (if negative then -infinity else infinity), c1.drop 3)
  else if c1.startsWith "nan" then .ok (.float (0.0 / 0.0), c1.drop 3)
  else .error (({ pos := c1.pos } : Failure).withLabel "floating-point number")

/-- Exactly `n` decimal digits and their value. -/
def fixedDigits (n : Nat) (c : Cursor) : Option (Nat × Cursor) :=
  let ds := c.rest.take n
  if ds.length == n && ds.all isDecimal then some (digitsValue 10 ds, c.drop n) else none

/-- Two digits written with a leading zero. -/
def twoDigits (n : Nat) : String := if n < 10 then "0" ++ toString n else toString n

/-- A time of day `HH:MM:SS` with an optional fraction, as its normal text. -/
def timeOfDay (c : Cursor) : Option (String × Cursor) := do
  let (h, c) ← fixedDigits 2 c
  if c.peek? != some ':' then none
  let (m, c) ← fixedDigits 2 c.next
  if c.peek? != some ':' then none
  let (s, c) ← fixedDigits 2 c.next
  if h > 23 || m > 59 || s > 60 then none
  let (frac, c) :=
    if c.peek? == some '.' && (c.next.peek?.map isDecimal).getD false then
      let (ds, c') := c.next.span isDecimal
      let nine := (ds.toList ++ List.replicate 9 '0').take 9
      let trimmed := (nine.reverse.dropWhile (· == '0')).reverse
      (if trimmed.isEmpty then "" else "." ++ String.ofList trimmed, c')
    else ("", c)
  pure (twoDigits h ++ ":" ++ twoDigits m ++ ":" ++ twoDigits s ++ frac, c)

/-- A date-time, a date or a time of day, as its normal text: a `T` between date and
time, and `Z` or `±HH:MM` for the offset. -/
def dateTime (c : Cursor) : Option (String × Cursor) :=
  match fixedDigits 4 c with
  | some (y, c1) =>
    if c1.peek? != some '-' then none
    else do
      let (mo, c2) ← fixedDigits 2 c1.next
      if c2.peek? != some '-' then none
      let (d, c3) ← fixedDigits 2 c2.next
      if mo < 1 || mo > 12 || d < 1 || d > 31 then none
      let date := toString y ++ "-" ++ twoDigits mo ++ "-" ++ twoDigits d
      let date := String.ofList (List.replicate (10 - date.length) '0') ++ date
      let sep := c3.peek?
      let timeStart := if sep == some 'T' || sep == some 't' || sep == some ' ' then timeOfDay c3.next else none
      match timeStart with
      | none => pure (date, c3)
      | some (time, c4) =>
        match c4.peek? with
        | some 'Z' | some 'z' => pure (date ++ "T" ++ time ++ "Z", c4.next)
        | some '+' | some '-' =>
          match fixedDigits 2 c4.next with
          | some (oh, c5) =>
            if c5.peek? == some ':' then
              match fixedDigits 2 c5.next with
              | some (om, c6) =>
                pure (date ++ "T" ++ time ++ String.singleton ((c4.peek?).getD '+') ++ twoDigits oh ++ ":" ++
                  twoDigits om, c6)
              | none => pure (date ++ "T" ++ time, c4)
            else pure (date ++ "T" ++ time, c4)
          | none => pure (date ++ "T" ++ time, c4)
        | _ => pure (date ++ "T" ++ time, c4)
  | none => timeOfDay c

/-- A value that starts with a sign or a digit: a date-time, a double or an integer. -/
def numberLike (c : Cursor) : Except Failure (Value × Cursor) :=
  match dateTime c with
  | some (text, c') => .ok (.datetime text, c')
  | none =>
    if c.startsWith "0x" then prefixedInteger 16 "hexadecimal integer" (fun ch => (hexValue? ch).isSome) c
    else if c.startsWith "0o" then prefixedInteger 8 "octal integer" (fun ch => '0' ≤ ch && ch ≤ '7') c
    else if c.startsWith "0b" then prefixedInteger 2 "binary integer" (fun ch => ch == '0' || ch == '1') c
    else
      match decimalInteger c with
      | .error f =>
        if f.committed then .error f
        else
          match specialFloat c with
          | .ok r => .ok r
          | .error _ => .error f
      | .ok (sign, ds, c1) =>
        match floatTail sign ds c1 with
        | .ok r => .ok r
        | .error f =>
          if f.committed then .error f
          else do
            let magnitude : Int := digitsValue 10 ds
            let i ← checkRange c1.pos (if sign == some '-' then -magnitude else magnitude)
            pure (.integer i, c1)

/-- The failure of a value that is none of the kinds: read as a string missing its quotes. -/
def notAValue (c : Cursor) : Failure :=
  { pos := c.pos, label := some "string", expected := ["`\"`", "`'`"] }

/-- The first defined key of a list of key-value pairs, if any is defined twice. -/
def duplicateKey? : List (String × Value) → Option String
  | [] => none
  | (k, _) :: rest => if rest.any (·.1 == k) then some k else duplicateKey? rest

/-- Nest a value under a dotted key. -/
def nestValue (v : Value) : List String → Value
  | [] => v
  | k :: rest => .table [(k, nestValue v rest)]

/-- Add a dotted key's value to an inline table's pairs, merging tables its parts share. -/
def mergeInline (pairs : List (String × Value)) (path : List String) (v : Value) : Except String (List (String × Value)) :=
  match path with
  | [] => .ok pairs
  | [k] => if pairs.any (·.1 == k) then .error k else .ok (pairs ++ [(k, v)])
  | k :: rest =>
    match pairs.find? (·.1 == k) with
    | some (_, .table inner) => do
      let inner ← mergeInline inner rest v
      pure (pairs.map fun (k', x) => if k' == k then (k', .table inner) else (k', x))
    | some _ => .error k
    | none => .ok (pairs ++ [(k, nestValue v rest)])

mutual

/-- A value. The fuel bounds the nesting of arrays and inline tables. -/
def value : Nat → Cursor → Reading Value
  | 0, c => .error { pos := c.pos, cause := some "recursion limit exceeded", committed := true }
  | fuel + 1, c =>
    match c.peek? with
    | some '"' | some '\'' => (quotedString c).map fun (s, c') => (.string s, c')
    | some '[' => array fuel c
    | some '{' => inlineTable fuel c
    | some '_' => .error (({ pos := c.pos, label := some "integer" } : Failure).expect "leading digit")
    | some '.' => .error (({ pos := c.pos, label := some "floating-point number" } : Failure).expect "leading digit")
    | some 't' =>
      if c.startsWith "true" then .ok (.boolean true, c.drop 4) else .error (notAValue c).commit
    | some 'f' =>
      if c.startsWith "false" then .ok (.boolean false, c.drop 5) else .error (notAValue c).commit
    | some 'i' => if c.startsWith "inf" then .ok (.float infinity, c.drop 3) else .error (notAValue c)
    | some 'n' => if c.startsWith "nan" then .ok (.float (0.0 / 0.0), c.drop 3) else .error (notAValue c)
    | some ch =>
      if ch == '+' || ch == '-' || isDecimal ch then numberLike c else .error (notAValue c)
    | none => .error c.fail
termination_by n _ => (2 * n, 0)

/-- An array, at its opening bracket. -/
def array (fuel : Nat) (c : Cursor) : Reading Value :=
  let start := c.next
  let close (items : List Value) (c : Cursor) : Reading Value :=
    let c := blanksAndComments c
    if c.peek? == some ']' then .ok (.array items, c.next)
    else .error { pos := c.pos, label := some "array", expected := ["`]`"], committed := true }
  match value fuel (blanksAndComments start) with
  | .error f => if f.committed then .error f else close [] start
  | .ok (first, c1) =>
    match arrayRest fuel c.rest.length [first] (blanksAndComments c1) with
    | .ok (items, c2) => close items c2
    | .error f => .error f
termination_by (2 * fuel + 1, c.rest.length + 1)

/-- The items of an array after its first: each after a comma. A comma not followed by
an item ends the array. -/
def arrayRest (fuel : Nat) : Nat → List Value → Cursor → Reading (List Value)
  | 0, items, c => .ok (items, c)
  | n + 1, items, c =>
    if c.peek? == some ',' then
      match value fuel (blanksAndComments c.next) with
      | .ok (v, c') => arrayRest fuel n (items ++ [v]) (blanksAndComments c')
      | .error f => if f.committed then .error f else .ok (items, c.next)
    else .ok (items, c)
termination_by n _ _ => (2 * fuel + 1, n)

/-- An inline table, at its opening brace. -/
def inlineTable (fuel : Nat) (c : Cursor) : Reading Value :=
  let start := c.next
  let close (pairs : List (String × Value)) (c : Cursor) : Reading Value :=
    let c := blanks c
    if c.peek? == some '}' then .ok (.table pairs, c.next)
    else .error { pos := c.pos, label := some "inline table", expected := ["`\x7d`"], committed := true }
  match inlinePair fuel start with
  | .error f => if f.committed then .error f else close [] start
  | .ok ((path, v), c1) =>
    match inlineRest fuel c.rest.length [(path, v)] c1 with
    | .error f => .error f
    | .ok (pairs, c2) =>
      let merged := pairs.foldlM (fun acc (path, v) => mergeInline acc path v) []
      match merged with
      | .ok table => close table c2
      | .error k => .error { pos := start.pos, cause := some ("duplicate key `" ++ k ++ "`"), committed := true }
termination_by (2 * fuel + 1, c.rest.length + 1)

/-- A `key = value` pair of an inline table. -/
def inlinePair (fuel : Nat) (c : Cursor) : Except Failure ((List String × Value) × Cursor) := do
  let (path, c1) ← key c
  if c1.peek? != some '=' then
    throw (((({ pos := c1.pos, committed := true } : Failure).expect "`.`")).expect "`=`")
  match value fuel (blanks c1.next) with
  | .ok (v, c2) => pure ((path, v), blanks c2)
  | .error f => throw f.commit
termination_by (2 * fuel + 1, 0)

/-- The pairs of an inline table after its first, each after a comma. -/
def inlineRest (fuel : Nat) : Nat → List (List String × Value) → Cursor → Reading (List (List String × Value))
  | 0, pairs, c => .ok (pairs, c)
  | n + 1, pairs, c =>
    if c.peek? == some ',' then
      match inlinePair fuel c.next with
      | .ok (p, c') => inlineRest fuel n (pairs ++ [p]) c'
      | .error f => if f.committed then .error f else .ok (pairs, c)
    else .ok (pairs, c)
termination_by n _ _ => (2 * fuel + 1, n)

end

/-- What a document holds at a key while it is read: a value, a table (made implicitly
by a longer header or by a dotted key, or by its own header), or an array of tables. -/
inductive Item where
  | value (v : Value)
  | table (implicit dotted : Bool) (entries : List (String × Item))
  | tables (items : List (List (String × Item)))
  deriving Inhabited

/-- Why a line does not fit the document read so far. -/
inductive Conflict where
  | duplicate (key : String) (table : Option (List String))
  | extendsValue (path : List String) (actual : String)

/-- The text of a conflict. -/
def Conflict.message : Conflict → String
  | .duplicate k none => "duplicate key `" ++ k ++ "`"
  | .duplicate k (some []) => "duplicate key `" ++ k ++ "` in document root"
  | .duplicate k (some t) => "duplicate key `" ++ k ++ "` in table `" ++ ".".intercalate t ++ "`"
  | .extendsValue p actual =>
    "dotted key `" ++ ".".intercalate p ++ "` attempted to extend non-table type (" ++ actual ++ ")"

/-- Entries with the item at a key replaced, or added at the end. -/
def setEntry (entries : List (String × Item)) (k : String) (item : Item) : List (String × Item) :=
  if entries.any (·.1 == k) then entries.map fun (k', x) => if k' == k then (k', item) else (k', x)
  else entries ++ [(k, item)]

/-- Change the table at a path below some entries, making missing tables on the way
(dotted ones for dotted keys). The change sees whether the table was made by dotted
keys. Values on the way, and, for dotted keys, tables with their own header, conflict.
`walked` is the part of the path already passed. -/
def atPath (dotted : Bool) (walked : List String)
    (change : Bool → List (String × Item) → Except Conflict (List (String × Item))) :
    List String → Bool → List (String × Item) → Except Conflict (List (String × Item))
  | [], isDotted, entries => change isDotted entries
  | k :: rest, _, entries =>
    let here := walked ++ [k]
    match (entries.find? (·.1 == k)).map Prod.snd with
    | none => do
      let inner ← atPath dotted here change rest dotted []
      pure (setEntry entries k (.table true dotted inner))
    | some (.value v) => .error (.extendsValue here v.typeName)
    | some (.tables items) =>
      match items.getLast? with
      | some last => do
        let inner ← atPath dotted here change rest false last
        pure (setEntry entries k (.tables (items.dropLast ++ [inner])))
      | none => .error (.duplicate k none)
    | some (.table implicit isDotted inner) =>
      if dotted && !implicit then .error (.duplicate k none)
      else do
        let inner ← atPath dotted here change rest isDotted inner
        pure (setEntry entries k (.table implicit isDotted inner))

/-- The document read so far and the header lines are going into. -/
structure Document where
  root : List (String × Item) := []
  current : List String := []

namespace Document

/-- Add `key = value` under the current header, with its dotted part. -/
def addPair (d : Document) (path : List String) (k : String) (v : Value) : Except Conflict Document := do
  let root ← atPath false [] (fun _ entries =>
    atPath true [] (fun isDotted target =>
      if isDotted == path.isEmpty then .error (.duplicate k none)
      else if target.any (·.1 == k) then .error (.duplicate k (some d.current))
      else .ok (target ++ [(k, .value v)])) path false entries) d.current false d.root
  pure { d with root }

/-- Start a table with its own header. -/
def openTable (d : Document) (path : List String) : Except Conflict Document := do
  let parent := path.dropLast
  let k := path.getLast?.getD ""
  let root ← atPath false [] (fun _ entries =>
    match (entries.find? (·.1 == k)).map Prod.snd with
    | some (.table true false inner) => .ok (setEntry entries k (.table false false inner))
    | some _ => .error (.duplicate k (some parent))
    | none => .ok (entries ++ [(k, .table false false [])])) parent false d.root
  pure { root, current := path }

/-- Start the next table of an array of tables. -/
def openArrayTable (d : Document) (path : List String) : Except Conflict Document := do
  let parent := path.dropLast
  let k := path.getLast?.getD ""
  let root ← atPath false [] (fun _ entries =>
    match (entries.find? (·.1 == k)).map Prod.snd with
    | some (.tables items) => .ok (setEntry entries k (.tables (items ++ [[]])))
    | some _ => .error (.duplicate k (some parent))
    | none => .ok (entries ++ [(k, .tables [[]])])) parent false d.root
  pure { root, current := path }

end Document

mutual

/-- The value of an item. -/
def Item.toValue : Item → Value
  | .value v => v
  | .table _ _ entries => .table (entriesToValues entries)
  | .tables items => .array (tablesToValues items)

/-- The values of entries. -/
def entriesToValues : List (String × Item) → List (String × Value)
  | [] => []
  | (k, item) :: rest => (k, item.toValue) :: entriesToValues rest

/-- The values of the tables of an array. -/
def tablesToValues : List (List (String × Item)) → List Value
  | [] => []
  | t :: rest => .table (entriesToValues t) :: tablesToValues rest

end

/-- A table header at its bracket. -/
def header (d : Document) (c : Cursor) : Except Failure (Document × Cursor) := do
  let label (f : Failure) : Failure := f.withLabel "table header"
  let isArray := c.startsWith "[["
  let (path, c1) ← (key (c.drop (if isArray then 2 else 1))).mapError fun f => label f.commit
  let closing := if isArray then "]]" else "]"
  if !c1.startsWith closing then
    throw (label ((({ pos := c1.pos, committed := true } : Failure).expect "`.`").expect ("`" ++ closing ++ "`")))
  let c2 ← (lineTrailing (c1.drop closing.length)).mapError label
  let opened := if isArray then d.openArrayTable path else d.openTable path
  match opened with
  | .ok d' => pure (d', c2)
  | .error conflict => throw (label { pos := c.pos, cause := some conflict.message, committed := true })

/-- A `key = value` line. -/
def pairLine (d : Document) (c : Cursor) : Except Failure (Document × Cursor) := do
  let (path, c1) ← (key c).mapError Failure.commit
  if c1.peek? != some '=' then
    throw ((({ pos := c1.pos, committed := true } : Failure).expect "`.`").expect "`=`")
  let (v, c2) ← (value (c.rest.length + 1) (blanks c1.next)).mapError Failure.commit
  let c3 ← lineTrailing c2
  let k := path.getLast?.getD ""
  match d.addPair path.dropLast k v with
  | .ok d' => pure (d', c3)
  | .error conflict => throw { pos := c.pos, cause := some conflict.message, committed := true }

/-- The lines of a document; each round reads one line or line break. -/
def lines : Nat → Document → Cursor → Except Failure Document
  | 0, d, _ => .ok d
  | fuel + 1, d, c =>
    let c := blanks c
    match c.peek? with
    | none => .ok d
    | some '#' =>
      let c1 := (comment? c).getD c
      match lineEnding? c1 with
      | some c2 => lines fuel d c2
      | none => .error { pos := c1.pos, committed := true }
    | some '[' => do
      let (d', c') ← header d c
      lines fuel d' c'
    | some '\n' => lines fuel d c.next
    | some '\r' =>
      match newline? c with
      | some c' => lines fuel d c'
      | none => .error { pos := c.pos, committed := true }
    | some _ => do
      let (d', c') ← pairLine d c
      lines fuel d' c'

/-- Read a document as its root table. -/
def parse (text : String) : Except Failure (List (String × Value)) := do
  let cs := text.toList
  let c : Cursor := match cs with
    | '\uFEFF' :: rest => ⟨rest, 1⟩
    | _ => ⟨cs, 0⟩
  let d ← lines (cs.length + 1) {} c
  pure (entriesToValues d.root)

/-- The line and column, from zero, of a character offset; an offset at the end of the
text is one past its last character. -/
def position (text : String) (offset : Nat) : Nat × Nat :=
  let cs := text.toList
  if cs.isEmpty then (0, offset)
  else
    let safe := Nat.min offset (cs.length - 1)
    let before := cs.take safe
    let line := before.count '\n'
    let column := (before.reverse.takeWhile (· != '\n')).length
    (line, column + (offset - safe))

/-- The text of a failure in a document: where, the line with a caret under the place,
then the explanation. -/
def Failure.render (f : Failure) (text : String) : String :=
  let (line, column) := position text f.pos
  let lineNo := toString (line + 1)
  let gutter := String.ofList (List.replicate (lineNo.length + 1) ' ')
  let content := ((text.splitOn "\n")[line]?).getD ""
  "TOML parse error at line " ++ lineNo ++ ", column " ++ toString (column + 1) ++ "\n" ++
    gutter ++ "|\n" ++
    lineNo ++ " | " ++ content ++ "\n" ++
    gutter ++ "|" ++ String.ofList (List.replicate (column + 1) ' ') ++ "^\n" ++
    f.message ++ "\n"

end DomainModels.Toml
