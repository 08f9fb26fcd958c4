import DomainModels.Text.Quote
/-! Semantic versions `major.minor.patch[-pre][+build]`: three decimal numbers without
leading zeros that fit in 64 bits, then dot-separated identifiers of ASCII letters, digits
and hyphens; a numeric pre-release identifier has no leading zero. A text that is no such
version is refused with the first fault met, reading from the left. -/
namespace DomainModels.Version

/-- A semantic version. The pre-release and build parts are kept as written, empty when
absent. -/
structure Semver where
  major : Nat
  minor : Nat
  patch : Nat
  pre : String := ""
  build : String := ""
  deriving Repr, DecidableEq, Inhabited

/-- The part of a version being read when a fault is met. -/
inductive Part where
  | major | minor | patch | pre | build
  deriving Repr, DecidableEq

/-- How the part is named in a fault. -/
def Part.text : Part → String
  | .major => "major version number"
  | .minor => "minor version number"
  | .patch => "patch version number"
  | .pre => "pre-release identifier"
  | .build => "build metadata"

/-- Why a text is no version. -/
inductive Fault where
  | empty
  | unexpectedEnd (part : Part)
  | leadingZero (part : Part)
  | overflow (part : Part)
  | emptySegment (part : Part)
  | unexpectedChar (part : Part) (c : Char)
  | unexpectedCharAfter (part : Part) (c : Char)
  deriving Repr, DecidableEq

/-- The text of a fault. -/
def Fault.text : Fault → String
  | .empty => "empty string, expected a semver version"
  | .unexpectedEnd p => "unexpected end of input while parsing " ++ p.text
  | .leadingZero p => "invalid leading zero in " ++ p.text
  | .overflow p => "value of " ++ p.text ++ " exceeds u64::MAX"
  | .emptySegment p => "empty identifier segment in " ++ p.text
  | .unexpectedChar p c => "unexpected character " ++ Text.quoteChar c ++ " while parsing " ++ p.text
  | .unexpectedCharAfter p c => "unexpected character " ++ Text.quoteChar c ++ " after " ++ p.text

/-- The greatest unsigned 64-bit value. -/
def u64Max : Nat := 18446744073709551615

/-- Whether a character is an ASCII digit. -/
def isDigitChar (c : Char) : Bool := '0' ≤ c && c ≤ '9'

/-- A number at the front of the text, with the rest. -/
def numeric (part : Part) (s : List Char) : Except Fault (Nat × List Char) :=
  let digits := s.takeWhile isDigitChar
  let rest := s.drop digits.length
  match digits with
  | [] =>
    match s with
    | c :: _ => .error (.unexpectedChar part c)
    | [] => .error (.unexpectedEnd part)
  | first :: more =>
    -- a zero may only stand alone; the value is checked digit by digit
    let step : Except Fault Nat → Char → Except Fault Nat := fun acc c =>
      match acc with
      | .error f => .error f
      | .ok v =>
        if v == 0 then .error (.leadingZero part)
        else
          let next := v * 10 + (c.toNat - '0'.toNat)
          if next > u64Max then .error (.overflow part) else .ok next
    match more.foldl step (.ok (first.toNat - '0'.toNat)) with
    | .ok v => .ok (v, rest)
    | .error f => .error f

/-- The dot after a number. -/
def dot (part : Part) : List Char → Except Fault (List Char)
  | '.' :: rest => .ok rest
  | c :: _ => .error (.unexpectedCharAfter part c)
  | [] => .error (.unexpectedEnd part)

/-- Whether a character may stand in an identifier. -/
def isIdentChar (c : Char) : Bool :=
  ('A' ≤ c && c ≤ 'Z') || ('a' ≤ c && c ≤ 'z') || c == '-' || isDigitChar c

/-- Dot-separated identifiers at the front of the text, with the rest. An empty first
segment that is not followed by a dot is no identifier at all. -/
def identifiers (part : Part) (s : List Char) : Except Fault (List Char × List Char) :=
  go s.length [] s
where
  go : Nat → List Char → List Char → Except Fault (List Char × List Char)
    | 0, acc, rest => .ok (acc, rest)
    | fuel + 1, acc, s =>
      let seg := s.takeWhile isIdentChar
      let after := s.drop seg.length
      if seg.isEmpty then
        if acc.isEmpty && after.head? != some '.' then .ok ([], s)
        else .error (.emptySegment part)
      else if part == .pre && seg.length > 1 && seg.all isDigitChar && seg.head? == some '0' then
        .error (.leadingZero part)
      else
        match after with
        | '.' :: more => go fuel (acc ++ seg ++ ['.']) more
        | _ => .ok (acc ++ seg, after)

/-- Read a version. -/
def Semver.parse (text : String) : Except Fault Semver := do
  if text.isEmpty then throw .empty
  let s := text.toList
  let (major, s) ← numeric .major s
  let s ← dot .major s
  let (minor, s) ← numeric .minor s
  let s ← dot .minor s
  let (patch, s) ← numeric .patch s
  let (pre, s, part) ← match s with
    | '-' :: rest => do
      let (pre, rest) ← identifiers .pre rest
      if pre.isEmpty then throw (.emptySegment .pre)
      pure (pre, rest, Part.pre)
    | _ => pure ([], s, Part.patch)
  let (build, s, part) ← match s with
    | '+' :: rest => do
      let (build, rest) ← identifiers .build rest
      if build.isEmpty then throw (.emptySegment .build)
      pure (build, rest, Part.build)
    | _ => pure ([], s, part)
  match s with
  | c :: _ => throw (.unexpectedCharAfter part c)
  | [] => pure { major, minor, patch, pre := String.ofList pre, build := String.ofList build }

/-- `major.minor.patch`, then `-pre` and `+build` when present. -/
def Semver.render (v : Semver) : String :=
  toString v.major ++ "." ++ toString v.minor ++ "." ++ toString v.patch ++
    (if v.pre.isEmpty then "" else "-" ++ v.pre) ++
    (if v.build.isEmpty then "" else "+" ++ v.build)

end DomainModels.Version
