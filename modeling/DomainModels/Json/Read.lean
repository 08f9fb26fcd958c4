import DomainModels.Json.Basic
/-! Reading JSON text. The grammar is that of RFC 8259; nesting deeper than 128 arrays or
objects is refused. A failure names its cause and the line and byte column where it was
found, counted from column 0 at the start of a line. Numbers follow `Number`: an integer
that fits in 64 bits is kept exactly; every other number becomes a double, computed from
at most nineteen significant digits and one scaling by a power of ten. -/
namespace DomainModels.Json

/-- Why JSON text cannot be read. -/
inductive ReadError where
  | eofInList
  | eofInObject
  | eofInString
  | eofInValue
  | expectedColon
  | expectedListCommaOrEnd
  | expectedObjectCommaOrEnd
  | expectedIdent
  | expectedValue
  | invalidEscape
  | invalidNumber
  | numberOutOfRange
  | invalidCodePoint
  | controlCharacter
  | keyMustBeString
  | loneLeadingSurrogate
  | trailingComma
  | trailingCharacters
  | unexpectedEndOfHexEscape
  | recursionLimit
  deriving Repr, DecidableEq

/-- The text of a reading failure. -/
def ReadError.text : ReadError → String
  | .eofInList => "EOF while parsing a list"
  | .eofInObject => "EOF while parsing an object"
  | .eofInString => "EOF while parsing a string"
  | .eofInValue => "EOF while parsing a value"
  | .expectedColon => "expected `:`"
  | .expectedListCommaOrEnd => "expected `,` or `]`"
  | .expectedObjectCommaOrEnd => "expected `,` or `\x7d`"
  | .expectedIdent => "expected ident"
  | .expectedValue => "expected value"
  | .invalidEscape => "invalid escape"
  | .invalidNumber => "invalid number"
  | .numberOutOfRange => "number out of range"
  | .invalidCodePoint => "invalid unicode code point"
  | .controlCharacter => "control character (\\u0000-\\u001F) found while parsing a string"
  | .keyMustBeString => "key must be a string"
  | .loneLeadingSurrogate => "lone leading surrogate in hex escape"
  | .trailingComma => "trailing comma"
  | .trailingCharacters => "trailing characters"
  | .unexpectedEndOfHexEscape => "unexpected end of hex escape"
  | .recursionLimit => "recursion limit exceeded"

/-- A reading failure with its place. -/
structure ReadFailure where
  error : ReadError
  line : Nat
  column : Nat

/-- `cause at line L column C`. -/
def ReadFailure.message (f : ReadFailure) : String :=
  f.error.text ++ " at line " ++ toString f.line ++ " column " ++ toString f.column

/-- The unread text and the place of its first byte. -/
structure Cursor where
  rest : List Char
  line : Nat
  column : Nat

namespace Cursor

/-- The next character, if any. -/
def peek? (c : Cursor) : Option Char := c.rest.head?

/-- Step over one character. -/
def advance (c : Cursor) : Cursor :=
  match c.rest with
  | [] => c
  | ch :: rest =>
    if ch == '\n' then ⟨rest, c.line + 1, 0⟩ else ⟨rest, c.line, c.column + ch.utf8Size⟩

/-- A failure placed at the cursor. -/
def fail (c : Cursor) (e : ReadError) : ReadFailure := ⟨e, c.line, c.column⟩

/-- A failure placed one byte past the cursor, or at the end of the text. -/
def failPeek (c : Cursor) (e : ReadError) : ReadFailure :=
  match c.rest with
  | [] => ⟨e, c.line, c.column⟩
  | ch :: _ => if ch == '\n' then ⟨e, c.line + 1, 0⟩ else ⟨e, c.line, c.column + 1⟩

/-- Skip blanks: space, tab, line feed and carriage return. -/
def skipBlanks (c : Cursor) : Cursor :=
  go c.rest.length c
where
  go : Nat → Cursor → Cursor
    | 0, c => c
    | n + 1, c =>
      match c.peek? with
      | some ' ' | some '\n' | some '\t' | some '\r' => go n c.advance
      | _ => c

end Cursor

/-- Powers of ten that are exact or correctly rounded doubles, `10^0` to `10^308`. -/
def powerOfTen (n : Nat) : Float := Float.ofScientific 1 false n

/-- The double from a significand and a decimal exponent: the significand is rounded to a
double, then multiplied or divided once by a power of ten, dividing by `10^308` first
while the exponent is below `-308`. -/
def floatOfParts (positive : Bool) (significand : Nat) (exponent : Int) :
    Except ReadError Float :=
  let f0 := significand.toUInt64.toFloat
  let result := go 40 f0 exponent
  match result with
  | .ok f => .ok (if positive then f else -f)
  | .error e => .error e
where
  go : Nat → Float → Int → Except ReadError Float
    | 0, f, _ => .ok f
    | fuel + 1, f, e =>
      if e.natAbs ≤ 308 then
        if 0 ≤ e then
          let g := f * powerOfTen e.natAbs
          if g.isInf then .error .numberOutOfRange else .ok g
        else .ok (f / powerOfTen e.natAbs)
      else if f == 0.0 then .ok f
      else if 0 ≤ e then .error .numberOutOfRange
      else go fuel (f / powerOfTen 308) (e + 308)

/-- The value of a hexadecimal digit. -/
def hexValue? (c : Char) : Option Nat :=
  if '0' ≤ c ∧ c ≤ '9' then some (c.toNat - '0'.toNat)
  else if 'a' ≤ c ∧ c ≤ 'f' then some (c.toNat - 'a'.toNat + 10)
  else if 'A' ≤ c ∧ c ≤ 'F' then some (c.toNat - 'A'.toNat + 10)
  else none

/-- The cursor after `n` characters, or at the end of the text. -/
def Cursor.skip (c : Cursor) : Nat → Cursor
  | 0 => c
  | n + 1 => (c.advance).skip n

/-- Four hexadecimal digits of a `\u` escape; fewer than four characters left is the end
of the text. -/
def readHex4 (c : Cursor) : Except ReadFailure (Nat × Cursor) :=
  let four := c.rest.take 4
  if four.length < 4 then .error ((c.skip c.rest.length).fail .eofInString)
  else
    let c' := c.skip 4
    let value := four.foldl (fun acc ch => acc.bind fun a => (hexValue? ch).map (a * 16 + ·)) (some 0)
    match value with
    | some v => .ok (v, c')
    | none => .error (c'.fail .invalidEscape)

/-- Whether a UTF-16 unit is a high surrogate. -/
def isHighSurrogate (n : Nat) : Bool := 0xD800 ≤ n && n ≤ 0xDBFF

/-- Whether a UTF-16 unit is a low surrogate. -/
def isLowSurrogate (n : Nat) : Bool := 0xDC00 ≤ n && n ≤ 0xDFFF

/-- A `\u` escape after its `u`: a unit outside the surrogates, or a high surrogate
followed by an escaped low one. -/
def readUnicodeEscape (c : Cursor) : Except ReadFailure (Char × Cursor) := do
  let (n, c) ← readHex4 c
  if isLowSurrogate n then .error (c.fail .loneLeadingSurrogate)
  else if !isHighSurrogate n then .ok (Char.ofNat n, c)
  else
    match c.peek? with
    | none => .error (c.fail .eofInString)
    | some '\\' =>
      let c := c.advance
      match c.peek? with
      | none => .error (c.fail .eofInString)
      | some 'u' =>
        let (m, c) ← readHex4 c.advance
        if isLowSurrogate m then
          .ok (Char.ofNat (0x10000 + (n - 0xD800) * 0x400 + (m - 0xDC00)), c)
        else .error (c.fail .loneLeadingSurrogate)
      | some _ => .error (c.advance.fail .unexpectedEndOfHexEscape)
    | some _ => .error (c.advance.fail .unexpectedEndOfHexEscape)

/-- The body of a string after its opening quote, up to and past the closing quote. -/
def readStringBody (c : Cursor) : Except ReadFailure (String × Cursor) :=
  go c.rest.length "" c
where
  go : Nat → String → Cursor → Except ReadFailure (String × Cursor)
    | 0, _, c => .error (c.fail .eofInString)
    | n + 1, acc, c =>
      match c.peek? with
      | none => .error (c.fail .eofInString)
      | some '"' => .ok (acc, c.advance)
      | some '\\' =>
        let c1 := c.advance
        match c1.peek? with
        | none => .error (c1.fail .eofInString)
        | some e =>
          let c2 := c1.advance
          match e with
          | '"' => go n (acc.push '"') c2
          | '\\' => go n (acc.push '\\') c2
          | '/' => go n (acc.push '/') c2
          | 'b' => go n (acc.push (Char.ofNat 8)) c2
          | 'f' => go n (acc.push (Char.ofNat 12)) c2
          | 'n' => go n (acc.push '\n') c2
          | 'r' => go n (acc.push '\r') c2
          | 't' => go n (acc.push '\t') c2
          | 'u' =>
            match readUnicodeEscape c2 with
            | .ok (ch, c3) => go n (acc.push ch) c3
            | .error f => .error f
          | _ => .error (c2.fail .invalidEscape)
      | some ch =>
        if ch.toNat < 0x20 then .error (c.advance.fail .controlCharacter)
        else go n (acc.push ch) c.advance

/-- Whether a character is an ASCII digit. -/
def isDigit (c : Char) : Bool := '0' ≤ c && c ≤ '9'

/-- The value of an ASCII digit. -/
def digitValue (c : Char) : Nat := c.toNat - '0'.toNat

/-- Skip every digit. -/
def skipDigits (c : Cursor) : Cursor :=
  go c.rest.length c
where
  go : Nat → Cursor → Cursor
    | 0, c => c
    | n + 1, c => match c.peek? with
      | some ch => if isDigit ch then go n c.advance else c
      | none => c

/-- The greatest signed 32-bit integer, the bound of a decimal exponent. -/
def expLimit : Nat := 2147483647

/-- A double from its parts, the failure placed at the end of the number. -/
def finishFloat (positive : Bool) (significand : Nat) (exponent : Int) (c : Cursor) :
    Except ReadFailure (Float × Cursor) :=
  match floatOfParts positive significand exponent with
  | .ok f => .ok (f, c)
  | .error e => .error (c.fail e)

/-- The exponent part, the cursor on its `e` or `E`. An exponent past the 32-bit range
gives zero when it is negative or the significand is zero, and fails otherwise. -/
def readExponent (positive : Bool) (significand : Nat) (start : Int) (c : Cursor) :
    Except ReadFailure (Float × Cursor) :=
  let c := c.advance
  let signed : Bool × Cursor := match c.peek? with
    | some '+' => (true, c.advance)
    | some '-' => (false, c.advance)
    | _ => (true, c)
  let positiveExp := signed.1
  let c := signed.2
  let finish (exp : Nat) (c : Cursor) : Except ReadFailure (Float × Cursor) :=
    let total : Int := if positiveExp then start + exp else start - exp
    finishFloat positive significand (max (-2147483648) (min 2147483647 total)) c
  let rec loop : Nat → Nat → Cursor → Except ReadFailure (Float × Cursor)
    | 0, exp, c => finish exp c
    | n + 1, exp, c =>
      match c.peek? with
      | some ch =>
        if isDigit ch then
          let c' := c.advance
          let next := exp * 10 + digitValue ch
          if next > expLimit then
            if positiveExp && significand != 0 then .error (c'.fail .numberOutOfRange)
            else .ok ((if positive then 0.0 else -0.0), skipDigits c')
          else loop n next c'
        else finish exp c
      | none => finish exp c
  match c.peek? with
  | none => .error (c.fail .eofInValue)
  | some d =>
    if isDigit d then loop c.rest.length (digitValue d) c.advance
    else .error (c.advance.fail .invalidNumber)

/-- The fraction after the point, the cursor on the point. Digits past the 64-bit
significand are skipped. -/
def readFraction (positive : Bool) (significand : Nat) (before : Int) (c : Cursor) :
    Except ReadFailure (Float × Cursor) :=
  let c := c.advance
  let rec loop : Nat → Nat → Nat → Cursor → Except ReadFailure (Float × Cursor)
    | 0, sig, count, c => after sig count c
    | n + 1, sig, count, c =>
      match c.peek? with
      | some ch =>
        if isDigit ch then
          let next := sig * 10 + digitValue ch
          if next > Number.u64Max.toNat then
            let c := skipDigits c
            match c.peek? with
            | some 'e' | some 'E' => readExponent positive sig (before - count) c
            | _ => finishFloat positive sig (before - count) c
          else loop n next (count + 1) c.advance
        else after sig count c
      | none => after sig count c
  loop c.rest.length significand 0 c
where
  after (sig count : Nat) (c : Cursor) : Except ReadFailure (Float × Cursor) :=
    if count = 0 then
      match c.peek? with
      | some _ => .error (c.failPeek .invalidNumber)
      | none => .error (c.failPeek .eofInValue)
    else
      match c.peek? with
      | some 'e' | some 'E' => readExponent positive sig (before - count) c
      | _ => finishFloat positive sig (before - count) c

/-- What follows the integer digits: a fraction, an exponent, or the end of an integer.
A negative integer below the signed 64-bit range, and minus zero, are doubles. -/
def readAfterInteger (positive : Bool) (significand : Nat) (c : Cursor) :
    Except ReadFailure (Number × Cursor) :=
  match c.peek? with
  | some '.' => (readFraction positive significand 0 c).map fun (f, c) => (.float f, c)
  | some 'e' | some 'E' => (readExponent positive significand 0 c).map fun (f, c) => (.float f, c)
  | _ =>
    if positive then .ok (.int significand, c)
    else if significand = 0 then .ok (.float (-0.0), c)
    else if significand ≤ 9223372036854775808 then .ok (.int (-(significand : Int)), c)
    else .ok (.float (-(significand.toUInt64.toFloat)), c)

/-- Integer digits that overflow the 64-bit significand only scale it. -/
def readLongInteger (positive : Bool) (significand : Nat) (c : Cursor) :
    Except ReadFailure (Float × Cursor) :=
  go c.rest.length 0 c
where
  go : Nat → Nat → Cursor → Except ReadFailure (Float × Cursor)
    | 0, exp, c => finishFloat positive significand exp c
    | n + 1, exp, c =>
      match c.peek? with
      | some '.' => readFraction positive significand exp c
      | some 'e' | some 'E' => readExponent positive significand exp c
      | some ch => if isDigit ch then go n (exp + 1) c.advance
                   else finishFloat positive significand exp c
      | none => finishFloat positive significand exp c

/-- A number, the cursor after its optional minus sign. -/
def readNumber (positive : Bool) (c : Cursor) : Except ReadFailure (Number × Cursor) :=
  match c.peek? with
  | none => .error (c.fail .eofInValue)
  | some '0' =>
    let c := c.advance
    match c.peek? with
    | some d => if isDigit d then .error (c.failPeek .invalidNumber) else readAfterInteger positive 0 c
    | none => readAfterInteger positive 0 c
  | some d =>
    if isDigit d then
      let rec loop : Nat → Nat → Cursor → Except ReadFailure (Number × Cursor)
        | 0, sig, c => readAfterInteger positive sig c
        | n + 1, sig, c =>
          match c.peek? with
          | some ch =>
            if isDigit ch then
              let next := sig * 10 + digitValue ch
              if next > Number.u64Max.toNat then
                (readLongInteger positive sig c).map fun (f, c) => (.float f, c)
              else loop n next c.advance
            else readAfterInteger positive sig c
          | none => readAfterInteger positive sig c
      loop c.rest.length (digitValue d) c.advance
    else .error (c.advance.fail .invalidNumber)

/-- The remaining characters of a literal word. -/
def readIdent (word : List Char) (c : Cursor) : Except ReadFailure Cursor :=
  match word with
  | [] => .ok c
  | w :: rest =>
    match c.peek? with
    | none => .error (c.fail .eofInValue)
    | some ch => if ch == w then readIdent rest c.advance else .error (c.advance.fail .expectedIdent)

/-- Nesting depth at which containers are refused. -/
def depthLimit : Nat := 128

mutual

/-- One value after optional blanks. `fuel` bounds the calls, one per character read. -/
def readValue : Nat → Nat → Cursor → Except ReadFailure (Json × Cursor)
  | 0, _, c => .error (c.fail .recursionLimit)
  | fuel + 1, depth, c =>
    let c := c.skipBlanks
    match c.peek? with
    | none => .error (c.failPeek .eofInValue)
    | some 'n' => (readIdent ['u', 'l', 'l'] c.advance).map fun c => (.null, c)
    | some 't' => (readIdent ['r', 'u', 'e'] c.advance).map fun c => (.bool true, c)
    | some 'f' => (readIdent ['a', 'l', 's', 'e'] c.advance).map fun c => (.bool false, c)
    | some '-' => (readNumber false c.advance).map fun (n, c) => (.number n, c)
    | some '"' => (readStringBody c.advance).map fun (s, c) => (.string s, c)
    | some '[' =>
      if depth + 1 ≥ depthLimit then .error (c.failPeek .recursionLimit)
      else readItems fuel (depth + 1) c.advance [] true
    | some '{' =>
      if depth + 1 ≥ depthLimit then .error (c.failPeek .recursionLimit)
      else readFields fuel (depth + 1) c.advance [] true
    | some ch =>
      if isDigit ch then (readNumber true c).map fun (n, c) => (.number n, c)
      else .error (c.failPeek .expectedValue)

/-- The items of an array after its opening bracket, up to and past the closing one. -/
def readItems : Nat → Nat → Cursor → List Json → Bool → Except ReadFailure (Json × Cursor)
  | 0, _, c, _, _ => .error (c.fail .recursionLimit)
  | fuel + 1, depth, c, acc, first =>
    let c := c.skipBlanks
    let start : Option Cursor ⊕ ReadFailure :=
      match c.peek? with
      | none => .inr (c.failPeek .eofInList)
      | some ']' => .inl none
      | some ',' =>
        if first then .inl (some c)
        else
          let c := c.advance.skipBlanks
          match c.peek? with
          | some ']' => .inr (c.failPeek .trailingComma)
          | some _ => .inl (some c)
          | none => .inr (c.failPeek .eofInValue)
      | some _ => if first then .inl (some c) else .inr (c.failPeek .expectedListCommaOrEnd)
    match start with
    | .inr f => .error f
    | .inl none => .ok (.array acc.reverse, c.advance)
    | .inl (some c) =>
      match readValue fuel depth c with
      | .ok (v, c) => readItems fuel depth c (v :: acc) false
      | .error f => .error f

/-- The fields of an object after its opening brace, up to and past the closing one. -/
def readFields : Nat → Nat → Cursor → List (String × Json) → Bool →
    Except ReadFailure (Json × Cursor)
  | 0, _, c, _, _ => .error (c.fail .recursionLimit)
  | fuel + 1, depth, c, acc, first =>
    let c := c.skipBlanks
    let start : Option Cursor ⊕ ReadFailure :=
      match c.peek? with
      | none => .inr (c.failPeek .eofInObject)
      | some '}' => .inl none
      | some ',' => if first then .inl (some c) else .inl (some c.advance.skipBlanks)
      | some _ => if first then .inl (some c) else .inr (c.failPeek .expectedObjectCommaOrEnd)
    match start with
    | .inr f => .error f
    | .inl none => .ok (.object acc, c.advance)
    | .inl (some c) =>
      match c.peek? with
      | some '"' =>
        match readStringBody c.advance with
        | .error f => .error f
        | .ok (key, c) =>
          let c := c.skipBlanks
          match c.peek? with
          | some ':' =>
            match readValue fuel depth c.advance with
            | .ok (v, c) => readFields fuel depth c (fieldsInsert acc key v) false
            | .error f => .error f
          | some _ => .error (c.failPeek .expectedColon)
          | none => .error (c.failPeek .eofInObject)
      | some '}' => .error (c.failPeek .trailingComma)
      | some _ => .error (c.failPeek .keyMustBeString)
      | none => .error (c.failPeek .eofInValue)

end

/-- Read a whole JSON text: one value, then only blanks. -/
def parse (text : String) : Except ReadFailure Json :=
  let c : Cursor := ⟨text.toList, 1, 0⟩
  match readValue (c.rest.length + 2) 0 c with
  | .error f => .error f
  | .ok (v, c) =>
    let c := c.skipBlanks
    match c.peek? with
    | none => .ok v
    | some _ => .error (c.failPeek .trailingCharacters)

end DomainModels.Json
