import DomainModels.Time.DateTime
/-! Reading dates and times. `rfc3339?` reads RFC 3339 (`T`, `t` or a space between date
and time; `Z`, `z` or `±HH:MM` with hours below 24; any number of fraction digits, of which
nine are kept). `readPattern?` reads a local date and time after a pattern of fields:
numeric fields skip leading blanks and take one to two digits (the year one to four, or
any number after a sign), and the whole text must be used. -/
namespace DomainModels.Time

/-- Fields read so far. -/
structure Fields where
  year : Option Int := none
  month : Option Nat := none
  day : Option Nat := none
  hour : Option Nat := none
  minute : Option Nat := none
  second : Option Nat := none
  nanos : Option Nat := none
  deriving Repr, Inhabited

/-- Whether a character is an ASCII digit. -/
def isAsciiDigit (c : Char) : Bool := '0' ≤ c && c ≤ '9'

/-- Between `lo` and `hi` ASCII digits at the front, as a number, with the rest. -/
def digitsBetween (lo hi : Nat) (s : List Char) : Option (Nat × List Char) :=
  let ds := (s.take hi).takeWhile isAsciiDigit
  if ds.length < lo then none
  else some (ds.foldl (fun acc c => acc * 10 + (c.toNat - '0'.toNat)) 0, s.drop ds.length)

/-- A fraction of a second after its point: at least one digit, nine kept as nanoseconds,
further digits skipped. -/
def readFraction (s : List Char) : Option (Nat × List Char) :=
  let ds := s.takeWhile isAsciiDigit
  if ds.isEmpty then none
  else
    let kept := ds.take 9
    let value := kept.foldl (fun acc c => acc * 10 + (c.toNat - '0'.toNat)) 0
    some (value * Nat.pow 10 (9 - kept.length), s.drop ds.length)

/-- An expected character at the front. -/
def expectChar (c : Char) : List Char → Option (List Char)
  | d :: rest => if d == c then some rest else none
  | [] => none

/-- A local time from its fields: hour and minute present, second 0 to 60 (60 being a leap
second), and a date that exists. -/
def Fields.toLocal? (f : Fields) : Option (Civil × Nat) := do
  let y ← f.year
  let m ← f.month
  let d ← f.day
  let h ← f.hour
  let mi ← f.minute
  if !isValidDate y m d || h > 23 || mi > 59 then none
  let s := f.second.getD 0
  if s > 60 then none
  let n := f.nanos.getD 0
  if n > 999999999 then none
  let (s, n) := if s == 60 then (59, n + 1000000000) else (s, n)
  some (⟨y, m, d, h, mi, s⟩, n)

/-- A local date from its fields, at midnight. -/
def Fields.toDate? (f : Fields) : Option Civil := do
  let y ← f.year
  let m ← f.month
  let d ← f.day
  if !isValidDate y m d then none
  some ⟨y, m, d, 0, 0, 0⟩

/-- An offset `Z`, `z` or `±HH:MM` (also with the minus sign U+2212), in seconds. Minutes
must be below 60. -/
def offsetField (s : List Char) : Option (Int × List Char) :=
  match s with
  | 'Z' :: rest => some (0, rest)
  | 'z' :: rest => some (0, rest)
  | c :: rest =>
    let negative? : Option Bool :=
      if c == '+' then some false else if c == '-' || c.toNat == 0x2212 then some true else none
    match negative? with
    | none => none
    | some negative =>
      match rest with
      | h1 :: h2 :: ':' :: m1 :: m2 :: more =>
        if isAsciiDigit h1 && isAsciiDigit h2 && isAsciiDigit m1 && isAsciiDigit m2 && m1 ≤ '5' then
          let hours := (h1.toNat - 48) * 10 + (h2.toNat - 48)
          let minutes := (m1.toNat - 48) * 10 + (m2.toNat - 48)
          let secs : Int := hours * 3600 + minutes * 60
          some ((if negative then -secs else secs), more)
        else none
      | _ => none
  | [] => none

/-- The greatest offset RFC 3339 allows, 23:59, in seconds. -/
def maxRfc3339Offset : Int := (23 * 60 + 59) * 60

/-- Read a whole RFC 3339 date-time. -/
def rfc3339? (text : String) : Option DateTime := do
  let s := text.toList
  let (y, s) ← digitsBetween 4 4 s
  let s ← expectChar '-' s
  let (mo, s) ← digitsBetween 2 2 s
  let s ← expectChar '-' s
  let (d, s) ← digitsBetween 2 2 s
  let s ← match s with
    | c :: rest => if c == 'T' || c == 't' || c == ' ' then some rest else none
    | [] => none
  let (h, s) ← digitsBetween 2 2 s
  let s ← expectChar ':' s
  let (mi, s) ← digitsBetween 2 2 s
  let s ← expectChar ':' s
  let (sec, s) ← digitsBetween 2 2 s
  let (nanos, s) ← match s with
    | '.' :: rest => (readFraction rest).map fun (n, r) => (some n, r)
    | _ => some (none, s)
  let (offset, s) ← offsetField s
  if offset.natAbs > maxRfc3339Offset.natAbs || !s.isEmpty then none
  let fields : Fields := { year := some y, month := some mo, day := some d, hour := some h,
                           minute := some mi, second := some sec, nanos := nanos }
  let (c, n) ← fields.toLocal?
  some (DateTime.ofLocal c n offset)

/-- A field of a date-time pattern. -/
inductive Item where
  | year | month | day | hour | minute | second
  /-- an optional `.` and fraction digits -/
  | fraction
  /-- a character that must stand there -/
  | literal (c : Char)
  deriving Repr, DecidableEq

/-- Skip leading white space. -/
def trimBlanks (s : List Char) : List Char := s.dropWhile Char.isWhitespace

/-- Read one item into the fields. -/
def Item.read (item : Item) (f : Fields) (s : List Char) : Option (Fields × List Char) :=
  match item with
  | .literal c => (expectChar c s).map fun r => (f, r)
  | .fraction =>
    match s with
    | '.' :: rest => (readFraction rest).map fun (n, r) => ({ f with nanos := some n }, r)
    | _ => some (f, s)
  | .year =>
    let s := trimBlanks s
    match s with
    | '-' :: rest => (digitsBetween 1 19 rest).map fun (v, r) => ({ f with year := some (-(v : Int)) }, r)
    | '+' :: rest => (digitsBetween 1 19 rest).map fun (v, r) => ({ f with year := some (v : Int) }, r)
    | _ => (digitsBetween 1 4 s).map fun (v, r) => ({ f with year := some (v : Int) }, r)
  | .month => (digitsBetween 1 2 (trimBlanks s)).map fun (v, r) => ({ f with month := some v }, r)
  | .day => (digitsBetween 1 2 (trimBlanks s)).map fun (v, r) => ({ f with day := some v }, r)
  | .hour => (digitsBetween 1 2 (trimBlanks s)).map fun (v, r) => ({ f with hour := some v }, r)
  | .minute => (digitsBetween 1 2 (trimBlanks s)).map fun (v, r) => ({ f with minute := some v }, r)
  | .second => (digitsBetween 1 2 (trimBlanks s)).map fun (v, r) => ({ f with second := some v }, r)

/-- Read a whole text after a pattern. -/
def readPattern? (items : List Item) (text : String) : Option Fields :=
  let step (acc : Option (Fields × List Char)) (item : Item) : Option (Fields × List Char) :=
    acc.bind fun (f, s) => item.read f s
  match items.foldl step (some ({}, text.toList)) with
  | some (f, []) => some f
  | _ => none

end DomainModels.Time
