import DomainModels.Time.Civil
/-! Instants with a fixed offset from UTC, to the nanosecond. A leap second is the 61st
second of a minute and is kept as a nanosecond count of a second or more within the 59th
second. The local time is the instant shifted by the offset. -/
namespace DomainModels.Time

/-- An instant and the offset it is shown in. -/
structure DateTime where
  /-- whole seconds since 1970-01-01T00:00:00 UTC -/
  seconds : Int
  /-- nanoseconds into the second; `10^9` or more only during a leap second -/
  nanos : Nat
  /-- seconds east of UTC, less than a day either way -/
  offset : Int
  deriving Repr, DecidableEq, Inhabited

/-- The fields of a local date and time. -/
structure Civil where
  year : Int
  month : Nat
  day : Nat
  hour : Nat
  minute : Nat
  second : Nat
  deriving Repr, DecidableEq

/-- The number of seconds in a day. -/
def secondsPerDay : Int := 86400

/-- Local whole seconds since 1970-01-01T00:00:00. -/
def Civil.toSeconds (c : Civil) : Int :=
  daysFromCivil c.year c.month c.day * secondsPerDay + c.hour * 3600 + c.minute * 60 + c.second

/-- The local date and time of a count of local seconds. -/
def Civil.ofSeconds (s : Int) : Civil :=
  let days := s / secondsPerDay
  let rest := (s % secondsPerDay).toNat
  let (y, m, d) := civilFromDays days
  ⟨y, m, d, rest / 3600, rest % 3600 / 60, rest % 60⟩

namespace DateTime

/-- The local date and time. -/
def localTime (t : DateTime) : Civil := Civil.ofSeconds (t.seconds + t.offset)

/-- The same instant shown in another offset. -/
def withOffset (t : DateTime) (offset : Int) : DateTime := { t with offset }

/-- The instant whose local time in `offset` is the given one. -/
def ofLocal (c : Civil) (nanos : Nat) (offset : Int) : DateTime :=
  ⟨c.toSeconds - offset, nanos, offset⟩

/-- The second as displayed: 60 during a leap second. -/
def displaySecond (t : DateTime) : Nat := t.localTime.second + (if t.nanos ≥ 1000000000 then 1 else 0)

/-- Nanoseconds within the displayed second. -/
def displayNanos (t : DateTime) : Nat := t.nanos % 1000000000

end DateTime

/-- A number with at least `width` digits, zeros in front. -/
def padded (width : Nat) (n : Nat) : String :=
  let s := toString n
  String.ofList (List.replicate (width - s.length) '0') ++ s

/-- A year as four digits within 0 to 9999, and otherwise with its sign and at least four
digits (`+10000`, `-0001`). -/
def yearText (y : Int) : String :=
  if 0 ≤ y ∧ y ≤ 9999 then padded 4 y.toNat
  else (if y < 0 then "-" else "+") ++ padded 4 y.natAbs

/-- An offset as `+HH:MM` or `-HH:MM`. -/
def offsetText (offset : Int) : String :=
  let sign := if offset < 0 then "-" else "+"
  let m := offset.natAbs / 60
  sign ++ padded 2 (m / 60) ++ ":" ++ padded 2 (m % 60)

/-- `YYYY-MM-DDTHH:MM:SS`, local time. -/
def DateTime.baseText (t : DateTime) : String :=
  let c := t.localTime
  yearText c.year ++ "-" ++ padded 2 c.month ++ "-" ++ padded 2 c.day ++ "T" ++
    padded 2 c.hour ++ ":" ++ padded 2 c.minute ++ ":" ++ padded 2 t.displaySecond

/-- RFC 3339 text: the fraction of a second is left out when zero and otherwise has three,
six or nine digits, the fewest that are exact; the offset is always `±HH:MM`. -/
def DateTime.rfc3339 (t : DateTime) : String :=
  let n := t.displayNanos
  let frac :=
    if n = 0 then ""
    else if n % 1000000 = 0 then "." ++ padded 3 (n / 1000000)
    else if n % 1000 = 0 then "." ++ padded 6 (n / 1000)
    else "." ++ padded 9 n
  t.baseText ++ frac ++ offsetText t.offset

/-- The text with exactly three digits of milliseconds, truncated. -/
def DateTime.millisText (t : DateTime) : String :=
  t.baseText ++ "." ++ padded 3 (t.displayNanos / 1000000)

end DomainModels.Time
