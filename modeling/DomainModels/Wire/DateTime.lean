import DomainModels.Time.Parse
/-! DateTimes on the wire: `YYYY-MM-DDTHH:MM:SS.mmm` followed by `Z` for UTC or `±HH:MM`.
Strict reading takes only that shape (any number of fraction digits, or none) with an
explicit offset; lenient reading takes any RFC 3339 text, and also local date-times and
plain dates, which are placed in a default offset. -/
namespace DomainModels.Wire

open Time

/-- An offset given in minutes, as seconds east of UTC. Minutes are taken in the 32-bit
range and their seconds clamped to it; an offset of a day or more either way is UTC. -/
def offsetOfMinutes (minutes : Int) : Int :=
  let secs := max (-2147483648) (min 2147483647 (minutes * 60))
  if secs.natAbs < 86400 then secs else 0

/-- The wire text of a DateTime shown in an offset given in minutes. -/
def formatDateTime (value : DateTime) (utcOffset : Int) : String :=
  let zone := offsetOfMinutes utcOffset
  let shifted := value.withOffset zone
  shifted.millisText ++ (if zone == 0 then "Z" else offsetText zone)

/-- Whether a text has the strict wire shape: four, two and two digits with hyphens, `T`,
two-digit hour, minute and second with colons, an optional fraction of one or more digits,
then `Z` or a sign and `HH:MM`. -/
def hasQualifiedShape (text : String) : Bool :=
  let d := isAsciiDigit
  match text.toList with
  | y1 :: y2 :: y3 :: y4 :: '-' :: m1 :: m2 :: '-' :: d1 :: d2 :: 'T' ::
      h1 :: h2 :: ':' :: i1 :: i2 :: ':' :: s1 :: s2 :: rest =>
    [y1, y2, y3, y4, m1, m2, d1, d2, h1, h2, i1, i2, s1, s2].all d &&
      (let afterFraction := match rest with
        | '.' :: more => if (more.takeWhile d).isEmpty then none else some (more.dropWhile d)
        | _ => some rest
       match afterFraction with
       | some ['Z'] => true
       | some [sign, a, b, ':', c, e] => (sign == '+' || sign == '-') && [a, b, c, e].all d
       | _ => false)
  | _ => false

/-- Local date-time patterns tried in lenient reading, in order. -/
def localPatterns : List (List Item) :=
  let date : List Item := [.year, .literal '-', .month, .literal '-', .day]
  [date ++ [.literal 'T', .hour, .literal ':', .minute, .literal ':', .second, .fraction],
   date ++ [.literal ' ', .hour, .literal ':', .minute, .literal ':', .second, .fraction],
   date ++ [.literal 'T', .hour, .literal ':', .minute],
   date ++ [.literal ' ', .hour, .literal ':', .minute]]

/-- Read a wire DateTime. Strict reading needs the qualified shape; lenient reading falls
back to a local date-time or a date at midnight in the default offset (minutes). -/
def parseDateTime (text : String) (strict : Bool) (defaultOffset : Int) : Option DateTime :=
  if strict then
    if hasQualifiedShape text then rfc3339? text else none
  else
    match rfc3339? text with
    | some t => some t
    | none =>
      let zone := offsetOfMinutes defaultOffset
      let found : Option (Civil × Nat) :=
        match localPatterns.findSome? (fun p => (readPattern? p text).bind Fields.toLocal?) with
        | some r => some r
        | none => ((readPattern? [.year, .literal '-', .month, .literal '-', .day] text).bind
            Fields.toDate?).map fun c => (c, 0)
      found.map fun (c, n) => DateTime.ofLocal c n zone

end DomainModels.Wire
