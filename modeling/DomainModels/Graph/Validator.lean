import DomainModels.Error
import DomainModels.Decimal.Notation
import DomainModels.Regex.Pattern
/-! Validators of fields: inclusive numeric bounds for Integer, Long and Double fields, and a
pattern or length bounds for String fields. Patterns carry the flags of their literal form:
`i` (ignore case), `m` (multi-line anchors), `s` (`.` matches line breaks) and `u`, which
changes nothing because patterns are always Unicode-aware. Lengths count characters. -/
namespace DomainModels

/-- Inclusive lower and upper bounds, at least one of them present. -/
structure NumberValidator where
  lower : Option Float
  upper : Option Float
  deriving Repr, Inhabited

namespace NumberValidator

/-- Bounds, refused when both are missing or when they are out of order. -/
def make (lower upper : Option Float) : Outcome NumberValidator :=
  match lower, upper with
  | none, none => .error (ModelError.illegal "Invalid range, lower and upper bound cannot both be missing")
  | some l, some u =>
    if l > u then
      .error (ModelError.illegal ("Lower bound " ++ Decimal.displayFloat l ++
        " must be less than or equal to upper bound " ++ Decimal.displayFloat u))
    else .ok { lower, upper }
  | _, _ => .ok { lower, upper }

/-- Check a value against the bounds; the path names the field in the error. -/
def validate (v : NumberValidator) (path : String) (value : Float) : Outcome Unit := do
  if let some lower := v.lower then
    if value < lower then
      throw (.validation ("Value " ++ Decimal.displayFloat value ++ " at path `" ++ path ++
        "` is outside lower bound " ++ Decimal.displayFloat lower) (some path))
  if let some upper := v.upper then
    if value > upper then
      throw (.validation ("Value " ++ Decimal.displayFloat value ++ " at path `" ++ path ++
        "` is outside upper bound " ++ Decimal.displayFloat upper) (some path))

/-- `range=[lower,upper]`, a missing bound left empty. -/
def display (v : NumberValidator) : String :=
  let bound (b : Option Float) : String := (b.map Decimal.displayFloat).getD ""
  "range=[" ++ bound v.lower ++ "," ++ bound v.upper ++ "]"

end NumberValidator

/-- A pattern with its flags and optional length bounds. -/
structure StringValidator where
  pattern : Option String
  flags : String
  regex : Option Regex.Compiled
  minLength : Option Nat
  maxLength : Option Nat
  deriving Inhabited

namespace StringValidator

/-- The mode a pattern's flags ask for, or the first flag that is not supported. -/
def modeOfFlags (flags : String) : Except Char Regex.Mode :=
  flags.toList.foldlM (fun (m : Regex.Mode) c =>
    match c with
    | 'i' => .ok { m with caseInsensitive := true }
    | 'm' => .ok { m with multiLine := true }
    | 's' => .ok { m with dotMatchesNewLine := true }
    | 'u' => .ok m
    | other => .error other) {}

/-- Compile a pattern with its flags. -/
def compile (pattern flags : String) : Outcome Regex.Compiled :=
  match modeOfFlags flags with
  | .error c =>
    .error (ModelError.illegal ("Unsupported regex flag \"" ++ String.singleton c ++ "\" in /" ++ pattern ++
      "/" ++ flags))
  | .ok mode =>
    match Regex.Compiled.build pattern mode with
    | .ok r => .ok r
    | .error e =>
      .error (ModelError.illegal ("Invalid regex /" ++ pattern ++ "/" ++ flags ++ ": " ++ e.render pattern))

/-- A length bound, refused when negative. -/
def lengthBound (label : String) : Option Int → Outcome (Option Nat)
  | none => .ok none
  | some b =>
    if b < 0 then .error (ModelError.illegal (label ++ " must be a non-negative integer, got " ++ toString b))
    else .ok (some b.toNat)

/-- A validator from a pattern with flags and length bounds; at least one must be given and
the bounds must be in order. -/
def make (pattern : Option (String × String)) (minLength maxLength : Option Int) :
    Outcome StringValidator := do
  let regex ← match pattern with
    | some (p, f) => some <$> compile p f
    | none => pure none
  let minLength ← lengthBound "minLength" minLength
  let maxLength ← lengthBound "maxLength" maxLength
  if let (some lo, some hi) := (minLength, maxLength) then
    if lo > hi then
      throw (ModelError.illegal ("minLength " ++ toString lo ++ " must be less than or equal to maxLength " ++
        toString hi))
  if regex.isNone && minLength.isNone && maxLength.isNone then
    throw (ModelError.illegal "String validator must specify a pattern or a length bound")
  pure { pattern := pattern.map Prod.fst, flags := (pattern.map Prod.snd).getD "", regex, minLength, maxLength }

/-- The pattern with the flags `i`, `m` and `s` written in front as a flag group. -/
def inlinePattern (v : StringValidator) : Option String :=
  v.pattern.map fun p =>
    let inline := v.flags.toList.filter fun c => c == 'i' || c == 'm' || c == 's'
    if inline.isEmpty then p else "(?" ++ String.ofList inline ++ ")" ++ p

/-- Check a value: its length in characters, then the pattern. -/
def validate (v : StringValidator) (path : String) (value : String) : Outcome Unit := do
  let length := value.length
  if let some lo := v.minLength then
    if length < lo then
      throw (.validation ("The string length of \"" ++ value ++ "\" at path `" ++ path ++
        "` should be at least " ++ toString lo) (some path))
  if let some hi := v.maxLength then
    if length > hi then
      throw (.validation ("The string length of \"" ++ value ++ "\" at path `" ++ path ++
        "` should not exceed " ++ toString hi) (some path))
  if let some r := v.regex then
    if !r.isMatch value then
      throw (.validation ("Value \"" ++ value ++ "\" at path `" ++ path ++
        "` failed to match validation regex: /" ++ v.pattern.getD "" ++ "/" ++ v.flags) (some path))

end StringValidator

/-- A validator of a field. -/
inductive Validator where
  | number (v : NumberValidator)
  | string (v : StringValidator)
  deriving Inhabited

end DomainModels
