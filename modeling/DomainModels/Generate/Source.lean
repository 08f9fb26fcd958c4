import DomainModels.Graph.Validator
import DomainModels.Time.DateTime
import DomainModels.Regex.Sample
/-! Where generated values come from. In the empty mode a value is the zero of its type
moved into the field's bounds, an empty text, the first enumeration value, an empty list or
a given instant; in the sample mode it is drawn from a seeded random stream within the
field's bounds. A missing numeric bound lies `span` from the other one, or both lie `span`
from zero.

In both modes a text whose validator has a pattern is drawn from the pattern, anchors
removed, as long as one of `attempts` draws passes the validator; otherwise a text is
padded with filler words up to the least length and cut at the greatest. The empty mode
draws these from the stream of seed zero. -/
namespace DomainModels.Generate

open DomainModels.Random

/-- How values are chosen. -/
inductive Mode where
  | empty
  | sample
  deriving Repr, DecidableEq, Inhabited

/-- The name of a mode. -/
def Mode.name : Mode → String
  | .empty => "empty"
  | .sample => "sample"

/-- The mode of a name, or the message refusing it. -/
def Mode.ofName (s : String) : Except String Mode :=
  if s == "empty" then .ok .empty
  else if s == "sample" then .ok .sample
  else .error ("Unknown generator mode '" ++ s ++ "', expected 'empty' or 'sample'")

/-- The width of a range whose other bound is missing. -/
def span : Float := 100000.0

/-- The most a repetition of a pattern goes past its least count. -/
def maxRepeat : Nat := 8

/-- Draws from a pattern before giving up on the validator. -/
def attempts : Nat := 16

/-- The filler words. -/
def lorem : List String :=
  ["lorem", "ipsum", "dolor", "sit", "amet", "consectetur", "adipiscing", "elit", "sed", "do",
    "eiusmod", "tempor", "incididunt", "ut", "labore", "magna"]

/-- The first instant of 2020, from which sampled DateTimes count. -/
def sampleEpoch : Int := 1577836800

/-- The seconds over which sampled DateTimes spread: five years of 365 days. -/
def sampleSeconds : Int := 5 * 365 * 24 * 3600

/-- The whole number nearest a double within the 64-bit signed range, toward zero; zero for
NaN. -/
def saturatingInt (f : Float) : Int :=
  if f.isNaN then 0
  else if f ≥ 0 then (Nat.min f.toUInt64.toNat (Nat.pow 2 63 - 1) : Nat)
  else -((Nat.min (-f).toUInt64.toNat (Nat.pow 2 63) : Nat) : Int)

/-- The bounds of a numeric field, missing ones filled in. -/
def bounds (v : Option NumberValidator) : Float × Float :=
  match v.bind (·.lower), v.bind (·.upper) with
  | some l, some u => (l, u)
  | some l, none => (l, l + span)
  | none, some u => (u - span, u)
  | none, none => (-span, span)

/-- The whole-number bounds of a numeric field: the least integer at or above the lower
bound, and the greatest at or below the upper one but not below the first. -/
def integerBounds (v : Option NumberValidator) : Int × Int :=
  let (l, u) := bounds v
  let lower := saturatingInt l.ceil
  (lower, max (saturatingInt u.floor) lower)

/-- A pattern with a leading `^` and a trailing unescaped `$` removed; a flag group at the
start without `:` stays in front. -/
def stripAnchors (pattern : String) : String :=
  let cs := pattern.toList
  let (flags, body) :=
    match cs with
    | '(' :: '?' :: rest =>
      match rest.idxOf? ')' with
      | some i => if (rest.take i).contains ':' then ([], cs) else (cs.take (i + 3), cs.drop (i + 3))
      | none => ([], cs)
    | _ => ([], cs)
  let body := match body with
    | '^' :: rest => rest
    | _ => body
  let body :=
    match body.getLast? with
    | some '$' =>
      let trimmed := body.dropLast
      if trimmed.getLast? == some '\\' then body else trimmed
    | _ => body
  String.ofList (flags ++ body)

/-- Every filler word has a character. -/
theorem length_pos_of_mem_lorem : ∀ w ∈ lorem, 0 < w.length := by decide

/-- A text with the `i`-th filler word, cycling, added after a space (none after an empty
text). -/
def addFiller (i : Nat) (text : String) : String :=
  (if text.isEmpty then text else text ++ " ") ++ lorem.getD (i % lorem.length) ""

/-- Adding a filler word lengthens a text. -/
theorem length_lt_addFiller (i : Nat) (text : String) : text.length < (addFiller i text).length := by
  have hi : i % lorem.length < lorem.length := Nat.mod_lt _ (by decide)
  have hWord : 0 < (lorem.getD (i % lorem.length) "").length := by
    rw [List.getD_eq_getElem?_getD, List.getElem?_eq_getElem hi, Option.getD_some]
    exact length_pos_of_mem_lorem _ (List.getElem_mem hi)
  have hSpace : " ".length = 1 := rfl
  unfold addFiller
  split <;> simp only [String.length_append, hSpace] <;> omega

/-- Filler words, cycling from the `i`-th, added to a text until it has at least `min`
characters. -/
def pad (min i : Nat) (text : String) : String :=
  if text.length ≥ min then text else pad min (i + 1) (addFiller i text)
termination_by min - text.length
decreasing_by have := length_lt_addFiller i text; omega

/-- A text fitted to a validator's lengths: padded with filler words up to the least, then
cut to the greatest. -/
def fitLength (text : String) (v : Option StringValidator) : String :=
  match v with
  | none => text
  | some v =>
    let text := match v.minLength with
      | some min => pad min 0 text
      | none => text
    match v.maxLength with
    | some max => if text.length > max then String.ofList (text.toList.take max) else text
    | none => text

/-- The first of `n` draws from a plan that the validator accepts. -/
def firstAccepted (v : StringValidator) (plan : Regex.Plan) : Nat → Draw (Option String)
  | 0 => pure none
  | n + 1 => do
    let text ← plan.draw
    match v.validate "$" text with
    | .ok () => pure (some text)
    | .error _ => firstAccepted v plan n

/-- The plan of a validator's pattern, anchors removed. -/
def patternPlan (v : StringValidator) : Option Regex.Plan := do
  let pattern ← v.inlinePattern
  let ast ← (Regex.parsePattern (stripAnchors pattern)).toOption
  let (hir, _) ← (Regex.translate {} ast).toOption
  Regex.Hir.plan maxRepeat hir

/-- A text drawn from a validator's pattern that the validator accepts, if one turns up. -/
def patternText (v : Option StringValidator) : Draw (Option String) :=
  match v with
  | none => pure none
  | some v =>
    match patternPlan v with
    | some plan => firstAccepted v plan attempts
    | none => pure none

/-- One to five filler words drawn at random, joined by spaces. -/
def words : Draw String := do
  let count ← intInclusive 32 1 5
  let rec pickWords : Nat → Draw (List String)
    | 0 => pure []
    | n + 1 => do
      let i ← intInclusive 64 0 (lorem.length - 1)
      let rest ← pickWords n
      pure (lorem.getD i.toNat "" :: rest)
  let ws ← pickWords count.toNat
  pure (" ".intercalate ws)

/-- A source of values: its mode, and the instant the empty mode gives DateTimes. -/
structure Source where
  mode : Mode
  now : Time.DateTime

namespace Source

/-- A Boolean. -/
def boolean (s : Source) : Draw Bool :=
  match s.mode with
  | .empty => pure false
  | .sample => Random.boolean

/-- A whole number within a field's bounds. -/
def integer (s : Source) (v : Option NumberValidator) : Draw Int :=
  let (lower, upper) := integerBounds v
  match s.mode with
  | .empty => pure (max lower (min 0 upper))
  | .sample => intInclusive 64 lower upper

/-- A double within a field's bounds; none where the sampler refuses bounds too far apart. -/
def double (s : Source) (v : Option NumberValidator) : Draw (Option Float) :=
  let (lower, upper) := bounds v
  match s.mode with
  | .empty => pure (some (if 0.0 < lower then lower else if upper < 0.0 then upper else 0.0))
  | .sample => if lower ≥ upper then pure (some lower) else floatInclusive lower upper

/-- A DateTime. -/
def dateTime (s : Source) : Draw Time.DateTime :=
  match s.mode with
  | .empty => pure s.now
  | .sample => do
    let k ← intInclusive 64 0 (sampleSeconds - 1)
    pure { seconds := sampleEpoch + k, nanos := 0, offset := 0 }

/-- A text for a field. -/
def string (s : Source) (v : Option StringValidator) : Draw String := do
  if let some text ← patternText v then return text
  match s.mode with
  | .empty => pure (fitLength "" v)
  | .sample => do
    let text ← words
    pure (fitLength text v)

/-- The index of an enumeration value among `n`. -/
def enumIndex (s : Source) (n : Nat) : Draw Nat :=
  match s.mode with
  | .empty => pure 0
  | .sample => do
    let i ← intInclusive 64 0 (Nat.max n 1 - 1)
    pure i.toNat

/-- The number of items of a list or entries of a map. -/
def arrayLength (s : Source) : Nat :=
  match s.mode with
  | .empty => 0
  | .sample => 1

/-- An identifier for an identified class. -/
def identifier (s : Source) (v : Option StringValidator) : Draw String := do
  if let some text ← patternText v then return text
  match s.mode with
  | .empty => pure (fitLength "0000" v)
  | .sample => do
    let n ← intInclusive 32 0 9999
    pure (fitLength (Time.padded 4 n.toNat) v)

end Source

end DomainModels.Generate
