import DomainModels.Random.ChaCha
/-! Uniform choices from a random stream, drawn the way a widely used family of samplers
draws them, so that a seed gives the same values. -/
namespace DomainModels.Random

/-- A computation drawing from a random stream. -/
abbrev Draw := StateM ChaCha

/-- Draw a 32-bit word. -/
def nextU32 : Draw UInt32 := modifyGet ChaCha.nextU32

/-- Draw a 64-bit word. -/
def nextU64 : Draw UInt64 := modifyGet ChaCha.nextU64

/-- Draw a word of `width` bits, 32 or 64. -/
def nextWord (width : Nat) : Draw Nat :=
  if width == 32 then (·.toNat) <$> nextU32 else (·.toNat) <$> nextU64

/-- The number of leading zero bits of a nonzero number below `2^width`. -/
def leadingZeros (width n : Nat) : Nat := width - Nat.log2 n - 1

/-- Draw words until one falls in the zone, and give `low` plus the high half of the
product. A word is refused with probability below one half, so the fuel of 64 draws is
exhausted with probability below `2^-64`; `low` is the answer then. -/
def multiplyReject (width : Nat) (low : Int) (range zone : Nat) : Nat → Draw Int
  | 0 => pure low
  | fuel + 1 => do
    let v ← nextWord width
    let product := v * range
    if product % Nat.pow 2 width ≤ zone then pure (low + (product / Nat.pow 2 width : Nat))
    else multiplyReject width low range zone fuel

/-- The number of `[low, low + 2^width)` that a word of `width` bits stands for: the word
itself in an unsigned range, the word read in two's complement in a signed one. -/
def wrapWord (width : Nat) (low : Int) (v : Nat) : Int :=
  low + ((v : Int) - low) % (Nat.pow 2 width : Int)

/-- A whole number in `[low, high]`, drawn once with words of `width` bits by
multiply-and-reject; a range of all `2^width` values takes the word as its number. -/
def intInclusive (width : Nat) (low high : Int) : Draw Int :=
  let range := (high - low + 1).toNat % Nat.pow 2 width
  if range == 0 then do
    let v ← nextWord width
    pure (wrapWord width low v)
  else
    let zone := (range * Nat.pow 2 (leadingZeros width range)) % Nat.pow 2 width + Nat.pow 2 width - 1
    multiplyReject width low range (zone % Nat.pow 2 width) 64

/-- A prepared uniform distribution over whole numbers in `[low, low + range)`, drawn
with words of `width` bits; a range of zero stands for all `2^width` values. -/
structure Uniform where
  width : Nat
  low : Int
  range : Nat
  deriving Repr, Inhabited

namespace Uniform

/-- The distribution over `[low, high]`. -/
def inclusive (width : Nat) (low high : Int) : Uniform :=
  { width, low, range := (high - low + 1).toNat % Nat.pow 2 width }

/-- The distribution over `[low, high)`. -/
def exclusive (width : Nat) (low high : Int) : Uniform := inclusive width low (high - 1)

/-- Draw from the distribution. -/
def sample (u : Uniform) : Draw Int :=
  if u.range == 0 then do
    let v ← nextWord u.width
    pure (wrapWord u.width u.low v)
  else
    let reject := (Nat.pow 2 u.width - u.range) % u.range
    multiplyReject u.width u.low u.range (Nat.pow 2 u.width - 1 - reject) 64

end Uniform

/-- A random Boolean: the top bit of a 32-bit word. -/
def boolean : Draw Bool := do
  let v ← nextU32
  pure (v >>> 31 == 1)

/-- The double in `[1, 2)` whose fraction is the top 52 bits of a word. -/
def unitInterval (v : UInt64) : Float := Float.ofBits ((v >>> 12) ||| ((1023 : UInt64) <<< 52))

/-- The largest scale that keeps `low + scale * (1 - 2^-52)` at most `high`, found from
`(high - low) / (1 - 2^-52)` by stepping down one unit in the last place at a time; none
when that quotient is not finite, a range the sampler refuses. -/
def floatScale (low high : Float) : Option Float :=
  let maxRand := unitInterval 0xFFFFFFFFFFFFFFFF - 1.0
  let rec shrink : Nat → Float → Float
    | 0, scale => scale
    | fuel + 1, scale =>
      if scale * maxRand + low ≤ high then scale
      else shrink fuel (Float.ofBits (scale.toBits - 1))
  let scale := (high - low) / maxRand
  if scale.isFinite then some (shrink 64 scale) else none

/-- A double in `[low, high]`, none for a range too wide to scale. -/
def floatInclusive (low high : Float) : Draw (Option Float) :=
  match floatScale low high with
  | some scale => do
    let v ← nextU64
    pure (some ((unitInterval v - 1.0) * scale + low))
  | none => pure none

end DomainModels.Random
