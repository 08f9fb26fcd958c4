import DomainModels.Decimal.Shortest
/-! Laying out the shortest digits of a double as text. A `Notation` records every
decision a format makes: how ties between candidates go, how many digits may stand before
the point and how many zeros after it before the exponent form takes over, and whether an
integral value keeps a `.0`. -/
namespace DomainModels.Decimal

/-- The decisions of one textual format for doubles. -/
structure Notation where
  /-- how an exact tie between two shortest candidates is broken -/
  tie : Tie
  /-- the most digits written before the point positionally; `none` for no limit -/
  plainDigits : Option Nat
  /-- the most zeros written between the point and the first digit; `none` for no limit -/
  leadingZeros : Option Nat
  /-- an integral value written positionally keeps a trailing `.0` -/
  pointZero : Bool
  /-- a non-negative exponent carries a `+` -/
  plusExponent : Bool := false

/-- `n` copies of the digit zero. -/
def zeros (n : Nat) : String := String.ofList (List.replicate n '0')

/-- The decimal digits of a natural number. -/
def natDigits (n : Nat) : String := String.ofList (Nat.toDigits 10 n)

/-- A limit that may be absent admits every count when it is. -/
def withinLimit (limit : Option Nat) (n : Nat) : Bool :=
  match limit with
  | none => true
  | some bound => n ≤ bound

/-- The text of a non-negative decimal with at least one significant digit: positional
when the point falls within the limits of the notation, else one digit, an optional
fraction and a signed exponent (`1e20`, `1.5e-7`). -/
def Notation.layout (n : Notation) (d : Dec) : String :=
  let s := natDigits d.digits
  let len := s.length
  let kk : Int := (len : Int) + d.exp
  if 0 < kk ∧ withinLimit n.plainDigits kk.toNat then
    if 0 ≤ d.exp then
      s ++ zeros d.exp.toNat ++ (if n.pointZero then ".0" else "")
    else
      String.ofList (s.toList.take kk.toNat) ++ "." ++ String.ofList (s.toList.drop kk.toNat)
  else if kk ≤ 0 ∧ withinLimit n.leadingZeros (-kk).toNat then
    "0." ++ zeros (-kk).toNat ++ s
  else
    let head := String.ofList (s.toList.take 1)
    let tail := String.ofList (s.toList.drop 1)
    let e := kk - 1
    let sign := if e < 0 then "-" else if n.plusExponent then "+" else ""
    head ++ (if tail.isEmpty then "" else "." ++ tail) ++ "e" ++ sign ++ toString e.natAbs

/-- The sign bit of a double. -/
def signBit (x : Float) : Bool := (x.toBits >>> 63) == 1

/-- The text of a double in this notation. NaN is `NaN` and the infinities `inf` and
`-inf`; zero keeps its sign. -/
def Notation.render (n : Notation) (x : Float) : String :=
  if x.isNaN then "NaN"
  else if x.isInf then (if signBit x then "-inf" else "inf")
  else
    let sign := if signBit x then "-" else ""
    let d := (Binary.ofBits (x.toBits &&& 0x7FFFFFFFFFFFFFFF)).shortest n.tie
    if d.digits = 0 then sign ++ "0" ++ (if n.pointZero then ".0" else "")
    else sign ++ n.layout d

/-- The notation of doubles in messages: always positional, shortest digits with ties
rounded up, and no `.0` on integral values (`5`, `0.1`, `1e21` as `1000000000000000000000`). -/
def Notation.display : Notation :=
  { tie := .up, plainDigits := none, leadingZeros := none, pointZero := false }

/-- A double as messages show it. -/
def displayFloat (x : Float) : String := Notation.display.render x

end DomainModels.Decimal
