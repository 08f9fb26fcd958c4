/-! Shortest decimal digits of a binary64 value. A finite value stands for the interval
of reals that round to it; the selected decimal lies in that interval, has the fewest
significant digits of any decimal there, and of two candidates of that length the one
nearer the value wins, an exact tie going as the caller's `Tie` says. All arithmetic is
exact over `Nat` and `Int`. -/
namespace DomainModels.Decimal

/-- A finite non-negative binary64 magnitude `m * 2^q`. At a power of two above the
smallest normal exponent the neighbour below is half as far away as the one above,
which `narrowBelow` records. -/
structure Binary where
  m : Nat
  q : Int
  narrowBelow : Bool

/-- The magnitude carried by the bits of a finite value; NaN and the infinities are
tested for before this is called. -/
def Binary.ofBits (b : UInt64) : Binary :=
  let e := ((b >>> 52) &&& 0x7FF).toNat
  let f := (b &&& 0xFFFFFFFFFFFFF).toNat
  if e == 0 then ⟨f, -1074, false⟩ else ⟨Nat.pow 2 52 + f, (e : Int) - 1075, f == 0 && e > 1⟩

/-- A decimal `digits * 10^exp`. -/
structure Dec where
  digits : Nat
  exp : Int
  deriving Repr, DecidableEq

/-- How an exact tie between two candidates of the same length is broken. -/
inductive Tie where
  /-- the candidate with an even last digit -/
  | toEven
  /-- the larger candidate -/
  | up
  deriving Repr, DecidableEq

/-- Compare `a * 10^i` with `n * 2^j` exactly. -/
def cmpScaled (a : Nat) (i : Int) (n : Nat) (j : Int) : Ordering :=
  compare (a * Nat.pow 10 i.toNat * Nat.pow 2 (-j).toNat) (n * Nat.pow 2 j.toNat * Nat.pow 10 (-i).toNat)

/-- The decimal lies among the reals that round to `x` (to nearest, ties to even): strictly
between the two half-way points to the neighbours, or on one of them when `m` is even. -/
def Binary.readsBack (x : Binary) (d : Dec) : Bool :=
  let lo := if x.narrowBelow then 4 * x.m - 1 else 4 * x.m - 2
  let hi := 4 * x.m + 2
  let incl := x.m % 2 == 0
  let cl := cmpScaled d.digits d.exp lo (x.q - 2)
  let ch := cmpScaled d.digits d.exp hi (x.q - 2)
  (cl == .gt || (incl && cl == .eq)) && (ch == .lt || (incl && ch == .eq))

/-- `⌊m * 2^q / 10^g⌋`, exactly. -/
def floorOnGrid (m : Nat) (q g : Int) : Nat :=
  (m * Nat.pow 2 q.toNat * Nat.pow 10 (-g).toNat) / (Nat.pow 2 (-q).toNat * Nat.pow 10 g.toNat)

/-- The least `k` with `m * 2^q < 10^k`, searched near the estimate from the binary
logarithm; `m` is positive. -/
def Binary.scale (x : Binary) : Int :=
  let est : Int := ((Nat.log2 x.m : Int) + x.q) * 30103 / 100000
  let candidates := (List.range 7).map fun (i : Nat) => est - 2 + (i : Int)
  match candidates.find? (fun k => cmpScaled 1 k x.m x.q == .gt) with
  | some k => k
  | none => est + 5

/-- Move trailing zeros of the digits into the exponent. -/
def Dec.strip (d : Dec) : Dec :=
  go d.digits.log2.succ d
where
  go : Nat → Dec → Dec
    | 0, d => d
    | fuel + 1, d =>
      if d.digits ≠ 0 ∧ d.digits % 10 = 0 then go fuel ⟨d.digits / 10, d.exp + 1⟩ else d

/-- Of the two neighbours of `x` on the grid `10^g`, the ones that read back, the nearer
first; `none` when neither does. -/
def Binary.pickOnGrid (x : Binary) (tie : Tie) (g : Int) : Option Dec :=
  let low := floorOnGrid x.m x.q g
  let a : Dec := ⟨low, g⟩
  let b : Dec := ⟨low + 1, g⟩
  match x.readsBack a, x.readsBack b with
  | false, false => none
  | true, false => some a
  | false, true => some b
  | true, true =>
    -- compare the value with the midpoint of the two candidates: 2v against (2 low + 1) 10^g
    match cmpScaled (2 * low + 1) g (2 * x.m) x.q with
    | .lt => some b
    | .gt => some a
    | .eq =>
      match tie with
      | .up => some b
      | .toEven => if low % 2 == 0 then some a else some b

/-- The exact decimal value of `m * 2^q`. -/
def Binary.exact (x : Binary) : Dec :=
  if x.q ≥ 0 then ⟨x.m * Nat.pow 2 x.q.toNat, 0⟩
  else ⟨x.m * Nat.pow 5 (-x.q).toNat, x.q⟩

/-- The fewest significant digits that read back as `x`; zero is `0 * 10^0`. -/
def Binary.shortest (x : Binary) (tie : Tie) : Dec :=
  if x.m = 0 then ⟨0, 0⟩
  else
    let k := x.scale
    let grids := (List.range 17).map fun (n : Nat) => k - 1 - (n : Int)
    match grids.findSome? (x.pickOnGrid tie) with
    | some d => d.strip
    | none => x.exact.strip


end DomainModels.Decimal
