import DomainModels.Text.Unicode.Fold
/-! Sets of Unicode scalar values, kept canonical: sorted, disjoint closed ranges that do not
touch. Canonical form makes two equal sets equal as values, so classes can be compared and
merged structurally. The successor and predecessor of a scalar skip the surrogate block, as
complements of classes of characters must. -/
namespace DomainModels.Regex

/-- A set of scalar values as canonical ranges. -/
structure CharSet where
  ranges : List (Nat × Nat)
  deriving BEq, DecidableEq, Repr, Inhabited

namespace CharSet

/-- The largest scalar value. -/
def maxScalar : Nat := 0x10FFFF

/-- The next scalar value. -/
def successor (c : Nat) : Nat := if c == 0xD7FF then 0xE000 else c + 1

/-- The previous scalar value. -/
def predecessor (c : Nat) : Nat := if c == 0xE000 then 0xD7FF else c - 1

/-- A range from two bounds in either order. -/
def span (a b : Nat) : Nat × Nat := if a ≤ b then (a, b) else (b, a)

/-- Join sorted ranges that overlap or touch. -/
def mergeSorted : List (Nat × Nat) → List (Nat × Nat)
  | [] => []
  | [r] => [r]
  | r :: s :: rest =>
    if s.1 ≤ r.2 + 1 then mergeSorted ((r.1, max r.2 s.2) :: rest)
    else r :: mergeSorted (s :: rest)
termination_by l => l.length

/-- The canonical form of any list of ranges. -/
def canonical (rs : List (Nat × Nat)) : CharSet :=
  ⟨mergeSorted (rs.mergeSort fun a b => a.1 < b.1 || (a.1 == b.1 && a.2 ≤ b.2))⟩

/-- The empty set. -/
def empty : CharSet := ⟨[]⟩

/-- Every scalar value. -/
def full : CharSet := ⟨[(0, maxScalar)]⟩

/-- One scalar value. -/
def single (c : Nat) : CharSet := ⟨[(c, c)]⟩

/-- The scalar values between two bounds. -/
def ofRange (a b : Nat) : CharSet := ⟨[span a b]⟩

/-- Whether the set is empty. -/
def isEmpty (s : CharSet) : Bool := s.ranges.isEmpty

/-- Whether a scalar value is in the set. -/
def contains (s : CharSet) (c : Nat) : Bool := s.ranges.any fun r => r.1 ≤ c && c ≤ r.2

/-- The union of two sets. -/
def union (a b : CharSet) : CharSet := canonical (a.ranges ++ b.ranges)

/-- The union of many sets. -/
def unionAll (sets : List CharSet) : CharSet := canonical (sets.flatMap CharSet.ranges)

/-- The gaps between ranges, from `next` on. -/
def gaps (next : Nat) : List (Nat × Nat) → List (Nat × Nat)
  | [] => if next ≤ maxScalar then [(next, maxScalar)] else []
  | r :: rest => span next (predecessor r.1) :: gaps (successor r.2) rest

/-- The complement of a set. -/
def negate (s : CharSet) : CharSet :=
  match s.ranges with
  | [] => full
  | r :: rest =>
    let before := if r.1 > 0 then [(0, predecessor r.1)] else []
    let last := (rest.getLast?).getD r
    let between := (rest.zip (r :: rest)).map fun (cur, prev) => span (successor prev.2) (predecessor cur.1)
    let after := if last.2 < maxScalar then [(successor last.2, maxScalar)] else []
    ⟨before ++ between ++ after⟩

/-- The intersection of two sets. -/
def intersect (a b : CharSet) : CharSet :=
  canonical (a.ranges.flatMap fun x => b.ranges.filterMap fun y =>
    if max x.1 y.1 ≤ min x.2 y.2 then some (max x.1 y.1, min x.2 y.2) else none)

/-- One range without the sorted ranges of another set. -/
def subtractRange (lo hi : Nat) : List (Nat × Nat) → List (Nat × Nat)
  | [] => [(lo, hi)]
  | (blo, bhi) :: rest =>
    if bhi < lo then subtractRange lo hi rest
    else if blo > hi then [(lo, hi)]
    else
      let left := if blo > lo then [(lo, predecessor blo)] else []
      let right := if bhi < hi then subtractRange (successor bhi) hi rest else []
      left ++ right

/-- The values of `a` not in `b`. -/
def difference (a b : CharSet) : CharSet :=
  canonical (a.ranges.flatMap fun x => subtractRange x.1 x.2 b.ranges)

/-- The values in exactly one of two sets. -/
def symmetricDifference (a b : CharSet) : CharSet :=
  difference (union a b) (intersect a b)

/-- The first index of the case folding table whose code point is at least `lo`. -/
def foldIndex (lo : Nat) : Nat :=
  go 40 0 Text.Unicode.foldClasses.size
where
  go : Nat → Nat → Nat → Nat
    | 0, a, _ => a
    | fuel + 1, a, b =>
      if a < b then
        let mid := (a + b) / 2
        match Text.Unicode.foldClasses[mid]? with
        | some (c, _) => if c < lo then go fuel (mid + 1) b else go fuel a mid
        | none => a
      else a

/-- The code points of the folding table within a range, with their case classes. -/
def foldEntries (lo hi : Nat) : List (List Nat) :=
  ((Text.Unicode.foldClasses.toList.drop (foldIndex lo)).takeWhile (·.1 ≤ hi)).map Prod.snd

/-- Close a set under simple case folding. -/
def caseFold (s : CharSet) : CharSet :=
  canonical (s.ranges ++ s.ranges.flatMap fun r => (foldEntries r.1 r.2).flatten.map fun c => (c, c))

/-- Whether case folding adds anything to a single value. -/
def hasFold (c : Nat) : Bool := (Text.Unicode.caseClass c).length > 1

/-- The number of scalar values in the set. -/
def count (s : CharSet) : Nat := s.ranges.foldl (fun acc r => acc + (r.2 - r.1 + 1)) 0

/-- The one value of a single-valued set. -/
def singleValue? (s : CharSet) : Option Nat :=
  match s.ranges with
  | [(a, b)] => if a == b then some a else none
  | _ => none

end CharSet

end DomainModels.Regex
