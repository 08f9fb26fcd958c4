/-! The Jaro similarity of two texts, a number between zero and one. Two characters match
when they are equal, the second one unmatched so far, and their positions differ by less
than half the longer length; each character of the first text takes the first such
partner. Of the matched characters taken in order in both texts, half of those that
disagree count as transpositions. With `m` matches and `t` transpositions the similarity
is the mean of `m / |a|`, `m / |b|` and `(m - t) / m`; without matches it is zero, and
two empty texts are equal. -/
namespace DomainModels.Text

/-- The first position at or after `low` and before `high` where `b` holds `c` and is not
taken yet. -/
def partner? (b : Array Char) (taken : Array Bool) (c : Char) (low high : Nat) : Option Nat :=
  ((List.range (high - low)).map (· + low)).find? fun j =>
    b.getD j ' ' == c && !taken.getD j true

/-- The matched characters of `a` and which positions of `b` are matched. -/
def matchJaro (a b : Array Char) : List Char × Array Bool :=
  let window := (max a.size b.size / 2) - 1
  (List.range a.size).foldl (fun (acc : List Char × Array Bool) i =>
    let c := a.getD i ' '
    let low := i - window
    let high := min b.size (i + window + 1)
    match partner? b acc.2 c low high with
    | some j => (acc.1 ++ [c], acc.2.set! j true)
    | none => acc) ([], Array.replicate b.size false)

/-- The Jaro similarity of two texts. -/
def jaro (x y : String) : Float :=
  let a := x.toList.toArray
  let b := y.toList.toArray
  if a.size == 0 && b.size == 0 then 1.0
  else if a.size == 0 || b.size == 0 then 0.0
  else
    let (fromA, taken) := matchJaro a b
    let fromB := (List.range b.size).filterMap fun j => if taken.getD j false then b[j]? else none
    let m := fromA.length
    let halfTranspositions := ((fromA.zip fromB).filter fun (p, q) => p != q).length / 2
    if m == 0 then 0.0
    else
      let mf := m.toFloat
      (mf / a.size.toFloat + mf / b.size.toFloat + (m - halfTranspositions).toFloat / mf) / 3.0

/-- The candidates more similar to a text than seven in ten, least similar first. -/
def similarTo (text : String) (candidates : List String) : List String :=
  let scored := candidates.filterMap fun c =>
    let s := jaro text c
    if s > 0.7 then some (s, c) else none
  (scored.mergeSort fun p q => p.1 ≤ q.1).map Prod.snd

end DomainModels.Text
