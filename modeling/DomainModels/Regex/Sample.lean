import DomainModels.Regex.Hir
import DomainModels.Random.Uniform
/-! Random texts that a pattern matches. A pattern's meaning becomes a plan: a node repeats
its shape a number of times, the product of a fixed factor and of counts drawn from
uniform ranges, and a shape is a literal, a sequence of nodes, a choice between nodes or a
class of characters. A repetition multiplies into the node of its body, so `(a{2,3}){4}`
writes `a` four times a single drawn count. An unbounded repetition goes at most
`maxRepeat` past its least count.

Classes of ASCII characters, and classes of at most 64 characters, are listed and drawn by
index; a larger class draws an index into its characters counted without the surrogate
gap. Patterns with anchors or look-arounds, and classes that match nothing, have no
plan. -/
namespace DomainModels.Regex

open DomainModels.Random

mutual

/-- A node of a plan: its shape repeated `times` times the counts drawn from `counts`. -/
inductive Plan where
  | node (times : Nat) (counts : List Uniform) (shape : Shape)

/-- What a node writes once. -/
inductive Shape where
  | literal (text : String)
  | sequence (items : List Plan)
  | choice (index : Uniform) (choices : List Plan)
  | pick (index : Uniform) (chars : List Char)
  | spread (searcher : Uniform) (ranges : List (Nat × Nat))

end

instance : Inhabited Shape := ⟨.literal ""⟩

instance : Inhabited Plan := ⟨.node 1 [] default⟩

namespace Plan

/-- The plan that writes nothing. -/
def blank : Plan := .node 1 [] (.literal "")

/-- The text of a node written once, when it is a single literal. -/
def singleLiteral? : Plan → Option String
  | .node 1 [] (.literal text) => some text
  | _ => none

/-- The items of a node written once, when it is a single sequence. -/
def singleSequence? : Plan → Option (List Plan)
  | .node 1 [] (.sequence items) => some items
  | _ => none

/-- A sequence of nodes: nested single sequences are spliced in, and runs of single literals
are joined into one. No item is the blank plan; one item is the sequence itself. -/
def sequence (items : List Plan) : Plan :=
  let flat := items.flatMap fun p => (p.singleSequence?).getD [p]
  let (joined, pending) := flat.foldl (fun (acc : List Plan × String) p =>
    let (out, pending) := acc
    match p.singleLiteral? with
    | some text => (out, pending ++ text)
    | none =>
      let out := if pending.isEmpty then out else out ++ [.node 1 [] (.literal pending)]
      (out ++ [p], "")) ([], "")
  let joined := if pending.isEmpty then joined else joined ++ [.node 1 [] (.literal pending)]
  match joined with
  | [] => blank
  | [p] => p
  | many => .node 1 [] (.sequence many)

/-- The node repeated between `lower` and `upper` times. -/
def repeated (lower upper : Nat) : Plan → Plan
  | .node times counts shape =>
    if lower == upper then .node (times * upper) counts shape
    else .node times (counts ++ [Uniform.inclusive 32 lower upper]) shape

end Plan

/-- The ranges of a class with the surrogate gap cut out of any range that spans it. -/
def splitSurrogates (ranges : List (Nat × Nat)) : List (Nat × Nat) :=
  ranges.flatMap fun (a, b) =>
    if a < 0xD800 && 0xDFFF < b then [(a, 0xD7FF), (0xE000, b)] else [(a, b)]

/-- Each range as its first index among the class's characters and the offset from that
index to its first character. -/
def indexRanges (ranges : List (Nat × Nat)) : List (Nat × Nat) × Nat :=
  ranges.foldl (fun (acc : List (Nat × Nat) × Nat) (a, b) =>
    let (out, total) := acc
    (out ++ [(total, a - total)], total + (b - a + 1))) ([], 0)

/-- The characters of ranges, in order. -/
def rangeChars (ranges : List (Nat × Nat)) : List Char :=
  ranges.flatMap fun (a, b) => (List.range (b + 1 - a)).map fun i => Char.ofNat (a + i)

/-- The plan of a class: none for the empty class. -/
def classPlan (set : CharSet) : Option Plan :=
  if set.isEmpty then none
  else if set.ranges.all (fun r => r.2 ≤ 0x7F) then
    let chars := rangeChars set.ranges
    some (.node 1 [] (.pick (Uniform.exclusive 64 0 chars.length) chars))
  else
    let ranges := splitSurrogates set.ranges
    let (indexed, total) := indexRanges ranges
    if total ≤ 64 then
      let chars := rangeChars ranges
      some (.node 1 [] (.pick (Uniform.exclusive 64 0 chars.length) chars))
    else some (.node 1 [] (.spread (Uniform.exclusive 32 0 total) indexed))

mutual

/-- The plan of an expression, with unbounded repetitions going at most `maxRepeat` past
their least count. -/
def Hir.plan (maxRepeat : Nat) : Hir → Option Plan
  | .empty => some Plan.blank
  | .look _ => none
  | .capture _ _ sub => Hir.plan maxRepeat sub
  | .literal cs => some (.node 1 [] (.literal (String.ofList cs)))
  | .cls set => classPlan set
  | .repetition lower upper _ sub =>
    let upper := upper.getD (lower + maxRepeat)
    if upper == 0 then some Plan.blank
    else (Hir.plan maxRepeat sub).map (Plan.repeated lower upper)
  | .concat subs => (Hir.planAll maxRepeat subs).map Plan.sequence
  | .alternation subs =>
    (Hir.planAll maxRepeat subs).map fun choices =>
      .node 1 [] (.choice (Uniform.exclusive 64 0 choices.length) choices)

/-- The plans of expressions, if each has one. -/
def Hir.planAll (maxRepeat : Nat) : List Hir → Option (List Plan)
  | [] => some []
  | h :: rest => do
    let p ← Hir.plan maxRepeat h
    let ps ← Hir.planAll maxRepeat rest
    pure (p :: ps)

end

/-- A drawing made `n` times in turn, the texts joined. -/
def drawTimes (d : Draw String) : Nat → Draw String
  | 0 => pure ""
  | n + 1 => do
    let first ← d
    let rest ← drawTimes d n
    pure (first ++ rest)

/-- The character at an index of a class counted without the surrogate gap: the index
shifted by the offset of the last range that starts at or before it. -/
def spreadChar (ranges : List (Nat × Nat)) (index : Nat) : Char :=
  let offset := (ranges.filter (fun r => r.1 ≤ index)).getLast?.map Prod.snd
  Char.ofNat (index + offset.getD 0)

/-- The number of times a node is written: its factor times a count from each range,
drawn in order. -/
def drawCount (times : Nat) (counts : List Uniform) : Draw Nat :=
  counts.foldlM (fun n u => do
    let k ← u.sample
    pure (n * k.toNat)) times

mutual

/-- Draw a text from a plan. -/
def Plan.draw : Plan → Draw String
  | .node times counts shape => do
    let n ← drawCount times counts
    Shape.draw shape n

/-- Draw a shape `n` times. -/
def Shape.draw : Shape → Nat → Draw String
  | .literal text, n => pure (String.join (List.replicate n text))
  | .sequence items, n => drawTimes (Plan.drawAll items) n
  | .choice index choices, n =>
    let options := Plan.drawEach choices
    drawTimes (do
      let i ← index.sample
      options.getD i.toNat (pure "")) n
  | .pick index chars, n =>
    drawTimes (do
      let i ← index.sample
      pure (String.singleton (chars.getD i.toNat ' '))) n
  | .spread searcher ranges, n =>
    drawTimes (do
      let i ← searcher.sample
      pure (String.singleton (spreadChar ranges i.toNat))) n

/-- Draw from plans in turn, the texts joined. -/
def Plan.drawAll : List Plan → Draw String
  | [] => pure ""
  | p :: rest => do
    let first ← Plan.draw p
    let others ← Plan.drawAll rest
    pure (first ++ others)

/-- The drawings of plans. -/
def Plan.drawEach : List Plan → List (Draw String)
  | [] => []
  | p :: rest => Plan.draw p :: Plan.drawEach rest

end

end DomainModels.Regex
