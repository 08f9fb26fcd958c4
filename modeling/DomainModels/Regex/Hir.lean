import DomainModels.Regex.CharSet
/-! The meaning of a pattern as a small expression language: literals, classes of
characters, zero-width looks, repetitions, captures, sequences and alternatives. Built only
through the constructors below, expressions stay simplified: sequences are flat with adjacent
literals joined, alternatives of single characters or of classes become one class, a common
prefix of alternatives is factored out, and repetitions that can only match the empty text
repeat at most once. -/
namespace DomainModels.Regex

/-- Zero-width conditions on the text around a position. -/
inductive Look where
  | start
  | stop
  | startLF
  | stopLF
  | startCRLF
  | stopCRLF
  | wordAscii
  | wordAsciiNegate
  | wordUnicode
  | wordUnicodeNegate
  | wordStartAscii
  | wordEndAscii
  | wordStartUnicode
  | wordEndUnicode
  | wordStartHalfAscii
  | wordEndHalfAscii
  | wordStartHalfUnicode
  | wordEndHalfUnicode
  deriving Repr, DecidableEq, BEq

/-- A simplified regular expression. -/
inductive Hir where
  | empty
  | literal (chars : List Char)
  | cls (set : CharSet)
  | look (look : Look)
  | repetition (min : Nat) (max : Option Nat) (greedy : Bool) (sub : Hir)
  | capture (index : Nat) (name : Option String) (sub : Hir)
  | concat (subs : List Hir)
  | alternation (subs : List Hir)
  deriving BEq, Repr, Inhabited

namespace Hir

/-- The expression that never matches. -/
def fail : Hir := .cls CharSet.empty

/-- The number of bytes a scalar value takes in UTF-8. -/
def utf8Width (c : Nat) : Nat :=
  if c < 0x80 then 1 else if c < 0x800 then 2 else if c < 0x10000 then 3 else 4

mutual
/-- The longest text, in bytes, an expression can match; `none` when unbounded or when it
matches nothing. -/
def maxLength : Hir → Option Nat
  | .empty => some 0
  | .literal cs => some (cs.foldl (fun acc c => acc + c.utf8Size) 0)
  | .cls s => (s.ranges.getLast?).map fun r => utf8Width r.2
  | .look _ => some 0
  | .repetition _ max _ sub => max.bind fun n => (maxLength sub).map (· * n)
  | .capture _ _ sub => maxLength sub
  | .concat subs => maxLengthSum subs
  | .alternation subs => maxLengthMax subs

/-- The sum of the longest lengths of a sequence. -/
def maxLengthSum : List Hir → Option Nat
  | [] => some 0
  | h :: rest => do let a ← maxLength h; let b ← maxLengthSum rest; pure (a + b)

/-- The largest of the longest lengths of alternatives. -/
def maxLengthMax : List Hir → Option Nat
  | [] => none
  | [h] => maxLength h
  | h :: rest => do let a ← maxLength h; let b ← maxLengthMax rest; pure (max a b)
end

/-- An expression for a class: a literal for a single character, `fail` for none. -/
def ofClass (s : CharSet) : Hir :=
  if s.isEmpty then fail
  else
    match s.singleValue? with
    | some c => .literal [Char.ofNat c]
    | none => .cls s

/-- An expression for a literal; the empty literal is the empty expression. -/
def ofLiteral (cs : List Char) : Hir := if cs.isEmpty then .empty else .literal cs

/-- A repetition, simplified: `x{0}` is empty, `x{1}` is `x`, and an expression that only
matches the empty text repeats at most once. -/
def repeated (min : Nat) (max : Option Nat) (greedy : Bool) (sub : Hir) : Hir :=
  let (min, max) :=
    if maxLength sub == some 0 then (Nat.min min 1, some ((max.map (Nat.min · 1)).getD 1))
    else (min, max)
  if min == 0 && max == some 0 then .empty
  else if min == 1 && max == some 1 then sub
  else .repetition min max greedy sub

/-- The items of a sequence, nested sequences flattened one level and empties dropped, with
adjacent literals joined. -/
def joinItems (subs : List Hir) : List Hir :=
  let flat := subs.flatMap fun h =>
    match h with
    | .concat inner => inner
    | .empty => []
    | other => [other]
  let (items, pending) := flat.foldl (fun (acc : List Hir × List Char) h =>
    let (items, pending) := acc
    match h with
    | .literal cs => (items, pending ++ cs)
    | .empty => (items, pending)
    | other =>
      let items := if pending.isEmpty then items else items ++ [.literal pending]
      (items ++ [other], [])) ([], [])
  if pending.isEmpty then items else items ++ [.literal pending]

/-- A sequence of expressions. -/
def sequence (subs : List Hir) : Hir :=
  match joinItems subs with
  | [] => .empty
  | [h] => h
  | items => .concat items

/-- The single character of a one-character literal. -/
def singleChar? : Hir → Option Char
  | .literal [c] => some c
  | _ => none

/-- The set of a class. -/
def classSet? : Hir → Option CharSet
  | .cls s => some s
  | _ => none

/-- The length of the longest common prefix of two lists of expressions. -/
def commonPrefix : List Hir → List Hir → Nat
  | a :: as, b :: bs => if a == b then commonPrefix as bs + 1 else 0
  | _, _ => 0

/-- The length of the prefix shared by sequences, when every alternative is a sequence and
they share at least one item. -/
def sharedPrefix (alts : List Hir) : Option Nat :=
  match alts with
  | [] | [_] => none
  | .concat first :: rest =>
    rest.foldl (fun (acc : Option Nat) h =>
      acc.bind fun n =>
        match h with
        | .concat items =>
          let k := commonPrefix (first.take n) items
          if k == 0 then none else some k
        | _ => none) (if first.isEmpty then none else some first.length)
  | _ => none

/-- A choice between expressions, simplified. The fuel bounds the nested factoring of
common prefixes; each round works on strictly smaller alternatives. -/
def choice : Nat → List Hir → Hir
  | 0, alts => .alternation alts
  | fuel + 1, subs =>
    let alts := subs.flatMap fun h =>
      match h with
      | .alternation inner => inner
      | other => [other]
    match alts with
    | [] => fail
    | [h] => h
    | _ =>
      match alts.mapM singleChar? with
      | some cs => ofClass (CharSet.canonical (cs.map fun c => (c.toNat, c.toNat)))
      | none =>
        match alts.mapM classSet? with
        | some sets => ofClass (CharSet.unionAll sets)
        | none =>
          match sharedPrefix alts with
          | some n =>
            let head := match alts with
              | .concat items :: _ => items.take n
              | _ => []
            let suffixes := alts.map fun h =>
              match h with
              | .concat items => sequence (items.drop n)
              | other => other
            sequence (head ++ [choice fuel suffixes])
          | none => .alternation alts

/-- The number of nodes of an expression, a bound on how often choices can be factored. -/
def size : Hir → Nat
  | .repetition _ _ _ sub => size sub + 1
  | .capture _ _ sub => size sub + 1
  | .concat subs => (subs.attach.map fun ⟨h, _⟩ => size h).foldr (· + ·) 0 + 1
  | .alternation subs => (subs.attach.map fun ⟨h, _⟩ => size h).foldr (· + ·) 0 + 1
  | _ => 1

/-- A choice between expressions, simplified. -/
def alternatives (subs : List Hir) : Hir :=
  choice ((subs.map size).foldr (· + ·) 0 + 2) subs

end Hir

end DomainModels.Regex
