import DomainModels.Regex.Hir
import DomainModels.Regex.Parse
import DomainModels.Regex.Property
/-! From syntax to meaning. Flags are scoped: a flag group `(?i)` holds to the end of the
enclosing group, across later alternatives too, and a group `(?i:...)` only inside itself.
Case-insensitive literals and classes are closed under simple case folding, folding before
negation. Outside Unicode mode, classes are of ASCII bytes, and anything that could match
a byte that is not ASCII is refused, since matched texts are always valid UTF-8. -/
namespace DomainModels.Regex

/-- The flags in force while translating. -/
structure Mode where
  caseInsensitive : Bool := false
  multiLine : Bool := false
  dotMatchesNewLine : Bool := false
  swapGreed : Bool := false
  unicode : Bool := true
  crlf : Bool := false
  deriving Repr, DecidableEq, Inhabited

/-- The mode after a flag group. -/
def Mode.apply (m : Mode) (fs : Flags) : Mode :=
  let (m, _) := fs.items.foldl (fun (acc : Mode × Bool) item =>
    let (m, enable) := acc
    match item.2 with
    | .negation => (m, false)
    | .flag .caseInsensitive => ({ m with caseInsensitive := enable }, enable)
    | .flag .multiLine => ({ m with multiLine := enable }, enable)
    | .flag .dotMatchesNewLine => ({ m with dotMatchesNewLine := enable }, enable)
    | .flag .swapGreed => ({ m with swapGreed := enable }, enable)
    | .flag .unicode => ({ m with unicode := enable }, enable)
    | .flag .crlf => ({ m with crlf := enable }, enable)
    | .flag .ignoreWhitespace => (m, enable)) (m, true)
  m

/-- A computation of the high-level form that may fail with a pattern error. -/
abbrev Lowering := Except PatternError

/-- Fail at a span. -/
def refuse {α : Type} (kind : ErrorKind) (span : Span) : Lowering α := .error { kind, span }

/-- The byte values. -/
def byteUniverse : CharSet := CharSet.ofRange 0 0xFF

/-- The complement of a class: of all characters, or of all bytes outside Unicode mode. -/
def complement (m : Mode) (s : CharSet) : CharSet :=
  if m.unicode then s.negate else s.negate.intersect byteUniverse

/-- Case folding of a class: full simple folding, or ASCII letters only outside Unicode mode. -/
def foldCase (m : Mode) (s : CharSet) : CharSet :=
  if m.unicode then s.caseFold
  else
    let lower := s.intersect (CharSet.ofRange 0x61 0x7A)
    let upper := s.intersect (CharSet.ofRange 0x41 0x5A)
    CharSet.unionAll [s, ⟨lower.ranges.map fun r => (r.1 - 32, r.2 - 32)⟩,
      ⟨upper.ranges.map fun r => (r.1 + 32, r.2 + 32)⟩]

/-- Fold when case-insensitive, then negate when asked. -/
def foldNegate (m : Mode) (negated : Bool) (s : CharSet) : CharSet :=
  let s := if m.caseInsensitive then foldCase m s else s
  if negated then complement m s else s

/-- A class of a lookup by name. -/
def unicodeSet (m : Mode) (span : Span) (negated : Bool) (kind : UnicodeKind) : Lowering CharSet := do
  if !m.unicode then refuse .unicodeNotAllowed span
  let found := match kind with
    | .oneLetter c => namedClass (String.singleton c)
    | .named name => namedClass name
    | .namedValue _ name value => valueClass name value
  let negated := match kind with
    | .namedValue true _ _ => !negated
    | _ => negated
  match found with
  | .ok s => pure (foldNegate m negated s)
  | .error .propertyNotFound => refuse .unicodePropertyNotFound span
  | .error .valueNotFound => refuse .unicodePropertyValueNotFound span

/-- A Perl class. -/
def perlSet (m : Mode) (span : Span) (negated : Bool) (kind : PerlKind) : Lowering CharSet := do
  if m.unicode then
    let s := match kind with
      | .digit => perlDigit
      | .space => perlSpace
      | .word => perlWord
    pure (if negated then s.negate else s)
  else
    let s := match kind with
      | .digit => (asciiClass? "digit").getD CharSet.empty
      | .space => (asciiClass? "space").getD CharSet.empty
      | .word => (asciiClass? "word").getD CharSet.empty
    let s := if negated then complement m s else s
    if s.ranges.any (·.2 > 0x7F) then refuse .invalidUtf8 span
    pure s

/-- The value of a literal: a character, refused outside Unicode mode when it is not
ASCII. -/
def literalValue (m : Mode) (span : Span) (c : Char) (hexByte : Bool) : Lowering Nat := do
  if !m.unicode && c.toNat > 0x7F then
    if hexByte then refuse .invalidUtf8 span else refuse .unicodeNotAllowed span
  pure c.toNat

mutual
/-- The characters of a class item. -/
def itemSet (m : Mode) : ClassItem → Lowering CharSet
  | .empty _ => pure CharSet.empty
  | .literal span c b => do pure (CharSet.single (← literalValue m span c b))
  | .range span a b ab bb => do
    let x ← literalValue m span a ab
    let y ← literalValue m span b bb
    pure (CharSet.ofRange x y)
  | .ascii _ name negated =>
    let s := (asciiClass? name).getD CharSet.empty
    pure (if negated then complement m s else s)
  | .unicode span negated kind => unicodeSet m span negated kind
  | .perl span negated kind => perlSet m span negated kind
  | .bracketed _ negated set => do pure (foldNegate m negated (← classSet m set))
  | .union _ items => itemsSet m items

/-- The union of the characters of class items. -/
def itemsSet (m : Mode) : List ClassItem → Lowering CharSet
  | [] => pure CharSet.empty
  | i :: rest => do
    let a ← itemSet m i
    let b ← itemsSet m rest
    pure (a.union b)

/-- The characters of a class set. -/
def classSet (m : Mode) : ClassSet → Lowering CharSet
  | .item i => itemSet m i
  | .operation _ op lhs rhs => do
    let l ← classSet m lhs
    let r ← classSet m rhs
    let (l, r) := if m.caseInsensitive then (foldCase m l, foldCase m r) else (l, r)
    pure (match op with
      | .intersection => l.intersect r
      | .difference => l.difference r
      | .symmetricDifference => l.symmetricDifference r)
end

/-- A class as an expression, refused outside Unicode mode when it reaches past ASCII. -/
def classHir (m : Mode) (span : Span) (s : CharSet) : Lowering Hir := do
  if !m.unicode && s.ranges.any (·.2 > 0x7F) then refuse .invalidUtf8 span
  pure (Hir.ofClass s)

/-- The look of an assertion. -/
def assertionLook (m : Mode) (span : Span) : AssertionKind → Lowering Look
  | .startLine => pure (if m.multiLine then (if m.crlf then .startCRLF else .startLF) else .start)
  | .endLine => pure (if m.multiLine then (if m.crlf then .stopCRLF else .stopLF) else .stop)
  | .startText => pure .start
  | .endText => pure .stop
  | .wordBoundary => pure (if m.unicode then .wordUnicode else .wordAscii)
  | .notWordBoundary => if m.unicode then pure .wordUnicodeNegate else refuse .invalidUtf8 span
  | .wordStart => pure (if m.unicode then .wordStartUnicode else .wordStartAscii)
  | .wordEnd => pure (if m.unicode then .wordEndUnicode else .wordEndAscii)
  | .wordStartHalf => pure (if m.unicode then .wordStartHalfUnicode else .wordStartHalfAscii)
  | .wordEndHalf => pure (if m.unicode then .wordEndHalfUnicode else .wordEndHalfAscii)

/-- The class of `.`. -/
def dotSet (m : Mode) : CharSet :=
  if m.dotMatchesNewLine then CharSet.full
  else if m.crlf then CharSet.canonical [(0, 9), (11, 12), (14, CharSet.maxScalar)]
  else CharSet.canonical [(0, 9), (11, CharSet.maxScalar)]

/-- A literal character as an expression, folded when case-insensitive. -/
def literalHir (m : Mode) (span : Span) (c : Char) (hexByte : Bool) : Lowering Hir := do
  let v ← literalValue m span c hexByte
  if m.caseInsensitive then
    if m.unicode then
      if CharSet.hasFold v then return Hir.ofClass (CharSet.single v).caseFold
    else if ('a' ≤ c && c ≤ 'z') || ('A' ≤ c && c ≤ 'Z') then
      return Hir.ofClass (foldCase m (CharSet.single v))
  return .literal [c]

mutual
/-- Translate an expression in a mode; the mode after it, changed by a flag group, is
returned with it. -/
def translate (m : Mode) : Ast → Lowering (Hir × Mode)
  | .empty _ => pure (.empty, m)
  | .flags _ fs => pure (.empty, m.apply fs)
  | .literal span c b => do pure (← literalHir m span c b, m)
  | .dot span => do
    if !m.unicode then refuse .invalidUtf8 span
    pure (Hir.ofClass (dotSet m), m)
  | .assertion span kind => do pure (.look (← assertionLook m span kind), m)
  | .unicode span negated kind => do pure (← classHir m span (← unicodeSet m span negated kind), m)
  | .perl span negated kind => do pure (← classHir m span (← perlSet m span negated kind), m)
  | .bracketed span negated set => do
    let s ← classSet m set
    pure (← classHir m span (foldNegate m negated s), m)
  | .repetition _ kind greedy sub => do
    let (h, m') ← translate m sub
    let (min, max) := kind.bounds
    pure (Hir.repeated min max (if m.swapGreed then !greedy else greedy) h, m')
  | .group _ kind sub => do
    let inner := match kind.flags? with
      | some fs => m.apply fs
      | none => m
    let (h, _) ← translate inner sub
    match kind with
    | .captureIndex i => pure (.capture i none h, m)
    | .captureName name i => pure (.capture i (some name) h, m)
    | .nonCapturing _ => pure (h, m)
  | .alternation _ subs => do
    let (hs, m') ← translateAll m subs
    pure (Hir.alternatives hs, m')
  | .concat _ subs => do
    let (hs, m') ← translateAll m subs
    pure (Hir.sequence (hs.filter fun h => !(h == .empty)), m')

/-- Translate expressions in turn, each in the mode the previous one left. -/
def translateAll (m : Mode) : List Ast → Lowering (List Hir × Mode)
  | [] => pure ([], m)
  | a :: rest => do
    let (h, m') ← translate m a
    let (hs, m'') ← translateAll m' rest
    pure (h :: hs, m'')
end

end DomainModels.Regex
