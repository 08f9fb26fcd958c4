/-! The abstract syntax of regular expressions, each node with the span of text it came
from. Spans count positions three ways: a byte offset, a line, and a column counted in
characters from one, so that errors can point into the pattern. -/
namespace DomainModels.Regex

/-- A place in a pattern. -/
structure Position where
  offset : Nat
  line : Nat
  column : Nat
  deriving Repr, DecidableEq, Inhabited

/-- The position after a character. -/
def Position.advance (p : Position) (c : Char) : Position :=
  if c == '\n' then { offset := p.offset + c.utf8Size, line := p.line + 1, column := 1 }
  else { offset := p.offset + c.utf8Size, line := p.line, column := p.column + 1 }

/-- The start of a pattern. -/
def Position.origin : Position := { offset := 0, line := 1, column := 1 }

/-- A stretch of a pattern. -/
structure Span where
  start : Position
  stop : Position
  deriving Repr, DecidableEq, Inhabited

/-- An empty span at a position. -/
def Span.at (p : Position) : Span := ⟨p, p⟩

/-- The flags of a pattern. -/
inductive Flag where
  | caseInsensitive
  | multiLine
  | dotMatchesNewLine
  | swapGreed
  | unicode
  | crlf
  | ignoreWhitespace
  deriving Repr, DecidableEq

/-- One item of a flag group: a flag or the negation that turns the later ones off. -/
inductive FlagItem where
  | negation
  | flag (f : Flag)
  deriving Repr, DecidableEq

/-- A flag group such as `?i-s`. -/
structure Flags where
  span : Span
  items : List (Span × FlagItem)
  deriving Repr, DecidableEq

/-- The state a flag group gives a flag: on, off, or untouched. -/
def Flags.state (fs : Flags) (f : Flag) : Option Bool :=
  go false fs.items
where
  go (negated : Bool) : List (Span × FlagItem) → Option Bool
    | [] => none
    | (_, .negation) :: rest => go true rest
    | (_, .flag g) :: rest => if g == f then some !negated else go negated rest

/-- Zero-width assertions. -/
inductive AssertionKind where
  | startLine
  | endLine
  | startText
  | endText
  | wordBoundary
  | notWordBoundary
  | wordStart
  | wordEnd
  | wordStartHalf
  | wordEndHalf
  deriving Repr, DecidableEq

/-- The Perl classes `\d`, `\s`, `\w`. -/
inductive PerlKind where
  | digit
  | space
  | word
  deriving Repr, DecidableEq

/-- How a Unicode class is named: one letter, a name, or a property with a value. -/
inductive UnicodeKind where
  | oneLetter (c : Char)
  | named (name : String)
  | namedValue (notEqual : Bool) (name value : String)
  deriving Repr, DecidableEq

/-- Repetition operators. -/
inductive RepetitionKind where
  | zeroOrOne
  | zeroOrMore
  | oneOrMore
  | exactly (n : Nat)
  | atLeast (n : Nat)
  | bounded (m n : Nat)
  deriving Repr, DecidableEq

/-- The bounds of a repetition. -/
def RepetitionKind.bounds : RepetitionKind → Nat × Option Nat
  | .zeroOrOne => (0, some 1)
  | .zeroOrMore => (0, none)
  | .oneOrMore => (1, none)
  | .exactly n => (n, some n)
  | .atLeast n => (n, none)
  | .bounded m n => (m, some n)

/-- Groups: numbered captures, named captures, and groups that only scope flags. -/
inductive GroupKind where
  | captureIndex (index : Nat)
  | captureName (name : String) (index : Nat)
  | nonCapturing (flags : Flags)
  deriving Repr, DecidableEq

/-- The flags a group sets. -/
def GroupKind.flags? : GroupKind → Option Flags
  | .nonCapturing fs => some fs
  | _ => none

/-- Operations between class sets: `&&`, `--` and `~~`. -/
inductive SetOperation where
  | intersection
  | difference
  | symmetricDifference
  deriving Repr, DecidableEq

mutual
/-- One item of a bracketed class. A literal remembers whether it was written as a
two-digit hexadecimal escape, which stands for a byte outside Unicode mode. -/
inductive ClassItem where
  | empty (span : Span)
  | literal (span : Span) (c : Char) (hexByte : Bool)
  | range (span : Span) (first last : Char) (firstByte lastByte : Bool)
  | ascii (span : Span) (name : String) (negated : Bool)
  | unicode (span : Span) (negated : Bool) (kind : UnicodeKind)
  | perl (span : Span) (negated : Bool) (kind : PerlKind)
  | bracketed (span : Span) (negated : Bool) (set : ClassSet)
  | union (span : Span) (items : List ClassItem)
  deriving Repr, Inhabited

/-- The contents of a bracketed class: an item, or an operation between two sets. -/
inductive ClassSet where
  | item (i : ClassItem)
  | operation (span : Span) (op : SetOperation) (lhs rhs : ClassSet)
  deriving Repr, Inhabited
end

/-- The span of a class item. -/
def ClassItem.span : ClassItem → Span
  | .empty s | .literal s _ _ | .range s _ _ _ _ | .ascii s _ _ | .unicode s _ _ | .perl s _ _
  | .bracketed s _ _ | .union s _ => s

/-- The span of a class set. -/
def ClassSet.span : ClassSet → Span
  | .item i => i.span
  | .operation s _ _ _ => s

/-- A regular expression. -/
inductive Ast where
  | empty (span : Span)
  | flags (span : Span) (flags : Flags)
  | literal (span : Span) (c : Char) (hexByte : Bool)
  | dot (span : Span)
  | assertion (span : Span) (kind : AssertionKind)
  | unicode (span : Span) (negated : Bool) (kind : UnicodeKind)
  | perl (span : Span) (negated : Bool) (kind : PerlKind)
  | bracketed (span : Span) (negated : Bool) (set : ClassSet)
  | repetition (span : Span) (kind : RepetitionKind) (greedy : Bool) (sub : Ast)
  | group (span : Span) (kind : GroupKind) (sub : Ast)
  | alternation (span : Span) (subs : List Ast)
  | concat (span : Span) (subs : List Ast)
  deriving Repr, Inhabited

/-- The span of an expression. -/
def Ast.span : Ast → Span
  | .empty s | .flags s _ | .literal s _ _ | .dot s | .assertion s _ | .unicode s _ _ | .perl s _ _
  | .bracketed s _ _ | .repetition s _ _ _ | .group s _ _ | .alternation s _ | .concat s _ => s

end DomainModels.Regex
