import DomainModels.Regex.Diagnostic
import DomainModels.Text.Unicode.Category
/-! Reading a pattern into its syntax tree. The reader walks the pattern once, left to right,
keeping the groups and alternations still open on one stack and the bracketed classes
still open on another; a closing parenthesis or bracket folds the top of its stack into the
enclosing expression. Errors carry the span they concern. With the `x` flag, white space and
`#` comments between items are skipped. A tree deeper than 250 levels is refused. -/
namespace DomainModels.Regex

open Text.Unicode

/-- The reader's state: what is left of the pattern and where it starts. -/
structure Cursor where
  rest : List Char
  pos : Position
  ignoreWhitespace : Bool
  captures : Nat
  names : List (String × Span)

/-- Reading with a cursor, failing with a pattern error. -/
abbrev Reader := StateT Cursor (Except PatternError)

namespace Reader

/-- Fail with an error at a span. -/
def fail {α : Type} (kind : ErrorKind) (span : Span) (aux : Option Span := none) : Reader α :=
  throw { kind, span, aux }

/-- The current position. -/
def here : Reader Position := return (← get).pos

/-- The empty span at the current position. -/
def spanHere : Reader Span := return Span.at (← get).pos

/-- The current character, if any. -/
def current : Reader (Option Char) := return (← get).rest.head?

/-- The character after the current one. -/
def peek : Reader (Option Char) := return ((← get).rest.drop 1).head?

/-- Whether the pattern is used up. -/
def atEnd : Reader Bool := return (← get).rest.isEmpty

/-- The span of the current character. -/
def spanChar : Reader Span := do
  let s ← get
  match s.rest with
  | c :: _ => return ⟨s.pos, s.pos.advance c⟩
  | [] => return Span.at s.pos

/-- Move past the current character; whether another one follows. -/
def bump : Reader Bool := do
  let s ← get
  match s.rest with
  | [] => return false
  | c :: rest =>
    set { s with rest, pos := s.pos.advance c }
    return !rest.isEmpty

/-- Whether a character is white space. -/
def isSpace (c : Char) : Bool := inRanges whiteSpaceRanges c.toNat

/-- Skip white space and comments when the `x` flag is on. -/
def bumpSpace : Reader Unit := do
  let s ← get
  if s.ignoreWhitespace then
    let rec skip : Nat → Reader Unit
      | 0 => pure ()
      | fuel + 1 => do
        match ← current with
        | some c =>
          if isSpace c then
            discard bump
            skip fuel
          else if c == '#' then
            discard bump
            let rec comment : Nat → Reader Unit
              | 0 => pure ()
              | n + 1 => do
                match ← current with
                | some d =>
                  discard bump
                  if d != '\n' then comment n
                | none => pure ()
            comment s.rest.length
            skip fuel
          else pure ()
        | none => pure ()
    skip (s.rest.length + 1)

/-- Move past the current character and any skipped space; whether anything is left. -/
def bumpAndBumpSpace : Reader Bool := do
  if !(← bump) then return false
  bumpSpace
  return !(← atEnd)

/-- Move past a text if the pattern continues with it. -/
def bumpIf (prefix_ : String) : Reader Bool := do
  let s ← get
  let cs := prefix_.toList
  if cs.isPrefixOf s.rest then
    for _ in cs do discard bump
    return true
  else return false

/-- The character after the current one, past skipped space. -/
def peekSpace : Reader (Option Char) := do
  let s ← get
  if !s.ignoreWhitespace then return (s.rest.drop 1).head?
  let rec scan : List Char → Bool → Option Char
    | [], _ => none
    | c :: rest, inComment =>
      if isSpace c then scan rest inComment
      else if !inComment && c == '#' then scan rest true
      else if inComment && c == '\n' then scan rest false
      else if inComment then scan rest inComment
      else some c
  return scan (s.rest.drop 1) false

end Reader

open Reader

/-- Whether a character may start or continue a capture name. -/
def isCaptureChar (c : Char) (first : Bool) : Bool :=
  let alphabetic := inRanges alphabeticRanges c.toNat
  let numeric := match generalCategory? c.toNat with
    | some .Nd | some .Nl | some .No => true
    | _ => false
  if first then c == '_' || alphabetic
  else c == '_' || c == '.' || c == '[' || c == ']' || alphabetic || numeric

/-- Whether a character is a hexadecimal digit. -/
def isHexDigit (c : Char) : Bool :=
  ('0' ≤ c && c ≤ '9') || ('a' ≤ c && c ≤ 'f') || ('A' ≤ c && c ≤ 'F')

/-- The value of hexadecimal digits. -/
def hexValue (ds : List Char) : Nat :=
  ds.foldl (fun acc c =>
    let d := if '0' ≤ c && c ≤ '9' then c.toNat - 48
      else if 'a' ≤ c && c ≤ 'f' then c.toNat - 87 else c.toNat - 55
    acc * 16 + d) 0

/-- The scalar value of a code point, if it is one. -/
def scalar? (n : Nat) : Option Char :=
  if n < 0xD800 || (0xDFFF < n && n ≤ 0x10FFFF) then some (Char.ofNat n) else none

/-- The characters that are special in patterns. -/
def isMetaCharacter (c : Char) : Bool := "\\.+*?()|[]{}^$#&-~".toList.contains c

/-- The characters that may be escaped to stand for themselves. -/
def isEscapeable (c : Char) : Bool :=
  isMetaCharacter c ||
    (c.toNat < 0x80 && !c.isAlphanum && c != '<' && c != '>')

/-- One item read where an expression may stand. -/
inductive Primitive where
  | literal (span : Span) (c : Char) (hexByte : Bool)
  | assertion (span : Span) (kind : AssertionKind)
  | dot (span : Span)
  | perl (span : Span) (negated : Bool) (kind : PerlKind)
  | unicode (span : Span) (negated : Bool) (kind : UnicodeKind)

/-- The span of a primitive. -/
def Primitive.span : Primitive → Span
  | .literal s _ _ | .assertion s _ | .dot s | .perl s _ _ | .unicode s _ _ => s

/-- The expression a primitive stands for. -/
def Primitive.toAst : Primitive → Ast
  | .literal s c b => .literal s c b
  | .assertion s k => .assertion s k
  | .dot s => .dot s
  | .perl s n k => .perl s n k
  | .unicode s n k => .unicode s n k

/-- A primitive as an item of a class: assertions and `.` cannot be. -/
def Primitive.toClassItem : Primitive → Reader ClassItem
  | .literal s c b => pure (.literal s c b)
  | .perl s n k => pure (.perl s n k)
  | .unicode s n k => pure (.unicode s n k)
  | p => fail .classEscapeInvalid p.span

/-- A primitive as a bound of a class range: only a literal can be. -/
def Primitive.toRangeBound : Primitive → Reader (Char × Bool)
  | .literal _ c b => pure (c, b)
  | p => fail .classRangeLiteral p.span

/-- Read a fixed number of hexadecimal digits of an escape. -/
def readHexDigits (count : Nat) : Reader (Span × Char) := do
  let start ← here
  let mut digits : List Char := []
  for i in List.range count do
    if i > 0 then
      if !(← bumpAndBumpSpace) then fail .escapeUnexpectedEof (← spanHere)
    match ← current with
    | some c =>
      if !isHexDigit c then fail .escapeHexInvalidDigit (← spanChar)
      digits := digits ++ [c]
    | none => fail .escapeUnexpectedEof (← spanHere)
  discard bumpAndBumpSpace
  let stop ← here
  match scalar? (hexValue digits) with
  | some c => pure (⟨start, stop⟩, c)
  | none => fail .escapeHexInvalid ⟨start, stop⟩

/-- Read the digits of a braced hexadecimal escape `{...}`. -/
def readHexBrace : Reader (Span × Char) := do
  let bracePos ← here
  let start := (← spanChar).stop
  let rec collect : Nat → List Char → Reader (List Char)
    | 0, acc => pure acc
    | fuel + 1, acc => do
      if (← bumpAndBumpSpace) && (← current) != some '}' then
        match ← current with
        | some c =>
          if !isHexDigit c then fail .escapeHexInvalidDigit (← spanChar)
          collect fuel (acc ++ [c])
        | none => pure acc
      else pure acc
  let digits ← collect ((← get).rest.length + 1) []
  if ← atEnd then fail .escapeUnexpectedEof ⟨bracePos, ← here⟩
  let stop ← here
  discard bumpAndBumpSpace
  if digits.isEmpty then fail .escapeHexEmpty ⟨bracePos, ← here⟩
  match (if digits.length > 8 then none else scalar? (hexValue digits)) with
  | some c => pure (⟨start, ← here⟩, c)
  | none => fail .escapeHexInvalid ⟨start, stop⟩

/-- Read a hexadecimal escape after `\x`, `\u` or `\U`. -/
def readHex : Reader (Span × Char × Bool) := do
  let kind ← current
  let count := match kind with
    | some 'x' => 2
    | some 'u' => 4
    | _ => 8
  if !(← bumpAndBumpSpace) then fail .escapeUnexpectedEof (← spanHere)
  if (← current) == some '{' then
    let (sp, c) ← readHexBrace
    pure (sp, c, false)
  else
    let (sp, c) ← readHexDigits count
    pure (sp, c, kind == some 'x' && c.toNat ≤ 0xFF)

/-- Read a Unicode class after `\p` or `\P`. -/
def readUnicodeClass : Reader (Span × Bool × UnicodeKind) := do
  let negated := (← current) == some 'P'
  if !(← bumpAndBumpSpace) then fail .escapeUnexpectedEof (← spanHere)
  if (← current) == some '{' then
    let start := (← spanChar).stop
    let rec collect : Nat → List Char → Reader (List Char)
      | 0, acc => pure acc
      | fuel + 1, acc => do
        if (← bumpAndBumpSpace) && (← current) != some '}' then
          match ← current with
          | some c => collect fuel (acc ++ [c])
          | none => pure acc
        else pure acc
    let name ← collect ((← get).rest.length + 1) []
    if ← atEnd then fail .escapeUnexpectedEof (← spanHere)
    discard bump
    let text := String.ofList name
    let kind : UnicodeKind :=
      match text.splitOn "!=" with
      | first :: rest@(_ :: _) => .namedValue true first ("!=".intercalate rest)
      | _ =>
        match text.splitOn ":" with
        | first :: rest@(_ :: _) => .namedValue false first (":".intercalate rest)
        | _ =>
          match text.splitOn "=" with
          | first :: rest@(_ :: _) => .namedValue false first ("=".intercalate rest)
          | _ => .named text
    pure (⟨start, ← here⟩, negated, kind)
  else
    let start ← here
    match ← current with
    | some '\\' => fail .unicodeClassInvalid (← spanChar)
    | some c =>
      discard bumpAndBumpSpace
      pure (⟨start, ← here⟩, negated, .oneLetter c)
    | none => fail .escapeUnexpectedEof (← spanHere)

/-- After `\b{`, read a special word boundary such as `\b{start}`, or leave the brace to be
read as a repetition. -/
def readSpecialWordBoundary (wbStart : Position) : Reader (Option AssertionKind) := do
  let isValid (c : Char) : Bool := ('A' ≤ c && c ≤ 'Z') || ('a' ≤ c && c ≤ 'z') || c == '-'
  let saved ← get
  let start ← here
  if !(← bumpAndBumpSpace) then fail .specialWordOrRepetitionUnexpectedEof ⟨wbStart, ← here⟩
  let startContents ← here
  match ← current with
  | some c =>
    if !isValid c then
      set saved
      return none
  | none => pure ()
  let rec collect : Nat → List Char → Reader (List Char)
    | 0, acc => pure acc
    | fuel + 1, acc => do
      match ← current with
      | some c =>
        if isValid c then
          discard bumpAndBumpSpace
          collect fuel (acc ++ [c])
        else pure acc
      | none => pure acc
  let name ← collect ((← get).rest.length + 1) []
  if (← current) != some '}' then fail .specialWordBoundaryUnclosed ⟨start, ← here⟩
  let stop ← here
  discard bump
  match String.ofList name with
  | "start" => return some .wordStart
  | "end" => return some .wordEnd
  | "start-half" => return some .wordStartHalf
  | "end-half" => return some .wordEndHalf
  | _ => fail .specialWordBoundaryUnrecognized ⟨startContents, stop⟩

/-- Read an escape sequence starting at a backslash. -/
def readEscape : Reader Primitive := do
  let start ← here
  if !(← bump) then fail .escapeUnexpectedEof ⟨start, ← here⟩
  let some c ← current | fail .escapeUnexpectedEof ⟨start, ← here⟩
  if '0' ≤ c && c ≤ '9' then fail .unsupportedBackreference ⟨start, (← spanChar).stop⟩
  if c == 'x' || c == 'u' || c == 'U' then
    let (sp, ch, byte) ← readHex
    return .literal ⟨start, sp.stop⟩ ch byte
  if c == 'p' || c == 'P' then
    let (sp, negated, kind) ← readUnicodeClass
    return .unicode ⟨start, sp.stop⟩ negated kind
  if "dswDSW".toList.contains c then
    discard bump
    let kind : PerlKind := if c == 'd' || c == 'D' then .digit else if c == 's' || c == 'S' then .space else .word
    return .perl ⟨start, ← here⟩ (c.isUpper) kind
  discard bump
  let span : Span := ⟨start, ← here⟩
  if isEscapeable c then return .literal span c false
  match c with
  | 'a' => return .literal span (Char.ofNat 7) false
  | 'f' => return .literal span (Char.ofNat 12) false
  | 't' => return .literal span '\t' false
  | 'n' => return .literal span '\n' false
  | 'r' => return .literal span '\r' false
  | 'v' => return .literal span (Char.ofNat 11) false
  | 'A' => return .assertion span .startText
  | 'z' => return .assertion span .endText
  | 'b' =>
    if (← current) == some '{' then
      match ← readSpecialWordBoundary start with
      | some kind => return .assertion ⟨start, ← here⟩ kind
      | none => return .assertion span .wordBoundary
    else return .assertion span .wordBoundary
  | 'B' => return .assertion span .notWordBoundary
  | '<' => return .assertion span .wordStart
  | '>' => return .assertion span .wordEnd
  | _ => fail .escapeUnrecognized span

/-- Read one item where an expression may stand: an escape, `.`, `^`, `$` or a literal. -/
def readPrimitive : Reader Primitive := do
  let sp ← spanChar
  match ← current with
  | some '\\' => readEscape
  | some '.' => discard bump; return .dot sp
  | some '^' => discard bump; return .assertion sp .startLine
  | some '$' => discard bump; return .assertion sp .endLine
  | some c => discard bump; return .literal sp c false
  | none => fail .escapeUnexpectedEof sp

/-- Read a decimal number of a counted repetition; white space around it is allowed. -/
def readDecimal : Reader Nat := do
  let rec skipSpace : Nat → Reader Unit
    | 0 => pure ()
    | n + 1 => do
      match ← current with
      | some c => if isSpace c then do discard bump; skipSpace n else pure ()
      | none => pure ()
  let rec digits : Nat → List Char → Reader (List Char)
    | 0, acc => pure acc
    | n + 1, acc => do
      match ← current with
      | some c =>
        if '0' ≤ c && c ≤ '9' then do discard bumpAndBumpSpace; digits n (acc ++ [c]) else pure acc
      | none => pure acc
  let rec skipSpaceAfter : Nat → Reader Unit
    | 0 => pure ()
    | n + 1 => do
      match ← current with
      | some c => if isSpace c then do discard bumpAndBumpSpace; skipSpaceAfter n else pure ()
      | none => pure ()
  let fuel := (← get).rest.length + 1
  skipSpace fuel
  let start ← here
  let ds ← digits fuel []
  let span : Span := ⟨start, ← here⟩
  skipSpaceAfter fuel
  if ds.isEmpty then fail .repetitionCountDecimalEmpty span
  let n : Nat := ds.foldl (fun acc c => acc * 10 + (c.toNat - 48)) 0
  if n > 4294967295 then fail .decimalInvalid span
  pure n

/-- The expressions read so far in the current group, and where they started. -/
structure Sequence where
  start : Position
  items : List Ast

/-- The expression of a sequence ending at a position. -/
def Sequence.toAst (s : Sequence) (stop : Position) : Ast :=
  match s.items with
  | [] => .empty ⟨s.start, stop⟩
  | [a] => a
  | items => .concat ⟨s.start, stop⟩ items

/-- What is open around the current sequence. -/
inductive Frame where
  | group (outer : Sequence) (kind : GroupKind) (openSpan : Span) (ignoreWhitespace : Bool)
  | alternation (start : Position) (items : List Ast)

/-- Apply a repetition operator to the last expression read. -/
def repeatLast (seq : Sequence) (opStart : Position) (kind : RepetitionKind) (greedy : Bool)
    (stop : Position) : Reader Sequence := do
  match seq.items.getLast? with
  | some last =>
    let rep := Ast.repetition ⟨last.span.start, stop⟩ kind greedy last
    let _ := opStart
    pure { seq with items := seq.items.dropLast ++ [rep] }
  | none => fail .repetitionMissing (Span.at stop)

/-- Whether the last expression read can be repeated. -/
def repeatable (seq : Sequence) : Bool :=
  match seq.items.getLast? with
  | some (.empty _) | some (.flags _ _) | none => false
  | some _ => true

/-- Read `?`, `*` or `+`, with an optional `?` making it lazy. -/
def readUncountedRepetition (seq : Sequence) (kind : RepetitionKind) : Reader Sequence := do
  let opStart ← here
  if !repeatable seq then fail .repetitionMissing (← spanHere)
  let mut greedy := true
  if (← bump) && (← current) == some '?' then
    greedy := false
    discard bump
  repeatLast seq opStart kind greedy (← here)

/-- Read a counted repetition `{m}`, `{m,}` or `{m,n}`. -/
def readCountedRepetition (seq : Sequence) : Reader Sequence := do
  let start ← here
  if !repeatable seq then fail .repetitionMissing (← spanHere)
  if !(← bumpAndBumpSpace) then fail .repetitionCountUnclosed ⟨start, ← here⟩
  let first ← readDecimal
  let mut kind := RepetitionKind.exactly first
  if ← atEnd then fail .repetitionCountUnclosed ⟨start, ← here⟩
  if (← current) == some ',' then
    if !(← bumpAndBumpSpace) then fail .repetitionCountUnclosed ⟨start, ← here⟩
    if (← current) != some '}' then
      let last ← readDecimal
      kind := .bounded first last
    else kind := .atLeast first
  if (← current) != some '}' then fail .repetitionCountUnclosed ⟨start, ← here⟩
  let mut greedy := true
  if (← bumpAndBumpSpace) && (← current) == some '?' then
    greedy := false
    discard bump
  let stop ← here
  match kind with
  | .bounded m n => if m > n then fail .repetitionCountInvalid ⟨start, stop⟩
  | _ => pure ()
  repeatLast seq start kind greedy stop

/-- Read one flag letter. -/
def readFlag : Reader Flag := do
  match ← current with
  | some 'i' => pure .caseInsensitive
  | some 'm' => pure .multiLine
  | some 's' => pure .dotMatchesNewLine
  | some 'U' => pure .swapGreed
  | some 'u' => pure .unicode
  | some 'R' => pure .crlf
  | some 'x' => pure .ignoreWhitespace
  | _ => fail .flagUnrecognized (← spanChar)

/-- Read the flags of a group up to `:` or `)`. -/
def readFlags : Reader Flags := do
  let start ← here
  let rec loop : Nat → List (Span × FlagItem) → Option Span → Reader (List (Span × FlagItem) × Option Span)
    | 0, items, lastNegation => pure (items, lastNegation)
    | fuel + 1, items, lastNegation => do
      let c ← current
      if c == some ':' || c == some ')' || c == none then return (items, lastNegation)
      let sp ← spanChar
      let step : Reader (List (Span × FlagItem) × Option Span) :=
        if c == some '-' then do
          match items.find? (fun it => it.2 == .negation) with
          | some orig => fail .flagRepeatedNegation sp (some orig.1)
          | none => pure (items ++ [(sp, FlagItem.negation)], some sp)
        else do
          let f ← readFlag
          match items.find? (fun it => it.2 == .flag f) with
          | some orig => fail .flagDuplicate sp (some orig.1)
          | none => pure (items ++ [(sp, FlagItem.flag f)], none)
      let (items, lastNegation) ← step
      if !(← bump) then fail .flagUnexpectedEof (← spanHere)
      loop fuel items lastNegation
  let (items, lastNegation) ← loop ((← get).rest.length + 1) [] none
  if let some sp := lastNegation then fail .flagDanglingNegation sp
  pure { span := ⟨start, ← here⟩, items }

/-- The number of the next capture group. -/
def nextCapture (openSpan : Span) : Reader Nat := do
  let s ← get
  if s.captures ≥ 4294967295 then fail .captureLimitExceeded openSpan
  set { s with captures := s.captures + 1 }
  pure (s.captures + 1)

/-- Read the name of a capture group up to `>`. -/
def readCaptureName : Reader (String × Span) := do
  if ← atEnd then fail .groupNameUnexpectedEof (← spanHere)
  let start ← here
  let rec loop : Nat → List Char → Reader (List Char)
    | 0, acc => pure acc
    | fuel + 1, acc => do
      match ← current with
      | some '>' => pure acc
      | some c =>
        if !isCaptureChar c ((← here) == start) then fail .groupNameInvalid (← spanChar)
        if !(← bump) then pure (acc ++ [c]) else loop fuel (acc ++ [c])
      | none => pure acc
  let name ← loop ((← get).rest.length + 1) []
  let stop ← here
  if ← atEnd then fail .groupNameUnexpectedEof (← spanHere)
  discard bump
  if name.isEmpty then fail .groupNameEmpty (Span.at start)
  let text := String.ofList name
  let span : Span := ⟨start, stop⟩
  match (← get).names.find? (·.1 == text) with
  | some (_, orig) => fail .groupNameDuplicate span (some orig)
  | none => modify fun s => { s with names := s.names ++ [(text, span)] }
  pure (text, span)

/-- What an opening parenthesis starts: flags for the rest of the group, or a new group. -/
inductive Opening where
  | setFlags (span : Span) (flags : Flags)
  | group (kind : GroupKind) (openSpan : Span)

/-- Read the opening of a group. -/
def readGroupOpening : Reader Opening := do
  let openSpan ← spanChar
  discard bump
  bumpSpace
  if (← bumpIf "?=") || (← bumpIf "?!") || (← bumpIf "?<=") || (← bumpIf "?<!") then
    fail .unsupportedLookAround ⟨openSpan.start, ← here⟩
  let innerSpan ← spanHere
  if (← bumpIf "?P<") || (← bumpIf "?<") then
    let index ← nextCapture openSpan
    let (name, _) ← readCaptureName
    return .group (.captureName name index) openSpan
  if ← bumpIf "?" then
    if ← atEnd then fail .groupUnclosed openSpan
    let flags ← readFlags
    let closing ← current
    discard bump
    if closing == some ')' then
      if flags.items.isEmpty then fail .repetitionMissing innerSpan
      return .setFlags ⟨openSpan.start, ← here⟩ flags
    else return .group (.nonCapturing flags) openSpan
  let index ← nextCapture openSpan
  return .group (.captureIndex index) openSpan

/-- The items of a bracketed class read so far. -/
structure ClassUnion where
  span : Span
  items : List ClassItem

/-- Add an item to a union. -/
def ClassUnion.push (u : ClassUnion) (item : ClassItem) : ClassUnion :=
  let start := if u.items.isEmpty then item.span.start else u.span.start
  { span := ⟨start, item.span.stop⟩, items := u.items ++ [item] }

/-- The item a union stands for. -/
def ClassUnion.toItem (u : ClassUnion) : ClassItem :=
  match u.items with
  | [] => .empty u.span
  | [i] => i
  | items => .union u.span items

/-- What is open around the current class union. -/
inductive ClassFrame where
  | opened (parent : ClassUnion) (setSpan : Span) (negated : Bool)
  | operation (op : SetOperation) (lhs : ClassSet)

/-- The error for a class left open: at the innermost open bracket. -/
def unclosedClass (stack : List ClassFrame) : PatternError :=
  match stack.findSome? (fun f => match f with | .opened _ sp _ => some sp | _ => none) with
  | some sp => { kind := .classUnclosed, span := sp }
  | none => { kind := .classUnclosed, span := Span.at Position.origin }

/-- Close a pending set operation with its right-hand side. -/
def closeOperation (rhs : ClassSet) : List ClassFrame → ClassSet × List ClassFrame
  | .operation op lhs :: rest => (.operation ⟨lhs.span.start, rhs.span.stop⟩ op lhs rhs, rest)
  | stack => (rhs, stack)

/-- Read a POSIX class such as `[:alpha:]`, or leave the pattern as it was. -/
def readAsciiClass : Reader (Option ClassItem) := do
  let saved ← get
  let start ← here
  let backOut : Reader (Option ClassItem) := do set saved; return none
  if !(← bump) || (← current) != some ':' then return ← backOut
  if !(← bump) then return ← backOut
  let mut negated := false
  if (← current) == some '^' then
    negated := true
    if !(← bump) then return ← backOut
  let rec name : Nat → List Char → Reader (List Char)
    | 0, acc => pure acc
    | fuel + 1, acc => do
      match ← current with
      | some ':' => pure acc
      | some c => if ← bump then name fuel (acc ++ [c]) else pure (acc ++ [c])
      | none => pure acc
  let n ← name ((← get).rest.length + 1) []
  if ← atEnd then return ← backOut
  if !(← bumpIf ":]") then return ← backOut
  let text := String.ofList n
  if ["alnum", "alpha", "ascii", "blank", "cntrl", "digit", "graph", "lower", "print", "punct",
      "space", "upper", "word", "xdigit"].contains text then
    return some (.ascii ⟨start, ← here⟩ text negated)
  else backOut

/-- Read an item of a class where one may start: a literal, an escape, or a range. -/
def readClassItem : Reader Primitive := do
  if (← current) == some '\\' then readEscape
  else
    let sp ← spanChar
    match ← current with
    | some c => discard bump; pure (.literal sp c false)
    | none => fail .classUnclosed sp

/-- Read a class item or a range `a-z`. -/
def readClassRange (stack : List ClassFrame) : Reader ClassItem := do
  let first ← readClassItem
  bumpSpace
  if ← atEnd then throw (unclosedClass stack)
  let after ← peekSpace
  if (← current) != some '-' || after == some ']' || after == some '-' then
    return ← first.toClassItem
  if !(← bumpAndBumpSpace) then throw (unclosedClass stack)
  let second ← readClassItem
  let span : Span := ⟨first.span.start, second.span.stop⟩
  let (a, aByte) ← first.toRangeBound
  let (b, bByte) ← second.toRangeBound
  if a.toNat > b.toNat then fail .classRangeInvalid span
  return .range span a b aByte bByte

/-- Read the opening of a bracketed class: `[`, an optional `^`, and leading `-` or `]`
that stand for themselves. -/
def readClassOpening : Reader (Span × Bool × ClassUnion) := do
  let start ← here
  if !(← bumpAndBumpSpace) then fail .classUnclosed ⟨start, ← here⟩
  let mut negated := false
  if (← current) == some '^' then
    negated := true
    if !(← bumpAndBumpSpace) then fail .classUnclosed ⟨start, ← here⟩
  let mut union : ClassUnion := { span := ← spanHere, items := [] }
  let rec dashes : Nat → ClassUnion → Reader ClassUnion
    | 0, u => pure u
    | fuel + 1, u => do
      if (← current) == some '-' then
        let u := u.push (.literal (← spanChar) '-' false)
        if !(← bumpAndBumpSpace) then fail .classUnclosed (Span.at start)
        dashes fuel u
      else pure u
  union ← dashes ((← get).rest.length + 1) union
  if union.items.isEmpty && (← current) == some ']' then
    union := union.push (.literal (← spanChar) ']' false)
    if !(← bumpAndBumpSpace) then fail .classUnclosed ⟨start, ← here⟩
  return (⟨start, ← here⟩, negated, union)

/-- Read a bracketed class starting at `[`, nested classes and set operations included. -/
def readBracketed : Reader (Span × Bool × ClassSet) := do
  let rec loop : Nat → ClassUnion → List ClassFrame → Reader (Span × Bool × ClassSet)
    | 0, _, stack => throw (unclosedClass stack)
    | fuel + 1, union, stack => do
      bumpSpace
      let some c ← current | throw (unclosedClass stack)
      match c with
      | '[' =>
        if !stack.isEmpty then
          if let some cls ← readAsciiClass then
            return ← loop fuel (union.push cls) stack
        let (setSpan, negated, nested) ← readClassOpening
        loop fuel nested (.opened union setSpan negated :: stack)
      | ']' =>
        let (set, stack) := closeOperation (.item union.toItem) stack
        match stack with
        | .opened parent setSpan negated :: rest =>
          discard bump
          let span : Span := ⟨setSpan.start, ← here⟩
          if rest.isEmpty then return (span, negated, set)
          else loop fuel (parent.push (.bracketed span negated set)) rest
        | _ => throw (unclosedClass stack)
      | _ =>
        let next ← peek
        let op? : Option (String × SetOperation) :=
          if c == '&' && next == some '&' then some ("&&", .intersection)
          else if c == '-' && next == some '-' then some ("--", .difference)
          else if c == '~' && next == some '~' then some ("~~", .symmetricDifference)
          else none
        match op? with
        | some (text, op) =>
          discard (bumpIf text)
          let (lhs, stack) := closeOperation (.item union.toItem) stack
          loop fuel { span := ← spanHere, items := [] } (.operation op lhs :: stack)
        | none =>
          let item ← readClassRange stack
          loop fuel (union.push item) stack
  loop ((← get).rest.length + 2) { span := ← spanHere, items := [] } []

/-- Close a group at `)`. -/
def closeGroup (inner : Sequence) (stack : List Frame) : Reader (Sequence × List Frame) := do
  let (outer, kind, openSpan, ws, alternation, rest) ← match stack with
    | .group outer kind openSpan ws :: rest => pure (outer, kind, openSpan, ws, none, rest)
    | .alternation start items :: .group outer kind openSpan ws :: rest =>
      pure (outer, kind, openSpan, ws, some (start, items), rest)
    | _ => do fail .groupUnopened (← spanChar)
  modify fun s => { s with ignoreWhitespace := ws }
  let innerStop ← here
  discard bump
  let stop ← here
  let sub := match alternation with
    | some (start, items) => Ast.alternation ⟨start, innerStop⟩ (items ++ [inner.toAst innerStop])
    | none => inner.toAst innerStop
  pure ({ outer with items := outer.items ++ [.group ⟨openSpan.start, stop⟩ kind sub] }, rest)

/-- Finish the pattern: the top-level alternation or sequence, or an unclosed group. -/
def finish (seq : Sequence) (stack : List Frame) : Reader Ast := do
  let stop ← here
  match stack with
  | [] => pure (seq.toAst stop)
  | [.alternation start items] => pure (.alternation ⟨start, stop⟩ (items ++ [seq.toAst stop]))
  | .alternation _ _ :: .group _ _ openSpan _ :: _ => fail .groupUnclosed openSpan
  | .group _ _ openSpan _ :: _ => fail .groupUnclosed openSpan
  | _ => fail .groupUnclosed (Span.at stop)

/-- Read expressions until the pattern ends. -/
def readAll : Nat → Sequence → List Frame → Reader (Sequence × List Frame)
  | 0, seq, stack => pure (seq, stack)
  | fuel + 1, seq, stack => do
    bumpSpace
    let some c ← current | return (seq, stack)
    match c with
    | '(' =>
      match ← readGroupOpening with
      | .setFlags span flags =>
        if let some v := flags.state .ignoreWhitespace then
          modify fun s => { s with ignoreWhitespace := v }
        readAll fuel { seq with items := seq.items ++ [.flags span flags] } stack
      | .group kind openSpan =>
        let old := (← get).ignoreWhitespace
        let new := ((kind.flags?).bind (·.state .ignoreWhitespace)).getD old
        modify fun s => { s with ignoreWhitespace := new }
        readAll fuel { start := ← here, items := [] } (.group seq kind openSpan old :: stack)
    | ')' =>
      let (seq, stack) ← closeGroup seq stack
      readAll fuel seq stack
    | '|' =>
      let stop ← here
      let ast := seq.toAst stop
      let stack := match stack with
        | .alternation start items :: rest => .alternation start (items ++ [ast]) :: rest
        | _ => .alternation seq.start [ast] :: stack
      discard bump
      readAll fuel { start := ← here, items := [] } stack
    | '[' =>
      let (span, negated, set) ← readBracketed
      readAll fuel { seq with items := seq.items ++ [.bracketed span negated set] } stack
    | '?' => readAll fuel (← readUncountedRepetition seq .zeroOrOne) stack
    | '*' => readAll fuel (← readUncountedRepetition seq .zeroOrMore) stack
    | '+' => readAll fuel (← readUncountedRepetition seq .oneOrMore) stack
    | '{' => readAll fuel (← readCountedRepetition seq) stack
    | _ =>
      let prim ← readPrimitive
      readAll fuel { seq with items := seq.items ++ [prim.toAst] } stack

/-- The deepest nesting allowed. -/
def nestLimit : Nat := 250

mutual
/-- Refuse an expression nested deeper than the limit, at the first node too deep. -/
def checkNest (depth : Nat) : Ast → Except PatternError Unit
  | .repetition span _ _ sub => deeper depth span (checkNest (depth + 1) sub)
  | .group span _ sub => deeper depth span (checkNest (depth + 1) sub)
  | .alternation span subs => deeper depth span (checkNestAll (depth + 1) subs)
  | .concat span subs => deeper depth span (checkNestAll (depth + 1) subs)
  | .bracketed span _ set => deeper depth span (checkNestSet (depth + 1) set)
  | _ => pure ()

/-- Check each expression of a list. -/
def checkNestAll (depth : Nat) : List Ast → Except PatternError Unit
  | [] => pure ()
  | a :: rest => do checkNest depth a; checkNestAll depth rest

/-- Check a class set. -/
def checkNestSet (depth : Nat) : ClassSet → Except PatternError Unit
  | .item i => checkNestItem depth i
  | .operation span _ lhs rhs =>
    deeper depth span (do checkNestSet (depth + 1) lhs; checkNestSet (depth + 1) rhs)

/-- Check a class item. -/
def checkNestItem (depth : Nat) : ClassItem → Except PatternError Unit
  | .bracketed span _ set => deeper depth span (checkNestSet (depth + 1) set)
  | .union span items => deeper depth span (checkNestItems (depth + 1) items)
  | _ => pure ()

/-- Check each item of a union. -/
def checkNestItems (depth : Nat) : List ClassItem → Except PatternError Unit
  | [] => pure ()
  | i :: rest => do checkNestItem depth i; checkNestItems depth rest

/-- One level deeper: refused past the limit, else the check of the children. -/
def deeper (depth : Nat) (span : Span) (children : Except PatternError Unit) : Except PatternError Unit :=
  if depth + 1 > nestLimit then .error { kind := .nestLimitExceeded nestLimit, span } else children
end

/-- Read a pattern, with the `x` flag on from the start or not. -/
def parsePattern (pattern : String) (ignoreWhitespace : Bool := false) : Except PatternError Ast := do
  let start : Cursor :=
    { rest := pattern.toList, pos := Position.origin, ignoreWhitespace, captures := 0, names := [] }
  let run : Reader Ast := do
    let (seq, stack) ← readAll (pattern.length + 1) { start := Position.origin, items := [] } []
    finish seq stack
  let (ast, _) ← run.run start
  checkNest 0 ast
  pure ast

end DomainModels.Regex
