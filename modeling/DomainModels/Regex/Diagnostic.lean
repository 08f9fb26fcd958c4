import DomainModels.Regex.Syntax
/-! Errors in patterns and how they are shown: the pattern is printed with carets under the
offending span (and under a second, related span when there is one), followed by the error.
A pattern of several lines is printed between rules with numbered lines. -/
namespace DomainModels.Regex

/-- What is wrong with a pattern, either in its syntax or in what it asks for. -/
inductive ErrorKind where
  | captureLimitExceeded
  | classEscapeInvalid
  | classRangeInvalid
  | classRangeLiteral
  | classUnclosed
  | decimalEmpty
  | decimalInvalid
  | escapeHexEmpty
  | escapeHexInvalid
  | escapeHexInvalidDigit
  | escapeUnexpectedEof
  | escapeUnrecognized
  | flagDanglingNegation
  | flagDuplicate
  | flagRepeatedNegation
  | flagUnexpectedEof
  | flagUnrecognized
  | groupNameDuplicate
  | groupNameEmpty
  | groupNameInvalid
  | groupNameUnexpectedEof
  | groupUnclosed
  | groupUnopened
  | nestLimitExceeded (limit : Nat)
  | repetitionCountInvalid
  | repetitionCountDecimalEmpty
  | repetitionCountUnclosed
  | repetitionMissing
  | specialWordBoundaryUnclosed
  | specialWordBoundaryUnrecognized
  | specialWordOrRepetitionUnexpectedEof
  | unicodeClassInvalid
  | unsupportedBackreference
  | unsupportedLookAround
  | unicodeNotAllowed
  | invalidUtf8
  | unicodePropertyNotFound
  | unicodePropertyValueNotFound
  deriving Repr, DecidableEq

/-- The text of an error. -/
def ErrorKind.text : ErrorKind → String
  | .captureLimitExceeded => "exceeded the maximum number of capturing groups (4294967295)"
  | .classEscapeInvalid => "invalid escape sequence found in character class"
  | .classRangeInvalid => "invalid character class range, the start must be <= the end"
  | .classRangeLiteral => "invalid range boundary, must be a literal"
  | .classUnclosed => "unclosed character class"
  | .decimalEmpty => "decimal literal empty"
  | .decimalInvalid => "decimal literal invalid"
  | .escapeHexEmpty => "hexadecimal literal empty"
  | .escapeHexInvalid => "hexadecimal literal is not a Unicode scalar value"
  | .escapeHexInvalidDigit => "invalid hexadecimal digit"
  | .escapeUnexpectedEof => "incomplete escape sequence, reached end of pattern prematurely"
  | .escapeUnrecognized => "unrecognized escape sequence"
  | .flagDanglingNegation => "dangling flag negation operator"
  | .flagDuplicate => "duplicate flag"
  | .flagRepeatedNegation => "flag negation operator repeated"
  | .flagUnexpectedEof => "expected flag but got end of regex"
  | .flagUnrecognized => "unrecognized flag"
  | .groupNameDuplicate => "duplicate capture group name"
  | .groupNameEmpty => "empty capture group name"
  | .groupNameInvalid => "invalid capture group character"
  | .groupNameUnexpectedEof => "unclosed capture group name"
  | .groupUnclosed => "unclosed group"
  | .groupUnopened => "unopened group"
  | .nestLimitExceeded limit =>
    "exceed the maximum number of nested parentheses/brackets (" ++ toString limit ++ ")"
  | .repetitionCountInvalid => "invalid repetition count range, the start must be <= the end"
  | .repetitionCountDecimalEmpty => "repetition quantifier expects a valid decimal"
  | .repetitionCountUnclosed => "unclosed counted repetition"
  | .repetitionMissing => "repetition operator missing expression"
  | .specialWordBoundaryUnclosed =>
    "special word boundary assertion is either unclosed or contains an invalid character"
  | .specialWordBoundaryUnrecognized =>
    "unrecognized special word boundary assertion, valid choices are: start, end, start-half or end-half"
  | .specialWordOrRepetitionUnexpectedEof =>
    "found either the beginning of a special word boundary or a bounded repetition on a \\b with an opening brace, but no closing brace"
  | .unicodeClassInvalid => "invalid Unicode character class"
  | .unsupportedBackreference => "backreferences are not supported"
  | .unsupportedLookAround => "look-around, including look-ahead and look-behind, is not supported"
  | .unicodeNotAllowed => "Unicode not allowed here"
  | .invalidUtf8 => "pattern can match invalid UTF-8"
  | .unicodePropertyNotFound => "Unicode property not found"
  | .unicodePropertyValueNotFound => "Unicode property value not found"

/-- An error at a span of the pattern, with a related span for duplicates. -/
structure PatternError where
  kind : ErrorKind
  span : Span
  aux : Option Span := none
  deriving Repr

/-- The lines of a text, each without its line break. -/
def textLines (text : String) : List String :=
  let parts := text.splitOn "\n"
  let parts := if text.endsWith "\n" then parts.dropLast else parts
  let parts := if text.isEmpty then [] else parts
  parts.map fun l => if l.endsWith "\r" then (l.dropEnd 1).toString else l

/-- A character repeated. -/
def repeatChar (c : Char) (n : Nat) : String := String.ofList (List.replicate n c)

/-- Spans in order of where they start, then where they stop. -/
def sortSpans (spans : List Span) : List Span :=
  spans.mergeSort fun a b =>
    a.start.offset < b.start.offset || (a.start.offset == b.start.offset && a.stop.offset ≤ b.stop.offset)

/-- The carets under one line for the spans on it. -/
def caretLine (padding : Nat) (spans : List Span) : String :=
  let (text, _) := spans.foldl (fun (acc : String × Nat) sp =>
    let (text, pos) := acc
    let gap := sp.start.column - 1 - pos
    let width := max 1 (sp.stop.column - sp.start.column)
    (text ++ repeatChar ' ' gap ++ repeatChar '^' width, pos + gap + width)) (repeatChar ' ' padding, 0)
  text

/-- Show an error in its pattern. -/
def PatternError.render (e : PatternError) (pattern : String) : String :=
  let lines := textLines pattern
  let lineCount := lines.length + (if pattern.endsWith "\n" then 1 else 0)
  let width := if lineCount ≤ 1 then 0 else (toString lineCount).length
  let spans := e.span :: e.aux.toList
  let oneLine := spans.filter fun sp => sp.start.line == sp.stop.line
  let multiLine := sortSpans (spans.filter fun sp => sp.start.line != sp.stop.line)
  let padding := if width == 0 then 4 else 2 + width
  let numbered (i : Nat) : String :=
    if width == 0 then "    "
    else
      let n := toString (i + 1)
      repeatChar ' ' (width - n.length) ++ n ++ ": "
  let notated := String.join ((List.range lines.length).zip lines |>.map fun (i, line) =>
    let here := sortSpans (oneLine.filter fun sp => sp.start.line == i + 1)
    numbered i ++ line ++ "\n" ++ (if here.isEmpty then "" else caretLine padding here ++ "\n"))
  if pattern.contains '\n' then
    let rule := repeatChar '~' 79
    let notes := multiLine.map fun sp =>
      "on line " ++ toString sp.start.line ++ " (column " ++ toString sp.start.column ++ ") through line " ++
        toString sp.stop.line ++ " (column " ++ toString (sp.stop.column - 1) ++ ")"
    "regex parse error:\n" ++ rule ++ "\n" ++ notated ++ rule ++ "\n" ++
      (if notes.isEmpty then "" else "\n".intercalate notes ++ "\n") ++ "error: " ++ e.kind.text
  else
    "regex parse error:\n" ++ notated ++ "error: " ++ e.kind.text

end DomainModels.Regex
