import DomainModels.Text.Unicode.Category
/-! A character written between apostrophes for a reader: the common control characters
and the quoting characters by escapes, characters that do not print (controls, format
characters, separators other than the space, surrogates, private use, unassigned code
points and combining marks) as `\u` with the hexadecimal code point in braces, everything
else as it is. -/
namespace DomainModels.Text

open Unicode

/-- Whether a character is written as an escape rather than as itself. -/
def needsEscape (c : Char) : Bool :=
  match generalCategory? c.toNat with
  | none => true
  | some cat =>
    match cat with
    | .Cc | .Cf | .Cs | .Co | .Zl | .Zp | .Mn | .Me => true
    | .Zs => c != ' '
    | _ => false

/-- Lowercase hexadecimal digits of a natural number, without leading zeros. -/
def hexLower (n : Nat) : String :=
  String.ofList (Nat.toDigits 16 n)

/-- A character between apostrophes, escaped where it does not print. -/
def quoteChar (c : Char) : String :=
  let open_ := "\x7b"
  let close := "\x7d"
  let body :=
    if c.toNat == 0 then "\\0"
    else if c == '\t' then "\\t"
    else if c == '\r' then "\\r"
    else if c == '\n' then "\\n"
    else if c == '\'' then "\\'"
    else if c == '\\' then "\\\\"
    else if needsEscape c then "\\u" ++ open_ ++ hexLower c.toNat ++ close
    else String.singleton c
  "'" ++ body ++ "'"

/-- A text between quotation marks, escaped as `quoteChar` escapes characters, except that
the apostrophe stands as itself and the quotation mark is escaped. -/
def quoteStr (s : String) : String :=
  let open_ := "\x7b"
  let close := "\x7d"
  let body := s.toList.map fun c =>
    if c.toNat == 0 then "\\0"
    else if c == '\t' then "\\t"
    else if c == '\r' then "\\r"
    else if c == '\n' then "\\n"
    else if c == '"' then "\\\""
    else if c == '\\' then "\\\\"
    else if needsEscape c then "\\u" ++ open_ ++ hexLower c.toNat ++ close
    else String.singleton c
  "\"" ++ String.join body ++ "\""

end DomainModels.Text
