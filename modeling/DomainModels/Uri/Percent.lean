import DomainModels.Text.Utf8
/-! Percent-encoding: a byte of a set is written `%XX` with uppercase hexadecimal digits,
and every byte of a non-ASCII character always is. Decoding turns each `%` followed by two
hexadecimal digits back into its byte and leaves every other `%` as it stands. -/
namespace DomainModels.Uri

/-- An uppercase hexadecimal digit. -/
def hexUpper (n : Nat) : Char :=
  if n < 10 then Char.ofNat ('0'.toNat + n) else Char.ofNat ('A'.toNat + n - 10)

/-- `%XX` for one byte. -/
def escapeByte (b : UInt8) : String :=
  "%" ++ String.singleton (hexUpper (b.toNat / 16)) ++ String.singleton (hexUpper (b.toNat % 16))

/-- Encode the ASCII characters of a set and all non-ASCII characters. -/
def percentEncode (inSet : Char → Bool) (s : String) : String :=
  s.foldl (fun acc c =>
    if c.toNat < 0x80 && !inSet c then acc.push c
    else (Text.Utf8.encode (String.singleton c)).foldl (fun a b => a ++ escapeByte b) acc) ""

/-- The C0 controls and DEL. -/
def controlSet (c : Char) : Bool := c.toNat < 0x20 || c.toNat == 0x7F

/-- Fragments: controls, space, `"`, `<`, `>` and the backtick. -/
def fragmentSet (c : Char) : Bool :=
  controlSet c || c == ' ' || c == '"' || c == '<' || c == '>' || c.toNat == 0x60

/-- Queries: controls, space, `"`, `#`, `<` and `>`. -/
def querySet (c : Char) : Bool :=
  controlSet c || c == ' ' || c == '"' || c == '#' || c == '<' || c == '>'

/-- Queries of special schemes also encode the apostrophe. -/
def specialQuerySet (c : Char) : Bool := querySet c || c == '\''

/-- Path segments: the fragment set and `#`, `?`, `{`, `}`. -/
def pathSet (c : Char) : Bool :=
  fragmentSet c || c == '#' || c == '?' || c.toNat == 0x7B || c.toNat == 0x7D

/-- User names and passwords: the path set and `/ : ; = @ [ \ ] ^ |`. -/
def userinfoSet (c : Char) : Bool :=
  pathSet c || c == '/' || c == ':' || c == ';' || c == '=' || c == '@' || c == '[' ||
    c == '\\' || c == ']' || c == '^' || c == '|'

/-- Identifiers: everything but ASCII letters, digits and `- _ . ! ~ * ' ( )`. -/
def componentSet (c : Char) : Bool :=
  !(c.isAlphanum || c == '-' || c == '_' || c == '.' || c == '!' || c == '~' || c == '*' ||
    c == '\'' || c == '(' || c == ')')

/-- The value of a hexadecimal digit. -/
def hexDigitValue? (c : Char) : Option Nat :=
  if '0' ≤ c ∧ c ≤ '9' then some (c.toNat - '0'.toNat)
  else if 'a' ≤ c ∧ c ≤ 'f' then some (c.toNat - 'a'.toNat + 10)
  else if 'A' ≤ c ∧ c ≤ 'F' then some (c.toNat - 'A'.toNat + 10)
  else none

/-- The bytes of a text with its `%XX` escapes decoded. -/
def percentDecodeBytes (s : String) : List UInt8 :=
  go (Text.Utf8.encode s)
where
  go : List UInt8 → List UInt8
    | [] => []
    | [b] => [b]
    | [b, c] => [b, c]
    | b :: h :: l :: more =>
      let escaped : Option UInt8 :=
        if b == 37 then
          match hexDigitValue? (Char.ofNat h.toNat), hexDigitValue? (Char.ofNat l.toNat) with
          | some hv, some lv => some (hv * 16 + lv).toUInt8
          | _, _ => none
        else none
      match escaped with
      | some e => e :: go more
      | none => b :: go (h :: l :: more)

/-- Decode `%XX` escapes, then read the bytes as UTF-8 with replacement. -/
def percentDecode (s : String) : String := Text.Utf8.decodeLossy (percentDecodeBytes s)

end DomainModels.Uri
