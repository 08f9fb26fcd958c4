import DomainModels.Uri.Percent
/-! Absolute URLs, read as the WHATWG URL standard reads a text without a base URL. The
text is trimmed of leading and trailing controls and spaces and stripped of tabs and line
breaks. A scheme is required; `http`, `https`, `ws`, `wss`, `ftp` and `file` are special
and always have a host and a path starting with `/`. Other schemes either have an
authority (`//host`), a path starting with `/`, or an opaque path. Path segments `.` and
`..` are resolved. Components are percent-encoded by the sets of `Uri.Percent`. -/
namespace DomainModels.Uri

/-- Why a text is no URL. -/
inductive UrlError where
  | emptyHost
  | idna
  | invalidPort
  | invalidIpv4
  | invalidIpv6
  | invalidDomainCharacter
  | relativeWithoutBase
  deriving Repr, DecidableEq

/-- The text of a URL failure. -/
def UrlError.text : UrlError → String
  | .emptyHost => "empty host"
  | .idna => "invalid international domain name"
  | .invalidPort => "invalid port number"
  | .invalidIpv4 => "invalid IPv4 address"
  | .invalidIpv6 => "invalid IPv6 address"
  | .invalidDomainCharacter => "invalid domain character"
  | .relativeWithoutBase => "relative URL without a base"

/-- A parsed URL; its components are kept percent-encoded. -/
structure Url where
  scheme : String
  username : String := ""
  password : Option String := none
  host : Option String := none
  port : Option Nat := none
  path : String := ""
  query : Option String := none
  fragment : Option String := none
  deriving Repr, Inhabited

/-- The special schemes and their default ports (`file` has none). -/
def specialSchemes : List (String × Option Nat) :=
  [("ftp", some 21), ("file", none), ("http", some 80), ("https", some 443), ("ws", some 80),
   ("wss", some 443)]

/-- Whether a scheme is special. -/
def isSpecial (scheme : String) : Bool := specialSchemes.any (·.1 == scheme)

/-- The default port of a scheme. -/
def defaultPort (scheme : String) : Option Nat :=
  (specialSchemes.find? (·.1 == scheme)).bind Prod.snd

/-- Split at the first character satisfying `p`: before it, and it with the rest. -/
def breakAt (p : Char → Bool) (s : List Char) : List Char × List Char :=
  (s.takeWhile (fun c => !p c), s.dropWhile (fun c => !p c))

/-- Whether a character is an ASCII letter. -/
def isAsciiAlpha (c : Char) : Bool := ('a' ≤ c && c ≤ 'z') || ('A' ≤ c && c ≤ 'Z')

/-- Whether a character is an ASCII digit. -/
def isAsciiDigitChar (c : Char) : Bool := '0' ≤ c && c ≤ '9'

/-- Whether a character is an ASCII hexadecimal digit. -/
def isHexChar (c : Char) : Bool := (hexDigitValue? c).isSome

/-- Encode characters one by one with a set. -/
def encodeChars (inSet : Char → Bool) (cs : List Char) : String := percentEncode inSet (String.ofList cs)

/-- The value of a number of an IPv4 address in decimal, octal (leading `0`) or hexadecimal
(leading `0x`). -/
def ipv4Number? (part : List Char) : Option Nat :=
  if part.isEmpty then none
  else
    let (radix, digits) : Nat × List Char :=
      match part with
      | '0' :: 'x' :: rest => (16, rest)
      | '0' :: 'X' :: rest => (16, rest)
      | '0' :: rest@(_ :: _) => (8, rest)
      | _ => (10, part)
    digits.foldl (fun acc c => acc.bind fun v =>
      (hexDigitValue? c).bind fun d => if d < radix then some (v * radix + d) else none) (some 0)

/-- Whether a host ends in a number and so must be an IPv4 address. -/
def endsInNumber (host : List Char) : Bool :=
  let parts := (String.ofList host).splitOn "."
  let parts := if parts.length > 1 && parts.getLast? == some "" then parts.dropLast else parts
  match parts.getLast? with
  | some last =>
    let cs := last.toList
    (!cs.isEmpty && cs.all isAsciiDigitChar) || (ipv4Number? cs).isSome
  | none => false

/-- Whether a host is a valid IPv4 address. -/
def isIpv4 (host : List Char) : Bool :=
  let parts := (String.ofList host).splitOn "."
  let parts := if parts.length > 1 && parts.getLast? == some "" then parts.dropLast else parts
  if parts.length > 4 then false
  else
    match parts.mapM (fun p => ipv4Number? p.toList) with
    | none => false
    | some numbers =>
      let front := numbers.dropLast
      front.all (· ≤ 255) &&
        match numbers.getLast? with
        | some last => last < Nat.pow 256 (5 - numbers.length)
        | none => false

/-- Up to four hexadecimal digits, their value and the rest. -/
def hexPiece (s : List Char) : Nat × Nat × List Char :=
  let ds := (s.take 4).takeWhile isHexChar
  (ds.foldl (fun acc c => acc * 16 + (hexDigitValue? c).getD 0) 0, ds.length, s.drop ds.length)

/-- Whether the text of an embedded IPv4 address at the end of an IPv6 address is valid:
four decimal numbers below 256 without leading zeros. -/
def isEmbeddedIpv4 (s : List Char) : Bool :=
  let parts := (String.ofList s).splitOn "."
  parts.length == 4 && parts.all fun p =>
    let cs := p.toList
    !cs.isEmpty && cs.all isAsciiDigitChar && (cs.length == 1 || cs.head? != some '0') &&
      p.toNat! ≤ 255

/-- Whether a text between brackets is a valid IPv6 address. -/
def isIpv6 (s : List Char) : Bool :=
  -- pieces are counted; `::` may stand once; an IPv4 tail counts as two pieces
  let start : Option (List Char × Nat × Bool) :=
    match s with
    | ':' :: ':' :: rest => some (rest, 1, true)
    | ':' :: _ => none
    | _ => some (s, 0, false)
  match start with
  | none => false
  | some (s, pieces, compressed) => go s.length s pieces compressed
where
  go : Nat → List Char → Nat → Bool → Bool
    | 0, _, _, _ => false
    | fuel + 1, s, pieces, compressed =>
      match s with
      | [] => compressed || pieces == 8
      | ':' :: rest =>
        if compressed || pieces == 8 then false else go fuel rest pieces true
      | _ =>
        if pieces == 8 then false
        else
          let (_, len, rest) := hexPiece s
          match rest with
          | '.' :: _ =>
            len > 0 && pieces ≤ 6 && isEmbeddedIpv4 s &&
              (compressed || pieces + 2 == 8)
          | ':' :: [] => false
          | ':' :: more => len > 0 && go fuel more (pieces + 1) compressed
          | [] => len > 0 && (compressed || pieces + 1 == 8)
          | _ => false

/-- Whether a character may not stand in a domain. -/
def isForbiddenDomainChar (c : Char) : Bool :=
  c.toNat < 0x20 || c.toNat == 0x7F || " #%/:<>?@[\\]^|".toList.contains c

/-- Whether a character may not stand in an opaque host. -/
def isForbiddenHostChar (c : Char) : Bool :=
  c.toNat == 0 || c == '\t' || c == '\n' || c == '\r' || " #/:<>?@[\\]^|".toList.contains c

/-- Read the host of a special URL. -/
def specialHost (s : List Char) : Except UrlError String :=
  match s with
  | '[' :: rest =>
    if rest.getLast? != some ']' then .error .invalidIpv6
    else if isIpv6 rest.dropLast then .ok (String.ofList s) else .error .invalidIpv6
  | _ =>
    let decoded := (Text.Utf8.decodeLossy (percentDecodeBytes (String.ofList s))).toList
    let lowered := decoded.map Char.toLower
    if lowered.any isForbiddenDomainChar then .error .idna
    else if lowered.isEmpty then .error .emptyHost
    else if endsInNumber lowered then
      if isIpv4 lowered then .ok (String.ofList lowered) else .error .invalidIpv4
    else .ok (String.ofList lowered)

/-- Read the host of a URL with a scheme that is not special. -/
def opaqueHost (s : List Char) : Except UrlError String :=
  match s with
  | '[' :: rest =>
    if rest.getLast? != some ']' then .error .invalidIpv6
    else if isIpv6 rest.dropLast then .ok (String.ofList s) else .error .invalidIpv6
  | _ =>
    if s.any isForbiddenHostChar then .error .invalidDomainCharacter
    else .ok (encodeChars controlSet s)

/-- A port: decimal digits up to 65535; the scheme's default port counts as none. -/
def readPort (scheme : String) (s : List Char) : Except UrlError (Option Nat) :=
  if !s.all isAsciiDigitChar then .error .invalidPort
  else if s.isEmpty then .ok none
  else
    let v := s.foldl (fun acc c => acc * 10 + (c.toNat - 48)) 0
    if v > 65535 then .error .invalidPort
    else if defaultPort scheme == some v then .ok none else .ok (some v)

/-- The parts of an authority. -/
structure Authority where
  username : String := ""
  password : Option String := none
  host : String := ""
  port : Option Nat := none

/-- Read an authority: user information up to the last `@`, a host, and a port after a
colon outside brackets. -/
def readAuthority (scheme : String) (special : Bool) (s : List Char) : Except UrlError Authority := do
  let atIndex := s.length - 1 - ((s.reverse.idxOf? '@').getD s.length)
  let (userinfo, hostPort) : Option (List Char) × List Char :=
    if s.contains '@' then (some (s.take atIndex), s.drop (atIndex + 1)) else (none, s)
  let (username, password) : String × Option String :=
    match userinfo with
    | none => ("", none)
    | some ui =>
      match ui.idxOf? ':' with
      | some i => (encodeChars userinfoSet (ui.take i), some (encodeChars userinfoSet (ui.drop (i + 1))))
      | none => (encodeChars userinfoSet ui, none)
  if userinfo == some [] && hostPort.isEmpty then throw .emptyHost
  -- the host ends at a colon outside brackets
  let rec scan : List Char → Bool → List Char → List Char × List Char
    | [], _, acc => (acc.reverse, [])
    | c :: rest, inside, acc =>
      if c == ':' && !inside then (acc.reverse, c :: rest)
      else scan rest (if c == '[' then true else if c == ']' then false else inside) (c :: acc)
  let (hostText, after) := scan hostPort false []
  if special && hostText.isEmpty then throw .emptyHost
  let host ← if special then specialHost hostText else opaqueHost hostText
  if host.isEmpty && (after.head? == some ':') then throw .emptyHost
  let port ← match after with
    | ':' :: portText => readPort scheme portText
    | _ => pure none
  pure { username, password, host, port }

/-- Whether a segment is `.` or an escaped form of it. -/
def isSingleDot (seg : String) : Bool := seg == "." || seg.toLower == "%2e"

/-- Whether a segment is `..` or an escaped form of it. -/
def isDoubleDot (seg : String) : Bool :=
  let l := seg.toLower
  l == ".." || l == ".%2e" || l == "%2e." || l == "%2e%2e"

/-- Resolve path segments: `.` is dropped and `..` removes the segment before it; either
at the end leaves an empty last segment. -/
def resolveSegments (segs : List String) : List String :=
  go segs []
where
  go : List String → List String → List String
    | [], acc => acc.reverse
    | [seg], acc =>
      if isDoubleDot seg then ("" :: acc.drop 1).reverse
      else if isSingleDot seg then ("" :: acc).reverse
      else (seg :: acc).reverse
    | seg :: rest, acc =>
      if isDoubleDot seg then go rest (acc.drop 1)
      else if isSingleDot seg then go rest acc
      else go rest (seg :: acc)

/-- A hierarchical path from the text after its leading separator. -/
def readPath (special : Bool) (s : List Char) : String :=
  let isSep (c : Char) : Bool := c == '/' || (special && c == '\\')
  let rec split : Nat → List Char → List (List Char)
    | 0, rest => [rest]
    | n + 1, rest =>
      let (seg, after) := breakAt isSep rest
      match after with
      | _ :: more => seg :: split n more
      | [] => [seg]
  let segs := (split s.length s).map (encodeChars pathSet)
  (resolveSegments segs).foldl (fun acc seg => acc ++ "/" ++ seg) ""

/-- Read an absolute URL. -/
def Url.parse (text : String) : Except UrlError Url := do
  let trimmed := ((text.toList.dropWhile (·.toNat ≤ 0x20)).reverse.dropWhile (·.toNat ≤ 0x20)).reverse
  let cs := trimmed.filter fun c => c != '\t' && c != '\n' && c != '\r'
  let (scheme, rest) ← match cs with
    | c :: _ =>
      if !isAsciiAlpha c then throw UrlError.relativeWithoutBase
      else
        let name := cs.takeWhile fun d => d.isAlphanum || d == '+' || d == '-' || d == '.'
        match cs.drop name.length with
        | ':' :: rest => pure ((String.ofList name).toLower, rest)
        | _ => throw UrlError.relativeWithoutBase
    | [] => throw UrlError.relativeWithoutBase
  let special := isSpecial scheme
  let (beforeFragment, fragment) := breakAt (· == '#') rest
  let fragment := match fragment with
    | _ :: f => some (encodeChars fragmentSet f)
    | [] => none
  let (hier, query) := breakAt (· == '?') beforeFragment
  let query := match query with
    | _ :: q => some (encodeChars (if special then specialQuerySet else querySet) q)
    | [] => none
  let isSep (c : Char) : Bool := c == '/' || (special && c == '\\')
  if special && scheme != "file" then
    let afterSlashes := hier.dropWhile isSep
    let (authority, path) := breakAt isSep afterSlashes
    let a ← readAuthority scheme true authority
    let path := match path with
      | _ :: p => readPath true p
      | [] => "/"
    pure { scheme, username := a.username, password := a.password, host := some a.host,
           port := a.port, path, query, fragment }
  else if special then
    -- file URLs: an optional host after two slashes, then a path
    match hier with
    | s1 :: s2 :: more =>
      if isSep s1 && isSep s2 then
        let (authority, path) := breakAt isSep more
        let host := String.ofList (authority.map Char.toLower)
        let host := if host == "localhost" then "" else host
        let path := match path with
          | _ :: p => readPath true p
          | [] => "/"
        pure { scheme, host := some host, path, query, fragment }
      else
        let p := if isSep s1 then s2 :: more else hier
        pure { scheme, host := some "", path := readPath true p, query, fragment }
    | _ =>
      let p := match hier with
        | c :: more => if isSep c then more else hier
        | [] => []
      pure { scheme, host := some "", path := readPath true p, query, fragment }
  else
    match hier with
    | '/' :: '/' :: more =>
      let (authority, path) := breakAt (· == '/') more
      let a ← readAuthority scheme false authority
      let path := match path with
        | _ :: p => readPath false p
        | [] => ""
      pure { scheme, username := a.username, password := a.password, host := some a.host,
             port := a.port, path, query, fragment }
    | '/' :: p => pure { scheme, path := readPath false p, query, fragment }
    | _ => pure { scheme, path := encodeChars controlSet hier, query, fragment }

end DomainModels.Uri
