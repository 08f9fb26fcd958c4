/-! Decoding UTF-8 bytes. `decode?` accepts exactly the well-formed sequences; `decodeLossy`
replaces each maximal ill-formed subpart by U+FFFD: a lead byte together with the
continuation bytes that still fit it, or a single byte that can begin no sequence. -/
namespace DomainModels.Text.Utf8

/-- The replacement character. -/
def replacement : Char := Char.ofNat 0xFFFD

/-- The range the first continuation byte of a sequence may take, by lead byte, and the
number of continuation bytes; `none` for a byte that begins no sequence. -/
def leadShape (b : Nat) : Option (Nat × Nat × Nat) :=
  if b < 0xC2 then none
  else if b ≤ 0xDF then some (0x80, 0xBF, 1)
  else if b == 0xE0 then some (0xA0, 0xBF, 2)
  else if b == 0xED then some (0x80, 0x9F, 2)
  else if b ≤ 0xEF then some (0x80, 0xBF, 2)
  else if b == 0xF0 then some (0x90, 0xBF, 3)
  else if b ≤ 0xF3 then some (0x80, 0xBF, 3)
  else if b == 0xF4 then some (0x80, 0x8F, 3)
  else none

/-- The value bits of a lead byte with `n` continuation bytes. -/
def leadBits (b n : Nat) : Nat :=
  match n with
  | 1 => b % 0x20
  | 2 => b % 0x10
  | _ => b % 0x08

/-- One step of decoding at the front: a character, or `none` for an ill-formed subpart,
and the bytes after it. -/
def decodeOne : List UInt8 → Option (Option Char × List UInt8)
  | [] => none
  | b :: rest =>
    let b := b.toNat
    if b < 0x80 then some (some (Char.ofNat b), rest)
    else
      match leadShape b with
      | none => some (none, rest)
      | some (lo, hi, n) =>
        -- take continuation bytes while they fit; the first must lie in [lo, hi]
        let rec go : Nat → Nat → Bool → List UInt8 → Option Char × List UInt8
          | 0, acc, _, bs => (some (Char.ofNat acc), bs)
          | k + 1, acc, first, bs =>
            match bs with
            | c :: more =>
              let c := c.toNat
              let ok := if first then lo ≤ c && c ≤ hi else 0x80 ≤ c && c ≤ 0xBF
              if ok then go k (acc * 64 + (c % 64)) false more else (none, bs)
            | [] => (none, [])
        some (go n (leadBits b n) true rest)

/-- Decode, replacing ill-formed subparts. -/
def decodeLossy (bytes : List UInt8) : String :=
  go bytes.length bytes ""
where
  go : Nat → List UInt8 → String → String
    | 0, _, acc => acc
    | fuel + 1, bs, acc =>
      match decodeOne bs with
      | none => acc
      | some (some c, rest) => go fuel rest (acc.push c)
      | some (none, rest) => go fuel rest (acc.push replacement)

/-- Decode well-formed UTF-8 only. -/
def decode? (bytes : List UInt8) : Option String :=
  go bytes.length bytes ""
where
  go : Nat → List UInt8 → String → Option String
    | 0, _, acc => some acc
    | fuel + 1, bs, acc =>
      match decodeOne bs with
      | none => some acc
      | some (some c, rest) => go fuel rest (acc.push c)
      | some (none, _) => none

/-- The UTF-8 bytes of a text. -/
def encode (s : String) : List UInt8 := s.toUTF8.toList

end DomainModels.Text.Utf8
