/-! A random stream from the ChaCha cipher with twelve rounds. The stream is the cipher's
key stream read as 32-bit words: block `b` is the ChaCha block of the key with block
counter `b` and a zero nonce, and word `p` of the stream is word `p % 16` of block
`p / 16`. A generator is a key and a position in its stream, so drawing a 32-bit word
advances by one and a 64-bit word is two consecutive words, the first one low.

A 64-bit seed becomes a key through the PCG32 generator: eight outputs, from a state
advanced before each output, are the eight key words. -/
namespace DomainModels.Random

/-- Rotate a word left. -/
def rotl (x : UInt32) (n : UInt32) : UInt32 := (x <<< n) ||| (x >>> (32 - n))

/-- A word of a block, zero past its end. -/
def word (s : Array UInt32) (i : Nat) : UInt32 := s.getD i 0

/-- The quarter round on the words at four positions. -/
def quarterRound (s : Array UInt32) (a b c d : Nat) : Array UInt32 :=
  let va := word s a + word s b
  let vd := rotl (word s d ^^^ va) 16
  let vc := word s c + vd
  let vb := rotl (word s b ^^^ vc) 12
  let va := va + vb
  let vd := rotl (vd ^^^ va) 8
  let vc := vc + vd
  let vb := rotl (vb ^^^ vc) 7
  ((((s.setIfInBounds a va).setIfInBounds b vb).setIfInBounds c vc).setIfInBounds d vd)

/-- Four quarter rounds down the columns, then four along the diagonals. -/
def doubleRound (s : Array UInt32) : Array UInt32 :=
  let s := quarterRound s 0 4 8 12
  let s := quarterRound s 1 5 9 13
  let s := quarterRound s 2 6 10 14
  let s := quarterRound s 3 7 11 15
  let s := quarterRound s 0 5 10 15
  let s := quarterRound s 1 6 11 12
  let s := quarterRound s 2 7 8 13
  quarterRound s 3 4 9 14

/-- The words `expand 32-byte k` that open every block. -/
def sigma : Array UInt32 := #[0x61707865, 0x3320646e, 0x79622d32, 0x6b206574]

/-- The state a block starts from: constants, key, 64-bit counter, zero nonce. -/
def blockInput (key : Array UInt32) (counter : Nat) : Array UInt32 :=
  let c := counter.toUInt64
  sigma ++ key ++ #[c.toUInt32, (c >>> 32).toUInt32, 0, 0]

/-- A block of the key stream: six double rounds, then the input added word by word. -/
def block (key : Array UInt32) (counter : Nat) : Array UInt32 :=
  let input := blockInput key counter
  let mixed := (List.range 6).foldl (fun s _ => doubleRound s) input
  (mixed.zip input).map fun (x, y) => x + y

/-- A generator: a key and the position of the next word of its stream. -/
structure ChaCha where
  key : Array UInt32
  position : Nat
  deriving Repr, Inhabited

namespace ChaCha

/-- The word of the stream at a position. -/
def wordAt (g : ChaCha) (p : Nat) : UInt32 := word (block g.key (p / 16)) (p % 16)

/-- Draw a 32-bit word. -/
def nextU32 (g : ChaCha) : UInt32 × ChaCha :=
  (g.wordAt g.position, { g with position := g.position + 1 })

/-- Draw a 64-bit word: two consecutive words, the first one low. -/
def nextU64 (g : ChaCha) : UInt64 × ChaCha :=
  let lo := g.wordAt g.position
  let hi := g.wordAt (g.position + 1)
  (lo.toUInt64 ||| (hi.toUInt64 <<< 32), { g with position := g.position + 2 })

/-- One step of PCG32: the advanced state and its output. -/
def pcg32 (state : UInt64) : UInt64 × UInt32 :=
  let state := state * 6364136223846793005 + 11634580027462260723
  let xorshifted := (((state >>> 18) ^^^ state) >>> 27).toUInt32
  let rot := (state >>> 59).toUInt32
  (state, (xorshifted >>> rot) ||| (xorshifted <<< (32 - rot)))

/-- The generator of a 64-bit seed, at the start of its stream. -/
def ofSeed (seed : UInt64) : ChaCha :=
  let (_, key) := (List.range 8).foldl (fun (acc : UInt64 × Array UInt32) _ =>
    let (state, out) := pcg32 acc.1
    (state, acc.2.push out)) (seed, #[])
  { key, position := 0 }

end ChaCha

end DomainModels.Random
