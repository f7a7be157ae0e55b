/-!
# SHA-256

The digest that identifies the contents of a file.  The bytes are padded to a
whole number of blocks of sixteen words, every block is expanded to a schedule
of 64 words, and each word of the schedule turns the eight words of the state.
The constants are the fractional parts of the square roots of the first eight
primes and of the cube roots of the first 64 primes.
-/

namespace PhaseAssertions.Digest

/-- The eight words of the state. -/
structure State where
  a : UInt32
  b : UInt32
  c : UInt32
  d : UInt32
  e : UInt32
  f : UInt32
  g : UInt32
  h : UInt32

namespace State

def start : State :=
  ⟨0x6a09e667, 0xbb67ae85, 0x3c6ef372, 0xa54ff53a,
    0x510e527f, 0x9b05688c, 0x1f83d9ab, 0x5be0cd19⟩

def toList (state : State) : List UInt32 :=
  [state.a, state.b, state.c, state.d, state.e, state.f, state.g, state.h]

def add (left right : State) : State :=
  ⟨left.a + right.a, left.b + right.b, left.c + right.c, left.d + right.d,
    left.e + right.e, left.f + right.f, left.g + right.g, left.h + right.h⟩

end State

def roundConstants : List UInt32 :=
  [ 0x428a2f98, 0x71374491, 0xb5c0fbcf, 0xe9b5dba5, 0x3956c25b, 0x59f111f1, 0x923f82a4,
    0xab1c5ed5, 0xd807aa98, 0x12835b01, 0x243185be, 0x550c7dc3, 0x72be5d74, 0x80deb1fe,
    0x9bdc06a7, 0xc19bf174, 0xe49b69c1, 0xefbe4786, 0x0fc19dc6, 0x240ca1cc, 0x2de92c6f,
    0x4a7484aa, 0x5cb0a9dc, 0x76f988da, 0x983e5152, 0xa831c66d, 0xb00327c8, 0xbf597fc7,
    0xc6e00bf3, 0xd5a79147, 0x06ca6351, 0x14292967, 0x27b70a85, 0x2e1b2138, 0x4d2c6dfc,
    0x53380d13, 0x650a7354, 0x766a0abb, 0x81c2c92e, 0x92722c85, 0xa2bfe8a1, 0xa81a664b,
    0xc24b8b70, 0xc76c51a3, 0xd192e819, 0xd6990624, 0xf40e3585, 0x106aa070, 0x19a4c116,
    0x1e376c08, 0x2748774c, 0x34b0bcb5, 0x391c0cb3, 0x4ed8aa4a, 0x5b9cca4f, 0x682e6ff3,
    0x748f82ee, 0x78a5636f, 0x84c87814, 0x8cc70208, 0x90befffa, 0xa4506ceb, 0xbef9a3f7,
    0xc67178f2 ]

def rotateRight (word : UInt32) (bits : UInt32) : UInt32 :=
  (word >>> bits) ||| (word <<< (32 - bits))

/-- The bytes of a number, the most significant first. -/
def bigEndian (count : Nat) (number : Nat) : List UInt8 :=
  (List.range count).reverse.map fun place => UInt8.ofNat (number >>> (8 * place))

/-- The word of four bytes, the most significant first. -/
def wordOfBytes (b₀ b₁ b₂ b₃ : UInt8) : UInt32 :=
  (b₀.toUInt32 <<< 24) ||| (b₁.toUInt32 <<< 16) ||| (b₂.toUInt32 <<< 8) ||| b₃.toUInt32

/-- The words of a list of bytes; one to three bytes at the end make no word. -/
def words : List UInt8 → List UInt32
  | b₀ :: b₁ :: b₂ :: b₃ :: rest => wordOfBytes b₀ b₁ b₂ b₃ :: words rest
  | _ => []

/--
The bytes followed by a single set bit, by zeros up to eight bytes before the
end of a block of 64 bytes, and by their length in bits.
-/
def pad (bytes : List UInt8) : List UInt8 :=
  let length := bytes.length
  bytes ++ 0x80 :: List.replicate ((119 - length % 64) % 64) 0 ++
    bigEndian 8 (8 * length)

/-- The word that continues a schedule whose last sixteen words are given. -/
def scheduleWord (w₁₆ w₁₅ w₇ w₂ : UInt32) : UInt32 :=
  let s₀ := rotateRight w₁₅ 7 ^^^ rotateRight w₁₅ 18 ^^^ (w₁₅ >>> 3)
  let s₁ := rotateRight w₂ 17 ^^^ rotateRight w₂ 19 ^^^ (w₂ >>> 10)
  w₁₆ + s₀ + w₇ + s₁

/-- The next `count` words of a schedule from its last sixteen words. -/
def scheduleFrom (window : List UInt32) : Nat → List UInt32
  | 0 => []
  | count + 1 =>
    match window with
    | w₁₆ :: w₁₅ :: rest =>
      let word := scheduleWord w₁₆ w₁₅ (rest.getD 7 0) (rest.getD 12 0)
      word :: scheduleFrom (w₁₅ :: rest ++ [word]) count
    | _ => []

def schedule (block : List UInt32) : List UInt32 :=
  block ++ scheduleFrom block 48

def round (state : State) (inputs : UInt32 × UInt32) : State :=
  let s₁ := rotateRight state.e 6 ^^^ rotateRight state.e 11 ^^^ rotateRight state.e 25
  let choice := (state.e &&& state.f) ^^^ (~~~state.e &&& state.g)
  let t₁ := state.h + s₁ + choice + inputs.1 + inputs.2
  let s₀ := rotateRight state.a 2 ^^^ rotateRight state.a 13 ^^^ rotateRight state.a 22
  let majority :=
    (state.a &&& state.b) ^^^ (state.a &&& state.c) ^^^ (state.b &&& state.c)
  ⟨t₁ + (s₀ + majority), state.a, state.b, state.c, state.d + t₁, state.e, state.f, state.g⟩

def compress (state : State) (block : List UInt32) : State :=
  state.add ((roundConstants.zip (schedule block)).foldl round state)

def compressBlocks (state : State) (rest : List UInt32) : Nat → State
  | 0 => state
  | count + 1 => compressBlocks (compress state (rest.take 16)) (rest.drop 16) count

/-- The 32 bytes of the digest. -/
def sha256 (bytes : List UInt8) : List UInt8 :=
  let padded := words (pad bytes)
  (compressBlocks .start padded (padded.length / 16)).toList.flatMap fun word =>
    bigEndian 4 word.toNat

/-- The two lower-case hexadecimal digits of a byte. -/
def hexByte (byte : UInt8) : List Char :=
  [Nat.digitChar (byte.toNat / 16), Nat.digitChar (byte.toNat % 16)]

/-- The digest as 64 lower-case hexadecimal digits. -/
def sha256Hex (bytes : List UInt8) : String :=
  String.ofList ((sha256 bytes).flatMap hexByte)

end PhaseAssertions.Digest
