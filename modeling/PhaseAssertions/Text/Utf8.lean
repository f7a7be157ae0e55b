/-!
# UTF-8

Bytes read as UTF-8.  A byte that belongs to no well-formed sequence does not
end the reading: it stands in the result as a place without a character, so
that what surrounds it can still be told.
-/

namespace PhaseAssertions.Text.Utf8

def encode (text : String) : List UInt8 :=
  text.toUTF8.toList

/-- The six low bits of a byte that continues a sequence, if it is one. -/
def continuation? (byte : UInt8) : Option Nat :=
  if 0x80 ≤ byte && byte < 0xc0 then some (byte.toNat % 64) else none

/-- A code point above `least` that is a character. -/
def character? (least code : Nat) : Option Char :=
  if least ≤ code && code.isValidChar then some (Char.ofNat code) else none

/-- The character that starts a list of bytes, with the bytes behind it. -/
def first? : List UInt8 → Option (Char × List UInt8)
  | [] => none
  | b₀ :: rest =>
    let lead := b₀.toNat
    if lead < 0x80 then
      some (Char.ofNat lead, rest)
    else if lead < 0xc0 then
      none
    else if lead < 0xe0 then
      match rest with
      | b₁ :: rest => do
        let c₁ ← continuation? b₁
        let character ← character? 0x80 (lead % 32 * 64 + c₁)
        return (character, rest)
      | _ => none
    else if lead < 0xf0 then
      match rest with
      | b₁ :: b₂ :: rest => do
        let c₁ ← continuation? b₁
        let c₂ ← continuation? b₂
        let character ← character? 0x800 ((lead % 16 * 64 + c₁) * 64 + c₂)
        return (character, rest)
      | _ => none
    else if lead < 0xf8 then
      match rest with
      | b₁ :: b₂ :: b₃ :: rest => do
        let c₁ ← continuation? b₁
        let c₂ ← continuation? b₂
        let c₃ ← continuation? b₃
        let character ←
          character? 0x10000 (((lead % 8 * 64 + c₁) * 64 + c₂) * 64 + c₃)
        return (character, rest)
      | _ => none
    else
      none

/--
The characters of at most `count` steps, where a byte without a character is a
step of its own.
-/
def decodeSteps : Nat → List UInt8 → List (Option Char)
  | _, [] => []
  | 0, _ => []
  | count + 1, byte :: rest =>
    match first? (byte :: rest) with
    | some (character, rest) => some character :: decodeSteps count rest
    | none => none :: decodeSteps count rest

/-- The characters of some bytes; `none` stands for a byte that has none. -/
def decode (bytes : List UInt8) : List (Option Char) :=
  decodeSteps bytes.length bytes

/-- The text of some bytes, if all of them are well-formed. -/
def text? (bytes : List UInt8) : Option String :=
  ((decode bytes).mapM id).map String.ofList

/-- The bytes behind a mark of the byte order at their front, if there is one. -/
def withoutMark : List UInt8 → List UInt8
  | 0xef :: 0xbb :: 0xbf :: rest => rest
  | bytes => bytes

end PhaseAssertions.Text.Utf8
