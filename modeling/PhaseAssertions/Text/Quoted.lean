import PhaseAssertions.Text.Glyphless

/-!
# Quoted text

A text between double quotes in which everything that would be ambiguous or
invisible is written as an escape: the quote and the backslash, the usual
control characters by a letter, and every other character without a glyph of
its own by its code point in hexadecimal digits.
-/

namespace PhaseAssertions.Text

/-- The hexadecimal digits of a number, without leading zeros. -/
def hexDigits (number : Nat) : List Char :=
  Nat.toDigits 16 number

/-- A code point in braces, as in an escape of any length. -/
def codePointEscape (character : Char) : List Char :=
  "\\u\x7b".toList ++ hexDigits character.toNat ++ ['\x7d']

/-- One character as it is written between double quotes. -/
def quoteChar (character : Char) : List Char :=
  match character with
  | '\x00' => ['\\', '0']
  | '\t' => ['\\', 't']
  | '\n' => ['\\', 'n']
  | '\r' => ['\\', 'r']
  | '"' => ['\\', '"']
  | '\\' => ['\\', '\\']
  | _ =>
    if character.toNat < 0x20 || isGlyphless character then
      codePointEscape character
    else
      [character]

def quoted (text : String) : String :=
  String.ofList ('"' :: text.toList.flatMap quoteChar ++ ['"'])

end PhaseAssertions.Text
