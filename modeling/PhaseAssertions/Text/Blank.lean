/-!
# White space

The characters that count as white space at the ends of a text, which are the
code points with the Unicode property of that name, and the text without them.
-/

namespace PhaseAssertions.Text

/-- Whether a character has the Unicode property of being white space. -/
def isBlank (character : Char) : Bool :=
  let code := character.toNat
  (0x09 ≤ code && code ≤ 0x0d) || code == 0x20 || code == 0x85 || code == 0xa0 ||
    code == 0x1680 || (0x2000 ≤ code && code ≤ 0x200a) || code == 0x2028 ||
    code == 0x2029 || code == 0x202f || code == 0x205f || code == 0x3000

/-- The characters without the white space at both ends. -/
def trimChars (characters : List Char) : List Char :=
  ((characters.dropWhile isBlank).reverse.dropWhile isBlank).reverse

/-- Whether the text holds nothing but white space. -/
def isBlankText (text : String) : Bool :=
  text.toList.all isBlank

end PhaseAssertions.Text
