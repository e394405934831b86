/-!
White space in texts.

The class is Unicode's `White_Space` property, which is wider than `Char.isWhitespace`: it has the
line and paragraph separators and the typographic spaces too, and it lacks the zero-width space.
-/

set_option autoImplicit false

namespace HttpReplay.Text

/-- The characters with the property `White_Space`. -/
def isBlank (c : Char) : Bool :=
  let n := c.toNat
  (0x09 ≤ n && n ≤ 0x0D) || n == 0x20 || n == 0x85 || n == 0xA0 || n == 0x1680 ||
    (0x2000 ≤ n && n ≤ 0x200A) || n == 0x2028 || n == 0x2029 || n == 0x202F || n == 0x205F ||
    n == 0x3000

/-- The characters without the white space at either end. -/
def trimChars (cs : List Char) : List Char :=
  ((cs.dropWhile isBlank).reverse.dropWhile isBlank).reverse

/-- A text without the white space at either end. -/
def trim (s : String) : String := String.ofList (trimChars s.toList)

/-- The text with its ASCII letters in lower case. -/
def lower (s : String) : String := String.ofList (s.toList.map Char.toLower)

/-- Equality that ignores the case of ASCII letters. -/
def sameLetters (s t : String) : Bool := lower s == lower t

end HttpReplay.Text
