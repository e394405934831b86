import HttpReplay.Text.Reader

/-!
What stands between the parts of a TOML document and means nothing: blanks, line ends, comments.
-/

set_option autoImplicit false

namespace HttpReplay.Toml

open Text (Reader)

/-- The blanks within a line. -/
def isBlank (c : Char) : Bool := c == ' ' || c == '\t'

/-- The characters that may stand in comments and, delimiters apart, in strings: all but control
characters. -/
def isPlain (c : Char) : Bool := c == '\t' || (0x20 ≤ c.toNat && c.toNat != 0x7F)

def blanks : Reader Unit := discard (Reader.span isBlank)

/-- The end of a line. -/
def newline : Reader Unit := Reader.char '\n' <|> Reader.text "\r\n"

/-- A comment, up to the end of its line. -/
def comment : Reader Unit := Reader.char '#' *> discard (Reader.span isPlain)

/-- What may stand after a statement on its line, and the end of the line. -/
def restOfLine : Reader Unit := do
  blanks
  let _ ← optional comment
  newline <|> Reader.atEnd

/-- What may stand between the items of an array: blanks, line ends and comments. -/
def gap : Reader Unit := do
  blanks
  let _ ← Reader.many ((newline <|> (comment *> newline)) *> blanks)

end HttpReplay.Toml
