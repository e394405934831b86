import HttpReplay.Text.Numeral
import HttpReplay.Toml.Blank

/-!
Strings of a TOML document.

There are four ways to write one: with escapes or without, on one line or on several. On several
lines one or two quotation marks may stand in the string, also at its end, since only three of them
close it; and a line end is a line feed however it is written.
-/

set_option autoImplicit false

namespace HttpReplay.Toml

open Text (Reader)

/-! ## Escapes -/

/-- The character that `digits` hexadecimal digits stand for. -/
def codePoint (digits : Nat) : Reader Char := do
  let cs ← Reader.count digits fun c => (Numeral.digit? 16 c).isSome
  let n := (Numeral.digits? 16 cs).getD 0
  guard (n < 0xD800 || (0xDFFF < n && n < 0x110000))
  return Char.ofNat n

/-- What the characters after a backslash stand for. -/
def escaped : Reader Char := do
  match ← Reader.one fun _ => true with
  | 'b' => return '\x08'
  | 't' => return '\t'
  | 'n' => return '\n'
  | 'f' => return '\x0c'
  | 'r' => return '\r'
  | '"' => return '"'
  | '\\' => return '\\'
  | 'u' => codePoint 4
  | 'U' => codePoint 8
  | _ => failure

def escapable : Reader Char :=
  Reader.one (fun c => isPlain c && c != '"' && c != '\\') <|> (Reader.char '\\' *> escaped)

/-! ## Strings on one line -/

def basicString : Reader String := do
  Reader.char '"'
  let cs ← Reader.many escapable
  Reader.char '"'
  return String.ofList cs

/-- A string without escapes. -/
def literalString : Reader String := do
  Reader.char '\''
  let cs ← Reader.span fun c => isPlain c && c != '\''
  Reader.char '\''
  return String.ofList cs

/-! ## Strings on several lines -/

/-- One or two quotation marks that do not close the string, since another character follows. -/
def marksInside (mark : Char) : Reader (List Char) := do
  let marks ← Reader.span1 (· == mark)
  guard (marks.length ≤ 2 && (← Reader.next?).isSome)
  return marks

/-- The three marks that close a string, and up to two before them that belong to it. -/
def closingMarks (mark : Char) : Reader (List Char) :=
  [2, 1, 0].firstM fun n => do
    let inside ← Reader.count n (· == mark)
    let _ ← Reader.count 3 (· == mark)
    return inside

/-- A string between three marks on either side. A line end right after the first three does not
belong to it. -/
def multiLine (mark : Char) (piece : Reader (List Char)) : Reader String := do
  Reader.chars (List.replicate 3 mark)
  let _ ← optional newline
  let pieces ← Reader.many (piece <|> (newline *> pure ['\n']) <|> marksInside mark)
  let inside ← closingMarks mark
  return String.ofList (pieces.flatten ++ inside)

/-- A backslash at the end of a line, which joins the line to the next text. -/
def joinedLine : Reader (List Char) := do
  Reader.char '\\'
  blanks
  newline
  let _ ← Reader.many (newline <|> discard (Reader.span1 isBlank))
  return []

def multiLineBasic : Reader String := multiLine '"' (joinedLine <|> (([·]) <$> escapable))

/-- A string without escapes on several lines. -/
def multiLineLiteral : Reader String :=
  multiLine '\'' (([·]) <$> Reader.one fun c => isPlain c && c != '\'')

def quoted : Reader String :=
  multiLineBasic <|> basicString <|> multiLineLiteral <|> literalString

end HttpReplay.Toml
