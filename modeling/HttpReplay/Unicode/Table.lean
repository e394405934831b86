import HttpReplay.Text.Numeral
import HttpReplay.Text.Parts

/-!
Tables of character properties.

A property that is not decided by a rule is listed. The lists are long and regular, so they are
kept in a compact written form: a table is a text of rows with blanks between them, a row is a
list of hexadecimal numbers with dots between them, and code points are written as the distance
from the row before. What a row means beyond its first numbers is up to the table.
-/

set_option autoImplicit false

namespace HttpReplay.Unicode

def rows (written : String) : List (List Nat) :=
  ((Text.parts Char.isWhitespace written.toList).filter (!·.isEmpty)).map fun row =>
    (Text.parts (· == '.') row).map fun digits => (Numeral.digits? 16 digits).getD 0

/-- A value that the characters of a range share. -/
structure Entry where
  /-- The first code point. -/
  first : Nat
  /-- The last code point. -/
  last : Nat
  /-- What the characters share; zero in a table that only lists characters. -/
  value : Nat

namespace Entry

def covers (e : Entry) (c : Char) : Bool := e.first ≤ c.toNat && c.toNat ≤ e.last

/-- The entries that rows spell, of which each says how far its first character is from the last
one before it, how many more characters it covers, and their value. -/
def ofRows (previous : Nat) : List (List Nat) → List Entry
  | [] => []
  | row :: rest =>
    let first := previous + row.headD 0
    let last := first + row.getD 1 0
    ⟨first, last, row.getD 2 0⟩ :: ofRows last rest

def table (written : String) : List Entry := ofRows 0 (rows written)

end Entry

/-- The value of a character, if the table lists it. -/
def value? (table : List Entry) (c : Char) : Option Nat :=
  (table.find? (·.covers c)).map (·.value)

def lists (table : List Entry) (c : Char) : Bool := table.any (·.covers c)

end HttpReplay.Unicode
