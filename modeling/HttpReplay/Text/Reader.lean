/-!
Readers of text.

A reader takes characters and gives what it read and the rest, or nothing where the text does not
start with what it reads. A reader that is tried where another has failed starts from the same
place, since a failure leaves nothing behind.
-/

set_option autoImplicit false

namespace HttpReplay.Text

/-- What reads a value of type `α` from the start of a text. -/
abbrev Reader (α : Type) := StateT (List Char) Option α

namespace Reader

/-- One character that satisfies `p`. -/
def one (p : Char → Bool) : Reader Char := fun
  | [] => none
  | c :: rest => if p c then some (c, rest) else none

/-- The character `c`. -/
def char (c : Char) : Reader Unit := fun
  | [] => none
  | d :: rest => if d = c then some ((), rest) else none

/-- The given characters, one after the other. -/
def chars (expected : List Char) : Reader Unit := expected.forM char

def text (s : String) : Reader Unit := chars s.toList

/-- All characters that satisfy `p`, until one does not. -/
def span (p : Char → Bool) : Reader (List Char) := fun cs => some (cs.takeWhile p, cs.dropWhile p)

/-- As `span`, but at least one. -/
def span1 (p : Char → Bool) : Reader (List Char) := do
  let cs ← span p
  guard !cs.isEmpty
  return cs

/-- As many characters as given, all of which satisfy `p`. -/
def count (n : Nat) (p : Char → Bool) : Reader (List Char) := fun cs =>
  if (cs.take n).length = n && (cs.take n).all p then some (cs.take n, cs.drop n) else none

/-- The next character, which is left where it is. -/
def next? : Reader (Option Char) := fun cs => some (cs.head?, cs)

/-- Nothing, at the end of the text. -/
def atEnd : Reader Unit := fun cs => if cs.isEmpty then some ((), cs) else none

/-- What a reader can read again and again. A reading that takes no character is the last. -/
def manyFrom {α : Type} (r : Reader α) (cs : List Char) : List α × List Char :=
  match r cs with
  | none => ([], cs)
  | some (a, rest) =>
    if rest.length < cs.length then
      let (more, rest) := manyFrom r rest
      (a :: more, rest)
    else ([a], rest)
termination_by cs.length

/-- As often as `r` can read. -/
def many {α : Type} (r : Reader α) : Reader (List α) := fun cs => some (manyFrom r cs)

/-- One or more readings with `separator` between each two. -/
def separated {α β : Type} (r : Reader α) (separator : Reader β) : Reader (List α) := do
  let first ← r
  let more ← many (separator *> r)
  return first :: more

/-- What a reader reads, and the text that it took. -/
def withText {α : Type} (r : Reader α) : Reader (α × List Char) := fun cs =>
  (r cs).map fun (a, rest) => ((a, cs.take (cs.length - rest.length)), rest)

def whole {α : Type} (r : Reader α) (s : String) : Option α :=
  match r s.toList with
  | some (a, []) => some a
  | _ => none

end Reader
end HttpReplay.Text
