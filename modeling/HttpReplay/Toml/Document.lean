import HttpReplay.Toml.Statement

/-!
TOML documents.

A document is its statements, one after the other. What they come to is a table, which is built as
they are read: an assignment goes to the table that the last header named, wherever that is.
-/

set_option autoImplicit false

namespace HttpReplay.Toml

open Text (Reader)

def statements : Reader (List Statement) := do
  let _ ← optional (Reader.char '\uFEFF')
  blanks
  let lines ← Reader.many (((some <$> statement) <|>
    (comment *> (newline <|> Reader.atEnd) *> pure none) <|> (newline *> pure none)) <* blanks)
  Reader.atEnd
  return lines.filterMap id

/-- A document that is read up to some statement. -/
structure Draft where
  /-- What the statements come to. -/
  root : Entries
  /-- The table that the next assignments are for. -/
  current : List String

/-- The document after one more statement, if that is in order. -/
def Draft.add (d : Draft) : Statement → Option Draft
  | .assign path value =>
    (alter false (assign path value) d.current .header d.root).map fun root => { d with root }
  | .table path => (openTable path d.root).map fun root => ⟨root, path⟩
  | .element path => (openElement path d.root).map fun root => ⟨root, path⟩

/-- The table that a document describes. -/
def parse? (document : String) : Option Entries := do
  let (statements, _) ← statements document.toList
  let draft ← statements.foldlM Draft.add ⟨[], []⟩
  some draft.root

end HttpReplay.Toml
