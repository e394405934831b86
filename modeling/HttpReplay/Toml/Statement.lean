import HttpReplay.Toml.Value
import HttpReplay.Toml.Quoted
import HttpReplay.Toml.Number
import HttpReplay.Toml.DateTime

/-!
The statements of a TOML document.

A statement gives a key its value, or is a header that says which table the next statements are
about. Values nest, and the reader of values recurs on how deep they may still nest: the bound that
keeps a hostile document from exhausting the machine is also what makes the recursion end.
-/

set_option autoImplicit false

namespace HttpReplay.Toml

open Text (Reader)

/-! ## Keys -/

/-- Whether a character may stand in a key without quotation marks. -/
def isKeyChar (c : Char) : Bool := c.isAlphanum || c == '-' || c == '_'

def keyPart : Reader String :=
  basicString <|> literalString <|> (String.ofList <$> Reader.span1 isKeyChar)

/-- No key has as many parts as this, and values do not nest as deep. -/
def depthLimit : Nat := 80

/-- The parts of a key, with dots between them. -/
def key : Reader (List String) := do
  let parts ← Reader.separated (blanks *> keyPart <* blanks) (Reader.char '.')
  guard (parts.length < depthLimit)
  return parts

/-! ## Tables in construction -/

/-- **Changes the table that a path leads to.** The tables on the way come to be where they are
missing, as dotted keys or headers make them. A dotted key may not lead through a table that a
header names, and nothing may lead through a value or a closed table; of the tables that headers
in double brackets name, the path leads through the last. -/
def alter (isDotted : Bool) (change : Origin → Entries → Option Entries) :
    List String → Origin → Entries → Option Entries
  | [], origin, entries => change origin entries
  | part :: rest, _, entries =>
    match entries.get? part with
    | none => do
      let origin := if isDotted then .dotted else .path
      let inner ← alter isDotted change rest origin []
      some (entries.add part (.table origin inner))
    | some (.table origin inner) =>
      if origin = .braces || (isDotted && origin = .header) then none
      else (alter isDotted change rest origin inner).map fun inner =>
        entries.set part (.table origin inner)
    | some (.tables items) => do
      let last ← items.getLast?
      let last ← alter isDotted change rest .header last
      some (entries.set part (.tables (items.dropLast ++ [last])))
    | some _ => none

/-- Gives a key its value. Where the key has dots, only a table that dotted keys have made may
take it. -/
def assign (path : List String) (value : Value) (origin : Origin) (entries : Entries) :
    Option Entries := do
  let last ← path.getLast?
  alter true (fun origin table => do
    guard ((origin == .dotted) == (path.length != 1))
    guard (table.get? last).isNone
    some (table.add last value)) path.dropLast origin entries

/-- Names a table in a header. -/
def openTable (path : List String) (root : Entries) : Option Entries := do
  let last ← path.getLast?
  alter false (fun _ table =>
    match table.get? last with
    | none => some (table.add last (.table .header []))
    | some (.table .path inner) => some (table.set last (.table .header inner))
    | some _ => none) path.dropLast .header root

/-- Names one more table of several in a header. -/
def openElement (path : List String) (root : Entries) : Option Entries := do
  let last ← path.getLast?
  alter false (fun _ table =>
    match table.get? last with
    | none => some (table.add last (.tables [[]]))
    | some (.tables items) => some (table.set last (.tables (items ++ [[]])))
    | some _ => none) path.dropLast .header root

/-! ## Values -/

/-- A truth value. -/
def boolean : Reader Bool :=
  (Reader.text "true" *> pure true) <|> (Reader.text "false" *> pure false)

def scalar : Reader Value :=
  (.string <$> quoted) <|> (.boolean <$> boolean) <|> (.dateTime <$> dateTime) <|>
    (.float <$> float) <|> (.integer <$> integer)

/-- An array of values. A comma may follow the last. -/
def array (value : Reader Value) : Reader Value := do
  Reader.char '['
  let items ← optional (Reader.separated (gap *> value <* gap) (Reader.char ',') <*
    optional (Reader.char ','))
  gap
  Reader.char ']'
  return .array (items.getD [])

def assignment (value : Reader Value) : Reader (List String × Value) := do
  let path ← key
  Reader.char '='
  blanks
  return (path, ← value)

/-- A table in braces. No comma may follow the last value. -/
def bracedTable (value : Reader Value) : Reader Value := do
  Reader.char '\x7b'
  let pairs ← optional (Reader.separated (assignment value <* blanks) (Reader.char ','))
  blanks
  Reader.char '\x7d'
  let entries ← liftM ((pairs.getD []).foldlM (fun entries (path, value) =>
    assign path value .braces entries) [])
  return .table .braces entries

/-- A value in which others nest less than `depth` deep. -/
def value : Nat → Reader Value
  | 0 => scalar
  | depth + 1 => scalar <|> array (value depth) <|> bracedTable (value depth)

/-! ## Statements -/

inductive Statement where
  /-- Gives a key of the current table its value. -/
  | assign (path : List String) (value : Value)
  /-- Says which table is current. -/
  | table (path : List String)
  /-- Adds a table to others and makes it current. -/
  | element (path : List String)
  deriving Repr

/-- A statement and the rest of its line. -/
def statement : Reader Statement :=
  (do
    Reader.text "[["
    let path ← key
    Reader.text "]]"
    restOfLine
    return .element path)
  <|> (do
    Reader.char '['
    let path ← key
    Reader.char ']'
    restOfLine
    return .table path)
  <|> (do
    let (path, value) ← assignment (value (depthLimit - 1))
    restOfLine
    return .assign path value)

end HttpReplay.Toml
