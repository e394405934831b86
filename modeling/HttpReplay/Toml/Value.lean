/-!
The values of a TOML document.

A table remembers how it came to be, because that decides who may still add to it: a table in
braces is closed, a table that a header names may not be added to by dotted keys elsewhere, and a
table that exists only because a path led through it may be named once. The reader of a document
asks; whoever only looks values up does not.
-/

set_option autoImplicit false

namespace HttpReplay.Toml

/-- How a table came to be. -/
inductive Origin where
  | braces
  | header
  /-- The path of a header led through it. -/
  | path
  /-- A dotted key led into it. -/
  | dotted
  deriving DecidableEq, Repr

/-- A value. Numbers that are not whole, and dates and times, are kept as they are written. -/
inductive Value where
  | string (text : String)
  | integer (n : Int)
  | float (written : String)
  | boolean (b : Bool)
  | dateTime (written : String)
  | array (items : List Value)
  | table (origin : Origin) (entries : List (String × Value))
  /-- The tables that headers in double brackets name. -/
  | tables (items : List (List (String × Value)))
  deriving Repr

/-- The keys and values of a table. -/
abbrev Entries := List (String × Value)

namespace Entries

def get? (key : String) (entries : Entries) : Option Value := List.lookup key entries

/-- The entries with another value for a key, which keeps its place. -/
def set (key : String) (value : Value) (entries : Entries) : Entries :=
  entries.map fun (k, v) => if k = key then (k, value) else (k, v)

def add (key : String) (value : Value) (entries : Entries) : Entries := entries ++ [(key, value)]

end Entries
end HttpReplay.Toml
