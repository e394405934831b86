import HttpReplay.Unicode.NameTable
import HttpReplay.Unicode.Composition

/-!
Which characters a host name is made of.

People write a name in more ways than there are names: in capitals, in wide letters, with
composites or with marks, with characters that do not show. `nameForm?` gives all of them one
form, or none where a character may not occur in names; `isNameForm` says what that form is.
-/

set_option autoImplicit false

namespace HttpReplay.Unicode

/-- Whether a character may stand in the form of a name. Of ASCII, which a table would only
repeat, all but the capital letters may: what else names exclude is a matter of where they are
used. -/
def mayStand (c : Char) : Bool :=
  if c.toNat < 0x80 then !c.isUpper else lists NameTable.valid c

def imageOf? (c : Char) : Option (List Char) :=
  if c.toNat < 0x80 then some [c.toLower]
  else if lists NameTable.valid c then some [c]
  else if lists NameTable.ignored c then some []
  else match NameTable.runs.findSome? (·.image? c) with
    | some image => some [image]
    | none => (NameTable.spellings.find? (·.1 == c.toNat)).map (·.2)

/-- The form of a name, unless it has a character that may not occur. -/
def nameForm? (cs : List Char) : Option (List Char) :=
  (cs.mapM imageOf?).map fun images => composed images.flatten

/-- Whether a text is in the form of names: it has only characters that may stand in it, and they
are composed. -/
def isNameForm (cs : List Char) : Bool := cs.all mayStand && composed cs == cs

end HttpReplay.Unicode
