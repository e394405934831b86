import HttpReplay.Net.IpAddress
import HttpReplay.Text.Parts

/-!
Names under which a server can be asked to prove itself.

A server name is a host name or an IP address. A host name has labels of at most 63 characters,
which are letters, digits, hyphens and underscores, start with no hyphen and end in none, and its
last label is not a number; a dot may follow a last label that is no number. In all it has at most
253 characters.
-/

set_option autoImplicit false

namespace HttpReplay.Net

namespace ServerName

def isLabelChar (c : Char) : Bool := c.isAlphanum || c == '-' || c == '_'

def isLabel (label : List Char) : Bool :=
  !label.isEmpty && label.length ≤ 63 && label.all isLabelChar &&
    label.head? != some '-' && label.getLast? != some '-'

/-- Whether the last of the labels may stand last: it is no number, though it may be followed by
one empty part. -/
def endsWell (parts : List (List Char)) : Bool :=
  match parts.reverse with
  | [] :: last :: _ => !last.all Char.isDigit
  | last :: _ => !last.all Char.isDigit
  | [] => false

def isHostName (name : String) : Bool :=
  let parts := Text.parts (· == '.') name.toList
  let needed := if parts.length > 1 && parts.getLast? = some [] then parts.dropLast else parts
  name.utf8ByteSize ≤ 253 && needed.all isLabel && endsWell parts

/-- Whether a text names a server. -/
def isValid (name : String) : Bool := isHostName name || (IpAddress.parse? name).isSome

/-- The name of a server whose host is written as in an address, where brackets may enclose it. -/
def ofHost (host : String) : String :=
  let chars := host.toList.dropWhile (· == '[')
  String.ofList (chars.reverse.dropWhile (· == ']')).reverse

end ServerName
end HttpReplay.Net
