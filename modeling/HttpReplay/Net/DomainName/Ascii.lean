import HttpReplay.Unicode.HostName
import HttpReplay.Unicode.Marks
import HttpReplay.Unicode.Joining
import HttpReplay.Unicode.Direction
import HttpReplay.Net.DomainName.Punycode

/-!
Domain names in ASCII.

A domain name in any characters is brought into the form of names and cut into labels. A label in
ASCII stays as it is. Any other is written in Punycode after `xn--`, and what a label that is
written so already spells has to be well formed in the same way: so a name has one ASCII form
however it was spelled. Around this stands what names on the web may not contain: characters that
end a host in an address or that do not show.
-/

set_option autoImplicit false

namespace HttpReplay.Net.DomainName

/-- What a label in Punycode starts with. -/
def marker : List Char := ['x', 'n', '-', '-']

/-- The longest label that is written in Punycode. -/
def longestEncoded : Nat := 1000

/-- The longest Punycode that is read. -/
def longestDecoded : Nat := 2000

def isAscii (label : List Char) : Bool := label.all (·.toNat < 0x80)

/-- ASCII characters that no name on the web contains. -/
def isForbidden (c : Char) : Bool :=
  c.toNat ≤ 0x20 || c.toNat == 0x7F ||
    ['%', '#', '/', ':', '<', '>', '?', '@', '[', '\\', ']', '^', '|'].contains c

/-- Whether a label that has other characters than ASCII is well formed: in the form of names, no
mark at its start, and joiners only where they show. -/
def isWellFormed (label : List Char) : Bool :=
  Unicode.isNameForm label && !(label.head?.any Unicode.isMark) && Unicode.joinersFit [] label &&
    !label.any isForbidden

/-- A label as a name contains it: its text, and how it is written in ASCII. -/
structure Label where
  text : List Char
  ascii : List Char

/-- The label that is spelled by a text in the form of names. Only ASCII may follow the marker of
Punycode; what the Punycode spells may start in any way. -/
def Label.read? (spelled : List Char) : Option Label :=
  if isAscii spelled then
    if marker.isPrefixOf spelled then do
      let written := spelled.drop marker.length
      guard (written.length ≤ longestDecoded && written.getLast? != some '-')
      let text ← Punycode.decode? written
      guard (isWellFormed text && !isAscii text)
      some ⟨text, spelled⟩
    else if spelled.any isForbidden then none
    else some ⟨spelled, spelled⟩
  else do
    guard (isWellFormed spelled && !marker.isPrefixOf spelled && spelled.length ≤ longestEncoded)
    some ⟨spelled, marker ++ Punycode.encode spelled⟩

/-- Whether a name's labels keep their places where it is drawn in two directions. -/
def keepsOrder (labels : List Label) : Bool :=
  let directions := labels.map fun label => label.text.map Unicode.Direction.ofChar
  if directions.any (·.any (·.turns)) then directions.all Unicode.Direction.keepsPlace else true

/-- The ASCII form of a domain name, which may be empty. -/
def toAscii? (name : List Char) : Option (List Char) := do
  let form ← Unicode.nameForm? name
  let labels ← (Text.parts (· == '.') form).mapM Label.read?
  guard (keepsOrder labels)
  some (Text.join ['.'] (labels.map (·.ascii)))

end HttpReplay.Net.DomainName
