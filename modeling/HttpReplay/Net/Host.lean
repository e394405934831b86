import HttpReplay.Net.DomainName.Ascii
import HttpReplay.Net.IpAddress
import HttpReplay.Text.Percent

/-!
Hosts as web addresses write them.

A host is an address of version 6 in brackets or a domain name, and a domain name whose last label
is a number has to be an address of version 4. Web addresses write the latter more freely than the
strict form of `Net.IpAddress`: one to four numbers, each decimal, octal or hexadecimal, of which
the last fills all the places that are left. A name is decoded and brought into its ASCII form
before this question is asked, so a number in disguise is a number.
-/

set_option autoImplicit false

namespace HttpReplay.Net

/-- Why a text is no host. -/
inductive HostError where
  | empty
  | domainName
  | ipv4
  | ipv6
  | forbiddenCharacter
  deriving DecidableEq, Repr

/-! ## Loose addresses of version 4 -/

namespace LooseIpv4

/-- The value of a number: decimal, octal after `0`, hexadecimal after `0x`. -/
def number? : List Char → Option Nat
  | [] => none
  | '0' :: 'x' :: digits => if digits.isEmpty then some 0 else Numeral.digits? 16 digits
  | ['0'] => some 0
  | '0' :: digits => Numeral.digits? 8 digits
  | digits => Numeral.digits? 10 digits

/-- The parts of a name, of which an empty last one does not count. -/
def partsOf (name : List Char) : List (List Char) :=
  let parts := Text.parts (· == '.') name
  if parts.getLast? = some [] then parts.dropLast else parts

/-- Whether the last part of a name is a number, or only digits. -/
def endsInNumber (name : List Char) : Bool :=
  match (partsOf name).getLast? with
  | some last => (!last.isEmpty && last.all Char.isDigit) || (number? last).isSome
  | none => false

/-- The value of an address whose leading numbers, most significant first, are each a byte, and
whose last number fills the `places` bytes that are left. -/
def value? : Nat → List Nat → Option Nat
  | places + 1, [last] => if last < Nat.pow 256 (places + 1) then some last else none
  | places + 1, first :: rest =>
    if first < 256 then (value? places rest).map (first * Nat.pow 256 places + ·) else none
  | _, _ => none

/-- The four numbers of the address that a name spells. -/
def parse? (name : List Char) : Option (List Nat) := do
  let numbers ← (partsOf name).mapM number?
  let n ← value? 4 numbers
  some [n / 0x1000000, n / 0x10000 % 256, n / 0x100 % 256, n % 256]

end LooseIpv4

/-! ## Texts of addresses -/

def zeros (groups : List Nat) : Nat := (groups.takeWhile (· == 0)).length

/-- Where the longest run of zeros starts, and its length; the first of several. -/
def longestZeros : List Nat → Nat × Nat
  | [] => (0, 0)
  | g :: rest =>
    let (start, length) := longestZeros rest
    if length ≤ zeros (g :: rest) then (0, zeros (g :: rest)) else (start + 1, length)

/-- Groups in hexadecimal, with colons between. -/
def groupsText (groups : List Nat) : String :=
  ":".intercalate (groups.map fun g => String.ofList (Nat.toDigits 16 g))

/-- The text of an address. Of version 6, the longest run of two or more zeros is left out. -/
def IpAddress.text : IpAddress → String
  | .v4 octets => ".".intercalate (octets.map fun n => toString n)
  | .v6 groups =>
    let (start, length) := longestZeros groups
    if length < 2 then groupsText groups
    else groupsText (groups.take start) ++ "::" ++ groupsText (groups.drop (start + length))

/-! ## Hosts -/

inductive Host where
  | domain (name : String)
  | address (ip : IpAddress)
  deriving DecidableEq, Repr

namespace Host

/-- The text of a host, in brackets where it has colons. -/
def text : Host → String
  | domain name => name
  | address (.v6 groups) => "[" ++ (IpAddress.v6 groups).text ++ "]"
  | address ip => ip.text

/-- The address of version 6 that a text in brackets spells. -/
def bracketed (s : List Char) : Except HostError Host :=
  if s.getLast? != some ']' then .error .ipv6
  else match Text.Reader.whole ipv6 (String.ofList (s.tail.dropLast)) with
    | some groups => .ok (.address (.v6 groups))
    | none => .error .ipv6

/-- The host that a text spells. -/
def parse (s : String) : Except HostError Host :=
  if s.toList.head? = some '[' then bracketed s.toList
  else match (Utf8.decode? (Text.percentDecode (Bytes.ofText s))).bind DomainName.toAscii? with
    | none => .error .domainName
    | some [] => .error .empty
    | some name =>
      if LooseIpv4.endsInNumber name then
        match LooseIpv4.parse? name with
        | some octets => .ok (.address (.v4 octets))
        | none => .error .ipv4
      else .ok (.domain (String.ofList name))

/-- Characters that no host contains, whatever the scheme. -/
def isForbidden (c : Char) : Bool :=
  ['\x00', '\t', '\n', '\r', ' ', '#', '/', ':', '<', '>', '?', '@', '[', '\\', ']', '^',
    '|'].contains c

/-- The host that a text spells where nothing is known of the scheme: any text will do that no
delimiter occurs in, even none. -/
def parseOpaque (s : String) : Except HostError Host :=
  if s.toList.head? = some '[' then bracketed s.toList
  else if s.toList.any isForbidden then .error .forbiddenCharacter
  else .ok (.domain s)

end Host
end HttpReplay.Net
