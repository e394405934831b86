import HttpReplay.Net.Host

/-!
Web addresses, as far as they say whom to connect to: the scheme, the host and the port.

An address is read leniently: blanks and control characters around it and line breaks in it do
not count, a browser's backslash is a slash, and any number of slashes may precede the host. What
precedes the host's last `@` names a user and is left out; path, query and fragment cannot be
wrong and are not read at all.
-/

set_option autoImplicit false

namespace HttpReplay

/-- What an address says about whom to connect to. -/
structure Url where
  /-- The scheme, in lower case. -/
  scheme : String
  /-- The host, if the address has one. -/
  host : Option Net.Host
  /-- The port, unless it is the one that the scheme implies. -/
  port : Option Nat
  deriving DecidableEq, Repr

namespace Url

/-- Why a text is no address. -/
inductive Fault where
  | noScheme
  | port
  | host (why : Net.HostError)
  deriving DecidableEq, Repr

namespace Fault

/-- What is said about a fault. -/
def message : Fault → String
  | noScheme => "relative URL without a base"
  | port => "invalid port number"
  | host .empty => "empty host"
  | host .domainName => "invalid international domain name"
  | host .ipv4 => "invalid IPv4 address"
  | host .ipv6 => "invalid IPv6 address"
  | host .forbiddenCharacter => "invalid domain character"

end Fault

/-! ## The scheme -/

inductive SchemeClass where
  /-- Addresses have a host and perhaps a port, which is this one unless they say so. -/
  | web (port : Nat)
  /-- Addresses have a path and perhaps a host. -/
  | file
  /-- Nothing is known. -/
  | other
  deriving DecidableEq, Repr

namespace SchemeClass

def ofName : String → SchemeClass
  | "http" | "ws" => web 80
  | "https" | "wss" => web 443
  | "ftp" => web 21
  | "file" => file
  | _ => other

def defaultPort? : SchemeClass → Option Nat
  | web port => some port
  | _ => none

def isSlash (k : SchemeClass) (c : Char) : Bool := c == '/' || (c == '\\' && k != .other)

/-- The characters that end the part of an address that names a host. -/
def endsAuthority (k : SchemeClass) (c : Char) : Bool := k.isSlash c || c == '?' || c == '#'

end SchemeClass

def significant (address : String) : List Char :=
  let isAround (c : Char) := c.toNat ≤ 0x20
  let inner := ((address.toList.dropWhile isAround).reverse.dropWhile isAround).reverse
  inner.filter fun c => c != '\t' && c != '\n' && c != '\r'

/-- The scheme before the first colon, and the text after the colon. -/
def splitScheme? (cs : List Char) : Option (String × List Char) :=
  let name := cs.takeWhile (· != ':')
  match cs.drop name.length with
  | _ :: rest =>
    if name.head?.any Char.isAlpha
        && name.all fun c => c.isAlphanum || c == '+' || c == '-' || c == '.' then
      some (String.ofList (name.map Char.toLower), rest)
    else none
  | [] => none

/-! ## User, host and port -/

/-- Where a user is named: what is said of it, and the text after it. -/
structure User where
  /-- The name and password; `none` if there is no `@`. -/
  said : Option (List Char)
  rest : List Char

/-- The user named before the last `@`, if any precedes the end of the authority. -/
def User.read (k : SchemeClass) (cs : List Char) : User :=
  let authority := cs.takeWhile (!k.endsAuthority ·)
  if authority.contains '@' then
    let host := (authority.reverse.takeWhile (· != '@')).length
    let said := authority.take (authority.length - host - 1)
    ⟨some said, cs.drop (said.length + 1)⟩
  else ⟨none, cs⟩

def User.isNamed (u : User) : Bool := u.said.any fun said => !said.isEmpty && said != [':']

/-- The text of a host, which ends at a colon outside brackets. -/
def hostText (k : SchemeClass) (bracketed : Bool) : List Char → List Char
  | [] => []
  | c :: rest =>
    if k.endsAuthority c || (c == ':' && !bracketed) then []
    else c :: hostText k (c == '[' || (bracketed && c != ']')) rest

/-- The port that a text starts with, if it starts with digits. -/
def port? (cs : List Char) : Except Fault (Option Nat) :=
  let digits := cs.takeWhile Char.isDigit
  let ended := (cs.drop digits.length).head?.all fun c => ['/', '\\', '?', '#'].contains c
  match Numeral.digits? 10 digits with
  | none => if ended then .ok none else .error .port
  | some n => if n ≤ 0xFFFF && ended then .ok (some n) else .error .port

/-- The host and the port of an address, read from where they start. -/
def readAuthority (k : SchemeClass) (cs : List Char) :
    Except Fault (Option Net.Host × Option Nat) := do
  let user := User.read k cs
  if user.said = some [] && user.rest.head?.any k.endsAuthority then throw (.host .empty)
  let text := hostText k false user.rest
  let rest := user.rest.drop text.length
  if text.isEmpty && (k != .other || rest.head? = some ':') then throw (.host .empty)
  let host ← (if k == .other then Net.Host.parseOpaque (String.ofList text)
    else Net.Host.parse (String.ofList text)).mapError .host
  let port ← if rest.head? = some ':' then port? rest.tail else .ok none
  if text.isEmpty && user.isNamed then throw (.host .empty)
  return (if text.isEmpty then none else some host, port.filter (some · != k.defaultPort?))

/-- Whether a text is the name of a drive, which is no host. -/
def isDrive : List Char → Bool
  | [letter, mark] => letter.isAlpha && (mark == ':' || mark == '|')
  | _ => false

/-- The host in the address of a file, read from where it starts. -/
def readFileHost (cs : List Char) : Except Fault (Option Net.Host) :=
  let text := cs.takeWhile (!SchemeClass.file.endsAuthority ·)
  if text.isEmpty || isDrive text then .ok none
  else (Net.Host.parse (String.ofList text)).mapError .host |>.map fun host =>
    if host = .domain "localhost" then none else some host

/-! ## Addresses -/

def parse (address : String) : Except Fault Url := do
  let some (scheme, rest) := splitScheme? (significant address) | throw .noScheme
  let k := SchemeClass.ofName scheme
  let slashes := (rest.takeWhile k.isSlash).length
  match k with
  | .web _ =>
    let (host, port) ← readAuthority k (rest.drop slashes)
    return ⟨scheme, host, port⟩
  | .file =>
    let host ← if 2 ≤ slashes then readFileHost (rest.drop 2) else .ok none
    return ⟨scheme, host, none⟩
  | .other =>
    let (host, port) ← if 2 ≤ slashes then readAuthority k (rest.drop 2) else .ok (none, none)
    return ⟨scheme, host, port⟩

end Url
end HttpReplay
