import HttpReplay.Text.Numeral
import HttpReplay.Text.Reader

/-!
Textual IP addresses and socket addresses.

The strict forms: four decimal numbers without needless zeros, or eight groups of hexadecimal
digits of which one run of zeros may be left out as `::` and the last two may be written as four
decimal numbers.
-/

set_option autoImplicit false

namespace HttpReplay.Net

open Text (Reader)

/-- One or more digits in base `base`, at most `width` of them and of value at most `most`. A
leading zero is refused, except alone, unless `zeros` allows it. -/
def number (base width most : Nat) (zeros : Bool) : Reader Nat := fun cs =>
  let digits := cs.takeWhile fun c => (Numeral.digit? base c).isSome
  let rest := cs.drop digits.length
  if digits.length > width then none
  else if !zeros && digits.length > 1 && digits.head? = some '0' then none
  else (Numeral.digits? base digits).bind fun n => if n ≤ most then some (n, rest) else none

/-! ## Version 4 -/

def octet : Reader Nat := number 10 3 255 false

/-- Four numbers with dots between. -/
def ipv4 : Reader (List Nat) := do
  let a ← octet
  Reader.char '.'
  let b ← octet
  Reader.char '.'
  let c ← octet
  Reader.char '.'
  let d ← octet
  return [a, b, c, d]

/-! ## Version 6 -/

def group : Reader Nat := number 16 4 0xFFFF true

/-- The separator before a group, which the first group lacks. -/
def separator (first : Bool) : Reader Unit := if first then pure () else Reader.char ':'

/-- As many groups as there are, at most `limit`, and whether they end in a dotted address, which
counts as two. -/
def groups (first : Bool) : Nat → List Char → List Nat × Bool × List Char
  | 0, cs => ([], false, cs)
  | limit + 1, cs =>
    let dotted := if limit = 0 then none else (separator first *> ipv4) cs
    match dotted with
    | some ([a, b, c, d], rest) => ([a * 256 + b, c * 256 + d], true, rest)
    | _ =>
      match (separator first *> group) cs with
      | none => ([], false, cs)
      | some (g, rest) =>
        let (gs, isDotted, rest) := groups false limit rest
        (g :: gs, isDotted, rest)

def someGroups (limit : Nat) : Reader (List Nat × Bool) := fun cs =>
  let (gs, isDotted, rest) := groups true limit cs
  some ((gs, isDotted), rest)

/-- Eight groups, a run of zeros left out or not. -/
def ipv6 : Reader (List Nat) := do
  let (front, isDotted) ← someGroups 8
  if front.length = 8 then return front
  guard !isDotted
  Reader.text "::"
  let (back, _) ← someGroups (7 - front.length)
  return front ++ List.replicate (8 - front.length - back.length) 0 ++ back

/-! ## Addresses -/

inductive IpAddress where
  | v4 (octets : List Nat)
  | v6 (groups : List Nat)
  deriving DecidableEq, Repr

/-- The address that a text spells. -/
def IpAddress.parse? (s : String) : Option IpAddress :=
  ((Reader.whole ipv4 s).map .v4) <|> ((Reader.whole ipv6 s).map .v6)

def decimal (most : Nat) : Reader Nat := fun cs => number 10 cs.length most true cs

/-- A colon and the number of a port. -/
def port : Reader Nat := Reader.char ':' *> decimal 0xFFFF

/-- A zone after an address of version 6. -/
def zone : Reader Nat := Reader.char '%' *> decimal 0xFFFFFFFF

/-- An address of version 4 and a port. -/
def socketV4 : Reader (IpAddress × Nat) := do
  let address ← ipv4
  return (.v4 address, ← port)

/-- An address of version 6 in brackets, which may have a zone, and a port. -/
def socketV6 : Reader (IpAddress × Nat) := do
  Reader.char '['
  let address ← ipv6
  let _ ← optional zone
  Reader.char ']'
  return (.v6 address, ← port)

/-- The address and the port that a text spells. -/
def socketAddress? (s : String) : Option (IpAddress × Nat) :=
  Reader.whole (socketV4 <|> socketV6) s

end HttpReplay.Net
