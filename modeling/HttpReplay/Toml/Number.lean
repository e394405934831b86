import HttpReplay.Text.Numeral
import HttpReplay.Text.Reader

/-!
Numbers of a TOML document.

Digits may be parted by single underscores. An integer has 64 bits, one beyond is an error and not
another number. A decimal fraction that is too large for a float of 64 bits is an error too; this
is decided on the digits, without a float.
-/

set_option autoImplicit false

namespace HttpReplay.Toml

open Text (Reader)

/-- One or more digits, which single underscores may part. -/
def digits (isDigit : Char → Bool) : Reader (List Char) := do
  let first ← Reader.one isDigit
  let more ← Reader.many (Reader.one isDigit <|> (Reader.char '_' *> Reader.one isDigit))
  return first :: more

/-- Whether a character is a digit in base `base`. -/
def isDigitOf (base : Nat) (c : Char) : Bool := (Numeral.digit? base c).isSome

/-- A sign, if there is one, as whether it is a minus. -/
def sign : Reader Bool := do
  match ← optional (Reader.one fun c => c == '+' || c == '-') with
  | some c => return c == '-'
  | none => return false

/-- The digits of a decimal integer, which starts with a zero only if it is zero. -/
def decimalDigits : Reader (List Char) := do
  match ← Reader.next? with
  | some '0' => return [← Reader.one (· == '0')]
  | _ => digits Char.isDigit

/-! ## Integers -/

/-- The integer of a sign and a magnitude, if it has 64 bits. -/
def int64? (negative : Bool) (magnitude : Nat) : Option Int :=
  let n : Int := if negative then -magnitude else magnitude
  if Int64.minValue.toInt ≤ n ∧ n ≤ Int64.maxValue.toInt then some n else none

/-- An integer in another base than ten, after a mark and without a sign. -/
def basedInteger (mark : String) (base : Nat) : Reader Int := do
  Reader.text mark
  let cs ← digits (isDigitOf base)
  liftM (int64? false ((Numeral.digits? base cs).getD 0))

def decimalInteger : Reader Int := do
  let negative ← sign
  let cs ← decimalDigits
  liftM (int64? negative ((Numeral.digits? 10 cs).getD 0))

def integer : Reader Int :=
  basedInteger "0x" 16 <|> basedInteger "0o" 8 <|> basedInteger "0b" 2 <|> decimalInteger

/-! ## Floats -/

/-- The least number that is nearer to no float of 64 bits than to two to the power of 1024. -/
def floatBound : Nat := Nat.pow 2 1024 - Nat.pow 2 970

/-- Whether the number `mantissa * 10 ^ exponent` is too large for a float. The first two cases
are decided by the number of digits, so that no power of ten is larger than it has to be. -/
def isTooLarge (mantissa : Nat) (exponent : Int) : Bool :=
  let places : Int := (Nat.toDigits 10 mantissa).length + exponent
  if mantissa = 0 || places < 309 then false
  else if 309 < places then true
  else if 0 ≤ exponent then floatBound ≤ mantissa * Nat.pow 10 exponent.toNat
  else floatBound * Nat.pow 10 (-exponent).toNat ≤ mantissa

def exponent : Reader Int := do
  let _ ← Reader.one fun c => c == 'e' || c == 'E'
  let negative ← sign
  let cs ← digits Char.isDigit
  let n : Int := (Numeral.digits? 10 cs).getD 0
  return if negative then -n else n

/-- The digits after the point of a float. -/
def fraction : Reader (List Char) := Reader.char '.' *> digits Char.isDigit

/-- A float in digits, which has a fraction or an exponent. -/
def digitFloat : Reader Unit := do
  let negative ← sign
  let whole ← decimalDigits
  let part ← optional fraction
  let scale ← optional exponent
  guard (part.isSome || scale.isSome)
  let part := part.getD []
  let mantissa := (Numeral.digits? 10 (whole ++ part)).getD 0
  guard (negative || !isTooLarge mantissa (scale.getD 0 - part.length))

/-- A float that is no number of digits. -/
def specialFloat : Reader Unit := sign *> (Reader.text "inf" <|> Reader.text "nan")

/-- A float, as it is written. -/
def float : Reader String := do
  let (_, written) ← Reader.withText (digitFloat <|> specialFloat)
  return String.ofList written

end HttpReplay.Toml
