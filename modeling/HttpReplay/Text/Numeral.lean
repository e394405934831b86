import HttpReplay.Bytes
import HttpReplay.Text.Utf8
import HttpReplay.Text.Blank

/-!
Numerals with a bounded value.

A numeral is an optional sign and at least one digit: no blanks, no separators, no base prefix,
and leading zeros without limit. A value outside the bounds is no value at all, which is what
keeps "too large" from turning into a small number. The reader works on characters, since
numerals arrive in texts as well as in byte strings; a byte string that is not UTF-8 holds none.
-/

set_option autoImplicit false

namespace HttpReplay.Numeral

/-- The value of a digit in base `base`, letters of either case counting from ten. -/
def digit? (base : Nat) (c : Char) : Option Nat :=
  let value? : Option Nat :=
    if '0' ≤ c ∧ c ≤ '9' then some (c.toNat - '0'.toNat)
    else if 'a' ≤ c ∧ c ≤ 'z' then some (c.toNat - 'a'.toNat + 10)
    else if 'A' ≤ c ∧ c ≤ 'Z' then some (c.toNat - 'A'.toNat + 10)
    else none
  value?.filter (· < base)

/-- The value of the digits `cs` written after digits of value `acc`. -/
def continue? (base acc : Nat) : List Char → Option Nat
  | [] => some acc
  | c :: rest => (digit? base c).bind fun d => continue? base (acc * base + d) rest

def digits? (base : Nat) : List Char → Option Nat
  | [] => none
  | cs => continue? base 0 cs

/-- A numeral without a minus sign, of value at most `most`. -/
def natural? (base most : Nat) (cs : List Char) : Option Nat :=
  let magnitude? := match cs with
    | '+' :: rest => digits? base rest
    | _ => digits? base cs
  magnitude?.filter (· ≤ most)

/-- A decimal numeral with an optional sign, of any value. -/
def integer? : List Char → Option Int
  | '-' :: rest => (digits? 10 rest).map fun n => -(n : Int)
  | '+' :: rest => (digits? 10 rest).map fun n => (n : Int)
  | cs => (digits? 10 cs).map fun n => (n : Int)

/-- A decimal numeral of 64 bits, signed. -/
def int64? (cs : List Char) : Option Int64 :=
  ((integer? cs).filter fun n => decide (Int64.minValue.toInt ≤ n ∧ n ≤ Int64.maxValue.toInt)).map
    Int64.ofInt

/-- The greatest length and capacity a machine can count. -/
def maxSize : Nat := UInt64.size - 1

/-- A numeral for a size, blanks around it ignored. -/
def size? (base : Nat) (s : Bytes) : Option Nat :=
  (Utf8.decode? s).bind fun cs => natural? base maxSize (Text.trimChars cs)

/-- The decimal digits of a natural number. -/
def ofNat (n : Nat) : Bytes := (Nat.toDigits 10 n).map fun c => c.toNat.toUInt8

/-- The decimal numeral of an integer, a sign only where it is negative. -/
def ofInt (n : Int) : Bytes :=
  if n < 0 then 0x2D :: ofNat n.natAbs else ofNat n.natAbs

end HttpReplay.Numeral
