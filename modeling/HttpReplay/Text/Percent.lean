import HttpReplay.Text.Numeral

/-!
Percent-encoding: a byte written as `%` and two hexadecimal digits.

Decoding is total: a percent sign that two digits do not follow stands for itself, so a text
without one is its own decoding.
-/

set_option autoImplicit false

namespace HttpReplay.Text

/-- The value of a hexadecimal digit. -/
def hexDigit? (b : UInt8) : Option Nat := Numeral.digit? 16 (Char.ofNat b.toNat)

/-- The byte that an encoded one at the start of a string stands for. -/
def percentByte? : Bytes → Option UInt8
  | 0x25 :: high :: low :: _ => do
    let high ← hexDigit? high
    let low ← hexDigit? low
    some (high * 16 + low).toUInt8
  | _ => none

/-- A string with the encoded bytes decoded. -/
def percentDecode : Bytes → Bytes
  | [] => []
  | b :: rest =>
    match percentByte? (b :: rest) with
    | some byte => byte :: percentDecode (rest.drop 2)
    | none => b :: percentDecode rest
termination_by s => s.length
decreasing_by
  · exact Nat.lt_succ_of_le (List.length_drop ▸ Nat.sub_le _ _)
  · exact Nat.lt_succ_self _

end HttpReplay.Text
