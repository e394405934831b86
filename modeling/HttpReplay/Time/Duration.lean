/-!
Durations and their text, and the clock that durations are measured with.

A duration is a whole number of nanoseconds. Its text uses the largest unit in which the whole part
is not zero and then as many decimal places as are needed: `1.5ms`, `60s`, `0ns`. The clock that
deadlines are set by shows nanoseconds, too; it has nothing to do with the date.
-/

set_option autoImplicit false

namespace HttpReplay

/-- A length of time in nanoseconds. -/
abbrev Duration := Nat

/-- What a clock shows that only runs forward: nanoseconds since whenever it was started. -/
abbrev Instant := Int

namespace Duration

def microsecond : Duration := 1000
def millisecond : Duration := 1000000
def second : Duration := 1000000000

def ofMillis (n : Nat) : Duration := n * millisecond

/-- The decimals of the fraction `part / unit`, `unit` a power of ten, without zeros at the end.
`places` is the number of zeros of `unit`. -/
def fraction (places part : Nat) : String :=
  let digits := (Nat.toDigits 10 part)
  let padded := List.replicate (places - digits.length) '0' ++ digits
  String.ofList (padded.reverse.dropWhile (· == '0')).reverse

/-- A number of units with its fraction. -/
def inUnits (unit places : Nat) (name : String) (d : Duration) : String :=
  let decimals := if d % unit = 0 then "" else "." ++ fraction places (d % unit)
  toString (d / unit) ++ decimals ++ name

def text (d : Duration) : String :=
  if second ≤ d then inUnits second 9 "s" d
  else if millisecond ≤ d then inUnits millisecond 6 "ms" d
  else if microsecond ≤ d then inUnits microsecond 3 "µs" d
  else toString d ++ "ns"

end Duration
end HttpReplay
