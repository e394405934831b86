import HttpReplay.Text.Numeral
import HttpReplay.Text.Reader
import HttpReplay.Time.Calendar

/-!
Dates and times of a TOML document: a date, a time, or both with an offset or without. They are
kept as they are written, but they have to exist.
-/

set_option autoImplicit false

namespace HttpReplay.Toml

open Text (Reader)

/-- A number of so many decimal digits, within bounds. -/
def fixedNumber (width least most : Nat) : Reader Nat := do
  let n := (Numeral.digits? 10 (← Reader.count width Char.isDigit)).getD 0
  guard (least ≤ n && n ≤ most)
  return n

def date : Reader Unit := do
  let year ← fixedNumber 4 0 9999
  Reader.char '-'
  let month ← fixedNumber 2 1 12
  Reader.char '-'
  let day ← fixedNumber 2 1 31
  guard (day ≤ Date.daysInMonth year month)

def hourMinute : Reader Unit := do
  let _ ← fixedNumber 2 0 23
  Reader.char ':'
  let _ ← fixedNumber 2 0 59

/-- A time of day, in which a minute may have a leap second. -/
def time : Reader Unit := do
  hourMinute
  Reader.char ':'
  let _ ← fixedNumber 2 0 60
  let _ ← optional (Reader.char '.' *> Reader.span1 Char.isDigit)

/-- How far a time is ahead of universal time. -/
def offset : Reader Unit :=
  discard (Reader.one fun c => c == 'Z' || c == 'z') <|>
    (Reader.one (fun c => c == '+' || c == '-') *> hourMinute)

def timeOfDate : Reader Unit := do
  let _ ← Reader.one fun c => c == 'T' || c == 't' || c == ' '
  time
  let _ ← optional offset

/-- A date, a time, or both, as it is written. -/
def dateTime : Reader String := do
  let (_, written) ← Reader.withText ((date <* optional timeOfDate) <|> time)
  return String.ofList written

end HttpReplay.Toml
