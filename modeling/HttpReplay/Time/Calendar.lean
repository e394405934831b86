/-!
Moments of civil time, and the dates they fall on.

A moment is a second since the beginning of 1970 and the nanoseconds since that second began. Leap
seconds have no number of their own: in one, the nanoseconds of the second before it run on past
the billion, and the clock shows a sixtieth second. The Gregorian calendar is extended in both
directions without end. Dates are found by counting in years that begin in March, so that the day
that some years have more is the last one of a year: with that, the days before a month are a
linear formula and no table is needed.
-/

set_option autoImplicit false

namespace HttpReplay

/-- A day of the Gregorian calendar. -/
structure Date where
  /-- The year; the one before year 1 is year 0. -/
  year : Int
  /-- The month, from 1. -/
  month : Nat
  /-- The day of the month, from 1. -/
  day : Nat
  deriving DecidableEq, Repr

namespace Date

/-- Days in four hundred years, after which the calendar repeats. -/
def daysInCycle : Nat := 146097

/-- The date `days` days after the first of January 1970. -/
def ofDays (days : Int) : Date :=
  -- days since the first of March of year 0
  let days := days + 719468
  let cycle := days.fdiv daysInCycle
  let dayOfCycle := (days.fmod daysInCycle).toNat
  let yearOfCycle :=
    (dayOfCycle - dayOfCycle / 1460 + dayOfCycle / 36524 - dayOfCycle / 146096) / 365
  let dayOfYear := dayOfCycle - (365 * yearOfCycle + yearOfCycle / 4 - yearOfCycle / 100)
  let monthFromMarch := (5 * dayOfYear + 2) / 153
  let day := dayOfYear - (153 * monthFromMarch + 2) / 5 + 1
  let month := if monthFromMarch < 10 then monthFromMarch + 3 else monthFromMarch - 9
  { year := cycle * 400 + yearOfCycle + (if month ≤ 2 then 1 else 0), month, day }

def daysInMonth (year month : Nat) : Nat :=
  if month = 2 then
    if year % 4 = 0 ∧ (year % 100 ≠ 0 ∨ year % 400 = 0) then 29 else 28
  else if month = 4 ∨ month = 6 ∨ month = 9 ∨ month = 11 then 30
  else 31

/-- The day of the week `days` days after the first of January 1970, Sunday being 0. -/
def weekday (days : Int) : Nat := ((days + 4).fmod 7).toNat

end Date

/-- A moment of civil time. -/
structure Moment where
  /-- The second, counted from the beginning of 1970 without leap seconds. -/
  second : Int
  /-- The nanoseconds since the second began: a billion or more in a leap second. -/
  nanosecond : Nat
  deriving DecidableEq, Repr

namespace Moment

def perSecond : Nat := 1000000000

/-- The moment that many nanoseconds after the beginning of 1970. -/
def ofNanoseconds (n : Int) : Moment := ⟨n.fdiv perSecond, (n.fmod perSecond).toNat⟩

/-- The nanoseconds from the beginning of 1970 to a moment. -/
def nanoseconds (m : Moment) : Int := m.second * perSecond + m.nanosecond

/-- The microseconds from the beginning of 1970 to a moment, any fraction dropped. -/
def microseconds (m : Moment) : Int := m.second * 1000000 + (m.nanosecond / 1000 : Nat)

/-- The number that payloads carry for a moment: its nanoseconds. Before 1677 and after 2262 these
do not fit, and those of its microsecond stand for them, or the nearest number that fits. -/
def stamp (m : Moment) : Int64 :=
  if Int64.minValue.toInt ≤ m.nanoseconds ∧ m.nanoseconds ≤ Int64.maxValue.toInt then
    .ofInt m.nanoseconds
  else .ofIntClamp (m.microseconds * 1000)

theorem toInt_stamp {m : Moment} (hmin : Int64.minValue.toInt ≤ m.nanoseconds)
    (hmax : m.nanoseconds ≤ Int64.maxValue.toInt) : m.stamp.toInt = m.nanoseconds := by
  have habove : m.nanoseconds < 2 ^ 63 := Int.lt_of_le_of_lt hmax (by decide)
  rw [stamp, if_pos ⟨hmin, hmax⟩, Int64.toInt_ofInt_of_le hmin habove]

def isLeap (m : Moment) : Bool := perSecond ≤ m.nanosecond

/-- The day of a moment, counted from the first of January 1970. -/
def day (m : Moment) : Int := m.second.fdiv 86400

def secondOfDay (m : Moment) : Nat := (m.second.fmod 86400).toNat

/-- Whether a moment is not later than another. -/
def notAfter (m other : Moment) : Bool :=
  m.second < other.second || (m.second == other.second && m.nanosecond ≤ other.nanosecond)

/-! ## Texts -/

/-- At least `width` decimal digits. -/
def padded (width n : Nat) : String :=
  let digits := Nat.toDigits 10 n
  String.ofList (List.replicate (width - digits.length) '0' ++ digits)

/-- Hours, minutes and seconds with colons between. -/
def clockText (m : Moment) : String :=
  let shown := m.secondOfDay % 60 + (if m.isLeap then 1 else 0)
  padded 2 (m.secondOfDay / 3600) ++ ":" ++ padded 2 (m.secondOfDay / 60 % 60) ++ ":" ++
    padded 2 shown

/-- A year in at least four digits, with a sign outside of 0 to 9999. -/
def yearText (year : Int) : String :=
  if 0 ≤ year ∧ year ≤ 9999 then padded 4 year.toNat
  else (if year < 0 then "-" else "+") ++ padded 4 year.natAbs

/-- Date and time of day with milliseconds, such as `2000-02-28T23:59:59.123Z`. -/
def isoText (m : Moment) : String :=
  let date := Date.ofDays m.day
  yearText date.year ++ "-" ++ padded 2 date.month ++ "-" ++ padded 2 date.day ++ "T" ++
    m.clockText ++ "." ++ padded 3 (m.nanosecond % perSecond / 1000000) ++ "Z"

/-- The names of the days, Sunday first. -/
def dayNames : List String := ["Sun", "Mon", "Tue", "Wed", "Thu", "Fri", "Sat"]

def monthNames : List String :=
  ["Jan", "Feb", "Mar", "Apr", "May", "Jun", "Jul", "Aug", "Sep", "Oct", "Nov", "Dec"]

/-- The date as messages carry it, such as `Mon, 17 Aug 2015 14:10:11 GMT`: always 29 characters
while years have four digits. -/
def messageText (m : Moment) : String :=
  let date := Date.ofDays m.day
  dayNames.getD (Date.weekday m.day) "" ++ ", " ++ padded 2 date.day ++ " " ++
    monthNames.getD (date.month - 1) "" ++ " " ++ yearText date.year ++ " " ++
    m.clockText ++ " GMT"

/-! ## Differences -/

/-- The leap seconds that count between two moments. Where leap seconds fall is not known, so only
one that a moment itself lies in counts, and only where it lies between the two times of day. -/
def leapBetween (start stop : Moment) : Int :=
  if start.secondOfDay < stop.secondOfDay && start.isLeap then 1
  else if stop.secondOfDay < start.secondOfDay && stop.isLeap then -1
  else 0

/-- The nanoseconds from one moment to another. -/
def nanosBetween (start stop : Moment) : Int :=
  stop.nanoseconds - start.nanoseconds + leapBetween start stop * perSecond

/-- The milliseconds from one moment to another, any fraction dropped. -/
def millisBetween (start stop : Moment) : Int := (nanosBetween start stop).tdiv 1000000

end Moment
end HttpReplay
