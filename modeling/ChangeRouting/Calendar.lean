import ChangeRouting.Clock

/-!
# ChangeRouting.Calendar

Points in time as dates of the Gregorian calendar, written as RFC 3339 has them.

* A year of four digits stands alone; any other carries its sign.
* Milliseconds are written only when there are some.
* The offset is always that of universal time.
-/

namespace ChangeRouting

/-- A day of the calendar. -/
structure Date where
  year : Int
  month : Nat
  day : Nat
  deriving DecidableEq, Repr

namespace Date

/-- The day a number of days after the first of 1970.  Years are counted from March, so that a leap day
is the last of its year, and grouped in cycles of four hundred years, which all have the same length. -/
def ofDays (days : Int) : Date :=
  let shifted := days + 719468
  let cycle := shifted / 146097
  let dayOfCycle := (shifted % 146097).toNat
  let yearOfCycle :=
    (dayOfCycle - dayOfCycle / 1460 + dayOfCycle / 36524 - dayOfCycle / 146096) / 365
  let dayOfYear := dayOfCycle - (365 * yearOfCycle + yearOfCycle / 4 - yearOfCycle / 100)
  let fromMarch := (5 * dayOfYear + 2) / 153
  let month := if fromMarch < 10 then fromMarch + 3 else fromMarch - 9
  { year := yearOfCycle + cycle * 400 + if month ≤ 2 then 1 else 0
    month := month
    day := dayOfYear - (153 * fromMarch + 2) / 5 + 1 }

end Date

/-- A number with zeros before it up to a width. -/
def zeroPadded (width n : Nat) : String :=
  let digits := (toString n).toList
  String.ofList (List.replicate (width - digits.length) '0' ++ digits)

/-- The text of a year. -/
def yearText (year : Int) : String :=
  if 0 ≤ year ∧ year ≤ 9999 then zeroPadded 4 year.toNat
  else (if year < 0 then "-" else "+") ++ zeroPadded 4 year.natAbs

namespace Millis

/-- The date. -/
def dateText (time : Millis) : String :=
  let date := Date.ofDays (time / 86400000)
  yearText date.year ++ "-" ++ zeroPadded 2 date.month ++ "-" ++ zeroPadded 2 date.day

/-- The time of day, in whole seconds. -/
def clockText (time : Millis) : String :=
  let seconds := (time % 86400000).toNat / 1000
  zeroPadded 2 (seconds / 3600) ++ ":" ++ zeroPadded 2 (seconds / 60 % 60) ++ ":" ++
    zeroPadded 2 (seconds % 60)

/-- The date and the time of day. -/
def text (time : Millis) : String :=
  let beyond := (time % 1000).toNat
  let fraction := if beyond = 0 then "" else "." ++ zeroPadded 3 beyond
  time.dateText ++ "T" ++ time.clockText ++ fraction ++ "+00:00"

end Millis

end ChangeRouting
