-- SUMMARY: Days of the proleptic Gregorian calendar, and moments with an offset.
import LogLine.Text.Basic

/-!
# Dates and moments

A day is a number counted from the first of January of year one. A moment is a
number of seconds since the start of 1970 in universal time, together with the
offset of the place whose clock is read.
-/

namespace LogLine

/-! ## Dates -/

/-- A day by its year and its number within the year, counted from one. -/
structure Date where
  year : Int
  dayOfYear : Nat
deriving DecidableEq, Repr

namespace Date

def isLeap (year : Int) : Bool := year % 4 == 0 && (year % 100 != 0 || year % 400 == 0)

/-- The days before the first of January of a year, counted from that of year one. -/
def daysBefore (year : Int) : Int :=
  let y := year - 1
  365 * y + y / 4 - y / 100 + y / 400

/-- The date of a day. Four hundred years have 146097 days; within them the last day of the last
    century and the last day of the last of four years belong to the period they end. -/
def ofDay (day : Int) : Date :=
  let cycle := day / 146097
  let inCycle := (day % 146097).toNat
  let century := min (inCycle / 36524) 3
  let inCentury := inCycle - century * 36524
  let four := inCentury / 1461
  let inFour := inCentury % 1461
  let year := min (inFour / 365) 3
  ⟨400 * cycle + (100 * century + 4 * four + year + 1 : Nat), inFour - year * 365 + 1⟩

def toDay (d : Date) : Int := daysBefore d.year + d.dayOfYear - 1

def monthLengths (year : Int) : List Nat :=
  [31, if isLeap year then 29 else 28, 31, 30, 31, 30, 31, 31, 30, 31, 30, 31]

/-- The month and the day of the month of a day within months of the given lengths, when the
    month that comes next has the given number. -/
def monthAndDay (month : Nat) : List Nat → (day : Nat) → Nat × Nat
  | [], day => (month, day)
  | [_], day => (month, day)
  | length :: lengths, day =>
    if day ≤ length then (month, day) else monthAndDay (month + 1) lengths (day - length)

/-- The month, counted from one. -/
def month (d : Date) : Nat := (monthAndDay 1 (monthLengths d.year) d.dayOfYear).1

/-- The day of the month, counted from one. -/
def day (d : Date) : Nat := (monthAndDay 1 (monthLengths d.year) d.dayOfYear).2

/-- The quarter of the year, counted from one. -/
def quarter (d : Date) : Nat := (d.month - 1) / 3 + 1

def sinceSunday (d : Date) : Nat := ((d.toDay + 1) % 7).toNat

def sinceMonday (d : Date) : Nat := (d.toDay % 7).toNat

/-- The week of the year when weeks begin on Sunday; days before the first Sunday are in week
    zero. -/
def weekFromSunday (d : Date) : Nat := (d.dayOfYear + 6 - d.sinceSunday) / 7

/-- The week of the year when weeks begin on Monday; days before the first Monday are in week
    zero. -/
def weekFromMonday (d : Date) : Nat := (d.dayOfYear + 6 - d.sinceMonday) / 7

/-- The weeks that an ISO year has: a long one begins on a Thursday, or on a Wednesday if it is a
    leap year. -/
def isoWeeks (year : Int) : Nat :=
  let first := daysBefore year % 7
  if first = 3 ∨ (first = 2 ∧ isLeap year) then 53 else 52

/-- The ISO year and week. A week belongs to the year of its Thursday. -/
def isoYearAndWeek (d : Date) : Int × Nat :=
  let week := (d.dayOfYear + 9 - d.sinceMonday) / 7
  if week = 0 then (d.year - 1, isoWeeks (d.year - 1))
  else if isoWeeks d.year < week then (d.year + 1, 1)
  else (d.year, week)

end Date

/-! ## Moments -/

/-- A point in time, read off a clock with an offset from universal time. -/
structure Moment where
  /-- Seconds since the start of 1970 in universal time. -/
  seconds : Int
  /-- Nanoseconds within the second; a thousand million or more within a leap second. -/
  nanos : Nat := 0
  /-- Seconds that the clock is ahead of universal time. -/
  offset : Int := 0
deriving DecidableEq, Repr

namespace Moment

/-- The day on which 1970 starts. -/
def epochDay : Int := Date.daysBefore 1970

/-- Seconds since the start of 1970 on the clock. -/
def clockSeconds (m : Moment) : Int := m.seconds + m.offset

def date (m : Moment) : Date := .ofDay (epochDay + m.clockSeconds / 86400)

/-- The seconds since midnight on the clock. -/
def secondOfDay (m : Moment) : Nat := (m.clockSeconds % 86400).toNat

def hour (m : Moment) : Nat := m.secondOfDay / 3600

def minute (m : Moment) : Nat := m.secondOfDay / 60 % 60

/-- The second of the minute, which is sixty within a leap second. -/
def second (m : Moment) : Nat := m.secondOfDay % 60 + m.nanos / 1000000000

/-- The nanoseconds of the second that is shown. -/
def subsecond (m : Moment) : Nat := m.nanos % 1000000000

/-- The hour on a face of twelve hours. -/
def hour12 (m : Moment) : Nat := if m.hour % 12 = 0 then 12 else m.hour % 12

/-- Whether it is past noon. -/
def isAfternoon (m : Moment) : Bool := 12 ≤ m.hour

end Moment

end LogLine
