import InstrumentBench.Decimal.Digits

/-!
# Timestamps

A timestamp is a number of milliseconds since 1970 began.  It is shown as a
date of the Gregorian calendar, extended to all years, and a time of day.
Years are counted from March within cycles of 400 years, so that the leap day
comes last.
-/

namespace InstrumentBench.Timestamp

open Decimal

/-- A day of the Gregorian calendar. -/
structure Date where
  year : Nat
  month : Nat
  day : Nat
  deriving DecidableEq, Repr

/-- The date of a day, counted from the first of January 1970. -/
def Date.ofDays (days : Nat) : Date :=
  let shifted := days + 719468
  let cycle := shifted / 146097
  let dayOfCycle := shifted % 146097
  let yearOfCycle :=
    (dayOfCycle - dayOfCycle / 1460 + dayOfCycle / 36524 - dayOfCycle / 146096) / 365
  let dayOfYear := dayOfCycle - (365 * yearOfCycle + yearOfCycle / 4 - yearOfCycle / 100)
  let monthFromMarch := (5 * dayOfYear + 2) / 153
  let month := if monthFromMarch < 10 then monthFromMarch + 3 else monthFromMarch - 9
  { year := yearOfCycle + 400 * cycle + (if month ≤ 2 then 1 else 0)
    month := month
    day := dayOfYear - (153 * monthFromMarch + 2) / 5 + 1 }

/-- A date as year, month and day. -/
def Date.chars (date : Date) : List Char :=
  paddedDigits 4 date.year ++ '-' :: paddedDigits 2 date.month ++ '-' :: paddedDigits 2 date.day

/-- The milliseconds of a second. -/
def millisPerSecond : Nat := 1000

/-- The seconds of a day. -/
def secondsPerDay : Nat := 86400

/-- The date of a timestamp. -/
def date (millis : Nat) : Date :=
  Date.ofDays (millis / millisPerSecond / secondsPerDay)

/-- The date of a timestamp as text. -/
def dateText (millis : Nat) : String :=
  String.ofList (date millis).chars

/-- The time of day as hours, minutes and seconds. -/
def clockChars (secondOfDay : Nat) : List Char :=
  paddedDigits 2 (secondOfDay / 3600) ++ ':' :: paddedDigits 2 (secondOfDay % 3600 / 60) ++
    ':' :: paddedDigits 2 (secondOfDay % 60)

/-- A timestamp as date and time. -/
def chars (millis : Nat) : List Char :=
  (date millis).chars ++ ' ' :: clockChars (millis / millisPerSecond % secondsPerDay)

/-- A timestamp as date and time. -/
def text (millis : Nat) : String :=
  String.ofList (chars millis)

end InstrumentBench.Timestamp
