/-!
This module contains dates of the Gregorian calendar, extended to all years, and their relation to the count
of days since the first of January 1970.
-/

namespace BeaconSentry

/-- A date: a year, a month from 1 to 12 and a day from 1. -/
structure Date where
  year : Int
  month : Nat
  day : Nat
  deriving Repr, DecidableEq

namespace Date

def isLeapYear (year : Int) : Bool :=
  year % 4 == 0 && (year % 100 != 0 || year % 400 == 0)

def monthLength (year : Int) (month : Nat) : Nat :=
  match month with
  | 2 => if isLeapYear year then 29 else 28
  | 4 | 6 | 9 | 11 => 30
  | _ => 31

def isValid (date : Date) : Bool :=
  1 ≤ date.month && date.month ≤ 12 && 1 ≤ date.day && date.day ≤ monthLength date.year date.month

def cycleDays : Int := 146097

def epochOffset : Int := 719468

/--
The days from the first of January 1970 to a date. Years are counted from March on, so that a leap day is the
last day of its year.
-/
def toDays (date : Date) : Int :=
  let year := if date.month ≤ 2 then date.year - 1 else date.year
  let month : Int := if date.month ≤ 2 then date.month + 9 else date.month - 3
  let cycle := year / 400
  let yearOfCycle := year % 400
  let dayOfYear := (153 * month + 2) / 5 + date.day - 1
  cycle * cycleDays + yearOfCycle * 365 + yearOfCycle / 4 - yearOfCycle / 100 + dayOfYear - epochOffset

def ofDays (days : Int) : Date :=
  let fromMarch := days + epochOffset
  let cycle := fromMarch / cycleDays
  let day := fromMarch % cycleDays
  let yearOfCycle := (day - day / 1460 + day / 36524 - day / 146096) / 365
  let dayOfYear := day - (365 * yearOfCycle + yearOfCycle / 4 - yearOfCycle / 100)
  let month := (5 * dayOfYear + 2) / 153
  let year := yearOfCycle + cycle * 400
  { year := if month < 10 then year else year + 1
    month := (if month < 10 then month + 3 else month - 9).toNat
    day := (dayOfYear - (153 * month + 2) / 5 + 1).toNat }

end Date
end BeaconSentry
