import BeaconSentry.Time.Date
import BeaconSentry.Word

/-!
This module contains instants of universal time and their written form with six places after the second.
-/

namespace BeaconSentry

def zeroPadded (width n : Nat) : String :=
  let digits := Nat.toDigits 10 n
  String.ofList (List.replicate (width - digits.length) '0' ++ digits)

/--
An instant: whole seconds since the start of 1970, and nanoseconds within the second. A leap second continues
the last second of its minute with nanoseconds from `10 ^ 9` on.
-/
structure Instant where
  seconds : Int
  nanos : Nat
  deriving Repr, DecidableEq

namespace Instant

def daySeconds : Int := 86400

def secondNanos : Nat := 1000000000

/-- The last second that instants can name: the end of year 262142. -/
def lastSecond : Int := 8210266876799

/-- The instant a positive number of seconds later; a leap second is left. -/
def later (instant : Instant) (seconds : Nat) : Instant :=
  { seconds := instant.seconds + seconds, nanos := instant.nanos % secondNanos }

def later? (instant : Instant) (seconds : Nat) : Except Overflow Instant :=
  if instant.seconds + seconds ≤ lastSecond then .ok (instant.later seconds) else .error .instant

/-- Whole milliseconds since the start of 1970, rounded down. -/
def millis (instant : Instant) : Int := instant.seconds * 1000 + (instant.nanos / 1000000 : Nat)

def date (instant : Instant) : Date := Date.ofDays (instant.seconds / daySeconds)

def timeOfDay (instant : Instant) : Nat := (instant.seconds % daySeconds).toNat

/-- The second of the minute, which is 60 in a leap second. -/
def secondOfMinute (instant : Instant) : Nat :=
  instant.timeOfDay % 60 + instant.nanos / secondNanos

/-- The written form of a year: four digits, signed outside the years 0 to 9999. -/
def printYear (year : Int) : String :=
  if 0 ≤ year && year ≤ 9999 then zeroPadded 4 year.toNat
  else (if year < 0 then "-" else "+") ++ zeroPadded 4 year.natAbs

def print (instant : Instant) : String :=
  let date := instant.date
  let time := instant.timeOfDay
  s!"{printYear date.year}-{zeroPadded 2 date.month}-{zeroPadded 2 date.day}T" ++
    s!"{zeroPadded 2 (time / 3600)}:{zeroPadded 2 (time / 60 % 60)}:" ++
    s!"{zeroPadded 2 instant.secondOfMinute}." ++
    s!"{zeroPadded 6 (instant.nanos % secondNanos / 1000)}Z"

end Instant
end BeaconSentry
