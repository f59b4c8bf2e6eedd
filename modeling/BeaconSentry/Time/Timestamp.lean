import BeaconSentry.Time.Instant

/-!
This module contains the reading of instants from timestamps: a date, a time of day with an optional fraction,
and an offset from universal time.
-/

namespace BeaconSentry
namespace Timestamp

def isDigit (c : Char) : Bool := '0' ≤ c && c ≤ '9'

def digitsValue (cs : List Char) : Nat :=
  cs.foldl (fun n c => n * 10 + (c.toNat - '0'.toNat)) 0

/-- Take exactly `count` digits off the front. -/
def number? (count : Nat) (cs : List Char) : Option (Nat × List Char) :=
  let ds := cs.take count
  if ds.length == count && ds.all isDigit then some (digitsValue ds, cs.drop count) else none

def char? (c : Char) : List Char → Option (List Char)
  | d :: rest => if d == c then some rest else none
  | [] => none

def separator? : List Char → Option (List Char)
  | 'T' :: rest | 't' :: rest | ' ' :: rest => some rest
  | _ => none

/--
Take the fraction of a second off the front, in nanoseconds. A point must have a digit after it, and digits
after the ninth do not count.
-/
def fraction? : List Char → Option (Nat × List Char)
  | '.' :: rest =>
    let ds := (rest.takeWhile isDigit).take 9
    if ds.isEmpty then none
    else some (digitsValue ds * Nat.pow 10 (9 - ds.length), rest.dropWhile isDigit)
  | cs => some (0, cs)

/-- Take the sign of an offset off the front; the result says whether the offset is negative. -/
def offsetSign? : List Char → Option (Bool × List Char)
  | '+' :: rest => some (false, rest)
  | '-' :: rest => some (true, rest)
  | c :: rest => if c.toNat == 0x2212 then some (true, rest) else none
  | [] => none

def offset? (cs : List Char) : Option Int :=
  match cs with
  | ['Z'] | ['z'] => some 0
  | cs => do
    let (negative, cs) ← offsetSign? cs
    let (hours, cs) ← number? 2 cs
    let cs ← char? ':' cs
    let (minutes, cs) ← number? 2 cs
    if cs.isEmpty && hours ≤ 23 && minutes ≤ 59 then
      let seconds := Int.ofNat (hours * 3600 + minutes * 60)
      pure (if negative then -seconds else seconds)
    else
      none

/-- The instant that a timestamp names. The second 60 of a minute is a leap second. -/
def parse? (s : String) : Option Instant := do
  let cs := s.toList
  let (year, cs) ← number? 4 cs
  let cs ← char? '-' cs
  let (month, cs) ← number? 2 cs
  let cs ← char? '-' cs
  let (day, cs) ← number? 2 cs
  let cs ← separator? cs
  let (hour, cs) ← number? 2 cs
  let cs ← char? ':' cs
  let (minute, cs) ← number? 2 cs
  let cs ← char? ':' cs
  let (second, cs) ← number? 2 cs
  let (nanos, cs) ← fraction? cs
  let offset ← offset? cs
  let date : Date := ⟨year, month, day⟩
  if date.isValid && hour ≤ 23 && minute ≤ 59 && second ≤ 60 then
    let leap := second == 60
    let time := Int.ofNat (hour * 3600 + minute * 60 + (if leap then 59 else second))
    pure {
      seconds := date.toDays * Instant.daySeconds + time - offset
      nanos := nanos + (if leap then Instant.secondNanos else 0) }
  else
    none

end Timestamp
end BeaconSentry
