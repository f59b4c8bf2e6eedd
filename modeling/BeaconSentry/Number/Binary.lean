/-!
This module contains positive binary numbers of double precision: the rounding of fractions and sums, and the
decimal with the fewest digits that rounds back to a number.
-/

namespace BeaconSentry

/-- The number `mantissa * 2 ^ exponent`. -/
structure Binary where
  mantissa : Nat
  exponent : Int
  deriving Repr, DecidableEq

namespace Binary

def zero : Binary := ⟨0, 0⟩

def precision : Nat := 53

def leastExponent : Int := -1074

def greatestExponent : Int := 971

/-- The quotient of two numbers, rounded to the nearest whole number; a tie goes to the even one. -/
def roundDiv (a b : Nat) : Nat :=
  let quotient := a / b
  let rest := a % b
  if 2 * rest < b then quotient
  else if b < 2 * rest then quotient + 1
  else if quotient % 2 = 0 then quotient
  else quotient + 1

/-- The fraction `a * base ^ exponent / b` as a numerator and a denominator. -/
def scale (base a b : Nat) (exponent : Int) : Nat × Nat :=
  (a * Nat.pow base exponent.toNat, b * Nat.pow base (-exponent).toNat)

/--
The number nearest to the fraction `a / b`; a tie goes to the even mantissa. The exponent is the least one at
which the mantissa has no more digits than it may have.
-/
def ofFraction (a b : Nat) : Binary :=
  if a = 0 then zero
  else
    let fits (exponent : Int) : Bool :=
      let (a, b) := scale 2 a b (-exponent)
      a / b < Nat.pow 2 precision
    let guess := Int.ofNat (Nat.log2 a) - Int.ofNat (Nat.log2 b) - precision
    let exponent := max (if fits guess then guess else guess + 1) leastExponent
    let (a, b) := scale 2 a b (-exponent)
    let mantissa := roundDiv a b
    if mantissa = Nat.pow 2 precision then ⟨Nat.pow 2 (precision - 1), exponent + 1⟩ else ⟨mantissa, exponent⟩

def fraction (x : Binary) : Nat × Nat := scale 2 x.mantissa 1 x.exponent

/-- The sum of two numbers, rounded. -/
def add (x y : Binary) : Binary :=
  let (a, b) := x.fraction
  let (c, d) := y.fraction
  ofFraction (a * d + c * b) (b * d)

/-- Whether a number is at most another one. -/
def le (x y : Binary) : Bool :=
  let (a, b) := x.fraction
  let (c, d) := y.fraction
  a * d ≤ c * b

/--
Whether the fraction `a / b` rounds to a number: it lies between the two middles to the next numbers, which
belong to the number if its mantissa is even.
-/
def holds (x : Binary) (a b : Nat) : Bool :=
  let isLeast := x.mantissa = Nat.pow 2 (precision - 1) && leastExponent < x.exponent
  let (low, lowUnit) := scale 2 (if isLeast then 4 * x.mantissa - 1 else 4 * x.mantissa - 2) 4 x.exponent
  let (high, highUnit) := scale 2 (4 * x.mantissa + 2) 4 x.exponent
  let closed := x.mantissa % 2 = 0
  (low * b < a * lowUnit || (closed && low * b == a * lowUnit)) &&
    (a * highUnit < high * b || (closed && a * highUnit == high * b))

inductive Tie where
  /-- The greater one. -/
  | up
  /-- The one with an even last digit. -/
  | even
  deriving Repr, DecidableEq

/-- Whether the decimal above `below` is taken for the remainder `rest` of a division by `unit`. -/
def Tie.takesNext (tie : Tie) (below rest unit : Nat) : Bool :=
  unit < 2 * rest || (2 * rest = unit && (tie = .up || below % 2 = 1))

/-- The multiple of `10 ^ place` that is nearest to a number among those that round back to it. -/
def candidate? (tie : Tie) (x : Binary) (place : Int) : Option Nat :=
  let (a, b) := x.fraction
  let (c, d) := scale 10 a b (-place)
  let below := c / d
  let isHeld (n : Nat) : Bool :=
    let (p, q) := scale 10 n 1 place
    x.holds p q
  match isHeld below, isHeld (below + 1) with
  | true, true => some (if tie.takesNext below (c % d) d then below + 1 else below)
  | true, false => some below
  | false, true => some (below + 1)
  | false, false => none

def firstDecimal (tie : Tie) (x : Binary) : Nat → Int → Nat × Int
  | 0, place => ((x.candidate? tie place).getD 0, place)
  | finer + 1, place =>
    match x.candidate? tie place with
    | some n => (n, place)
    | none => firstDecimal tie x finer (place - 1)

def mostDigits : Nat := 17

def shortest (tie : Tie) (x : Binary) : Nat × Int :=
  let (a, b) := x.fraction
  let whole := (Nat.toDigits 10 (a / b)).length
  let leading := (Nat.toDigits 10 (b / a)).length
  let place : Int := if b ≤ a then whole else 1 - leading
  x.firstDecimal tie (mostDigits + 1) place

def positional (digits : Nat) (place : Int) : String :=
  if 0 ≤ place then toString (digits * Nat.pow 10 place.toNat)
  else
    let count := (-place).toNat
    let cs := Nat.toDigits 10 digits
    let cs := List.replicate (count + 1 - cs.length) '0' ++ cs
    let fraction := ((cs.drop (cs.length - count)).reverse.dropWhile (· == '0')).reverse
    String.ofList (cs.take (cs.length - count)) ++
      (if fraction.isEmpty then "" else "." ++ String.ofList fraction)

/-- The decimal text of a number. A tie between decimals goes up. -/
def print (x : Binary) : String :=
  if x.mantissa = 0 then "0"
  else
    let (digits, place) := x.shortest .up
    positional digits place

end Binary
end BeaconSentry
