import BeaconSentry.Duration
import BeaconSentry.Number.Decimal
import BeaconSentry.Word

/-!
This module contains the reading of a number of seconds as a span of time. The number is a decimal that stands
for the nearest binary number of double precision, and the span is the nearest whole number of nanoseconds.
-/

namespace BeaconSentry

inductive Seconds where
  /-- No number at all. -/
  | undefined
  | infinite (minus : Bool)
  /-- A decimal, negated after a `minus`. -/
  | decimal (minus : Bool) (size : Decimal)
  deriving Repr, DecidableEq

namespace Seconds

def unsigned? (minus : Bool) (cs : List Char) : Option Seconds :=
  let name := String.ofList (cs.map Char.toLower)
  if name == "inf" || name == "infinity" then some (.infinite minus)
  else if name == "nan" then some .undefined
  else (Decimal.parse? cs).map (.decimal minus)

def parse? (text : String) : Option Seconds :=
  match text.toList with
  | '-' :: rest => unsigned? true rest
  | '+' :: rest => unsigned? false rest
  | cs => unsigned? false cs

def nanosPerSecond : Nat := 1000000000

/-- The span of a number of seconds, which must be less than `2 ^ 64`. -/
def spanOfBinary (x : Binary) : Except Overflow Duration :=
  let (a, b) := x.fraction
  if UInt64.size * b ≤ a then .error .duration else .ok ⟨Binary.roundDiv (a * nanosPerSecond) b⟩

/-- The span of a number of seconds. Negative and undefined numbers stand for no time. -/
def toDuration : Seconds → Except Overflow Duration
  | undefined => .ok .zero
  | infinite minus => if minus then .ok .zero else .error .duration
  | decimal minus size =>
    if minus then .ok .zero
    else
      match size.toBinary? with
      | some x => spanOfBinary x
      | none => .error .duration

end Seconds
end BeaconSentry
