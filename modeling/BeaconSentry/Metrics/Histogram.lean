import BeaconSentry.Duration
import BeaconSentry.Number.Binary

/-!
This module contains histograms of spans of time in seconds.
-/

namespace BeaconSentry

/-- Observed spans: their number, their sum, and how many of them each bucket holds. -/
structure Histogram where
  /-- How many spans are at most as long as each bound. -/
  within : List Nat
  sum : Binary
  count : Nat
  deriving Repr, DecidableEq

namespace Histogram

def boundMillis : List Nat := [5, 10, 25, 50, 100, 250, 500, 1000, 2500, 5000, 10000]

def bounds : List Binary := boundMillis.map fun millis => .ofFraction millis 1000

def empty : Histogram := ⟨bounds.map fun _ => 0, .zero, 0⟩

/-- The number of seconds of a span: the whole seconds and the fraction are rounded each, and so is their sum. -/
def seconds (span : Duration) : Binary :=
  (Binary.ofFraction span.seconds 1).add (.ofFraction span.subsecNanos 1000000000)

def observe (span : Duration) (histogram : Histogram) : Histogram :=
  let value := seconds span
  { within := (histogram.within.zip bounds).map fun (n, bound) => if value.le bound then n + 1 else n
    sum := histogram.sum.add value
    count := histogram.count + 1 }

end Histogram
end BeaconSentry
