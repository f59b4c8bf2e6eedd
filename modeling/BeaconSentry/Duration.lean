/-!
This module contains spans of time in nanoseconds.
-/

namespace BeaconSentry

structure Duration where
  nanos : Nat
  deriving Repr, DecidableEq, Inhabited

namespace Duration

def zero : Duration := ⟨0⟩

def ofSeconds (n : Nat) : Duration := ⟨n * 1000000000⟩

/-- A span of whole milliseconds. -/
def ofMillis (n : Nat) : Duration := ⟨n * 1000000⟩

def seconds (span : Duration) : Nat := span.nanos / 1000000000

def subsecNanos (span : Duration) : Nat := span.nanos % 1000000000

/-- The whole milliseconds of a span. -/
def millis (span : Duration) : Nat := span.nanos / 1000000

end Duration
end BeaconSentry
