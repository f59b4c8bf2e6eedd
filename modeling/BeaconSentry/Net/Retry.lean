import BeaconSentry.Duration
import BeaconSentry.Action

/-!
This module contains the retrying of attempts: which answers are worth another try, how long to wait before
it, and how a sequence of attempts ends.
-/

namespace BeaconSentry

structure RetryPolicy where
  /-- The number of attempts after the first one. -/
  total : Nat
  /-- The wait before the first retry; later waits double. -/
  backoff : Duration
  /-- The statuses that are worth another try. -/
  forcelist : List Nat
  deriving Repr, DecidableEq

namespace RetryPolicy

def defaultForcelist : List Nat := [418, 429, 500, 502, 503, 504]

/-- The longest wait, in milliseconds. -/
def longestMillis : Nat := 120000

/-- Retry `total` times on the usual statuses. -/
def ofTotal (total : Nat) (backoff : Duration) : RetryPolicy := ⟨total, backoff, defaultForcelist⟩

def none : RetryPolicy := ofTotal 0 .zero

def retriesStatus (policy : RetryPolicy) (status : Nat) : Bool := policy.forcelist.contains status

/-- The unit of waiting: half the backoff in milliseconds, at least one, held in a 64-bit word. -/
def unitMillis (policy : RetryPolicy) : Nat := max (policy.backoff.millis / 2) 1 % UInt64.size

/-- A number of milliseconds, held at the greatest word if it would be beyond. -/
def saturate (n : Nat) : Nat := min n (UInt64.size - 1)

/--
The next `count` waits in milliseconds. A wait is `factor` units long; the factor doubles from one wait to
the next until the longest wait is reached.
-/
def waits (unit factor : Nat) : Nat → List Nat
  | 0 => []
  | count + 1 =>
    let wait := saturate (factor * unit)
    if longestMillis < wait then longestMillis :: waits unit factor count
    else wait :: waits unit (saturate (factor * 2)) count

/-- The first `count` of the waits before retries. -/
def firstDelays (policy : RetryPolicy) (count : Nat) : List Duration :=
  let waits := waits policy.unitMillis 2 (min count policy.total)
  if policy.backoff = .zero then waits.map fun _ => .zero else waits.map .ofMillis

def delays (policy : RetryPolicy) : List Duration := policy.firstDelays policy.total

end RetryPolicy

/--
Try an action until it succeeds, fails in a way that is not worth another try, or has been tried again `retries`
times.
-/
def Action.retry (retries : Nat) (worth : ε → Bool) (action : Action ω ε α) : Action ω ε α where
  run := go retries
where
  /-- Try at most `retries + 1` times. -/
  go (retries : Nat) (world : ω) : Except ε α × ω :=
    match action.run world with
    | (.ok value, world) => (.ok value, world)
    | (.error error, world) =>
      match retries with
      | 0 => (.error error, world)
      | retries + 1 => if worth error then go retries world else (.error error, world)

end BeaconSentry
