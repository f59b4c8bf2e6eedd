import BeaconSentry.Exit.Requests

/-!
This module contains the cache of requests to exit: those of a window of recent blocks, which are asked for
only when the number of processed requests has grown.
-/

namespace BeaconSentry
namespace Exit

open Beacon

structure ExitCache where
  /-- How many blocks the window reaches back. -/
  lookback : UInt64
  requests : List ExitRequest
  /-- The number of processed requests at the last scan. -/
  lastTotal : UInt64
  /-- The block up to which requests were asked for. -/
  lastScanned : Option BlockNumber
  deriving Repr, DecidableEq

namespace ExitCache

def empty (lookback : UInt64) : ExitCache := ⟨lookback, [], 0, none⟩

def purge (cache : ExitCache) (oldest : BlockNumber) : ExitCache :=
  { cache with requests := cache.requests.filter (oldest ≤ ·.block) }

/-- The first block to ask for: after the last scan, but not before the window. -/
def scanStart (cache : ExitCache) (oldest : BlockNumber) : Except Overflow BlockNumber :=
  match cache.lastScanned with
  | none => .ok oldest
  | some scanned => (Word.add scanned 1).map (max · oldest)

def ask (action : Action ω Report α) : Action (ExitCache × ω) Failure α :=
  (action.mapError .report).beside

/-- Bring the cache up to a block. Nothing changes before the oracle has answered. -/
def refresh (oracle : ExitOracle ω) (block : BlockNumber) : Action (ExitCache × ω) Failure Unit := do
  let total ← ask (oracle.total block)
  let cache ← .inspect
  let oldest := Word.monus block cache.lookback
  if total ≤ cache.lastTotal then
    .revise (·.purge oldest)
  else
    let first ← .ofExcept ((cache.scanStart oldest).mapError .overflow)
    let requests ← if first ≤ block then ask (oracle.requests first block) else pure []
    .revise fun cache => { cache with
      requests := cache.requests ++ requests
      lastTotal := total
      lastScanned := some block }
    .revise (·.purge oldest)

def isExpected (cache : ExitCache) (moduleIndex operatorIndex : UInt64) (validator : ValidatorIndex) : Bool :=
  cache.requests.any fun request =>
    request.moduleIndex == moduleIndex && request.operatorIndex == operatorIndex &&
      request.validator == validator

def size (cache : ExitCache) : Nat := cache.requests.length

def isEmpty (cache : ExitCache) : Bool := cache.requests.isEmpty

end ExitCache
end Exit
end BeaconSentry
