import BeaconSentry.Exit.Cache

/-!
This module contains what one refresh of the cache of requests to exit can do, and how it can end.
-/

namespace BeaconSentry
namespace Exit

open Beacon

variable {ω : Type}

/-- At least one of the questions that a refresh at a block asks can be answered with a report. -/
def ExitOracle.FailsAt (oracle : ExitOracle ω) (block : BlockNumber) (report : Report) : Prop :=
  (∃ world after, (oracle.total block).run world = (.error report, after))
    ∨ ∃ first world after, (oracle.requests first block).run world = (.error report, after)

namespace ExitCache

/-- What a refresh at a block can do to a cache, and how it can end. -/
inductive Refreshed (oracle : ExitOracle ω) (block : BlockNumber) (cache : ExitCache) :
    Except Failure Unit → ExitCache → Prop
  | unanswered {report : Report} (hfails : oracle.FailsAt block report) :
    Refreshed oracle block cache (.error (.report report)) cache
  | flat {total : UInt64} {world after : ω} (htotal : (oracle.total block).run world = (.ok total, after))
      (hle : total ≤ cache.lastTotal) :
    Refreshed oracle block cache (.ok ()) (cache.purge (Word.monus block cache.lookback))
  | overflowed {total : UInt64} {world after : ω} {overflow : Overflow}
      (htotal : (oracle.total block).run world = (.ok total, after)) (hlt : cache.lastTotal < total)
      (hstart : cache.scanStart (Word.monus block cache.lookback) = .error overflow) :
    Refreshed oracle block cache (.error (.overflow overflow)) cache
  | scanned {total : UInt64} {world after : ω} {first : BlockNumber} {requests : List ExitRequest}
      (htotal : (oracle.total block).run world = (.ok total, after)) (hlt : cache.lastTotal < total)
      (hstart : cache.scanStart (Word.monus block cache.lookback) = .ok first)
      (hrequests : if first ≤ block then ∃ world after, (oracle.requests first block).run world = (.ok requests, after)
        else requests = []) :
    Refreshed oracle block cache (.ok ())
      (({ cache with
          requests := cache.requests ++ requests
          lastTotal := total
          lastScanned := some block } : ExitCache).purge (Word.monus block cache.lookback))

theorem refreshed_of_run {oracle : ExitOracle ω} {block : BlockNumber} {cache cache' : ExitCache}
    {world world' : ω} {result : Except Failure Unit}
    (h : (refresh oracle block).run (cache, world) = (result, cache', world'))
    : Refreshed oracle block cache result cache' := by
  rw [refresh, Action.run_bind] at h
  generalize htotal : (oracle.total block).run world = answer at h
  rcases answer with ⟨_ | total, after⟩
  . simp only [ask, Action.run_beside, Action.run_mapError, htotal, mapError_error] at h
    cases h
    exact .unanswered (.inl ⟨world, _, htotal⟩)
  . simp only [ask, Action.run_beside, Action.run_mapError, htotal, mapError_ok, Action.run_bind,
      Action.run_inspect] at h
    split at h
    . next hle =>
      cases h
      exact .flat htotal hle
    . next hgt =>
      have hlt : cache.lastTotal < total := UInt64.not_le.mp hgt
      generalize hstart : cache.scanStart (Word.monus block cache.lookback) = start at h
      cases start with
      | error overflow =>
        cases h
        exact .overflowed htotal hlt hstart
      | ok first =>
        simp only [Action.run_bind, Action.run_ofExcept, mapError_ok] at h
        split at h
        . next hfirst =>
          generalize hfound : (oracle.requests first block).run after = found at h
          rcases found with ⟨_ | requests, after'⟩
          . simp only [Action.run_bind, Action.run_beside, Action.run_mapError, hfound, mapError_error] at h
            cases h
            exact .unanswered (.inr ⟨first, after, _, hfound⟩)
          . simp only [Action.run_bind, Action.run_beside, Action.run_mapError, hfound, mapError_ok] at h
            cases h
            apply Refreshed.scanned htotal hlt hstart
            rw [if_pos hfirst]
            exact ⟨after, _, hfound⟩
        . next hfirst =>
          cases h
          apply Refreshed.scanned htotal hlt hstart
          rw [if_neg hfirst]

theorem eq_of_run_eq_error {oracle : ExitOracle ω} {block : BlockNumber} {cache cache' : ExitCache}
    {world world' : ω} {failure : Failure}
    (h : (refresh oracle block).run (cache, world) = (.error failure, cache', world'))
    : cache' = cache := by
  cases refreshed_of_run h <;> rfl

theorem isExpected_iff (cache : ExitCache) (moduleIndex operatorIndex : UInt64) (validator : ValidatorIndex) :
    cache.isExpected moduleIndex operatorIndex validator = true
      ↔ ∃ request ∈ cache.requests, request.moduleIndex = moduleIndex ∧ request.operatorIndex = operatorIndex
          ∧ request.validator = validator := by
  simp [isExpected, and_assoc]

end ExitCache
end Exit
end BeaconSentry
