import BeaconSentry.Proofs.Exit.Refresh

/-!
This module contains refreshes of the cache of requests to exit by an oracle whose answers never change: only the first
one matters.
-/

namespace BeaconSentry
namespace Exit

open Beacon

variable {ω : Type}

/-- Answers about requests to exit that never change. -/
structure ExitAnswers where
  total : BlockNumber → Except Report UInt64
  requests : BlockNumber → BlockNumber → Except Report (List ExitRequest)

/-- The oracle that gives the same answers in every world. -/
def ExitAnswers.oracle (answers : ExitAnswers) : ExitOracle ω where
  total block := .ofExcept (answers.total block)
  requests first last := .ofExcept (answers.requests first last)

namespace ExitCache

/-- How a refresh by unchanging answers ends, and the cache after it. -/
def refreshed (answers : ExitAnswers) (block : BlockNumber) (cache : ExitCache) : Except Failure Unit × ExitCache :=
  let (result, cache, _) := (refresh answers.oracle block).run (cache, ())
  (result, cache)

theorem run_refresh_eq (answers : ExitAnswers) (block : BlockNumber) (cache : ExitCache) (world : ω) :
    (refresh answers.oracle block).run (cache, world)
      = ((cache.refreshed answers block).1, (cache.refreshed answers block).2, world) := by
  unfold refreshed refresh ask ExitAnswers.oracle
  cases htotal : answers.total block with
  | error report =>
    simp only [Action.run_bind, Action.run_beside, Action.run_mapError, Action.run_ofExcept, htotal,
      mapError_error]
  | ok total =>
    simp only [Action.run_bind, Action.run_beside, Action.run_mapError, Action.run_ofExcept, htotal, mapError_ok,
      Action.run_inspect]
    split
    . rfl
    . cases cache.scanStart (Word.monus block cache.lookback) with
      | error overflow => rfl
      | ok first =>
        simp only [Action.run_bind, Action.run_ofExcept, mapError_ok]
        split
        . cases answers.requests first block <;>
            simp only [Action.run_bind, Action.run_beside, Action.run_mapError, Action.run_ofExcept, mapError_ok,
              mapError_error, Action.run_revise]
        . rfl

theorem purge_purge (cache : ExitCache) (oldest : BlockNumber) :
    (cache.purge oldest).purge oldest = cache.purge oldest := by
  simp [purge]

theorem refreshed_of_total_le {answers : ExitAnswers} {block : BlockNumber} {cache : ExitCache} {total : UInt64}
    (htotal : answers.total block = .ok total) (hle : total ≤ cache.lastTotal)
    : cache.refreshed answers block = (.ok (), cache.purge (Word.monus block cache.lookback)) := by
  unfold refreshed refresh ask ExitAnswers.oracle
  simp only [Action.run_bind, Action.run_beside, Action.run_mapError, Action.run_ofExcept, htotal, mapError_ok,
    Action.run_inspect, if_pos hle, Action.run_revise]

theorem total_eq_of_run {answers : ExitAnswers} {block : BlockNumber} {total : UInt64} {world after : ω}
    (h : (answers.oracle.total block).run world = (.ok total, after)) : answers.total block = .ok total := by
  cases h' : answers.total block <;> simp_all [ExitAnswers.oracle]

theorem refreshed_of_answers (answers : ExitAnswers) (block : BlockNumber) (cache : ExitCache) :
    Refreshed (answers.oracle : ExitOracle Unit) block cache (cache.refreshed answers block).1
      (cache.refreshed answers block).2 :=
  refreshed_of_run (run_refresh_eq answers block cache ())

/-- A refresh changes nothing that the one before has left. -/
theorem refreshed_refreshed (answers : ExitAnswers) (block : BlockNumber) (cache : ExitCache) :
    (cache.refreshed answers block).2.refreshed answers block = cache.refreshed answers block := by
  have h := refreshed_of_answers answers block cache
  generalize houtcome : cache.refreshed answers block = outcome at h ⊢
  rcases outcome with ⟨result, after⟩
  cases h with
  | unanswered => exact houtcome
  | overflowed => exact houtcome
  -- In both cases the counter is up to date now, so all that is left is a second purge.
  | @flat total _ _ htotal hle =>
    have hle : total ≤ (cache.purge (Word.monus block cache.lookback)).lastTotal := hle
    exact (refreshed_of_total_le (total_eq_of_run htotal) hle).trans (congrArg _ (purge_purge ..))
  | @scanned total _ _ _ requests htotal =>
    have hle : total ≤ (ExitCache.purge { cache with
        requests := cache.requests ++ requests, lastTotal := total, lastScanned := some block }
          (Word.monus block cache.lookback)).lastTotal :=
      UInt64.le_refl _
    exact (refreshed_of_total_le (total_eq_of_run htotal) hle).trans (congrArg _ (purge_purge ..))

/-- The block after the last scan has a number. -/
def CanScan (cache : ExitCache) : Prop :=
  ∀ scanned, cache.lastScanned = some scanned → scanned.toNat + 1 < UInt64.size

theorem CanScan.scanStart_ne_error {cache : ExitCache} (h : cache.CanScan) (oldest : BlockNumber)
    (overflow : Overflow) : cache.scanStart oldest ≠ .error overflow := by
  intro hstart
  unfold scanStart at hstart
  cases hscanned : cache.lastScanned with
  | none =>
    rw [hscanned] at hstart
    cases hstart
  | some scanned =>
    rw [hscanned] at hstart
    dsimp only at hstart
    cases hnext : Word.add scanned 1 with
    | ok next =>
      rw [hnext] at hstart
      cases hstart
    | error overflow =>
      have hsize := Word.size_le_of_add hnext
      have := h scanned hscanned
      rw [UInt64.toNat_one] at hsize
      omega

theorem CanScan.ne_overflow {oracle : ExitOracle ω} {block : BlockNumber} {cache cache' : ExitCache}
    {result : Except Failure Unit} (h : cache.CanScan) (hrefreshed : Refreshed oracle block cache result cache')
    (overflow : Overflow) : result ≠ .error (.overflow overflow) := by
  cases hrefreshed with
  | unanswered => nofun
  | flat => nofun
  | overflowed htotal hlt hstart => exact absurd hstart (h.scanStart_ne_error _ _)
  | scanned => nofun

theorem CanScan.refreshed {oracle : ExitOracle ω} {block : BlockNumber} {cache cache' : ExitCache}
    {result : Except Failure Unit} (h : cache.CanScan) (hrefreshed : Refreshed oracle block cache result cache')
    (hblock : block.toNat + 1 < UInt64.size)
    : (∀ overflow, result ≠ .error (.overflow overflow)) ∧ cache'.CanScan := by
  refine ⟨h.ne_overflow hrefreshed, ?_⟩
  cases hrefreshed with
  | unanswered => exact h
  | flat => exact h
  | overflowed => exact h
  | scanned =>
    intro scanned hscanned
    cases hscanned
    exact hblock

end ExitCache
end Exit
end BeaconSentry
