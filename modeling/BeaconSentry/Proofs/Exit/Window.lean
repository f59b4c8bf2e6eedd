import BeaconSentry.Exit.Range
import BeaconSentry.Proofs.Exit.Refresh

/-!
This module contains the law of the cache of requests to exit: whatever refreshes were tried, it holds the
requests of the window that ends at the highest block of a refresh that succeeded.
-/

namespace BeaconSentry
namespace Exit

open Beacon

variable {ω : Type}

theorem filter_of_countP_eq {p q : α → Bool} {l : List α} (hpq : ∀ a ∈ l, p a → q a)
    (hcount : l.countP p = l.countP q)
    : ∀ a ∈ l, q a → p a := by
  intro a ha hq
  -- The filter by `p` is part of the one by `q`, and they are equally long.
  have hsub : (l.filter p).Sublist (l.filter q) := by
    have : l.filter p = (l.filter q).filter p := by
      rw [List.filter_filter]
      apply List.filter_congr
      intro b hb
      specialize hpq b hb
      cases hp : p b <;> simp_all
    rw [this]
    apply List.filter_sublist
  have heq : l.filter p = l.filter q := by
    apply hsub.eq_of_length
    rw [← List.countP_eq_length_filter, ← List.countP_eq_length_filter]
    exact hcount
  have : a ∈ l.filter p := by
    rw [heq, List.mem_filter]
    exact ⟨ha, hq⟩
  exact (List.mem_filter.mp this).2

theorem perm_filter_of_disjoint {p q r : α → Bool} {l : List α} (hr : ∀ a ∈ l, r a = (p a ^^ q a))
    (hpq : ∀ a ∈ l, p a → q a = false)
    : (l.filter p ++ l.filter q).Perm (l.filter r) := by
  have hp : (l.filter r).filter p = l.filter p := by
    rw [List.filter_filter]
    apply List.filter_congr
    intro a ha
    rw [hr a ha]
    specialize hpq a ha
    cases hp : p a <;> simp_all
  have hq : (l.filter r).filter (! p ·) = l.filter q := by
    rw [List.filter_filter]
    apply List.filter_congr
    intro a ha
    rw [hr a ha]
    specialize hpq a ha
    cases hp : p a <;> simp_all
  rw [← hp, ← hq]
  apply List.filter_append_perm

/-- An oracle whose answers, as far as it gives any, agree with a log of requests. -/
structure ExitOracle.IsTruthful (oracle : ExitOracle ω) (log : List ExitRequest) : Prop where
  total : ∀ {block world total after}, (oracle.total block).run world = (.ok total, after)
    → total.toNat = log.countP (·.block ≤ block)
  requests : ∀ {first last world found after}, (oracle.requests first last).run world = (.ok found, after)
    → found.Perm (log.filter fun request => BlockRange.contains ⟨first, last⟩ request.block)

theorem filter_contains_of_lt (range : BlockRange) (h : range.last < range.first) (log : List ExitRequest) :
    log.filter (fun request => range.contains request.block) = [] := by
  rw [List.filter_eq_nil_iff]
  intro request _ hcontains
  rw [BlockRange.contains, Bool.and_eq_true, decide_eq_true_eq, decide_eq_true_eq] at hcontains
  rw [UInt64.lt_iff_toNat_lt] at h
  rw [UInt64.le_iff_toNat_le, UInt64.le_iff_toNat_le] at hcontains
  omega

/-- A scan finds the logged requests of its range, which it does not even ask for if the range is empty. -/
theorem ExitOracle.IsTruthful.perm_of_scan {oracle : ExitOracle ω} {log : List ExitRequest}
    (truthful : oracle.IsTruthful log) {first block : BlockNumber} {requests : List ExitRequest}
    (h : if first ≤ block then ∃ world after, (oracle.requests first block).run world = (.ok requests, after)
      else requests = [])
    : requests.Perm (log.filter fun request => BlockRange.contains ⟨first, block⟩ request.block) := by
  split at h
  . obtain ⟨_, _, hfound⟩ := h
    exact truthful.requests hfound
  . next hfirst =>
    have hempty := filter_contains_of_lt ⟨first, block⟩ (UInt64.not_le.mp hfirst) log
    rw [h, hempty]

/-- Whether a block is not above a highest one. -/
def reaches (highest : Option BlockNumber) (block : BlockNumber) : Bool := highest.any (block ≤ ·)

/-- The number of logged requests that are not above a highest block. -/
def processed (log : List ExitRequest) (highest : Option BlockNumber) : Nat :=
  log.countP fun request => reaches highest request.block

/-- Whether a block is in the window that ends at a highest block. -/
def inWindow (lookback : UInt64) (highest : Option BlockNumber) (block : BlockNumber) : Bool :=
  highest.any fun highest => BlockRange.contains ⟨Word.monus highest lookback, highest⟩ block

theorem reaches_none (block : BlockNumber) : reaches none block = false := rfl

theorem reaches_some (highest block : BlockNumber) :
    reaches (some highest) block = true ↔ block.toNat ≤ highest.toNat := by
  simp [reaches, UInt64.le_iff_toNat_le]

theorem inWindow_none (lookback : UInt64) (block : BlockNumber) : inWindow lookback none block = false := rfl

theorem inWindow_some (lookback : UInt64) (highest block : BlockNumber) :
    inWindow lookback (some highest) block = true
      ↔ highest.toNat - lookback.toNat ≤ block.toNat ∧ block.toNat ≤ highest.toNat := by
  simp [inWindow, BlockRange.contains, UInt64.le_iff_toNat_le, Word.toNat_monus]

theorem inWindow_some_eq (lookback : UInt64) (highest block : BlockNumber) :
    inWindow lookback (some highest) block
      = (decide (Word.monus highest lookback ≤ block) && reaches (some highest) block) := rfl

/-- Of an older window, only its upper end matters to the blocks of a newer one. -/
theorem inWindow_of_oldest_le {lookback : UInt64} {highest : Option BlockNumber} {next block : BlockNumber}
    (hnext : reaches highest next = false) (holdest : Word.monus next lookback ≤ block)
    : inWindow lookback highest block = reaches highest block := by
  cases highest with
  | none => rfl
  | some highest =>
    rw [← Bool.not_eq_true, reaches_some] at hnext
    rw [UInt64.le_iff_toNat_le, Word.toNat_monus] at holdest
    rw [Bool.eq_iff_iff, inWindow_some, reaches_some]
    omega

theorem processed_le {log : List ExitRequest} {low high : Option BlockNumber}
    (h : ∀ block, reaches low block → reaches high block) : processed log low ≤ processed log high := by
  apply List.countP_mono_left
  intro request _
  apply h

theorem reaches_of_processed_eq {log : List ExitRequest} {low high : Option BlockNumber}
    (h : ∀ block, reaches low block → reaches high block) (heq : processed log low = processed log high)
    : ∀ request ∈ log, reaches high request.block → reaches low request.block := by
  apply filter_of_countP_eq
  . intro request _
    apply h
  . exact heq

theorem ExitOracle.IsTruthful.total_eq_processed {oracle : ExitOracle ω} {log : List ExitRequest}
    (truthful : oracle.IsTruthful log) {block : BlockNumber} {total : UInt64} {world after : ω}
    (h : (oracle.total block).run world = (.ok total, after)) : total.toNat = processed log (some block) := by
  rw [truthful.total h]
  simp [processed, reaches]

theorem ExitCache.le_of_scanStart {cache : ExitCache} {oldest first : BlockNumber}
    (h : cache.scanStart oldest = .ok first) (block : BlockNumber)
    : first ≤ block ↔ oldest ≤ block ∧ reaches cache.lastScanned block = false := by
  unfold scanStart at h
  cases hscanned : cache.lastScanned with
  | none =>
    rw [hscanned] at h
    cases h
    simp [reaches_none]
  | some scanned =>
    rw [hscanned] at h
    dsimp only at h
    cases hnext : Word.add scanned 1 with
    | error overflow =>
      rw [hnext] at h
      cases h
    | ok next =>
      rw [hnext] at h
      cases h
      have hnext := Word.toNat_of_add hnext
      rw [← Bool.not_eq_true, reaches_some, UInt64.le_iff_toNat_le, UInt64.le_iff_toNat_le, Word.toNat_max, hnext,
        UInt64.toNat_one]
      omega

theorem ExitCache.reaches_of_scanStart_error {cache : ExitCache} {oldest : BlockNumber} {overflow : Overflow}
    (h : cache.scanStart oldest = .error overflow) (block : BlockNumber)
    : reaches cache.lastScanned block = true := by
  unfold scanStart at h
  cases hscanned : cache.lastScanned with
  | none =>
    rw [hscanned] at h
    cases h
  | some scanned =>
    rw [hscanned] at h
    dsimp only at h
    cases hnext : Word.add scanned 1 with
    | error overflow =>
      have hsize := Word.size_le_of_add hnext
      have := block.toNat_lt
      have : UInt64.size = 2 ^ 64 := rfl
      rw [UInt64.toNat_one] at hsize
      rw [reaches_some]
      omega
    | ok next =>
      rw [hnext] at h
      cases h

/--
A cache holds the logged requests of the window that ends at a highest block. Its counter is that of the highest
block, and so is the count up to the last scan, which may lie below the highest block.
-/
structure ExitCache.Covers (lookback : UInt64) (log : List ExitRequest) (highest : Option BlockNumber)
    (cache : ExitCache) : Prop where
  lookback_eq : cache.lookback = lookback
  requests : cache.requests.Perm (log.filter fun request => inWindow lookback highest request.block)
  total : cache.lastTotal.toNat = processed log highest
  scanned : processed log cache.lastScanned = processed log highest
  notAhead : ∀ block, reaches cache.lastScanned block → reaches highest block

theorem ExitCache.covers_empty (lookback : UInt64) (log : List ExitRequest) :
    (empty lookback).Covers lookback log none where
  lookback_eq := rfl
  requests := by simp [empty, inWindow_none]
  total := by simp [empty, processed, reaches_none]
  scanned := rfl
  notAhead := by simp [empty]

/-- The highest of some blocks and another one. -/
def highestWith (highest : Option BlockNumber) (block : BlockNumber) : BlockNumber :=
  highest.elim block (max · block)

theorem highestWith_of_reaches {highest : Option BlockNumber} {block : BlockNumber} (h : reaches highest block) :
    some (highestWith highest block) = highest := by
  cases highest with
  | none => cases h
  | some highest =>
    rw [reaches_some] at h
    have : highestWith (some highest) block = highest := by
      apply UInt64.toNat_inj.mp
      simp only [highestWith, Option.elim_some, Word.toNat_max]
      omega
    rw [this]

theorem highestWith_of_not_reaches {highest : Option BlockNumber} {block : BlockNumber}
    (h : reaches highest block = false)
    : highestWith highest block = block := by
  cases highest with
  | none => rfl
  | some highest =>
    rw [← Bool.not_eq_true, reaches_some] at h
    apply UInt64.toNat_inj.mp
    simp only [highestWith, Option.elim_some, Word.toNat_max]
    omega

theorem reaches_some_of_not_reaches {highest : Option BlockNumber} {block : BlockNumber}
    (h : reaches highest block = false)
    : ∀ other, reaches highest other → reaches (some block) other := by
  intro other hother
  cases highest with
  | none => cases hother
  | some highest =>
    rw [← Bool.not_eq_true, reaches_some] at h
    rw [reaches_some] at hother ⊢
    omega

namespace ExitCache
namespace Covers

variable {lookback : UInt64} {log : List ExitRequest} {highest : Option BlockNumber} {cache : ExitCache}
variable {block : BlockNumber}

theorem purge_perm (h : cache.Covers lookback log highest) (oldest : BlockNumber)
    {p : BlockNumber → Bool}
    (hp : ∀ request ∈ log,
      p request.block = (decide (oldest ≤ request.block) && inWindow lookback highest request.block))
    : (cache.purge oldest).requests.Perm (log.filter (p ·.block)) := by
  have : log.filter (p ·.block)
      = (log.filter fun request => inWindow lookback highest request.block).filter (oldest ≤ ·.block) := by
    rw [List.filter_filter]
    apply List.filter_congr
    exact hp
  rw [this]
  apply h.requests.filter

theorem flat_below (h : cache.Covers lookback log highest) (hreaches : reaches highest block)
    : (cache.purge (Word.monus block lookback)).Covers lookback log highest where
  lookback_eq := h.lookback_eq
  requests := by
    apply h.purge_perm
    intro request _
    cases highest with
    | none => cases hreaches
    | some highest =>
      rw [reaches_some] at hreaches
      rw [Bool.eq_iff_iff, Bool.and_eq_true, inWindow_some, decide_eq_true_eq, UInt64.le_iff_toNat_le,
        Word.toNat_monus]
      omega
  total := h.total
  scanned := h.scanned
  notAhead := h.notAhead

theorem flat_above (h : cache.Covers lookback log highest) (hreaches : reaches highest block = false)
    (hflat : processed log (some block) ≤ processed log highest)
    : (cache.purge (Word.monus block lookback)).Covers lookback log (some block) := by
  -- Since the counter is flat, nothing is logged between the highest block and the new one.
  have habove := reaches_some_of_not_reaches hreaches
  have heq : processed log highest = processed log (some block) :=
    Nat.le_antisymm (processed_le habove) hflat
  have hnone := reaches_of_processed_eq habove heq
  constructor
  . exact h.lookback_eq
  . apply h.purge_perm
    intro request hrequest
    rw [inWindow_some_eq]
    by_cases holdest : Word.monus block lookback ≤ request.block
    . rw [inWindow_of_oldest_le hreaches holdest]
      congr 1
      rw [Bool.eq_iff_iff]
      exact ⟨hnone request hrequest, habove request.block⟩
    . rw [decide_eq_false holdest, Bool.false_and, Bool.false_and]
  . exact h.total.trans heq
  . exact h.scanned.trans heq
  . intro other hother
    exact habove other (h.notAhead other hother)

theorem contains_scan (h : cache.Covers lookback log highest) {oldest first : BlockNumber}
    (hstart : cache.scanStart oldest = .ok first)
    : ∀ request ∈ log, oldest ≤ request.block
        → BlockRange.contains ⟨first, block⟩ request.block
          = (!reaches highest request.block && reaches (some block) request.block) := by
  intro request hrequest holdest
  -- The last scan may end below the highest block, but nothing is logged between them.
  have hlast : reaches cache.lastScanned request.block = reaches highest request.block := by
    rw [Bool.eq_iff_iff]
    exact ⟨h.notAhead request.block, reaches_of_processed_eq h.notAhead h.scanned request hrequest⟩
  have hfirst : decide (first ≤ request.block) = !reaches highest request.block := by
    rw [Bool.eq_iff_iff, decide_eq_true_eq, le_of_scanStart hstart, hlast, Bool.not_eq_true']
    exact and_iff_right holdest
  unfold BlockRange.contains
  rw [hfirst]
  rfl

theorem scan (h : cache.Covers lookback log highest) (hreaches : reaches highest block = false)
    {first : BlockNumber} {requests : List ExitRequest} {total : UInt64}
    (hstart : cache.scanStart (Word.monus block lookback) = .ok first)
    (hrequests : requests.Perm (log.filter fun request => BlockRange.contains ⟨first, block⟩ request.block))
    (htotal : total.toNat = processed log (some block))
    : (({ cache with
          requests := cache.requests ++ requests
          lastTotal := total
          lastScanned := some block } : ExitCache).purge (Word.monus block lookback)).Covers
        lookback log (some block) where
  lookback_eq := h.lookback_eq
  requests := by
    simp only [purge, List.filter_append]
    apply ((h.requests.filter _).append (hrequests.filter _)).trans
    rw [List.filter_filter, List.filter_filter]
    apply perm_filter_of_disjoint
    . intro request hrequest
      rw [inWindow_some_eq]
      -- What is older than the new window is purged, whether it was cached or scanned.
      by_cases holdest : Word.monus block lookback ≤ request.block
      . have habove := reaches_some_of_not_reaches hreaches request.block
        rw [inWindow_of_oldest_le hreaches holdest, h.contains_scan hstart request hrequest holdest]
        cases hhigh : reaches highest request.block with
        | false => simp
        | true => simp [habove hhigh]
      . rw [decide_eq_false holdest, Bool.false_and, Bool.false_and, Bool.false_and, Bool.xor_false]
    . intro request hrequest hold
      rw [Bool.and_eq_true, decide_eq_true_eq] at hold
      have hhigh := hold.2
      rw [inWindow_of_oldest_le hreaches hold.1] at hhigh
      rw [h.contains_scan hstart request hrequest hold.1, hhigh, Bool.not_true, Bool.false_and, Bool.and_false]
  total := htotal
  scanned := rfl
  notAhead := by
    intro other hother
    exact hother

theorem not_reaches_of_total_lt (h : cache.Covers lookback log highest) {total : UInt64}
    (htotal : total.toNat = processed log (some block)) (hlt : cache.lastTotal < total)
    : reaches highest block = false := by
  rw [← Bool.not_eq_true]
  intro hreaches
  have hle : processed log (some block) ≤ processed log highest := by
    apply processed_le
    intro other hother
    cases highest with
    | none => cases hreaches
    | some highest =>
      rw [reaches_some] at *
      omega
  rw [UInt64.lt_iff_toNat_lt, h.total, htotal] at hlt
  omega

/-- A refresh keeps the law, and one that fails changes nothing. -/
theorem refreshed {oracle : ExitOracle ω} (truthful : oracle.IsTruthful log)
    (h : cache.Covers lookback log highest) {result : Except Failure Unit} {cache' : ExitCache}
    (hrefreshed : Refreshed oracle block cache result cache')
    : (result = .ok () ∧ cache'.Covers lookback log (some (highestWith highest block)))
        ∨ ∃ report, result = .error (.report report) ∧ oracle.FailsAt block report ∧ cache' = cache := by
  obtain rfl := h.lookback_eq
  cases hrefreshed with
  | unanswered hfails =>
    right
    exact ⟨_, rfl, hfails, rfl⟩
  | flat htotal hle =>
    left
    refine ⟨rfl, ?_⟩
    cases hreaches : reaches highest block with
    | true =>
      rw [highestWith_of_reaches hreaches]
      exact h.flat_below hreaches
    | false =>
      rw [highestWith_of_not_reaches hreaches]
      apply h.flat_above hreaches
      rw [← truthful.total_eq_processed htotal, ← h.total]
      exact UInt64.le_iff_toNat_le.mp hle
  | overflowed htotal hlt hstart =>
    -- The last scan went up to the greatest block, so that the counter could not have grown.
    have hreaches := h.not_reaches_of_total_lt (truthful.total_eq_processed htotal) hlt
    have := h.notAhead block (reaches_of_scanStart_error hstart block)
    rw [hreaches] at this
    cases this
  | @scanned total _ _ first requests htotal hlt hstart hrequests =>
    left
    have htotal := truthful.total_eq_processed htotal
    have hreaches := h.not_reaches_of_total_lt htotal hlt
    refine ⟨rfl, ?_⟩
    rw [highestWith_of_not_reaches hreaches]
    exact h.scan hreaches hstart (truthful.perm_of_scan hrequests) htotal

end Covers
/-- How refreshes ended, with their blocks. -/
abbrev Outcomes := List (BlockNumber × Except Failure Unit)

/-- The blocks of the refreshes that succeeded. -/
def Outcomes.succeeded (outcomes : Outcomes) : List BlockNumber := (outcomes.filter (·.2.isOk)).map (·.1)

/-- Bring a cache up to some blocks, one after the other, whatever becomes of the refreshes before. -/
def refreshEach (oracle : ExitOracle ω) : List BlockNumber → ExitCache × ω → Outcomes × ExitCache × ω
  | [], last => ([], last)
  | block :: rest, start =>
    let (result, next) := (refresh oracle block).run start
    let (outcomes, last) := refreshEach oracle rest next
    ((block, result) :: outcomes, last)

theorem max?_append_singleton (blocks : List BlockNumber) (block : BlockNumber) :
    (blocks ++ [block]).max? = some (highestWith blocks.max? block) := by
  cases blocks with
  | nil => rfl
  | cons first rest =>
    rw [List.cons_append, List.max?_cons', List.max?_cons', List.foldl_append]
    rfl

theorem refreshEach_covers {oracle : ExitOracle ω} {log : List ExitRequest} (truthful : oracle.IsTruthful log)
    {lookback : UInt64} (blocks done : List BlockNumber) (cache : ExitCache) (world : ω)
    (h : cache.Covers lookback log done.max?)
    : (refreshEach oracle blocks (cache, world)).2.1.Covers lookback log
          (done ++ (refreshEach oracle blocks (cache, world)).1.succeeded).max?
        ∧ ∀ outcome ∈ (refreshEach oracle blocks (cache, world)).1,
            outcome.2 = .ok () ∨ ∃ report, outcome.2 = .error (.report report) ∧ oracle.FailsAt outcome.1 report := by
  induction blocks generalizing done cache world with
  | nil => simpa [refreshEach, Outcomes.succeeded] using h
  | cons block rest ih =>
    generalize hrun : (refresh oracle block).run (cache, world) = answer
    obtain ⟨result, cache', world'⟩ := answer
    simp only [refreshEach, hrun]
    cases h.refreshed truthful (refreshed_of_run hrun) with
    | inl hok =>
      obtain ⟨rfl, hcovers⟩ := hok
      rw [← max?_append_singleton] at hcovers
      have ⟨hlast, houtcomes⟩ := ih (done ++ [block]) cache' world' hcovers
      rw [List.append_assoc] at hlast
      exact ⟨hlast, List.forall_mem_cons.mpr ⟨.inl rfl, houtcomes⟩⟩
    | inr hfailed =>
      obtain ⟨report, rfl, hfails, rfl⟩ := hfailed
      have ⟨hlast, houtcomes⟩ := ih done cache' world' h
      exact ⟨hlast, List.forall_mem_cons.mpr ⟨.inr ⟨report, rfl, hfails⟩, houtcomes⟩⟩

/--
After any refreshes of a new cache, it holds exactly the logged requests of the window that ends at the highest
block of a refresh that succeeded. A refresh fails only where the oracle does, and leaves the cache as it was.
-/
theorem refreshEach_window {oracle : ExitOracle ω} {log : List ExitRequest} (truthful : oracle.IsTruthful log)
    (lookback : UInt64) (blocks : List BlockNumber) (world : ω)
    : let run := refreshEach oracle blocks (empty lookback, world)
      let cache := run.2.1
      let highest := run.1.succeeded.max?
      cache.requests.Perm (log.filter fun request => inWindow lookback highest request.block)
        ∧ (∀ moduleIndex operatorIndex validator,
            cache.isExpected moduleIndex operatorIndex validator = true
              ↔ ∃ request ∈ log, inWindow lookback highest request.block ∧ request.moduleIndex = moduleIndex
                  ∧ request.operatorIndex = operatorIndex ∧ request.validator = validator)
        ∧ (∀ outcome ∈ run.1, outcome.2 = .ok ()
            ∨ ∃ report, outcome.2 = .error (.report report) ∧ oracle.FailsAt outcome.1 report)
        ∧ ∀ block failure cache' after,
            (refresh oracle block).run run.2 = (.error failure, cache', after) → cache' = cache := by
  have ⟨hcovers, houtcomes⟩ := refreshEach_covers truthful blocks [] _ world (covers_empty lookback log)
  rw [List.nil_append] at hcovers
  refine ⟨hcovers.requests, ?_, houtcomes, ?_⟩
  . intro moduleIndex operatorIndex validator
    rw [isExpected_iff]
    simp only [hcovers.requests.mem_iff, List.mem_filter, and_assoc]
  . intro block failure cache' after h
    exact eq_of_run_eq_error h

end ExitCache

/-- Give an answer, unless the world says that the next one fails. -/
def ExitOracle.answer (value : α) : Action (List Bool) Report α where
  run
    | true :: rest => (.error (.plain "no answer"), rest)
    | false :: rest => (.ok value, rest)
    | [] => (.ok value, [])

/-- The oracle that reads its answers off a log. -/
def ExitOracle.ofLog (log : List ExitRequest) : ExitOracle (List Bool) where
  total block := answer (UInt64.ofNat (log.countP (·.block ≤ block)))
  requests first last := answer (log.filter fun request => BlockRange.contains ⟨first, last⟩ request.block)

theorem ExitOracle.eq_of_answer {value found : α} {fates after : List Bool}
    (h : (answer value).run fates = (.ok found, after)) : found = value := by
  rcases fates with _ | ⟨_ | _, rest⟩ <;> cases h <;> rfl

theorem ExitOracle.isTruthful_ofLog {log : List ExitRequest} (h : log.length < UInt64.size) :
    (ofLog log).IsTruthful log where
  total := by
    intro block world total after htotal
    rw [eq_of_answer htotal]
    apply UInt64.toNat_ofNat_of_lt'
    have hle : log.countP (·.block ≤ block) ≤ log.length := List.countP_le_length
    omega
  requests := by
    intro first last world found after hfound
    rw [eq_of_answer hfound]

/--
Refreshes at 1000 (after a failed try), 1010, 1005 and 1120, where the scan of the last one fails once: the window
reaches from 1020 to 1120.
-/
theorem refreshEach_window_of_failures :
    let log : List ExitRequest := [⟨500, 1, 0, 7⟩, ⟨950, 1, 0, 8⟩, ⟨1020, 1, 0, 9⟩, ⟨1020, 1, 0, 9⟩, ⟨1130, 2, 5, 1⟩]
    let oracle := ExitOracle.ofLog log
    let blocks := [1000, 1000, 1010, 1005, 1120, 1120]
    let fates := [true, false, false, false, false, false, true]
    let cache := (ExitCache.refreshEach oracle blocks (.empty 100, fates)).2.1
    oracle.IsTruthful log ∧ cache.requests.Perm [⟨1020, 1, 0, 9⟩, ⟨1020, 1, 0, 9⟩]
      ∧ cache.isExpected 1 0 9 = true ∧ cache.isExpected 1 0 8 = false := by
  intro log oracle blocks fates cache
  have truthful : oracle.IsTruthful log := ExitOracle.isTruthful_ofLog (by simp [log, UInt64.size])
  have hwindow : (log.filter fun request => inWindow 100
      (ExitCache.refreshEach oracle blocks (.empty 100, fates)).1.succeeded.max? request.block)
        = [⟨1020, 1, 0, 9⟩, ⟨1020, 1, 0, 9⟩] := by
    decide +kernel
  have ⟨hrequests, hexpected, _⟩ := ExitCache.refreshEach_window truthful 100 blocks fates
  rw [hwindow] at hrequests
  refine ⟨truthful, hrequests, ?_, ?_⟩
  . rw [hexpected]
    decide +kernel
  . rw [← Bool.not_eq_true, hexpected]
    decide +kernel

end Exit
end BeaconSentry
