import BeaconSentry.Proofs.Exit.Window
import Mathlib.Data.List.Induction

/-!
This module contains what the cache of requests to exit holds if the chain is reorganised between its refreshes. It
holds what its scans were told, so it agrees with the chain as long as no reorganisation reaches down to the last scan.
-/

namespace BeaconSentry
namespace Exit

open Beacon

variable {ω : Type}

theorem concat_eq_append_cons_iff {α : Type} {xs earlier later : List α} {last x : α}
    : xs ++ [last] = earlier ++ x :: later
        ↔ xs = earlier ∧ last = x ∧ later = [] ∨ ∃ rest, xs = earlier ++ x :: rest ∧ later = rest ++ [last] := by
  constructor
  . intro h
    rcases List.eq_nil_or_concat later with rfl | ⟨rest, last', rfl⟩
    . obtain ⟨hxs, hlast⟩ := List.append_inj' h rfl
      exact .inl ⟨hxs, List.singleton_inj.mp hlast, rfl⟩
    . rw [List.concat_eq_append, ← List.cons_append, ← List.append_assoc] at h
      obtain ⟨hxs, hlast⟩ := List.append_inj' h rfl
      rw [List.concat_eq_append, hlast]
      exact .inr ⟨rest, hxs, rfl⟩
  . rintro (⟨rfl, rfl, rfl⟩ | ⟨rest, rfl, rfl⟩)
    . rfl
    . rw [List.append_assoc, List.cons_append]

/-- The chain that is canonical at a refresh: its block, and the requests that are logged on it. -/
structure ChainView where
  block : BlockNumber
  log : List ExitRequest

namespace ChainView

def total (view : ChainView) : Nat := processed view.log (some view.block)

def AgreesUpTo (view scanned : ChainView) : Prop :=
  (view.log.filter (·.block ≤ scanned.block)).Perm (scanned.log.filter (·.block ≤ scanned.block))

def Holds (lookback : UInt64) (view : ChainView) (request : ExitRequest) : Prop :=
  request ∈ view.log ∧ inWindow lookback (some view.block) request.block = true

theorem holds_iff {lookback : UInt64} {view : ChainView} {request : ExitRequest}
    : view.Holds lookback request
        ↔ Word.monus view.block lookback ≤ request.block ∧ request ∈ view.log
          ∧ reaches (some view.block) request.block = true := by
  unfold Holds
  rw [inWindow_some_eq, Bool.and_eq_true, decide_eq_true_eq]
  exact and_left_comm

section

variable {view scanned : ChainView}

theorem AgreesUpTo.mem_iff (h : view.AgreesUpTo scanned) {request : ExitRequest}
    (hblock : request.block ≤ scanned.block) : request ∈ view.log ↔ request ∈ scanned.log := by
  have hmem := List.Perm.mem_iff h (a := request)
  simp only [List.mem_filter, hblock, decide_true, and_true] at hmem
  exact hmem

theorem AgreesUpTo.processed_eq (h : view.AgreesUpTo scanned)
    : processed view.log (some scanned.block) = scanned.total := by
  have hlength := h.length_eq
  rw [← List.countP_eq_length_filter, ← List.countP_eq_length_filter] at hlength
  exact hlength

theorem AgreesUpTo.block_lt (h : view.AgreesUpTo scanned) (htotal : scanned.total < view.total)
    : scanned.block < view.block := by
  rw [← h.processed_eq] at htotal
  apply UInt64.not_le.mp
  intro hle
  have hprocessed : view.total ≤ processed view.log (some scanned.block) := by
    apply processed_le
    intro block hblock
    rw [reaches_some] at *
    rw [UInt64.le_iff_toNat_le] at hle
    omega
  omega

end

end ChainView

/-- The chain that the last scan saw: the counter has grown since the scan before, and not any more since then. -/
def lastScan (views : List ChainView) : Option ChainView :=
  views.foldl (fun scanned view => if scanned.elim 0 (·.total) < view.total then some view else scanned) none

def lastCount (views : List ChainView) : Nat := (lastScan views).elim 0 (·.total)

theorem lastScan_concat (views : List ChainView) (view : ChainView) :
    lastScan (views ++ [view]) = if lastCount views < view.total then some view else lastScan views := by
  unfold lastCount lastScan
  rw [List.foldl_append, List.foldl_cons, List.foldl_nil]

theorem mem_of_lastScan {views : List ChainView} {scanned : ChainView} (h : lastScan views = some scanned)
    : scanned ∈ views := by
  induction views using List.reverseRecOn with
  | nil => cases h
  | append_singleton views view ih =>
    rw [lastScan_concat] at h
    split at h
    . cases h
      simp
    . apply List.mem_append_left
      apply ih h

structure Told (lookback : UInt64) (earlier : List ChainView) (view : ChainView) (request : ExitRequest) : Prop where
  grows : lastCount earlier < view.total
  holds : view.Holds lookback request
  unreached : reaches ((lastScan earlier).map (·.block)) request.block = false

/-- A scan has told of a request, and no window since then begins above it. -/
def Retained (lookback : UInt64) (views : List ChainView) (request : ExitRequest) : Prop :=
  ∃ earlier view later, views = earlier ++ view :: later ∧ Told lookback earlier view request
    ∧ ∀ other ∈ later, Word.monus other.block lookback ≤ request.block

theorem not_retained_nil (lookback : UInt64) (request : ExitRequest) : ¬Retained lookback [] request := by
  intro ⟨earlier, view, later, heq, _⟩
  simp at heq

section

variable {lookback : UInt64} {views : List ChainView} {view : ChainView} {request : ExitRequest}

theorem told_iff (hgrows : lastCount views < view.total)
    : Told lookback views view request
        ↔ Word.monus view.block lookback ≤ request.block ∧ request ∈ view.log
          ∧ reaches (some view.block) request.block = true
          ∧ reaches ((lastScan views).map (·.block)) request.block = false := by
  constructor
  . rintro ⟨_, hholds, hunreached⟩
    obtain ⟨holdest, hmem, hreaches⟩ := ChainView.holds_iff.mp hholds
    exact ⟨holdest, hmem, hreaches, hunreached⟩
  . rintro ⟨holdest, hmem, hreaches, hunreached⟩
    exact ⟨hgrows, ChainView.holds_iff.mpr ⟨holdest, hmem, hreaches⟩, hunreached⟩

theorem retained_concat_iff
    : Retained lookback (views ++ [view]) request
        ↔ Told lookback views view request
          ∨ Retained lookback views request ∧ Word.monus view.block lookback ≤ request.block := by
  constructor
  . rintro ⟨earlier, scanned, later, heq, htold, hlater⟩
    rcases concat_eq_append_cons_iff.mp heq with ⟨rfl, rfl, _⟩ | ⟨later, hviews, rfl⟩
    . exact .inl htold
    . rw [List.forall_mem_append, List.forall_mem_singleton] at hlater
      exact .inr ⟨⟨earlier, scanned, later, hviews, htold, hlater.1⟩, hlater.2⟩
  . rintro (htold | ⟨⟨earlier, scanned, later, hviews, htold, hlater⟩, hwindow⟩)
    . exact ⟨views, view, [], rfl, htold, List.forall_mem_nil _⟩
    . refine ⟨earlier, scanned, later ++ [view], ?_, htold, ?_⟩
      . exact concat_eq_append_cons_iff.mpr (.inr ⟨later, hviews, rfl⟩)
      . rw [List.forall_mem_append, List.forall_mem_singleton]
        exact ⟨hlater, hwindow⟩

theorem retained_concat_of_flat (hflat : ¬lastCount views < view.total)
    : Retained lookback (views ++ [view]) request
        ↔ Retained lookback views request ∧ Word.monus view.block lookback ≤ request.block := by
  rw [retained_concat_iff]
  apply or_iff_right
  intro htold
  exact hflat htold.grows

theorem Retained.oldest_le (h : Retained lookback (views ++ [view]) request)
    : Word.monus view.block lookback ≤ request.block := by
  rw [retained_concat_iff] at h
  cases h with
  | inl htold => exact (ChainView.holds_iff.mp htold.holds).1
  | inr hretained => exact hretained.2

end

/-- The oracle as a refresh in some world sees it. -/
def ExitOracle.asOf (oracle : ExitOracle ω) (world : ω) : ExitOracle ω where
  total block := ⟨fun _ => (oracle.total block).run world⟩
  requests first last := ⟨fun _ => (oracle.requests first last).run ((oracle.total last).run world).2⟩

namespace ExitCache

theorem run_refresh_asOf (oracle : ExitOracle ω) (block : BlockNumber) (cache : ExitCache) (world : ω) :
    (refresh (oracle.asOf world) block).run (cache, world) = (refresh oracle block).run (cache, world) := by
  unfold refresh ask ExitOracle.asOf
  simp only [Action.run_bind, Action.run_beside, Action.run_mapError]
  generalize (oracle.total block).run world = answer
  rcases answer with ⟨_ | total, after⟩
  . rfl
  . simp only [mapError_ok, Action.run_inspect]
    split
    . rfl
    . generalize cache.scanStart (Word.monus block cache.lookback) = start
      cases start with
      | error => rfl
      | ok first =>
        simp only [mapError_ok, Action.run_bind, Action.run_ofExcept]
        split <;> rfl

/--
Refreshes of a new cache, all of which succeed. Each one is answered truthfully for the chain that is canonical at that
time, whatever happens to the chain and to the world in between.
-/
inductive Refreshes (oracle : ExitOracle ω) (lookback : UInt64) : List ChainView → ExitCache → Prop
  | nil : Refreshes oracle lookback [] (.empty lookback)
  | concat {views : List ChainView} {view : ChainView} {cache cache' : ExitCache} {world after : ω}
      (hviews : Refreshes oracle lookback views cache) (htruthful : (oracle.asOf world).IsTruthful view.log)
      (hrun : (refresh oracle view.block).run (cache, world) = (.ok (), cache', after)) :
    Refreshes oracle lookback (views ++ [view]) cache'

structure Retains (lookback : UInt64) (views : List ChainView) (cache : ExitCache) : Prop where
  lookback_eq : cache.lookback = lookback
  mem_iff : ∀ request, request ∈ cache.requests ↔ Retained lookback views request
  total_eq : cache.lastTotal.toNat = lastCount views
  scanned_eq : cache.lastScanned = (lastScan views).map (·.block)

theorem retains_empty (lookback : UInt64) : Retains lookback [] (empty lookback) where
  lookback_eq := rfl
  mem_iff := by simp [empty, not_retained_nil]
  total_eq := rfl
  scanned_eq := rfl

theorem mem_purge_iff {cache : ExitCache} {oldest : BlockNumber} {request : ExitRequest}
    : request ∈ (cache.purge oldest).requests ↔ request ∈ cache.requests ∧ oldest ≤ request.block := by
  simp [purge]

theorem mem_iff_of_scan {oracle : ExitOracle ω} {log : List ExitRequest} (htruthful : oracle.IsTruthful log)
    {first block : BlockNumber} {requests : List ExitRequest}
    (hrequests : if first ≤ block then ∃ world after, (oracle.requests first block).run world = (.ok requests, after)
      else requests = [])
    (request : ExitRequest)
    : request ∈ requests ↔ request ∈ log ∧ first ≤ request.block ∧ reaches (some block) request.block = true := by
  rw [(htruthful.perm_of_scan hrequests).mem_iff, List.mem_filter, BlockRange.contains, Bool.and_eq_true,
    decide_eq_true_eq]
  rfl

section

variable {lookback : UInt64} {views : List ChainView} {view : ChainView} {cache : ExitCache}

theorem Retains.flat (h : Retains lookback views cache) (hflat : ¬lastCount views < view.total)
    : Retains lookback (views ++ [view]) (cache.purge (Word.monus view.block lookback)) := by
  have hlast : lastScan (views ++ [view]) = lastScan views := by
    rw [lastScan_concat, if_neg hflat]
  constructor
  . exact h.lookback_eq
  . intro request
    rw [mem_purge_iff, h.mem_iff, retained_concat_of_flat hflat]
  . unfold lastCount
    rw [hlast]
    exact h.total_eq
  . rw [hlast]
    exact h.scanned_eq

theorem Retains.scanned (h : Retains lookback views cache) (hgrows : lastCount views < view.total) {total : UInt64}
    (htotal : total.toNat = view.total) {first : BlockNumber}
    (hstart : cache.scanStart (Word.monus view.block lookback) = .ok first) {requests : List ExitRequest}
    (hrequests : ∀ request, request ∈ requests
      ↔ request ∈ view.log ∧ first ≤ request.block ∧ reaches (some view.block) request.block = true)
    : Retains lookback (views ++ [view])
        (({ cache with
            requests := cache.requests ++ requests
            lastTotal := total
            lastScanned := some view.block } : ExitCache).purge (Word.monus view.block lookback)) := by
  have hlast : lastScan (views ++ [view]) = some view := by
    rw [lastScan_concat, if_pos hgrows]
  constructor
  . exact h.lookback_eq
  . intro request
    have htold : request ∈ requests ∧ Word.monus view.block lookback ≤ request.block
        ↔ Told lookback views view request := by
      rw [hrequests, le_of_scanStart hstart, h.scanned_eq, told_iff hgrows]
      tauto
    rw [mem_purge_iff, List.mem_append, h.mem_iff, or_and_right, htold, retained_concat_iff, or_comm]
  . unfold lastCount
    rw [hlast]
    exact htotal
  . rw [hlast]
    rfl

theorem Retains.refreshed {oracle : ExitOracle ω} {cache' : ExitCache} (h : Retains lookback views cache)
    (htruthful : oracle.IsTruthful view.log) (hrefreshed : Refreshed oracle view.block cache (.ok ()) cache')
    : Retains lookback (views ++ [view]) cache' := by
  obtain rfl := h.lookback_eq
  cases hrefreshed with
  | flat htotal hle =>
    have htotal := htruthful.total_eq_processed htotal
    rw [UInt64.le_iff_toNat_le, h.total_eq, htotal] at hle
    exact h.flat (Nat.not_lt.mpr hle)
  | scanned htotal hlt hstart hrequests =>
    have htotal := htruthful.total_eq_processed htotal
    rw [UInt64.lt_iff_toNat_lt, h.total_eq, htotal] at hlt
    exact h.scanned hlt htotal hstart (mem_iff_of_scan htruthful hrequests)

end

theorem Refreshes.retains {oracle : ExitOracle ω} {lookback : UInt64} {views : List ChainView} {cache : ExitCache}
    (h : Refreshes oracle lookback views cache) : Retains lookback views cache := by
  induction h with
  | nil => apply retains_empty
  | concat hviews htruthful hrun ih =>
    rw [← run_refresh_asOf] at hrun
    apply ih.refreshed htruthful
    exact refreshed_of_run hrun

end ExitCache

/-- No reorganisation reaches down to a scan: up to its block, all chains until the next scan have its requests. -/
def IsSettled (views : List ChainView) : Prop :=
  ∀ earlier view later, views = earlier ++ view :: later → ∀ scanned ∈ lastScan earlier, view.AgreesUpTo scanned

theorem isSettled_nil : IsSettled [] := by
  intro earlier view later heq
  simp at heq

theorem isSettled_concat_iff {views : List ChainView} {view : ChainView}
    : IsSettled (views ++ [view]) ↔ IsSettled views ∧ ∀ scanned ∈ lastScan views, view.AgreesUpTo scanned := by
  constructor
  . intro h
    constructor
    . intro earlier other later hviews
      exact h earlier other (later ++ [view]) (concat_eq_append_cons_iff.mpr (.inr ⟨later, hviews, rfl⟩))
    . exact h views view [] rfl
  . rintro ⟨hviews, hview⟩ earlier other later heq
    rcases concat_eq_append_cons_iff.mp heq with ⟨rfl, rfl, _⟩ | ⟨later, hsplit, _⟩
    . exact hview
    . exact hviews earlier other later hsplit

section

variable {lookback : UInt64} {views : List ChainView} {view scanned : ChainView} {request : ExitRequest}

theorem told_or_mem_iff (hagrees : view.AgreesUpTo scanned) (hlast : lastScan views = some scanned)
    (hgrows : lastCount views < view.total) (holdest : Word.monus view.block lookback ≤ request.block)
    : Told lookback views view request ∨ request ∈ scanned.log ∧ reaches (some scanned.block) request.block = true
        ↔ request ∈ view.log ∧ reaches (some view.block) request.block = true := by
  rw [told_iff hgrows, and_iff_right holdest, hlast, Option.map_some]
  -- What the scan does not tell, since it is not above the last one, has stayed as it was.
  cases hreaches : reaches (some scanned.block) request.block with
  | true =>
    have hlt : scanned.total < view.total := by
      unfold lastCount at hgrows
      rw [hlast] at hgrows
      exact hgrows
    have hblock := UInt64.lt_iff_toNat_lt.mp (hagrees.block_lt hlt)
    rw [reaches_some] at hreaches
    have hmem := hagrees.mem_iff (UInt64.le_iff_toNat_le.mpr hreaches)
    have hview : reaches (some view.block) request.block = true := by
      rw [reaches_some]
      omega
    simp [hmem, hview]
  | false => simp

/-- If no reorganisation reaches down to a scan, the last one tells all that no window has dropped. -/
theorem IsSettled.retained_iff (h : IsSettled views)
    (holdest : ∀ other ∈ views, Word.monus other.block lookback ≤ request.block)
    : Retained lookback views request
        ↔ ∃ scanned ∈ lastScan views, request ∈ scanned.log ∧ reaches (some scanned.block) request.block = true := by
  induction views using List.reverseRecOn with
  | nil => simp [not_retained_nil, lastScan]
  | append_singleton views view ih =>
    rw [isSettled_concat_iff] at h
    rw [List.forall_mem_append, List.forall_mem_singleton] at holdest
    specialize ih h.1 holdest.1
    by_cases hgrows : lastCount views < view.total
    . rw [retained_concat_iff, and_iff_left holdest.2, ih, lastScan_concat, if_pos hgrows]
      cases hlast : lastScan views with
      | none => simp [told_iff hgrows, holdest.2, hlast, reaches_none]
      | some scanned =>
        have htold := told_or_mem_iff (h.2 scanned hlast) hlast hgrows holdest.2
        simp only [Option.mem_def, Option.some.injEq, exists_eq_left']
        exact htold
    . rw [retained_concat_of_flat hgrows, and_iff_left holdest.2, ih, lastScan_concat, if_neg hgrows]

theorem reaches_of_lastScan (hhighest : ∀ other ∈ views, other.block ≤ view.block)
    : ∀ block, reaches ((lastScan views).map (·.block)) block → reaches (some view.block) block := by
  intro block hblock
  cases hlast : lastScan views with
  | none =>
    rw [hlast] at hblock
    cases hblock
  | some scanned =>
    have hle := UInt64.le_iff_toNat_le.mp (hhighest scanned (mem_of_lastScan hlast))
    rw [hlast, Option.map_some, reaches_some] at hblock
    rw [reaches_some]
    omega

theorem reaches_lastScan_of_flat (hagrees : ∀ scanned ∈ lastScan views, view.AgreesUpTo scanned)
    (hhighest : ∀ other ∈ views, other.block ≤ view.block) (hflat : view.total ≤ lastCount views)
    : ∀ request ∈ view.log, reaches (some view.block) request.block = true
        → reaches ((lastScan views).map (·.block)) request.block = true := by
  have hcount : processed view.log ((lastScan views).map (·.block)) = lastCount views := by
    unfold lastCount
    cases hlast : lastScan views with
    | none => simp [processed, reaches_none]
    | some scanned => exact (hagrees scanned hlast).processed_eq
  apply reaches_of_processed_eq (reaches_of_lastScan hhighest)
  apply Nat.le_antisymm
  . apply processed_le (reaches_of_lastScan hhighest)
  . rw [hcount]
    exact hflat

theorem mem_lastScan_iff_of_flat (hagrees : ∀ scanned ∈ lastScan views, view.AgreesUpTo scanned)
    (hhighest : ∀ other ∈ views, other.block ≤ view.block) (hflat : view.total ≤ lastCount views)
    : (∃ scanned ∈ lastScan views, request ∈ scanned.log ∧ reaches (some scanned.block) request.block = true)
        ↔ request ∈ view.log ∧ reaches (some view.block) request.block = true := by
  have hreaches := reaches_lastScan_of_flat hagrees hhighest hflat request
  have hbelow := reaches_of_lastScan hhighest request.block
  have hmem (scanned : ChainView) (hlast : lastScan views = some scanned)
      (hscanned : reaches (some scanned.block) request.block = true) : request ∈ view.log ↔ request ∈ scanned.log := by
    rw [reaches_some, ← UInt64.le_iff_toNat_le] at hscanned
    exact (hagrees scanned hlast).mem_iff hscanned
  constructor
  . rintro ⟨scanned, hlast, hlogged, hscanned⟩
    rw [hlast, Option.map_some] at hbelow
    exact ⟨(hmem scanned hlast hscanned).mpr hlogged, hbelow hscanned⟩
  . rintro ⟨hlogged, hview⟩
    specialize hreaches hlogged hview
    cases hlast : lastScan views with
    | none =>
      rw [hlast] at hreaches
      cases hreaches
    | some scanned =>
      rw [hlast, Option.map_some] at hreaches
      exact ⟨scanned, rfl, (hmem scanned hlast hreaches).mp hlogged, hreaches⟩

theorem IsSettled.retained_concat_iff_holds (h : IsSettled (views ++ [view]))
    (hhighest : ∀ other ∈ views, other.block ≤ view.block)
    : Retained lookback (views ++ [view]) request ↔ view.Holds lookback request := by
  rw [ChainView.holds_iff, ← and_iff_right_of_imp Retained.oldest_le]
  apply and_congr_right
  intro holdest
  -- No earlier window begins above the one of the highest block, so the windows have dropped nothing that is in it.
  have hwindows : ∀ other ∈ views ++ [view], Word.monus other.block lookback ≤ request.block := by
    rw [List.forall_mem_append, List.forall_mem_singleton]
    refine ⟨?_, holdest⟩
    intro other hmem
    have hle := UInt64.le_iff_toNat_le.mp (hhighest other hmem)
    rw [UInt64.le_iff_toNat_le, Word.toNat_monus] at *
    omega
  rw [h.retained_iff hwindows, lastScan_concat]
  split
  . simp
  . next hflat => exact mem_lastScan_iff_of_flat (isSettled_concat_iff.mp h).2 hhighest (Nat.not_lt.mp hflat)

end

def Announced (moduleIndex operatorIndex : UInt64) (validator : ValidatorIndex) (p : ExitRequest → Prop) : Prop :=
  ∃ request, p request ∧ request.moduleIndex = moduleIndex ∧ request.operatorIndex = operatorIndex
    ∧ request.validator = validator

/--
After refreshes that succeed while the chain is reorganised between them, an exit is expected if and only if a scan told
of it and no window since then begins above its request. As long as no reorganisation reaches down to a scan, this is so
if and only if it is requested in the window on the canonical chain, at each refresh whose block is the highest so far.
-/
theorem refreshes_isExpected_iff {oracle : ExitOracle ω} {lookback : UInt64} {views : List ChainView}
    {cache : ExitCache} (h : ExitCache.Refreshes oracle lookback views cache)
    : (∀ moduleIndex operatorIndex validator,
        cache.isExpected moduleIndex operatorIndex validator = true
          ↔ Announced moduleIndex operatorIndex validator (Retained lookback views))
      ∧ ∀ earlier view, views = earlier ++ [view] → (∀ other ∈ earlier, other.block ≤ view.block) → IsSettled views
        → ∀ moduleIndex operatorIndex validator,
          cache.isExpected moduleIndex operatorIndex validator = true
            ↔ Announced moduleIndex operatorIndex validator (view.Holds lookback) := by
  have hexpected (moduleIndex operatorIndex : UInt64) (validator : ValidatorIndex)
      : cache.isExpected moduleIndex operatorIndex validator = true
        ↔ Announced moduleIndex operatorIndex validator (Retained lookback views) := by
    rw [ExitCache.isExpected_iff]
    simp only [h.retains.mem_iff]
    rfl
  refine ⟨hexpected, ?_⟩
  rintro earlier view rfl hhighest hsettled moduleIndex operatorIndex validator
  rw [hexpected]
  unfold Announced
  simp only [hsettled.retained_concat_iff_holds hhighest]

def ExitOracle.ofChain : ExitOracle (List ExitRequest) where
  total block := ⟨fun log => (.ok (UInt64.ofNat (log.countP (·.block ≤ block))), log)⟩
  requests first last :=
    ⟨fun log => (.ok (log.filter fun request => BlockRange.contains ⟨first, last⟩ request.block), log)⟩

theorem ExitOracle.isTruthful_ofChain {log : List ExitRequest} (h : log.length < UInt64.size) :
    (ofChain.asOf log).IsTruthful log where
  total := by
    intro block world total after htotal
    cases htotal
    apply UInt64.toNat_ofNat_of_lt'
    have hle : log.countP (·.block ≤ block) ≤ log.length := List.countP_le_length
    omega
  requests := by
    intro first last world found after hfound
    cases hfound
    rfl

theorem ExitCache.Refreshes.concat_ofChain {lookback : UInt64} {views : List ChainView} {cache cache' : ExitCache}
    (hviews : Refreshes .ofChain lookback views cache) (view : ChainView) (hlength : view.log.length < UInt64.size)
    (hrun : (refresh .ofChain view.block).run (cache, view.log) = (.ok (), cache', view.log))
    : Refreshes .ofChain lookback (views ++ [view]) cache' :=
  .concat hviews (ExitOracle.isTruthful_ofChain hlength) hrun

instance (view scanned : ChainView) : Decidable (view.AgreesUpTo scanned) :=
  inferInstanceAs (Decidable (List.Perm _ _))

instance (lookback : UInt64) (view : ChainView) (request : ExitRequest) : Decidable (view.Holds lookback request) :=
  inferInstanceAs (Decidable (_ ∧ _))

namespace Reorganised

def kept : ExitRequest := ⟨990, 1, 0, 7⟩

def adopted : ExitRequest := ⟨1003, 1, 0, 8⟩

/-- A reorganisation above the block of the last scan, after which the chain is shorter at first. -/
def shallow : List ChainView := [⟨1000, [kept]⟩, ⟨1005, [kept]⟩, ⟨1004, [kept, adopted]⟩, ⟨1010, [kept, adopted]⟩]

theorem refreshes_shallow : ExitCache.Refreshes .ofChain 100 shallow ⟨100, [kept, adopted], 2, some 1004⟩ :=
  ExitCache.Refreshes.nil.concat_ofChain ⟨1000, [kept]⟩ (by decide) rfl
    |>.concat_ofChain ⟨1005, [kept]⟩ (by decide) rfl
    |>.concat_ofChain ⟨1004, [kept, adopted]⟩ (by decide) rfl
    |>.concat_ofChain ⟨1010, [kept, adopted]⟩ (by decide) rfl

theorem isSettled_shallow : IsSettled shallow := by
  have hfirst : IsSettled ([] ++ [⟨1000, [kept]⟩]) := isSettled_concat_iff.mpr ⟨isSettled_nil, by decide⟩
  have hflat : IsSettled ([⟨1000, [kept]⟩] ++ [⟨1005, [kept]⟩]) := isSettled_concat_iff.mpr ⟨hfirst, by decide⟩
  have hgrown : IsSettled ([⟨1000, [kept]⟩, ⟨1005, [kept]⟩] ++ [⟨1004, [kept, adopted]⟩]) :=
    isSettled_concat_iff.mpr ⟨hflat, by decide⟩
  have hlast : IsSettled ([⟨1000, [kept]⟩, ⟨1005, [kept]⟩, ⟨1004, [kept, adopted]⟩] ++ [⟨1010, [kept, adopted]⟩]) :=
    isSettled_concat_iff.mpr ⟨hgrown, by decide⟩
  exact hlast

theorem isExpected_of_shallow :
    let cache : ExitCache := ⟨100, [kept, adopted], 2, some 1004⟩
    ExitCache.Refreshes .ofChain 100 shallow cache ∧ IsSettled shallow ∧ cache.isExpected 1 0 8 = true
      ∧ Announced 1 0 8 (Retained 100 shallow) := by
  intro cache
  have ⟨hretained, hholds⟩ := refreshes_isExpected_iff refreshes_shallow
  specialize hholds [⟨1000, [kept]⟩, ⟨1005, [kept]⟩, ⟨1004, [kept, adopted]⟩] ⟨1010, [kept, adopted]⟩ rfl (by decide)
    isSettled_shallow 1 0 8
  have hexpected : cache.isExpected 1 0 8 = true := by
    rw [hholds]
    exact ⟨adopted, by decide, rfl, rfl, rfl⟩
  exact ⟨refreshes_shallow, isSettled_shallow, hexpected, (hretained 1 0 8).mp hexpected⟩

def orphaned : ExitRequest := ⟨990, 1, 0, 9⟩

/-- The chain after a reorganisation that replaces the request of a block that was scanned. -/
def rewritten : ChainView := ⟨1001, [orphaned]⟩

def stale : ExitCache := ⟨100, [kept], 1, some 1000⟩

theorem refreshes_rewritten : ExitCache.Refreshes .ofChain 100 [⟨1000, [kept]⟩, rewritten] stale :=
  ExitCache.Refreshes.nil.concat_ofChain ⟨1000, [kept]⟩ (by decide) rfl |>.concat_ofChain rewritten (by decide) rfl

/-- The cache still expects the exit that is not requested any more, and it does not expect the one that is. -/
theorem isExpected_ne_canonical :
    ExitCache.Refreshes .ofChain 100 [⟨1000, [kept]⟩, rewritten] stale
      ∧ stale.isExpected 1 0 7 = true ∧ ¬Announced 1 0 7 (rewritten.Holds 100)
      ∧ stale.isExpected 1 0 9 = false ∧ Announced 1 0 9 (rewritten.Holds 100) := by
  refine ⟨refreshes_rewritten, rfl, ?_, rfl, ?_⟩
  . rintro ⟨request, ⟨hmem, _⟩, _, _, hvalidator⟩
    rw [rewritten, List.mem_singleton] at hmem
    subst hmem
    cases hvalidator
  . exact ⟨orphaned, by decide, rfl, rfl, rfl⟩

end Reorganised

end Exit
end BeaconSentry
