import BeaconSentry.Exit.Range
import Mathlib.Data.List.Chain

/-!
This module contains the law of the windows of a range: they are cut off its front one after the other, no cut leaves
the words, and together they tile the range.
-/

namespace BeaconSentry
namespace Exit
namespace BlockRange

open Beacon

/-- The number of blocks of a range. -/
def size (range : BlockRange) : Nat := range.last.toNat + 1 - range.first.toNat

/-- Where the first window of a range ends: `step` blocks after its start, or with the range if that is sooner. -/
def firstEnd (step : UInt64) (range : BlockRange) : BlockNumber := min range.last (Word.plus range.first step)

/--
A range is cut into windows by a loop that ends: each round cuts a window off the front, the last one when a window ends
just where the range does. After any other round the next window starts at a sum, which must be a word.
-/
inductive Cuts (step : UInt64) : BlockRange → List BlockRange → Prop
  | last {range : BlockRange} (hlast : range.firstEnd step = range.last) :
    Cuts step range [⟨range.first, range.firstEnd step⟩]
  | next {range : BlockRange} {next : BlockNumber} {windows : List BlockRange}
      (hlast : range.firstEnd step ≠ range.last) (hnext : Word.add (range.firstEnd step) 1 = .ok next)
      (hrest : Cuts step ⟨next, range.last⟩ windows) :
    Cuts step range (⟨range.first, range.firstEnd step⟩ :: windows)

/-- Windows that follow one after the other from the start of a range to its end, `step + 1` blocks each. -/
structure Tiles (step : UInt64) (range : BlockRange) (windows : List BlockRange) : Prop where
  first_eq : windows.head?.map (·.first) = some range.first
  last_eq : windows.getLast?.map (·.last) = some range.last
  first_le_last : ∀ window ∈ windows, window.first ≤ window.last
  /-- A window starts at the block after the end of the one before it. -/
  adjacent : windows.IsChain fun window next => next.first.toNat = window.last.toNat + 1
  size_eq : ∀ window ∈ windows.dropLast, window.size = step.toNat + 1
  /-- The last window may be a short one. -/
  size_le : ∀ window ∈ windows, window.size ≤ step.toNat + 1

section

variable {step : UInt64} {range : BlockRange}

theorem contains_iff {block : BlockNumber}
    : range.contains block = true ↔ range.first.toNat ≤ block.toNat ∧ block.toNat ≤ range.last.toNat := by
  simp [BlockRange.contains, UInt64.le_iff_toNat_le]

theorem toNat_firstEnd (step : UInt64) (range : BlockRange)
    : (range.firstEnd step).toNat = min range.last.toNat (range.first.toNat + step.toNat) := by
  have := range.last.toNat_lt_size
  rw [firstEnd, Word.toNat_min, Word.toNat_plus]
  omega

theorem first_le_firstEnd (h : range.first ≤ range.last) : range.first ≤ range.firstEnd step := by
  rw [UInt64.le_iff_toNat_le] at h ⊢
  rw [toNat_firstEnd]
  omega

theorem firstEnd_eq_last (h : ¬range.firstEnd step < range.last) : range.firstEnd step = range.last := by
  have := toNat_firstEnd step range
  rw [UInt64.lt_iff_toNat_lt] at h
  exact UInt64.toNat_inj.mp (by omega)

theorem windows_of_lt (h : range.last < range.first) : range.windows step = [] := by
  rw [windows, if_pos h]

/-- No round of the division of a range leaves the words. -/
theorem cuts_windows (step : UInt64) (h : range.first ≤ range.last) : Cuts step range (range.windows step) := by
  fun_induction windows step range with
  | case1 range hlt => exact absurd hlt (UInt64.not_lt.mpr h)
  | case2 range _ _ hlast ih =>
    have hnext := Word.toNat_succ_of_lt hlast
    rw [UInt64.lt_iff_toNat_lt] at hlast
    have hadd : Word.add (range.firstEnd step) 1 = .ok (range.firstEnd step + 1) :=
      if_pos (Nat.lt_of_le_of_lt hlast range.last.toNat_lt_size)
    have hne : range.firstEnd step ≠ range.last := fun heq => Nat.ne_of_lt hlast (congrArg UInt64.toNat heq)
    refine .next hne hadd (ih ?_)
    rw [UInt64.le_iff_toNat_le]
    exact Nat.le_trans (Nat.le_of_eq hnext) hlast
  | case3 range _ _ hlast => exact .last (firstEnd_eq_last hlast)

/-- Where the next window starts: behind the one before it and still in the range. -/
theorem toNat_next {next : BlockNumber} (hlast : range.firstEnd step ≠ range.last)
    (hnext : Word.add (range.firstEnd step) 1 = .ok next)
    : next.toNat = range.first.toNat + step.toNat + 1 ∧ next.toNat ≤ range.last.toNat := by
  have hsum : next.toNat = (range.firstEnd step).toNat + 1 := Word.toNat_of_add hnext
  rw [← UInt64.toNat_inj.ne] at hlast
  rw [toNat_firstEnd] at hsum hlast
  omega

namespace Cuts

variable {windows : List BlockRange}

theorem ne_nil (h : Cuts step range windows) : windows ≠ [] := by
  cases h <;> exact List.cons_ne_nil _ _

theorem unique {others : List BlockRange} (h : Cuts step range windows) (hothers : Cuts step range others)
    : windows = others := by
  induction h generalizing others with
  | last hlast =>
    cases hothers with
    | last => rfl
    | next hne => exact absurd hlast hne
  | next hne hnext _ ih =>
    cases hothers with
    | last hlast => exact absurd hlast hne
    | next _ hnext' hrest =>
      cases hnext.symm.trans hnext'
      rw [ih hrest]

theorem tiles (h : Cuts step range windows) (hrange : range.first ≤ range.last) : Tiles step range windows := by
  induction h with
  | @last range hlast =>
    rw [hlast]
    have := toNat_firstEnd step range
    have hsize : range.size ≤ step.toNat + 1 := by
      rw [hlast] at this
      unfold size
      omega
    exact ⟨rfl, rfl, List.forall_mem_singleton.mpr hrange, .singleton _, nofun, List.forall_mem_singleton.mpr hsize⟩
  | @next range next windows hlast hnext hrest ih =>
    have ⟨htoNat, hle⟩ := toNat_next hlast hnext
    have hfirst := toNat_firstEnd step range
    have ih := ih (UInt64.le_iff_toNat_le.mpr hle)
    have hsize : size ⟨range.first, range.firstEnd step⟩ = step.toNat + 1 := by
      unfold size
      dsimp only
      omega
    refine ⟨rfl, ?_, ?_, ?_, ?_, ?_⟩
    . rw [List.getLast?_cons_of_ne_nil hrest.ne_nil]
      exact ih.last_eq
    . exact List.forall_mem_cons.mpr ⟨first_le_firstEnd hrange, ih.first_le_last⟩
    . rw [List.isChain_cons]
      refine ⟨fun window hwindow => ?_, ih.adjacent⟩
      have hstart := ih.first_eq
      rw [Option.mem_def.mp hwindow] at hstart
      have hstart : window.first = next := Option.some.inj hstart
      rw [hstart]
      dsimp only
      omega
    . rw [List.dropLast_cons_of_ne_nil hrest.ne_nil]
      exact List.forall_mem_cons.mpr ⟨hsize, ih.size_eq⟩
    . exact List.forall_mem_cons.mpr ⟨Nat.le_of_eq hsize, ih.size_le⟩

theorem length_eq (h : Cuts step range windows)
    : windows.length = (range.last.toNat - range.first.toNat) / (step.toNat + 1) + 1 := by
  induction h with
  | @last range hlast =>
    have := toNat_firstEnd step range
    rw [hlast] at this
    rw [Nat.div_eq_of_lt (by omega)]
    rfl
  | @next range next windows hlast hnext _ ih =>
    have ⟨htoNat, hle⟩ := toNat_next hlast hnext
    have hdiv : (range.last.toNat - range.first.toNat) / (step.toNat + 1)
        = (range.last.toNat - next.toNat) / (step.toNat + 1) + 1 := by
      rw [Nat.div_eq_sub_div (by omega) (by omega), Nat.sub_sub, htoNat, Nat.add_assoc]
    rw [List.length_cons, ih, hdiv]

theorem countP_contains (h : Cuts step range windows) (hrange : range.first ≤ range.last) (block : BlockNumber)
    : windows.countP (·.contains block) = if range.contains block then 1 else 0 := by
  induction h with
  | @last range hlast =>
    rw [hlast]
    exact List.countP_singleton
  | @next range next windows hlast hnext _ ih =>
    have ⟨htoNat, hle⟩ := toNat_next hlast hnext
    have hfirst := toNat_firstEnd step range
    rw [UInt64.le_iff_toNat_le] at hrange
    rw [List.countP_cons, ih (UInt64.le_iff_toNat_le.mpr hle)]
    simp only [contains_iff]
    split <;> split <;> split <;> omega

end Cuts

end

/--
The windows of a range tile it, whatever the step: the loop that cuts them off ends with just these, after as many
rounds as there are windows, and all of its sums are words. An inverted range has none. A block of the range is in just
one window, and no other block is in any.
-/
theorem windows_tile (step : UInt64) (range : BlockRange)
    : (range.last < range.first → range.windows step = [])
        ∧ (range.first ≤ range.last →
          (∀ windows, Cuts step range windows ↔ windows = range.windows step)
            ∧ Tiles step range (range.windows step)
            ∧ (range.windows step).length = (range.last.toNat - range.first.toNat) / (step.toNat + 1) + 1)
        ∧ ∀ block, (range.windows step).countP (·.contains block) = if range.contains block then 1 else 0 := by
  refine ⟨windows_of_lt, fun h => ?_, fun block => ?_⟩
  . have hcuts := cuts_windows step h
    refine ⟨fun windows => ⟨fun hwindows => hwindows.unique hcuts, ?_⟩, hcuts.tiles h, hcuts.length_eq⟩
    rintro rfl
    exact hcuts
  . by_cases h : range.first ≤ range.last
    . exact (cuts_windows step h).countP_contains h block
    . have hnone : ¬range.contains block = true := by
        rw [UInt64.le_iff_toNat_le] at h
        rw [contains_iff]
        omega
      rw [windows_of_lt (UInt64.not_le.mp h), if_neg hnone]
      rfl

namespace Topmost

/-- The last four blocks of all. -/
def lastFour : BlockRange := ⟨18446744073709551612, 18446744073709551615⟩

/-- The start of the last window is the greatest word, and no round is left that would add to it. -/
theorem windows_tile_topmost :
    lastFour.windows 2
        = [⟨18446744073709551612, 18446744073709551614⟩, ⟨18446744073709551615, 18446744073709551615⟩]
      ∧ lastFour.first ≤ lastFour.last ∧ Tiles 2 lastFour (lastFour.windows 2)
      ∧ lastFour.first < lastFour.last ∧ windows 2 ⟨lastFour.last, lastFour.first⟩ = [] := by
  have hrange : lastFour.first ≤ lastFour.last := by decide
  have ⟨hcuts, htiles, _⟩ := (windows_tile 2 lastFour).2.1 hrange
  refine ⟨((hcuts _).mp ?_).symm, hrange, htiles, by decide, (windows_tile 2 ⟨_, _⟩).1 (by decide)⟩
  exact .next (by decide) rfl (.last (by decide))

end Topmost
end BlockRange
end Exit
end BeaconSentry
