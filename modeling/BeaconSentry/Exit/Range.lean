import BeaconSentry.Beacon.Basic

/-!
This module contains closed ranges of blocks and their division into windows that one query can cover.
-/

namespace BeaconSentry
namespace Exit

open Beacon

/-- The blocks from `first` to `last`, both included. -/
structure BlockRange where
  first : BlockNumber
  last : BlockNumber
  deriving Repr, DecidableEq

namespace BlockRange

def contains (range : BlockRange) (block : BlockNumber) : Bool :=
  range.first ≤ block && block ≤ range.last

/--
Divide a range into consecutive windows. Each window but the last one spans `step + 1` blocks, the last one at
most that many; an inverted range has no window.
-/
def windows (step : UInt64) (range : BlockRange) : List BlockRange :=
  if range.last < range.first then []
  else
    let last := min range.last (Word.plus range.first step)
    if h : last < range.last then ⟨range.first, last⟩ :: windows step ⟨last + 1, range.last⟩
    else [⟨range.first, last⟩]
termination_by range.last.toNat + 1 - range.first.toNat
decreasing_by
  rename_i hle
  rw [UInt64.lt_iff_toNat_lt] at hle
  have hplus := Word.le_plus range.first step
  have hmin := Word.toNat_min range.last (Word.plus range.first step)
  rw [show (⟨last + 1, range.last⟩ : BlockRange).first.toNat = last.toNat + 1 from Word.toNat_succ_of_lt h]
  simp only [last]
  omega

end BlockRange
end Exit
end BeaconSentry
