import BeaconSentry.Word

/-!
This module contains the relation of slots to wall-clock time. A slot lasts twelve seconds, and slots count
from the genesis time.
-/

namespace BeaconSentry

abbrev Slot := UInt64

namespace Slot

def seconds : UInt64 := 12

def perEpoch : UInt64 := 32

/-- The lag, in seconds, beyond which a head is stale: four slots. -/
def staleLag : UInt64 := 48

/-- The slot at a time, which is slot zero before genesis. -/
def ofTime (genesis now : UInt64) : Slot := Word.monus now genesis / seconds

def startTime (genesis : UInt64) (slot : Slot) : Except Overflow UInt64 := do
  Word.add genesis (← Word.mul slot seconds)

def isStale (genesis : UInt64) (slot : Slot) (now : UInt64) : Except Overflow Bool := do
  pure (staleLag < Word.monus now (← startTime genesis slot))

/-- A head that is stale stays so. -/
theorem isStale_of_le {genesis now later : UInt64} {slot : Slot} (h : isStale genesis slot now = .ok true)
    (hle : now ≤ later) : isStale genesis slot later = .ok true := by
  unfold isStale at *
  cases hstart : startTime genesis slot with
  | error =>
    rw [hstart] at h
    cases h
  | ok start =>
    rw [hstart] at h
    have hlag : decide (staleLag < Word.monus now start) = true := Except.ok.inj h
    have hlag := UInt64.lt_iff_toNat_lt.mp (of_decide_eq_true hlag)
    have hle := UInt64.le_iff_toNat_le.mp hle
    refine congrArg Except.ok (decide_eq_true (UInt64.lt_iff_toNat_lt.mpr ?_))
    rw [Word.toNat_monus] at *
    omega

def startsEpoch (slot : Slot) : Bool := slot % perEpoch == 0

end Slot
end BeaconSentry
