/-!
This module contains the arithmetic of 64-bit words that stays within the words: subtraction and addition that
stop at the ends of the range, and addition and multiplication that report leaving it.
-/

namespace BeaconSentry

/-- A computation that left the range of its numbers. Nothing recovers from it. -/
inductive Overflow where
  | addition
  | multiplication
  | instant
  | duration
  deriving Repr, DecidableEq

def Overflow.message : Overflow → String
  | .addition => "attempt to add with overflow"
  | .multiplication => "attempt to multiply with overflow"
  | .instant => "\x60DateTime + TimeDelta\x60 overflowed"
  | .duration => "cannot convert float seconds to Duration: value is either too big or NaN"

namespace Word

def max : UInt64 := UInt64.ofNat (UInt64.size - 1)

def monus (a b : UInt64) : UInt64 := if b ≤ a then a - b else 0

theorem toNat_monus (a b : UInt64) : (monus a b).toNat = a.toNat - b.toNat := by
  unfold monus
  split
  · rename_i h
    exact UInt64.toNat_sub_of_le _ _ h
  · rename_i h
    have : a.toNat < b.toNat := UInt64.lt_iff_toNat_lt.mp (UInt64.not_le.mp h)
    simp only [UInt64.toNat_zero]
    omega

def plus (a b : UInt64) : UInt64 :=
  if a.toNat + b.toNat < UInt64.size then a + b else max

theorem toNat_plus (a b : UInt64) :
    (plus a b).toNat = min (a.toNat + b.toNat) (UInt64.size - 1) := by
  have hsize : UInt64.size = 2 ^ 64 := rfl
  unfold plus
  split
  · rw [UInt64.toNat_add]
    omega
  · have : max.toNat = UInt64.size - 1 := by decide
    omega

theorem le_plus (a b : UInt64) : a.toNat ≤ (plus a b).toNat := by
  have := a.toNat_lt
  have : UInt64.size = 2 ^ 64 := rfl
  rw [toNat_plus]
  omega

theorem toNat_min (a b : UInt64) : (min a b).toNat = min a.toNat b.toNat := by
  by_cases h : a ≤ b
  · have := UInt64.le_iff_toNat_le.mp h
    rw [show min a b = a from if_pos h]
    omega
  · have := UInt64.lt_iff_toNat_lt.mp (UInt64.not_le.mp h)
    rw [show min a b = b from if_neg h]
    omega

theorem toNat_max (a b : UInt64) : (Max.max a b).toNat = Max.max a.toNat b.toNat := by
  by_cases h : a ≤ b
  · have := UInt64.le_iff_toNat_le.mp h
    rw [show Max.max a b = b from if_pos h]
    omega
  · have := UInt64.lt_iff_toNat_lt.mp (UInt64.not_le.mp h)
    rw [show Max.max a b = a from if_neg h]
    omega

theorem toNat_succ_of_lt {a b : UInt64} (h : a < b) : (a + 1).toNat = a.toNat + 1 := by
  have := UInt64.lt_iff_toNat_lt.mp h
  have := b.toNat_lt
  rw [UInt64.toNat_add, UInt64.toNat_one]
  omega

/-- The sum of two words that must be a word. -/
def add (a b : UInt64) : Except Overflow UInt64 :=
  if a.toNat + b.toNat < UInt64.size then .ok (a + b) else .error .addition

/-- The product of two words that must be a word. -/
def mul (a b : UInt64) : Except Overflow UInt64 :=
  if a.toNat * b.toNat < UInt64.size then .ok (a * b) else .error .multiplication

theorem toNat_of_add {a b c : UInt64} (h : add a b = .ok c) : c.toNat = a.toNat + b.toNat := by
  have hsize : UInt64.size = 2 ^ 64 := rfl
  unfold add at h
  split at h
  · cases h
    rw [UInt64.toNat_add]
    omega
  · cases h

theorem size_le_of_add {a b : UInt64} {overflow : Overflow} (h : add a b = .error overflow) :
    UInt64.size ≤ a.toNat + b.toNat := by
  unfold add at h
  split at h
  · cases h
  · omega

theorem toNat_of_mul {a b c : UInt64} (h : mul a b = .ok c) : c.toNat = a.toNat * b.toNat := by
  have hsize : UInt64.size = 2 ^ 64 := rfl
  unfold mul at h
  split at h
  · cases h
    rw [UInt64.toNat_mul]
    exact Nat.mod_eq_of_lt (by omega)
  · cases h

end Word
end BeaconSentry
