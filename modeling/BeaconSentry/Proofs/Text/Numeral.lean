import BeaconSentry.Text.Numeral

/-!
This module contains the decimal digits of a natural number, and that a numeral made of them is read as the number.
-/

namespace BeaconSentry
namespace Numeral

theorem isDigit_of_mem_toDigits {n : Nat} {c : Char} (h : c ∈ Nat.toDigits 10 n) : c.isDigit = true :=
  Nat.isDigit_of_mem_toDigits (by decide) (by decide) h

theorem exists_toDigits_eq_cons (n : Nat) : ∃ c cs, Nat.toDigits 10 n = c :: cs ∧ c.isDigit = true := by
  obtain ⟨c, cs, hcs⟩ := List.exists_cons_of_ne_nil (Nat.toDigits_ne_nil (n := n) (b := 10))
  exact ⟨c, cs, hcs, isDigit_of_mem_toDigits (hcs ▸ List.mem_cons_self)⟩

theorem digitChar_ne_zero : ∀ n < 10, 0 < n → n.digitChar ≠ '0' := by decide

/-- A number other than zero has no leading zero. -/
theorem toDigits_ne_zero_cons {n : Nat} (hn : 0 < n) (cs : List Char) : Nat.toDigits 10 n ≠ '0' :: cs := by
  intro heq
  induction n using Nat.strongRecOn generalizing cs with
  | ind n ih =>
    by_cases hlt : n < 10
    . rw [Nat.toDigits_of_lt_base hlt] at heq
      exact digitChar_ne_zero n hlt hn (List.cons.inj heq).1
    . obtain ⟨c, ds, hds, _⟩ := exists_toDigits_eq_cons (n / 10)
      rw [Nat.toDigits_of_base_le (by decide) (Nat.le_of_not_lt hlt), hds, List.cons_append] at heq
      exact ih (n / 10) (by omega) (by omega) ds (by rw [hds, (List.cons.inj heq).1])

theorem digit?_of_isDigit {c : Char} (h : c.isDigit = true) : digit? c = some (c.toNat - '0'.toNat) := by
  rw [Char.isDigit, Bool.and_eq_true, decide_eq_true_eq, decide_eq_true_eq] at h
  exact if_pos h

theorem le_ofDigitChars (cs : List Char) (acc : Nat) : acc ≤ Nat.ofDigitChars 10 cs acc := by
  induction cs generalizing acc with
  | nil => exact Nat.le_refl acc
  | cons c cs ih =>
    rw [Nat.ofDigitChars_cons]
    exact Nat.le_trans (by omega) (ih _)

/-- The value never falls from one digit to the next, so it passes the bound on the way just if it does in the end. -/
theorem digits_eq {bound acc : Nat} {beyond : Error} {cs : List Char} (hdigits : ∀ c ∈ cs, c.isDigit = true)
    (hacc : acc ≤ bound)
    : digits bound beyond acc cs
        = if Nat.ofDigitChars 10 cs acc ≤ bound then .ok (Nat.ofDigitChars 10 cs acc) else .error beyond := by
  induction cs generalizing acc with
  | nil => exact (if_pos hacc).symm
  | cons c cs ih =>
    rw [List.forall_mem_cons] at hdigits
    rw [Nat.ofDigitChars_cons, Nat.mul_comm 10]
    simp only [digits, digit?_of_isDigit hdigits.1]
    split
    next hle => exact ih hdigits.2 hle
    next hgt =>
      have hend := le_ofDigitChars cs (acc * 10 + (c.toNat - '0'.toNat))
      exact (if_neg (by omega)).symm

theorem unsigned_toString_eq_digits (bound n : Nat)
    : unsigned bound (toString n) = digits bound .tooLarge 0 (Nat.toDigits 10 n) := by
  have hplus : '+' ∉ Nat.toDigits 10 n := fun hmem => absurd (isDigit_of_mem_toDigits hmem) (by decide)
  rw [unsigned, Nat.toString_eq_repr, Nat.repr_eq_ofList_toDigits, String.toList_ofList]
  split
  next heq => exact absurd heq Nat.toDigits_ne_nil
  next heq => exact absurd (heq ▸ List.mem_cons_self) hplus
  next heq => exact absurd (heq ▸ List.mem_cons_self) hplus
  next => rfl

/-- A number is read back from its numeral if it is within the bound. -/
theorem unsigned_toString (bound n : Nat)
    : unsigned bound (toString n) = if n ≤ bound then .ok n else .error .tooLarge := by
  rw [unsigned_toString_eq_digits, digits_eq (fun c => isDigit_of_mem_toDigits) (Nat.zero_le bound),
    Nat.ofDigitChars_ten_toDigits]

end Numeral
end BeaconSentry
