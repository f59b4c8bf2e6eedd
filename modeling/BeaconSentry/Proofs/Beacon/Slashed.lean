import BeaconSentry.Beacon.Basic
import Mathlib.Data.List.Sort

/-!
This module contains which validators an attester slashing convicts: those that signed both attestations.
-/

namespace BeaconSentry

section

variable {α : Type} [BEq α]

theorem eraseRepsBy_loop (first : α) (rest done : List α) :
    List.eraseRepsBy.loop (· == ·) first rest done
      = done.reverse ++ List.eraseRepsBy.loop (· == ·) first rest [] := by
  induction rest generalizing first done with
  | nil => simp [List.eraseRepsBy.loop]
  | cons next rest ih =>
    unfold List.eraseRepsBy.loop
    split
    . exact ih ..
    . rw [ih next (first :: done), ih next [first]]
      simp

theorem eraseReps_cons_cons (first next : α) (rest : List α) :
    (first :: next :: rest).eraseReps
      = if first == next then (first :: rest).eraseReps else first :: (next :: rest).eraseReps := by
  show List.eraseRepsBy.loop (· == ·) first (next :: rest) [] = _
  unfold List.eraseRepsBy.loop
  split
  . next heq =>
    rw [heq]
    rfl
  . next hne =>
    rw [hne, eraseRepsBy_loop]
    rfl

theorem mem_eraseReps [LawfulBEq α] {value : α} (values : List α) : value ∈ values.eraseReps ↔ value ∈ values := by
  match values with
  | [] => rfl
  | [first] => rfl
  | first :: next :: rest =>
    rw [eraseReps_cons_cons]
    split
    . next heq =>
      rw [beq_iff_eq] at heq
      rw [mem_eraseReps (first :: rest), heq]
      simp
    . rw [List.mem_cons, mem_eraseReps (next :: rest), ← List.mem_cons]
termination_by values.length

end

namespace Beacon

/-- In ascending values the repetitions stand side by side. -/
theorem pairwise_lt_eraseReps {values : List UInt64} (h : values.Pairwise (· ≤ ·)) :
    values.eraseReps.Pairwise (· < ·) := by
  match values with
  | [] => exact .nil
  | [first] => exact List.pairwise_singleton ..
  | first :: next :: rest =>
    rw [eraseReps_cons_cons]
    split
    . exact pairwise_lt_eraseReps (h.sublist (.cons_cons _ (List.sublist_cons_self ..)))
    . next hne =>
      have ⟨hfirst, hrest⟩ := List.pairwise_cons.mp h
      have hlt : first < next := by
        apply UInt64.lt_of_le_of_ne (hfirst next (List.mem_cons_self ..))
        simpa using hne
      refine .cons (fun value hmem => ?_) (pairwise_lt_eraseReps hrest)
      rw [mem_eraseReps] at hmem
      rcases List.mem_cons.mp hmem with rfl | hmem
      . exact hlt
      . exact UInt64.lt_of_lt_of_le hlt ((List.pairwise_cons.mp hrest).1 value hmem)
termination_by values.length

/-- The validators that signed both attestations of a slashing, in ascending order and each once. -/
structure AttesterSlashing.BothSigned (slashing : AttesterSlashing) (indices : List ValidatorIndex) : Prop where
  ascending : indices.Pairwise (· < ·)
  mem_iff : ∀ index, index ∈ indices ↔ index ∈ slashing.first.signers ∧ index ∈ slashing.second.signers

theorem AttesterSlashing.bothSigned_slashed (slashing : AttesterSlashing) : slashing.BothSigned slashing.slashed := by
  constructor
  . apply pairwise_lt_eraseReps
    exact List.pairwise_mergeSort' (· ≤ ·) _
  . intro index
    unfold slashed
    rw [mem_eraseReps, List.mem_mergeSort, List.mem_filter, List.contains_iff_mem]

end Beacon
end BeaconSentry
