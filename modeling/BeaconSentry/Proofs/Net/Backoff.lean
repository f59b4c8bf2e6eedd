import BeaconSentry.Net.Retry
import Mathlib.Algebra.Group.Nat.Defs

/-!
This module contains the law of the waits between attempts: they double from the backoff on until the longest wait is
reached. What is halved to a unit of waiting must be a word, so of a backoff of 2^65 milliseconds or more only a
remainder counts.
-/

namespace BeaconSentry
namespace RetryPolicy

/-- The backoff in milliseconds, rounded down to an even number, and at least two. -/
def baseMillis (policy : RetryPolicy) : Nat := max (2 * (policy.backoff.millis / 2)) 2

/-- Delays that double from a number of milliseconds until the longest wait is reached. Without a backoff all are zero. -/
structure Doubles (policy : RetryPolicy) (base : Nat) (delays : List Duration) : Prop where
  length_eq : delays.length = policy.total
  eq_zero : policy.backoff = .zero → ∀ delay ∈ delays, delay = .zero
  getElem_eq : policy.backoff ≠ .zero → ∀ (n : Nat) (h : n < delays.length),
    delays[n] = .ofMillis (min (base * 2 ^ n) longestMillis)

/-- Half the backoff is too much for a word, and with what is left of it the first wait is not the longest one. -/
def Truncated (policy : RetryPolicy) : Prop :=
  0 < policy.total ∧ 2 ^ 65 ≤ policy.baseMillis ∧ policy.baseMillis % 2 ^ 65 < longestMillis

instance (policy : RetryPolicy) : Decidable policy.Truncated := inferInstanceAs (Decidable (_ ∧ _ ∧ _))

section

variable {policy : RetryPolicy}

theorem longestMillis_le : longestMillis ≤ UInt64.size - 1 := by decide

theorem saturate_saturate_two_pow (k : Nat) : saturate (saturate (2 ^ k) * 2) = saturate (2 ^ (k + 1)) := by
  unfold saturate
  rw [Nat.pow_succ]
  omega

/-- A factor that stops at the greatest word cannot be told from one that does not, since the longest wait is a word. -/
theorem min_saturate_mul (factor unit : Nat)
    : min (saturate (saturate factor * unit)) longestMillis = min (factor * unit) longestMillis := by
  have hlongest := longestMillis_le
  unfold saturate
  by_cases hfactor : factor ≤ UInt64.size - 1
  . rw [Nat.min_eq_left hfactor]
    omega
  . have hgreatest : min factor (UInt64.size - 1) = UInt64.size - 1 := by omega
    rw [hgreatest]
    cases unit with
    | zero => rw [Nat.mul_zero, Nat.mul_zero, Nat.zero_min]
    | succ unit =>
      have hword : UInt64.size - 1 ≤ (UInt64.size - 1) * (unit + 1) := Nat.le_mul_of_pos_right _ unit.succ_pos
      have hproduct : factor ≤ factor * (unit + 1) := Nat.le_mul_of_pos_right _ unit.succ_pos
      omega

/-- The longest wait is never left again, although the factor does not grow any more once it is reached. -/
theorem waits_eq (unit count k : Nat)
    : waits unit (saturate (2 ^ k)) count
        = (List.range count).map fun n => min (2 ^ (k + n) * unit) longestMillis := by
  induction count generalizing k with
  | zero => rfl
  | succ count ih =>
    have hwait := min_saturate_mul (2 ^ k) unit
    rw [waits, List.range_succ_eq_map, List.map_cons, List.map_map]
    split
    . next hlong =>
      have hreached : longestMillis ≤ 2 ^ k * unit := by omega
      rw [ih]
      congr 1
      . exact (Nat.min_eq_right hreached).symm
      . apply List.map_congr_left
        intro n _
        have hlater (m : Nat) : longestMillis ≤ 2 ^ (k + m) * unit :=
          Nat.le_trans hreached (Nat.mul_le_mul_right unit (Nat.pow_le_pow_right Nat.two_pos (Nat.le_add_right k m)))
        rw [Function.comp_apply, Nat.min_eq_right (hlater n), Nat.min_eq_right (hlater (n + 1))]
    . next hshort =>
      rw [saturate_saturate_two_pow, ih]
      congr 1
      . rw [Nat.min_eq_left (Nat.le_of_not_lt hshort)] at hwait
        exact hwait
      . apply List.map_congr_left
        intro n _
        rw [Function.comp_apply, Nat.succ_eq_add_one, Nat.add_right_comm, Nat.add_assoc]

/-- Twice the unit of waiting is what is left of the backoff. -/
theorem two_mul_unitMillis (policy : RetryPolicy) : 2 * policy.unitMillis = policy.baseMillis % 2 ^ 65 := by
  unfold unitMillis baseMillis UInt64.size
  omega

theorem delays_eq (policy : RetryPolicy) :
    policy.delays = (List.range policy.total).map fun n =>
      if policy.backoff = .zero then .zero
      else .ofMillis (min (policy.baseMillis % 2 ^ 65 * 2 ^ n) longestMillis) := by
  have hwaits : waits policy.unitMillis 2 policy.total
      = (List.range policy.total).map fun n => min (2 ^ (1 + n) * policy.unitMillis) longestMillis :=
    waits_eq policy.unitMillis policy.total 1
  unfold delays firstDelays
  dsimp only
  rw [Nat.min_self, hwaits]
  split
  . rw [List.map_map]
    rfl
  . rw [List.map_map]
    apply List.map_congr_left
    intro n _
    have hwait : 2 ^ (1 + n) * policy.unitMillis = policy.baseMillis % 2 ^ 65 * 2 ^ n := by
      rw [← two_mul_unitMillis, Nat.pow_add, Nat.pow_one]
      ac_rfl
    rw [Function.comp_apply, hwait]

theorem doubles_delays (policy : RetryPolicy) : policy.Doubles (policy.baseMillis % 2 ^ 65) policy.delays := by
  rw [delays_eq]
  refine ⟨by simp, fun hzero delay hdelay => ?_, fun hbackoff n hn => ?_⟩
  . obtain ⟨n, _, rfl⟩ := List.mem_map.mp hdelay
    exact if_pos hzero
  . rw [List.getElem_map, List.getElem_range, if_neg hbackoff]

theorem Truncated.backoff_ne_zero (h : policy.Truncated) : policy.backoff ≠ .zero := by
  intro hzero
  have hbase := h.2.1
  unfold baseMillis at hbase
  rw [hzero] at hbase
  exact absurd hbase (by decide)

/-- The longest wait comes of what is left of a backoff that is too much for a word, or the backoff is all left. -/
theorem min_mod_eq_of_not_truncated (h : ¬policy.Truncated) (htotal : 0 < policy.total) (n : Nat)
    : min (policy.baseMillis % 2 ^ 65 * 2 ^ n) longestMillis = min (policy.baseMillis * 2 ^ n) longestMillis := by
  by_cases hbase : policy.baseMillis < 2 ^ 65
  . rw [Nat.mod_eq_of_lt hbase]
  . have hrest : longestMillis ≤ policy.baseMillis % 2 ^ 65 :=
      Nat.le_of_not_lt fun hlt => h ⟨htotal, Nat.le_of_not_lt hbase, hlt⟩
    have hrest_le : policy.baseMillis % 2 ^ 65 * 2 ^ n ≤ policy.baseMillis * 2 ^ n :=
      Nat.mul_le_mul_right _ (Nat.mod_le _ _)
    have hpow : policy.baseMillis % 2 ^ 65 ≤ policy.baseMillis % 2 ^ 65 * 2 ^ n :=
      Nat.le_mul_of_pos_right _ (Nat.two_pow_pos n)
    omega

namespace Doubles

variable {base : Nat} {delays : List Duration}

theorem nanos_mono (h : policy.Doubles base delays) : delays.Pairwise (·.nanos ≤ ·.nanos) := by
  rw [List.pairwise_iff_getElem]
  intro m n hm hn hmn
  by_cases hzero : policy.backoff = .zero
  . have hfirst := h.eq_zero hzero _ (List.getElem_mem hm)
    have hsecond := h.eq_zero hzero _ (List.getElem_mem hn)
    exact Nat.le_of_eq (congrArg Duration.nanos (hfirst.trans hsecond.symm))
  . have hpow : base * 2 ^ m ≤ base * 2 ^ n :=
      Nat.mul_le_mul_left base (Nat.pow_le_pow_right Nat.two_pos (Nat.le_of_lt hmn))
    rw [h.getElem_eq hzero m hm, h.getElem_eq hzero n hn]
    unfold Duration.ofMillis
    dsimp only
    omega

theorem nanos_le (h : policy.Doubles base delays)
    : ∀ delay ∈ delays, delay.nanos ≤ (Duration.ofMillis longestMillis).nanos := by
  intro delay hdelay
  obtain ⟨n, hn, rfl⟩ := List.getElem_of_mem hdelay
  by_cases hzero : policy.backoff = .zero
  . rw [h.eq_zero hzero _ hdelay]
    exact Nat.zero_le _
  . rw [h.getElem_eq hzero n hn]
    exact Nat.mul_le_mul_right _ (Nat.min_le_right ..)

theorem le_nanos (h : policy.Doubles base delays) (hbackoff : policy.backoff ≠ .zero)
    : ∀ delay ∈ delays, (Duration.ofMillis (min base longestMillis)).nanos ≤ delay.nanos := by
  intro delay hdelay
  obtain ⟨n, hn, rfl⟩ := List.getElem_of_mem hdelay
  have hpow : base ≤ base * 2 ^ n := Nat.le_mul_of_pos_right _ (Nat.two_pow_pos n)
  rw [h.getElem_eq hbackoff n hn]
  unfold Duration.ofMillis
  dsimp only
  omega

end Doubles

theorem doubles_baseMillis (h : ¬policy.Truncated) : policy.Doubles policy.baseMillis policy.delays := by
  have hdelays := doubles_delays policy
  refine ⟨hdelays.length_eq, hdelays.eq_zero, fun hbackoff n hn => ?_⟩
  have htotal : 0 < policy.total := by
    rw [hdelays.length_eq] at hn
    omega
  rw [hdelays.getElem_eq hbackoff n hn, min_mod_eq_of_not_truncated h htotal]

theorem Truncated.exists_nanos_lt (h : policy.Truncated)
    : ∃ delay ∈ policy.delays, delay.nanos < (Duration.ofMillis (min policy.baseMillis longestMillis)).nanos := by
  have hdelays := doubles_delays policy
  have ⟨htotal, hbase, hrest⟩ := h
  have hfirst : 0 < policy.delays.length := by
    rw [hdelays.length_eq]
    exact htotal
  refine ⟨policy.delays[0], List.getElem_mem hfirst, ?_⟩
  have hlongest : longestMillis ≤ 2 ^ 65 := by decide
  rw [hdelays.getElem_eq h.backoff_ne_zero 0 hfirst, Nat.pow_zero, Nat.mul_one, Nat.min_eq_left (Nat.le_of_lt hrest),
    Nat.min_eq_right (Nat.le_trans hlongest hbase)]
  exact Nat.mul_lt_mul_of_pos_right hrest (by decide)

theorem forall_le_nanos_iff (hbackoff : policy.backoff ≠ .zero)
    : (∀ delay ∈ policy.delays, (Duration.ofMillis (min policy.baseMillis longestMillis)).nanos ≤ delay.nanos)
        ↔ ¬policy.Truncated := by
  refine ⟨fun hle htruncated => ?_, fun h => (doubles_baseMillis h).le_nanos hbackoff⟩
  have ⟨delay, hdelay, hlt⟩ := htruncated.exists_nanos_lt
  exact Nat.not_le_of_lt hlt (hle delay hdelay)

theorem doubles_baseMillis_iff (policy : RetryPolicy)
    : policy.Doubles policy.baseMillis policy.delays ↔ ¬policy.Truncated := by
  refine ⟨fun h htruncated => ?_, doubles_baseMillis⟩
  have hbackoff := htruncated.backoff_ne_zero
  exact (forall_le_nanos_iff hbackoff).mp (h.le_nanos hbackoff) htruncated

end

/--
There are as many delays as retries, they never decrease and never exceed the longest wait. They double from what is
left of the backoff modulo 2^65 milliseconds. That is from the backoff itself, and no delay is shorter than it, just if
the policy is not truncated.
-/
theorem delays_doubles_iff (policy : RetryPolicy)
    : policy.Doubles (policy.baseMillis % 2 ^ 65) policy.delays
        ∧ (policy.Doubles policy.baseMillis policy.delays ↔ ¬policy.Truncated)
        ∧ policy.delays.Pairwise (·.nanos ≤ ·.nanos)
        ∧ (∀ delay ∈ policy.delays, delay.nanos ≤ (Duration.ofMillis longestMillis).nanos)
        ∧ (policy.backoff ≠ .zero →
          ((∀ delay ∈ policy.delays, (Duration.ofMillis (min policy.baseMillis longestMillis)).nanos ≤ delay.nanos)
            ↔ ¬policy.Truncated)) := by
  have hdelays := doubles_delays policy
  exact ⟨hdelays, doubles_baseMillis_iff policy, hdelays.nanos_mono, hdelays.nanos_le, forall_le_nanos_iff⟩

namespace Overlong

/-- Two retries of 2^65 milliseconds and more, which is a span that 64 bits of seconds can hold. -/
def policy : RetryPolicy := .ofTotal 2 ⟨36893488147419103232 * 1000000⟩

theorem delays_do_not_double :
    policy.backoff.seconds < UInt64.size ∧ policy.backoff = .ofMillis (2 ^ 65) ∧ policy.delays = [.zero, .zero]
      ∧ ¬policy.Doubles policy.baseMillis policy.delays := by
  have hdelays : policy.delays = [.zero, .zero] := by decide
  refine ⟨by decide, by decide, hdelays, fun h => ?_⟩
  have hfirst := h.getElem_eq (by decide) 0 (by rw [hdelays]; exact Nat.two_pos)
  simp only [hdelays, List.getElem_cons_zero] at hfirst
  exact absurd hfirst (by decide)

end Overlong

namespace Patient

/-- Three retries of a backoff that doubles beyond the longest wait. -/
def policy : RetryPolicy := .ofTotal 3 (.ofSeconds 45)

theorem delays_double :
    policy.backoff ≠ .zero ∧ ¬policy.Truncated ∧ policy.delays = [.ofSeconds 45, .ofSeconds 90, .ofSeconds 120]
      ∧ (∀ delay ∈ policy.delays, (Duration.ofMillis (min policy.baseMillis longestMillis)).nanos ≤ delay.nanos)
      ∧ policy.Doubles policy.baseMillis policy.delays := by
  have hbackoff : policy.backoff ≠ .zero := by decide
  have htruncated : ¬policy.Truncated := by decide
  have ⟨_, hdoubles, _, _, hle⟩ := delays_doubles_iff policy
  exact ⟨hbackoff, htruncated, by decide, (hle hbackoff).mpr htruncated, hdoubles.mpr htruncated⟩

end Patient
end RetryPolicy
end BeaconSentry
