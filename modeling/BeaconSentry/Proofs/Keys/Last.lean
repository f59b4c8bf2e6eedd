import Mathlib.Data.List.Basic
import Mathlib.Tactic.Tauto

/-!
This module contains the last one of a list that has a property, which is what counts in a map that is filled from the
list in order.
-/

namespace BeaconSentry

variable {α β κ ν σ : Type}

/-- The last one in a list of those that have a property. -/
def IsLast (p : α → Prop) (xs : List α) (x : α) : Prop :=
  ∃ earlier later, xs = earlier ++ x :: later ∧ p x ∧ ∀ y ∈ later, ¬p y

section

variable {p : α → Prop}

theorem IsLast.holds {xs : List α} {x : α} (h : IsLast p xs x) : p x := by
  obtain ⟨_, _, _, hp, _⟩ := h
  exact hp

theorem not_isLast_nil (x : α) : ¬IsLast p [] x := by
  intro ⟨earlier, later, heq, _⟩
  cases earlier <;> cases heq

theorem isLast_cons_iff {x y : α} {xs : List α} :
    IsLast p (x :: xs) y ↔ IsLast p xs y ∨ y = x ∧ p x ∧ ∀ z ∈ xs, ¬p z := by
  constructor
  . intro ⟨earlier, later, heq, hp, hlater⟩
    cases earlier with
    | nil =>
      cases heq
      exact .inr ⟨rfl, hp, hlater⟩
    | cons first earlier =>
      cases heq
      exact .inl ⟨earlier, later, rfl, hp, hlater⟩
  . rintro (⟨earlier, later, rfl, hp, hlater⟩ | ⟨rfl, hp, hlater⟩)
    . exact ⟨x :: earlier, later, rfl, hp, hlater⟩
    . exact ⟨[], xs, rfl, hp, hlater⟩

theorem isLast_append_iff {xs ys : List α} {z : α} :
    IsLast p (xs ++ ys) z ↔ IsLast p ys z ∨ IsLast p xs z ∧ ∀ y ∈ ys, ¬p y := by
  induction xs with
  | nil => simp [not_isLast_nil]
  | cons x xs ih =>
    rw [List.cons_append, isLast_cons_iff, isLast_cons_iff, ih, List.forall_mem_append]
    tauto

theorem isLast_singleton_iff {x y : α} : IsLast p [x] y ↔ x = y ∧ p y := by
  rw [isLast_cons_iff]
  constructor
  . rintro (h | ⟨rfl, hp, _⟩)
    . exact absurd h (not_isLast_nil y)
    . exact ⟨rfl, hp⟩
  . rintro ⟨rfl, hp⟩
    exact .inr ⟨rfl, hp, List.forall_mem_nil _⟩

theorem exists_isLast_iff {xs : List α} : (∃ x, IsLast p xs x) ↔ ∃ x ∈ xs, p x := by
  constructor
  . rintro ⟨x, earlier, later, rfl, hp, _⟩
    exact ⟨x, List.mem_append_right _ (List.mem_cons_self ..), hp⟩
  . intro h
    induction xs with
    | nil =>
      obtain ⟨x, hmem, _⟩ := h
      cases hmem
    | cons x xs ih =>
      by_cases hrest : ∃ y ∈ xs, p y
      . obtain ⟨y, hlast⟩ := ih hrest
        exact ⟨y, isLast_cons_iff.mpr (.inl hlast)⟩
      . have hx : p x := by
          rcases (List.exists_mem_cons_iff ..).mp h with hx | hrest'
          . exact hx
          . exact absurd hrest' hrest
        exact ⟨x, isLast_cons_iff.mpr (.inr ⟨rfl, hx, fun y hmem hy => hrest ⟨y, hmem, hy⟩⟩)⟩

/-- The last one in the parts of a list is the last one in the last part that has any. -/
theorem isLast_flatMap_iff {f : β → List α} {xs : List β} {y : α} :
    IsLast p (xs.flatMap f) y ↔ ∃ x, IsLast (fun x => ∃ z ∈ f x, p z) xs x ∧ IsLast p (f x) y := by
  induction xs with
  | nil => simp [not_isLast_nil]
  | cons x xs ih =>
    have hx (h : IsLast p (f x) y) : ∃ z ∈ f x, p z := exists_isLast_iff.mp ⟨y, h⟩
    have hrest : (∀ z ∈ xs.flatMap f, ¬p z) ↔ ∀ x ∈ xs, ¬∃ z ∈ f x, p z := by
      simp only [List.forall_mem_flatMap, not_exists, not_and]
    rw [List.flatMap_cons, isLast_append_iff, ih, hrest]
    simp only [isLast_cons_iff, or_and_right, exists_or, and_assoc, exists_eq_left]
    exact or_congr_right ⟨fun ⟨hy, hnone⟩ => ⟨hx hy, hnone, hy⟩, fun ⟨_, hnone, hy⟩ => ⟨hy, hnone⟩⟩

theorem isLast_map_iff {f : β → α} {xs : List β} {y : α} :
    IsLast p (xs.map f) y ↔ ∃ x, IsLast (fun x => p (f x)) xs x ∧ f x = y := by
  simp only [List.map_eq_flatMap, isLast_flatMap_iff, isLast_singleton_iff, List.mem_singleton, exists_eq_left]
  constructor
  . rintro ⟨x, hlast, heq, _⟩
    exact ⟨x, hlast, heq⟩
  . rintro ⟨x, hlast, rfl⟩
    exact ⟨x, hlast, rfl, hlast.holds⟩

theorem isLast_filterMap_iff {f : β → Option α} {xs : List β} {y : α} :
    IsLast p (xs.filterMap f) y ↔ ∃ x, IsLast (fun x => ∃ z ∈ f x, p z) xs x ∧ f x = some y := by
  simp only [List.filterMap_eq_flatMap_toList, isLast_flatMap_iff, Option.mem_toList]
  constructor
  . intro ⟨x, hlast, hy⟩
    refine ⟨x, hlast, ?_⟩
    cases hfx : f x with
    | none =>
      rw [hfx] at hy
      exact absurd hy (not_isLast_nil y)
    | some z =>
      rw [hfx] at hy
      rw [(isLast_singleton_iff.mp hy).1]
  . intro ⟨x, hlast, hy⟩
    have ⟨z, hz, hp⟩ := hlast.holds
    cases hy.symm.trans hz
    refine ⟨x, hlast, ?_⟩
    rw [hy]
    exact isLast_singleton_iff.mpr ⟨rfl, hp⟩

/-- In a list whose order is that of a relation, the last one is the one that is before no other one. -/
theorem isLast_iff_of_pairwise {r : α → α → Prop} {xs : List α} {x : α} (hxs : xs.Pairwise r)
    (hasymm : ∀ x y, r x y → ¬r y x)
    : IsLast p xs x ↔ x ∈ xs ∧ p x ∧ ∀ y ∈ xs, p y → ¬r x y := by
  constructor
  . rintro ⟨earlier, later, rfl, hp, hlater⟩
    rw [List.pairwise_append] at hxs
    refine ⟨List.mem_append_right _ (List.mem_cons_self ..), hp, ?_⟩
    intro y hmem hy hxy
    rw [List.mem_append, List.mem_cons] at hmem
    rcases hmem with hearlier | rfl | hmem
    . exact hasymm x y hxy (hxs.2.2 y hearlier x (List.mem_cons_self ..))
    . exact hasymm y y hxy hxy
    . exact hlater y hmem hy
  . intro ⟨hmem, hp, hlast⟩
    obtain ⟨earlier, later, rfl⟩ := List.append_of_mem hmem
    rw [List.pairwise_append, List.pairwise_cons] at hxs
    refine ⟨earlier, later, rfl, hp, ?_⟩
    intro y hlater hy
    exact hlast y (List.mem_append_right _ (List.mem_cons_of_mem _ hlater)) hy (hxs.2.1.1 y hlater)

end

/-- A map that is filled from a list holds for each key what the last entry for it says. -/
theorem lookup_foldl_eq_some_iff (lookup : σ → κ → Option ν) {enter : σ → α → σ} {key : α → κ} {value : α → ν}
    (henter : ∀ map x k v, lookup (enter map x) k = some v
      ↔ key x = k ∧ value x = v ∨ key x ≠ k ∧ lookup map k = some v)
    (map : σ) (xs : List α) (k : κ) (v : ν)
    : lookup (xs.foldl enter map) k = some v
        ↔ (∃ x, IsLast (fun x => key x = k) xs x ∧ value x = v)
          ∨ (∀ x ∈ xs, key x ≠ k) ∧ lookup map k = some v := by
  induction xs generalizing map with
  | nil => simp [not_isLast_nil]
  | cons x xs ih =>
    rw [List.foldl_cons, ih, henter, List.forall_mem_cons]
    simp only [isLast_cons_iff, or_and_right, exists_or, and_assoc, exists_eq_left, or_assoc, and_or_left,
      and_left_comm, ne_eq]

end BeaconSentry
