import BeaconSentry.Watch.Groups
import Mathlib.Data.List.Basic

/-!
This module contains the theory of grouping: there is one group for each key, in the order in which the keys occur
first, with all values of the key in order.
-/

namespace BeaconSentry
namespace Watch

section

variable {κ ν : Type} [BEq κ]

theorem addToGroups_cons_of_eq {key other : κ} (h : (other == key) = true) (value : ν) (values : List ν)
    (rest : List (κ × List ν))
    : addToGroups key value ((other, values) :: rest) = (other, values ++ [value]) :: rest :=
  if_pos h

theorem addToGroups_cons_of_ne {key other : κ} (h : (other == key) = false) (value : ν) (values : List ν)
    (rest : List (κ × List ν))
    : addToGroups key value ((other, values) :: rest) = (other, values) :: addToGroups key value rest :=
  if_neg (by simp [h])

/-- The first group takes in all values of its key, and those of all other keys go to the groups behind it. -/
theorem foldl_addToGroups_cons (items : List (κ × ν)) (key : κ) (values : List ν) (groups : List (κ × List ν)) :
    items.foldl (fun groups (key, value) => addToGroups key value groups) ((key, values) :: groups)
      = (key, values ++ (items.filter (key == ·.1)).map (·.2))
        :: (items.filter (!key == ·.1)).foldl (fun groups (key, value) => addToGroups key value groups) groups := by
  induction items generalizing values groups with
  | nil => simp
  | cons item rest ih =>
    rcases item with ⟨other, value⟩
    show rest.foldl (fun groups (key, value) => addToGroups key value groups)
      (addToGroups other value ((key, values) :: groups)) = _
    cases hkey : key == other with
    | true =>
      rw [addToGroups_cons_of_eq hkey, ih]
      simp [hkey]
    | false =>
      rw [addToGroups_cons_of_ne hkey, ih]
      simp [hkey]

theorem groupByKey_cons (key : κ) (value : ν) (rest : List (κ × ν)) :
    groupByKey ((key, value) :: rest)
      = (key, value :: (rest.filter (key == ·.1)).map (·.2)) :: groupByKey (rest.filter (!key == ·.1)) :=
  foldl_addToGroups_cons rest key [value] []

/-- What holds of a list if it holds of the list without the items that have the key of the first one. -/
theorem groupByKey_induction {p : List (κ × ν) → Prop} (nil : p [])
    (cons : ∀ key value rest, p (rest.filter (!key == ·.1)) → p ((key, value) :: rest)) (items : List (κ × ν))
    : p items := by
  match items with
  | [] => exact nil
  | (key, value) :: rest =>
    have : (rest.filter (!key == ·.1)).length ≤ rest.length := List.length_filter_le ..
    exact cons key value rest (groupByKey_induction nil cons _)
termination_by items.length

theorem mem_keys_of_mem_groupByKey (items : List (κ × ν)) :
    ∀ group ∈ groupByKey items, group.1 ∈ items.map (·.1) := by
  induction items using groupByKey_induction with
  | nil => nofun
  | cons key value rest ih =>
    rw [groupByKey_cons, List.forall_mem_cons]
    refine ⟨List.mem_cons_self .., ?_⟩
    intro group hmem
    exact List.mem_cons_of_mem _ ((List.filter_sublist.map _).subset (ih group hmem))

/-- No group behind the first one has its key. -/
theorem beq_eq_false_of_mem_groupByKey {key : κ} {rest : List (κ × ν)} {group : κ × List ν}
    (h : group ∈ groupByKey (rest.filter (!key == ·.1))) : (key == group.1) = false := by
  have ⟨item, hitem, heq⟩ := List.mem_map.mp (mem_keys_of_mem_groupByKey _ group h)
  rw [List.mem_filter, heq] at hitem
  simpa using hitem.2

end

section

variable {κ ν : Type} [BEq κ] [EquivBEq κ]

theorem keys_groupByKey (items : List (κ × ν)) : (groupByKey items).map (·.1) = (items.map (·.1)).eraseDups := by
  induction items using groupByKey_induction with
  | nil => rfl
  | cons key value rest ih =>
    rw [groupByKey_cons, List.map_cons, List.map_cons, List.eraseDups_cons, ih, List.filter_map]
    simp only [Function.comp_def, BEq.comm (a := key)]

theorem values_groupByKey (items : List (κ × ν)) :
    ∀ group ∈ groupByKey items, group.2 = (items.filter (group.1 == ·.1)).map (·.2) := by
  induction items using groupByKey_induction with
  | nil => nofun
  | cons key value rest ih =>
    rw [groupByKey_cons, List.forall_mem_cons]
    constructor
    . simp
    . intro group hmem
      have hkey := beq_eq_false_of_mem_groupByKey hmem
      rw [ih group hmem, List.filter_filter, List.filter_cons_of_neg (by simp [BEq.comm, hkey])]
      congr 1
      -- What has the key of this group does not have that of the first one.
      apply List.filter_congr
      intro item _
      cases hitem : group.1 == item.1 with
      | false => rfl
      | true =>
        have hne : (key == item.1) = false := by
          rw [← hkey]
          exact (BEq.congr_right hitem).symm
        rw [hne]
        rfl

end

section

variable {κ ν : Type} [BEq κ] [LawfulBEq κ]

theorem nodup_keys_groupByKey (items : List (κ × ν)) : ((groupByKey items).map (·.1)).Nodup := by
  induction items using groupByKey_induction with
  | nil => exact List.nodup_nil
  | cons key value rest ih =>
    rw [groupByKey_cons, List.map_cons, List.nodup_cons]
    refine ⟨?_, ih⟩
    intro hmem
    have ⟨group, hgroup, heq⟩ := List.mem_map.mp hmem
    have hne := beq_eq_false_of_mem_groupByKey hgroup
    rw [heq, BEq.rfl] at hne
    cases hne

theorem perm_groupByKey (items : List (κ × ν)) :
    ((groupByKey items).flatMap fun group => group.2.map (group.1, ·)).Perm items := by
  induction items using groupByKey_induction with
  | nil => exact .nil
  | cons key value rest ih =>
    have hfirst : ((rest.filter (key == ·.1)).map (·.2)).map (key, ·) = rest.filter (key == ·.1) := by
      rw [List.map_map]
      conv => rhs; rw [← List.map_id (rest.filter _)]
      apply List.map_congr_left
      intro item hmem
      rw [List.mem_filter, beq_iff_eq] at hmem
      rw [hmem.2]
      rfl
    rw [groupByKey_cons, List.flatMap_cons, List.map_cons, hfirst]
    exact .cons _ ((ih.append_left _).trans (List.filter_append_perm ..))

/-- The groups of some keyed values. -/
structure Grouped (items : List (κ × ν)) (groups : List (κ × List ν)) : Prop where
  /-- There is one group for each key, in the order in which the keys occur first. -/
  keys_eq : groups.map (·.1) = (items.map (·.1)).eraseDups
  /-- A group has the values of its key, in the order in which they occur. -/
  values_eq : ∀ group ∈ groups, group.2 = (items.filter (group.1 == ·.1)).map (·.2)
  /-- Together the groups have each value under its key, as often as it occurs. -/
  perm : (groups.flatMap fun group => group.2.map (group.1, ·)).Perm items

theorem grouped_groupByKey (items : List (κ × ν)) : Grouped items (groupByKey items) :=
  ⟨keys_groupByKey items, values_groupByKey items, perm_groupByKey items⟩

end

section

variable {α κ : Type} {isOf : α → κ → Prop} {class? : α → Option κ}

/-- Things with their classes, in order. Things without a class are left out. -/
inductive Classified (isOf : α → κ → Prop) : List α → List (κ × α) → Prop
  | nil : Classified isOf [] []
  | cons {thing : α} {key : κ} {rest : List α} {classified : List (κ × α)} (hkey : isOf thing key)
      (hrest : Classified isOf rest classified) : Classified isOf (thing :: rest) ((key, thing) :: classified)
  | skip {thing : α} {rest : List α} {classified : List (κ × α)} (hkey : ∀ key, ¬isOf thing key)
      (hrest : Classified isOf rest classified) : Classified isOf (thing :: rest) classified

theorem classified_filterMap (hclass : ∀ thing key, class? thing = some key ↔ isOf thing key) (things : List α) :
    Classified isOf things (things.filterMap fun thing => (class? thing).map (·, thing)) := by
  induction things with
  | nil => exact .nil
  | cons thing rest ih =>
    cases hkey : class? thing with
    | none =>
      rw [List.filterMap_cons_none (by rw [hkey]; rfl)]
      refine .skip (fun key hof => ?_) ih
      rw [← hclass, hkey] at hof
      cases hof
    | some key =>
      rw [List.filterMap_cons_some (by rw [hkey]; rfl)]
      exact .cons ((hclass thing key).mp hkey) ih

/-- The groups of some things by their classes. -/
def Filed [BEq κ] (isOf : α → κ → Prop) (things : List α) (groups : List (κ × List α)) : Prop :=
  ∃ classified, Classified isOf things classified ∧ Grouped classified groups

theorem filed_groupByKey [BEq κ] [LawfulBEq κ] (hclass : ∀ thing key, class? thing = some key ↔ isOf thing key)
    (things : List α)
    : Filed isOf things (groupByKey (things.filterMap fun thing => (class? thing).map (·, thing))) :=
  ⟨_, classified_filterMap hclass things, grouped_groupByKey _⟩

end
end Watch
end BeaconSentry
