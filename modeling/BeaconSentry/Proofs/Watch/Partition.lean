import BeaconSentry.Proofs.Watch.Groups

/-!
This module contains the law of grouping as a stable partition: nothing is lost or doubled, keys that count as equal
have one group, and what the groups hold falls into the same groups again. Keys that count as equal need not be the same.
-/

namespace BeaconSentry
namespace Watch

variable {κ ν : Type}

/-- The values of some groups, each under the key of its group. -/
def ungroup (groups : List (κ × List ν)) : List (κ × ν) :=
  groups.flatMap fun group => group.2.map (group.1, ·)

theorem ungroup_cons (group : κ × List ν) (groups : List (κ × List ν))
    : ungroup (group :: groups) = group.2.map (group.1, ·) ++ ungroup groups :=
  List.flatMap_cons

theorem mem_keys_of_mem_ungroup {groups : List (κ × List ν)} {item : κ × ν} (h : item ∈ ungroup groups)
    : item.1 ∈ groups.map (·.1) := by
  obtain ⟨group, hgroup, hitem⟩ := List.mem_flatMap.mp h
  obtain ⟨value, _, rfl⟩ := List.mem_map.mp hitem
  exact List.mem_map_of_mem hgroup

/-- The groups of some keyed values, where keys are told apart by a test. -/
structure Partitions [BEq κ] (items : List (κ × ν)) (groups : List (κ × List ν)) : Prop where
  /-- There is one group for each key, in the order in which the keys occur first. -/
  keys_eq : groups.map (·.1) = (items.map (·.1)).eraseDups
  keys_ne : (groups.map (·.1)).Pairwise fun key other => (key == other) = false
  values_ne_nil : ∀ group ∈ groups, group.2 ≠ []
  /-- A group has the values of its key, in the order in which they occur. -/
  values_eq : ∀ group ∈ groups, group.2 = (items.filter (group.1 == ·.1)).map (·.2)
  /-- The groups have as many values of a kind under a key as there are. -/
  countP_eq : ∀ (key : κ) (p : ν → Bool),
    (ungroup groups).countP (fun item => key == item.1 && p item.2)
      = items.countP (fun item => key == item.1 && p item.2)
  /-- If only keys that are the same count as equal, the groups have just the keyed values. -/
  perm : LawfulBEq κ → (ungroup groups).Perm items
  regrouped : groupByKey (ungroup groups) = groups

section

variable [BEq κ]

theorem pairwise_keys_groupByKey (items : List (κ × ν))
    : ((groupByKey items).map (·.1)).Pairwise fun key other => (key == other) = false := by
  induction items using groupByKey_induction with
  | nil => exact .nil
  | cons key value rest ih =>
    rw [groupByKey_cons, List.map_cons, List.pairwise_cons]
    refine ⟨fun other hother => ?_, ih⟩
    obtain ⟨group, hgroup, rfl⟩ := List.mem_map.mp hother
    exact beq_eq_false_of_mem_groupByKey hgroup

theorem values_ne_nil_of_mem_groupByKey (items : List (κ × ν)) : ∀ group ∈ groupByKey items, group.2 ≠ [] := by
  induction items using groupByKey_induction with
  | nil => nofun
  | cons key value rest ih =>
    rw [groupByKey_cons]
    exact List.forall_mem_cons.mpr ⟨List.cons_ne_nil _ _, ih⟩

end

/-- Groups with values whose keys are told apart are those of their values. -/
theorem groupByKey_ungroup [BEq κ] [ReflBEq κ] {groups : List (κ × List ν)}
    (hkeys : (groups.map (·.1)).Pairwise fun key other => (key == other) = false)
    (hvalues : ∀ group ∈ groups, group.2 ≠ []) : groupByKey (ungroup groups) = groups := by
  induction groups with
  | nil => rfl
  | cons group rest ih =>
    obtain ⟨key, values⟩ := group
    rw [List.map_cons, List.pairwise_cons] at hkeys
    rw [List.forall_mem_cons] at hvalues
    obtain ⟨value, values, rfl⟩ := List.exists_cons_of_ne_nil hvalues.1
    have hother : ∀ item ∈ ungroup rest, (key == item.1) = false :=
      fun item hitem => hkeys.1 item.1 (mem_keys_of_mem_ungroup hitem)
    have hsame : (values.map (key, ·) ++ ungroup rest).filter (key == ·.1) = values.map (key, ·) := by
      rw [List.filter_append, List.filter_eq_self.mpr (by simp), List.filter_eq_nil_iff.mpr (by simpa using hother),
        List.append_nil]
    have hrest : (values.map (key, ·) ++ ungroup rest).filter (!key == ·.1) = ungroup rest := by
      rw [List.filter_append, List.filter_eq_nil_iff.mpr (by simp), List.filter_eq_self.mpr (by simpa using hother),
        List.nil_append]
    have hback : (values.map (key, ·)).map (·.2) = values := by
      rw [List.map_map]
      exact List.map_id values
    rw [ungroup_cons, List.map_cons, List.cons_append, groupByKey_cons, hsame, hrest, hback, ih hkeys.2 hvalues.2]

/-- Values that have a key count under each key that counts as equal to it. -/
theorem countP_ungroup_groupByKey [BEq κ] [EquivBEq κ] (items : List (κ × ν)) (key : κ) (p : ν → Bool)
    : (ungroup (groupByKey items)).countP (fun item => key == item.1 && p item.2)
        = items.countP (fun item => key == item.1 && p item.2) := by
  induction items using groupByKey_induction with
  | nil => rfl
  | cons first value rest ih =>
    have hfirst : ((rest.filter (first == ·.1)).map fun item => (first, item.2)).countP
          (fun item => key == item.1 && p item.2)
        = (rest.filter (first == ·.1)).countP (fun item => key == item.1 && p item.2) := by
      rw [List.countP_map]
      apply List.countP_congr
      intro item hitem
      rw [Function.comp_apply, BEq.congr_right (List.mem_filter.mp hitem).2]
    have hsplit := List.countP_eq_countP_filter_add rest (fun item => key == item.1 && p item.2) (first == ·.1)
    rw [groupByKey_cons, ungroup_cons, List.map_cons, List.map_map, List.cons_append, List.countP_cons,
      List.countP_cons, List.countP_append, ih, hsplit, ← hfirst]
    rfl

/--
Grouping by a test of keys that is an equivalence is a stable partition of any keyed values, and the groups are those of
their own values.
-/
theorem groupByKey_partitions [BEq κ] [EquivBEq κ] (items : List (κ × ν)) : Partitions items (groupByKey items) where
  keys_eq := keys_groupByKey items
  keys_ne := pairwise_keys_groupByKey items
  values_ne_nil := values_ne_nil_of_mem_groupByKey items
  values_eq := values_groupByKey items
  countP_eq := countP_ungroup_groupByKey items
  perm _ := perm_groupByKey items
  regrouped := groupByKey_ungroup (pairwise_keys_groupByKey items) (values_ne_nil_of_mem_groupByKey items)

namespace Epochs

/-- A slot that counts as equal to all slots of its epoch. -/
structure EpochSlot where
  slot : Nat
  deriving DecidableEq

instance : BEq EpochSlot := ⟨fun one other => one.slot / 32 == other.slot / 32⟩

theorem beq_iff {one other : EpochSlot} : (one == other) = true ↔ one.slot / 32 = other.slot / 32 :=
  (beq_iff_eq : (one.slot / 32 == other.slot / 32) = true ↔ _)

instance : EquivBEq EpochSlot where
  rfl := beq_iff.mpr rfl
  symm h := beq_iff.mpr (beq_iff.mp h).symm
  trans h h' := beq_iff.mpr ((beq_iff.mp h).trans (beq_iff.mp h'))

def items : List (EpochSlot × String) := [(⟨5⟩, "b"), (⟨40⟩, "c"), (⟨7⟩, "a"), (⟨41⟩, "c"), (⟨5⟩, "b")]

theorem groupByKey_partitions_epochs :
    groupByKey items = [(⟨5⟩, ["b", "a", "b"]), (⟨40⟩, ["c", "c"])] ∧ Partitions items (groupByKey items) :=
  ⟨by decide, groupByKey_partitions items⟩

end Epochs
end Watch
end BeaconSentry
