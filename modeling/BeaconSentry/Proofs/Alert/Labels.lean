import BeaconSentry.Alert.Wire
import BeaconSentry.Proofs.Json.Records
import BeaconSentry.Proofs.Keys.Last

/-!
This module contains what the labels of an alert come to when they are put side by side: the further labels stand last,
so that one of them which is called like a fixed label takes its place.
-/

namespace BeaconSentry

open Json

namespace Labels

variable {labels : Labels} {name value : String}

theorem getElem?_ofList_eq_some_iff {pairs : List (String × String)}
    : (Labels.ofList pairs)[name]? = some value ↔ ∃ pair, IsLast (·.1 = name) pairs pair ∧ pair.2 = value := by
  have hinsert (labels : Labels) (pair : String × String) (name value : String)
      : (labels.insert pair.1 pair.2)[name]? = some value
        ↔ pair.1 = name ∧ pair.2 = value ∨ pair.1 ≠ name ∧ labels[name]? = some value := by
    rw [Std.TreeMap.getElem?_insert]
    split
    . next heq =>
      rw [Std.compare_eq_iff_eq] at heq
      simp [heq]
    . next hne =>
      rw [Std.compare_eq_iff_eq] at hne
      simp [hne]
  have hlookup := lookup_foldl_eq_some_iff (fun (labels : Labels) name => labels[name]?) hinsert ∅ pairs name value
  rw [Std.TreeMap.getElem?_emptyc] at hlookup
  simpa [Labels.ofList] using hlookup

/-- The pairs of a map are in the order of their names, none of which stands twice. -/
theorem isLast_toList_iff {pair : String × String}
    : IsLast (·.1 = name) labels.toList pair ↔ pair.1 = name ∧ labels[name]? = some pair.2 := by
  have hlt (first second : String × String) : compare first.1 second.1 = .lt → ¬compare second.1 first.1 = .lt := by
    intro hlt hgt
    rw [Std.OrientedCmp.gt_of_lt hlt] at hgt
    cases hgt
  rw [isLast_iff_of_pairwise Std.TreeMap.ordered_keys_toList hlt]
  constructor
  . rintro ⟨hmem, rfl, _⟩
    exact ⟨rfl, Std.TreeMap.mem_toList_iff_getElem?_eq_some.mp hmem⟩
  . rintro ⟨rfl, hvalue⟩
    refine ⟨Std.TreeMap.mem_toList_iff_getElem?_eq_some.mpr hvalue, rfl, ?_⟩
    intro other _ heq
    have hself : compare pair.1 pair.1 = .eq := Std.ReflCmp.compare_self
    rw [heq, hself]
    exact nofun

theorem getElem?_eq_none_iff : labels[name]? = none ↔ name ∉ labels := by
  rw [Std.TreeMap.mem_iff_isSome_getElem?, Option.not_isSome_iff_eq_none]

theorem forall_ne_iff : (∀ pair ∈ labels.toList, pair.1 ≠ name) ↔ name ∉ labels := by
  rw [← getElem?_eq_none_iff, Option.eq_none_iff_forall_not_mem]
  constructor
  . intro h value hvalue
    exact h (name, value) (Std.TreeMap.mem_toList_iff_getElem?_eq_some.mpr hvalue) rfl
  . rintro h pair hmem rfl
    exact h pair.2 (Std.TreeMap.mem_toList_iff_getElem?_eq_some.mp hmem)

theorem ofList_toList (labels : Labels) : (Labels.ofList labels.toList).Equiv labels := by
  apply Std.TreeMap.Equiv.of_forall_constGet?_eq
  intro name
  show (Labels.ofList labels.toList)[name]? = labels[name]?
  ext value
  rw [getElem?_ofList_eq_some_iff]
  simp only [isLast_toList_iff]
  constructor
  . rintro ⟨pair, ⟨_, hvalue⟩, rfl⟩
    exact hvalue
  . intro hvalue
    exact ⟨(name, value), ⟨rfl, hvalue⟩, rfl⟩

/-- The texts of a label object. -/
def members (pairs : List (String × String)) : List (String × Value) :=
  pairs.map fun (name, value) => (name, .text value)

theorem keyed_members (pairs : List (String × String))
    : Value.keyed (members pairs) = pairs.map fun (name, value) => (some name, .text value) := by
  simp [Value.keyed, members]

theorem asMembers_members (pairs : List (String × String))
    : Value.asMembers Value.asText (.object (Value.keyed (members pairs))) = some pairs := by
  simp only [Value.asMembers, keyed_members, List.mapM_map]
  induction pairs with
  | nil => rfl
  | cons pair pairs ih =>
    rw [List.mapM_cons, ih]
    rfl

theorem filter_members (p : Text → Bool) (pairs : List (String × String))
    : (Value.keyed (members pairs)).filter (p ·.1)
        = Value.keyed (members (pairs.filter fun pair => p (some pair.1))) := by
  rw [keyed_members, keyed_members, List.filter_map]
  rfl

theorem find?_toList (name : String) : labels.toList.find? (·.1 == name) = labels[name]?.map (name, ·) := by
  cases hfound : labels.toList.find? (·.1 == name) with
  | none =>
    rw [List.find?_eq_none] at hfound
    have hnone := getElem?_eq_none_iff.mpr (forall_ne_iff.mp fun pair hmem heq =>
      hfound pair hmem (beq_iff_eq.mpr heq))
    rw [hnone, Option.map_none]
  | some pair =>
    have hmem := List.mem_of_find?_eq_some hfound
    have hname := List.find?_some hfound
    rw [beq_iff_eq] at hname
    rw [← hname, Std.TreeMap.mem_toList_iff_getElem?_eq_some.mp hmem, Option.map_some]

theorem member?_members (name : String)
    : Value.member? (Value.keyed (members labels.toList)) name = labels[name]?.map .text := by
  have hfind := labels.find?_toList name
  rw [Value.member?, keyed_members, List.find?_map]
  simp only [Function.comp_def, Option.some_beq_some]
  rw [hfind, Option.map_map, Option.map_map]
  rfl

end Labels

namespace Alert

/-- The labels of an alert with one value for each name. -/
def merged (alert : Alert) : Labels := Labels.ofList alert.labelPairs

/-- The value of a fixed label. -/
def fixed? (alert : Alert) (name : String) : Option String :=
  if name = "alertname" then some alert.name
  else if name = "severity" then some alert.severity.label
  else none

theorem getElem?_merged (alert : Alert) (name : String)
    : alert.merged[name]? = (alert.extra[name]?).or (alert.fixed? name) := by
  ext value
  rw [merged, Labels.getElem?_ofList_eq_some_iff]
  simp only [labelPairs, isLast_cons_iff, Labels.isLast_toList_iff, List.forall_mem_cons, ← ne_eq,
    Labels.forall_ne_iff, ← Labels.getElem?_eq_none_iff]
  cases hextra : alert.extra[name]? with
  | some extra => simp
  | none =>
    by_cases hname : "alertname" = name
    . subst hname
      simp [fixed?]
    . by_cases hseverity : "severity" = name
      . subst hseverity
        simp [fixed?]
      . simp [fixed?, hname, hseverity, Ne.symm hname, Ne.symm hseverity]

end Alert
end BeaconSentry
