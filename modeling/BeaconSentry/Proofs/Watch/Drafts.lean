import BeaconSentry.Proofs.Watch.Groups
import BeaconSentry.Watch.Consolidations
import BeaconSentry.Watch.Exits
import BeaconSentry.Watch.Slashings
import BeaconSentry.Watch.Withdrawals
import Mathlib.Data.List.Perm.Subperm

/-!
This module contains what tells apart the drafts that one handler writes about one head.
-/

namespace BeaconSentry
namespace Watch

open Beacon Exit

/-- Neither the kinds nor the annotations of two drafts are the same. -/
structure Draft.Apart (one other : Draft) : Prop where
  kind_ne : one.kind ≠ other.kind
  annotations_ne : one.annotations ≠ other.annotations

/-- At most one draft, which is of some kind and has a summary that opens in some way. -/
structure AtMostOne (kind : AlertKind) (opening : String) (drafts : List Draft) : Prop where
  length_le : drafts.length ≤ 1
  kind_eq : ∀ draft ∈ drafts, draft.kind = kind
  summary_eq : ∀ draft ∈ drafts, ∃ rest, draft.annotations.summary = opening ++ rest

namespace AtMostOne

variable {kind kind' : AlertKind} {opening opening' : String} {drafts drafts' : List Draft}

theorem nil (kind : AlertKind) (opening : String) : AtMostOne kind opening [] :=
  ⟨by simp, by simp, by simp⟩

theorem singleton {draft : Draft} {rest : String} (hkind : draft.kind = kind)
    (hsummary : draft.annotations.summary = opening ++ rest) : AtMostOne kind opening [draft] := by
  refine ⟨by simp, ?_, ?_⟩
  . rw [List.forall_mem_singleton]
    exact hkind
  . rw [List.forall_mem_singleton]
    exact ⟨rest, hsummary⟩

theorem pairwise (h : AtMostOne kind opening drafts) : drafts.Pairwise Draft.Apart := by
  have := h.length_le
  match drafts with
  | [] => exact .nil
  | [draft] => exact List.pairwise_singleton _ draft

theorem append_ne_append {rest rest' : String} (n : Nat) (hle : n ≤ opening.length) (hle' : n ≤ opening'.length)
    (h : opening.toList.take n ≠ opening'.toList.take n) : opening ++ rest ≠ opening' ++ rest' := by
  intro heq
  apply h
  have htake := congrArg (·.toList.take n) heq
  simp only [String.toList_append] at htake
  rw [List.take_append_of_le_length hle, List.take_append_of_le_length hle'] at htake
  exact htake

theorem apart (h : AtMostOne kind opening drafts) (h' : AtMostOne kind' opening' drafts') (hkind : kind ≠ kind')
    (n : Nat) (hle : n ≤ opening.length) (hle' : n ≤ opening'.length)
    (hopening : opening.toList.take n ≠ opening'.toList.take n)
    : ∀ draft ∈ drafts, ∀ draft' ∈ drafts', draft.Apart draft' := by
  intro draft hmem draft' hmem'
  constructor
  . rw [h.kind_eq draft hmem, h'.kind_eq draft' hmem']
    exact hkind
  . intro heq
    have ⟨rest, hsummary⟩ := h.summary_eq draft hmem
    have ⟨rest', hsummary'⟩ := h'.summary_eq draft' hmem'
    rw [heq, hsummary'] at hsummary
    exact append_ne_append n hle' hle hopening.symm hsummary

end AtMostOne

namespace Slashing

theorem atMostOne_ownedDraft (settings : Settings) (slot : Slot) (owned : List (String × Duty × ValidatorIndex)) :
    AtMostOne ownedKind "🚨🚨🚨 " (ownedDraft settings slot owned) := by
  unfold ownedDraft
  split
  . exact .nil ..
  . exact .singleton rfl (by simp only [String.append_assoc]; rfl)

theorem atMostOne_foreignDraft (settings : Settings) (slot : Slot) (kind : AlertKind) (opening rest : String)
    (slashed : List (Duty × ValidatorIndex)) :
    AtMostOne kind opening (foreignDraft settings slot kind (opening ++ rest) slashed) := by
  unfold foreignDraft
  split
  . exact .nil ..
  . exact .singleton rfl rfl

/-- The three drafts, each of which may be missing. -/
theorem exists_drafts_eq (settings : Settings) (state : State) (head : Head) :
    ∃ owned unknown other, drafts settings state head = owned ++ unknown ++ other
      ∧ AtMostOne ownedKind "🚨🚨🚨 " owned ∧ AtMostOne unknownKind "🚨 " unknown
      ∧ AtMostOne otherKind "\u2139\ufe0f " other := by
  refine ⟨_, _, _, rfl, atMostOne_ownedDraft .., ?_, ?_⟩
  . rw [String.append_assoc]
    exact atMostOne_foreignDraft ..
  . rw [String.append_assoc]
    exact atMostOne_foreignDraft ..

theorem pairwise_drafts (settings : Settings) (state : State) (head : Head) :
    (drafts settings state head).Pairwise Draft.Apart := by
  have ⟨owned, unknown, other, heq, howned, hunknown, hother⟩ := exists_drafts_eq settings state head
  rw [heq, List.pairwise_append, List.pairwise_append]
  refine ⟨⟨howned.pairwise, hunknown.pairwise, ?_⟩, hother.pairwise, ?_⟩
  . exact howned.apart hunknown (by decide) 2 (by decide) (by decide) (by decide)
  . intro draft hmem
    rw [List.mem_append] at hmem
    cases hmem with
    | inl hmem => exact howned.apart hother (by decide) 1 (by decide) (by decide) (by decide) draft hmem
    | inr hmem => exact hunknown.apart hother (by decide) 1 (by decide) (by decide) (by decide) draft hmem

end Slashing
namespace ExitWatch

theorem atMostOne_unexpectedDraft (settings : Settings) (slot : Slot) (unexpected : List (String × ValidatorIndex)) :
    AtMostOne unexpectedKind "🚨🚨🚨 " (unexpectedDraft settings slot unexpected) := by
  unfold unexpectedDraft
  split
  . exact .nil ..
  . exact .singleton rfl (by simp only [String.append_assoc]; rfl)

theorem atMostOne_unknownDraft (settings : Settings) (slot : Slot) (unknown : List ValidatorIndex) :
    AtMostOne unknownKind "🚨 " (unknownDraft settings slot unknown) := by
  unfold unknownDraft
  split
  . exact .nil ..
  . exact .singleton rfl (by simp only [Draft.plain, String.append_assoc]; rfl)

theorem pairwise_drafts (settings : Settings) (state : State) (head : Head) (disabledModules : List UInt64)
    (requests : ExitCache) : (drafts settings state head disabledModules requests).Pairwise Draft.Apart := by
  unfold drafts
  rw [List.pairwise_append]
  refine ⟨(atMostOne_unexpectedDraft ..).pairwise, (atMostOne_unknownDraft ..).pairwise, ?_⟩
  exact (atMostOne_unexpectedDraft ..).apart (atMostOne_unknownDraft ..) (by decide) 2 (by decide) (by decide)
    (by decide)

end ExitWatch

theorem pairwise_map_groupByKey {κ ν : Type} [BEq κ] [LawfulBEq κ] {write : κ × List ν → Draft}
    (hkind : ∀ group other, (write group).kind = (write other).kind → group.1 = other.1)
    (hsummary : ∀ group other,
      (write group).annotations.summary = (write other).annotations.summary → group.1 = other.1)
    (items : List (κ × ν))
    : ((groupByKey items).map write).Pairwise Draft.Apart := by
  rw [List.pairwise_map]
  have hkeys := nodup_keys_groupByKey items
  rw [List.nodup_iff_pairwise_ne, List.pairwise_map] at hkeys
  apply hkeys.imp
  intro group other hne
  constructor
  . exact fun heq => hne (hkind group other heq)
  . exact fun heq => hne (hsummary group other (congrArg (·.summary) heq))

namespace WithdrawalCategory

theorem kind_injective {one other : WithdrawalCategory} (h : one.kind = other.kind) : one = other := by
  cases one <;> cases other <;> first | rfl | exact absurd h (by decide)

theorem summary_injective {one other : WithdrawalCategory} (h : one.summary = other.summary) : one = other := by
  cases one <;> cases other <;> first | rfl | exact absurd h (by decide)

theorem pairwise_drafts (settings : Settings) (state : State) (head : Head) :
    (drafts settings state head).Pairwise Draft.Apart := by
  apply pairwise_map_groupByKey
  . intro _ _ heq
    exact kind_injective heq
  . intro _ _ heq
    exact summary_injective heq

end WithdrawalCategory

namespace ConsolidationCategory

theorem kind_injective {one other : ConsolidationCategory} (h : one.kind = other.kind) : one = other := by
  cases one <;> cases other <;> first | rfl | exact absurd h (by decide)

theorem summary_injective {one other : ConsolidationCategory} (h : one.summary = other.summary) : one = other := by
  cases one <;> cases other <;> first | rfl | exact absurd h (by decide)

theorem pairwise_drafts (settings : Settings) (state : State) (head : Head) :
    (drafts settings state head).Pairwise Draft.Apart := by
  apply pairwise_map_groupByKey
  . intro _ _ heq
    exact kind_injective heq
  . intro _ _ heq
    exact summary_injective heq

end ConsolidationCategory

theorem nodup_annotations_of_pairwise {drafts : List Draft} (h : drafts.Pairwise Draft.Apart) :
    (drafts.map (·.annotations)).Nodup := by
  rw [List.nodup_iff_pairwise_ne, List.pairwise_map]
  exact h.imp (·.annotations_ne)

theorem length_le_of_pairwise {drafts : List Draft} {kinds : List AlertKind} (h : drafts.Pairwise Draft.Apart)
    (hkinds : ∀ draft ∈ drafts, draft.kind ∈ kinds) : drafts.length ≤ kinds.length := by
  -- The kinds of the drafts differ, so there are no more of them than there are kinds.
  have hnodup : (drafts.map (·.kind)).Nodup := by
    rw [List.nodup_iff_pairwise_ne, List.pairwise_map]
    exact h.imp (·.kind_ne)
  have hsubset : drafts.map (·.kind) ⊆ kinds := by
    intro kind hmem
    obtain ⟨draft, hdraft, rfl⟩ := List.mem_map.mp hmem
    exact hkinds draft hdraft
  rw [← List.length_map (·.kind)]
  exact (hnodup.subperm hsubset).length_le

end Watch
end BeaconSentry
