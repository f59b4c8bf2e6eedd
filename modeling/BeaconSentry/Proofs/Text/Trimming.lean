import BeaconSentry.Proofs.Text.Casing
import Mathlib.Data.List.DropRight

/-!
This module contains the laws of trimming: blanks at the ends do not count, and a text that is trimmed stays so in small
letters.
-/

namespace BeaconSentry
namespace Text

/-- There is no blank at either end. -/
structure IsTrimmed (cs : List Char) : Prop where
  head : ∀ c ∈ cs.head?, isBlank c = false
  last : ∀ c ∈ cs.getLast?, isBlank c = false

theorem IsTrimmed.trimList_eq {cs : List Char} (h : IsTrimmed cs) : trimList cs = cs := by
  have hhead : cs.dropWhile isBlank = cs := by
    cases cs with
    | nil => rfl
    | cons c rest => exact List.dropWhile_cons_of_neg (by simp [h.head c rfl])
  have hlast : cs.rdropWhile isBlank = cs := by
    refine List.rdropWhile_eq_self_iff.mpr fun hne => ?_
    rw [h.last _ (List.getLast?_eq_some_getLast hne)]
    exact Bool.false_ne_true
  rw [trimList, hhead]
  exact hlast

theorem isBlank_of_mem_head?_dropWhile (cs : List Char) : ∀ c ∈ (cs.dropWhile isBlank).head?, isBlank c = false := by
  intro c hc
  have hhead := List.head?_dropWhile_not isBlank cs
  rw [Option.mem_def.mp hc] at hhead
  exact hhead

theorem isTrimmed_trimList (cs : List Char) : IsTrimmed (trimList cs) where
  head := by
    -- What is taken off the end leaves the head as it is, unless it takes everything.
    obtain ⟨taken, htaken⟩ : trimList cs <+: cs.dropWhile isBlank := List.rdropWhile_prefix isBlank _
    intro c hc
    apply isBlank_of_mem_head?_dropWhile cs
    rw [← htaken, List.head?_append, hc]
    rfl
  last := by
    rw [trimList, List.getLast?_reverse]
    exact isBlank_of_mem_head?_dropWhile _

theorem trimList_pad {before after : List Char} (cs : List Char) (hbefore : ∀ c ∈ before, isBlank c = true)
    (hafter : ∀ c ∈ after, isBlank c = true) : trimList (before ++ cs ++ after) = trimList cs := by
  unfold trimList
  rw [List.append_assoc, List.dropWhile_append_of_pos hbefore, List.dropWhile_append]
  split
  . next hnil =>
    rw [List.isEmpty_iff.mp hnil, List.dropWhile_eq_nil_iff.mpr hafter]
  . rw [List.reverse_append, List.dropWhile_append_of_pos fun c hc => hafter c (List.mem_reverse.mp hc)]

theorem trimList_map_toLower (cs : List Char) : trimList (cs.map Char.toLower) = (trimList cs).map Char.toLower := by
  have hblank : isBlank ∘ Char.toLower = isBlank := funext isBlank_toLower
  unfold trimList
  simp only [List.dropWhile_map, hblank, ← List.map_reverse]

theorem IsTrimmed.lowerList {cs : List Char} (h : IsTrimmed cs) : IsTrimmed (lowerList cs) where
  head := isBlank_of_mem_head?_go h.head
  last := isBlank_of_mem_getLast?_go h.last

end Text
end BeaconSentry
