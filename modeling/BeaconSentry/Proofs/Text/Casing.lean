import BeaconSentry.Text.Blank
import BeaconSentry.Text.Lower
import Mathlib.Data.List.Basic
import Mathlib.Tactic.MkIffOfInductiveProp

/-!
This module contains the laws of lowercasing: small letters stay as they are, the case of ASCII letters does not count,
and nothing becomes blank. That no small letter is a capital letter again, or blank, is looked up letter by letter in
the set of the code points of these.
-/

namespace BeaconSentry
namespace Text

/-- A character that becomes another one in small letters. -/
def isCapital (c : Char) : Bool := c.toNat == 0x130 || capitalRuns.any (·.covers c.toNat)

theorem isCapital_eq_false_iff {c : Char} :
    isCapital c = false ↔ c.toNat ≠ 0x130 ∧ ∀ run ∈ capitalRuns, run.covers c.toNat = false := by
  simp only [isCapital, Bool.or_eq_false_iff, beq_eq_false_iff_ne, List.any_eq_false, Bool.not_eq_true]

/-- The code points of the blank characters. -/
def blankCodes : List Nat :=
  List.range' 0x9 5 ++ [0x20, 0x85, 0xa0, 0x1680] ++ List.range' 0x2000 11 ++ [0x2028, 0x2029, 0x202f, 0x205f, 0x3000]

theorem mem_blankCodes_of_isBlank {c : Char} (h : isBlank c = true) : c.toNat ∈ blankCodes := by
  simp only [isBlank, Bool.or_eq_true, Bool.and_eq_true, decide_eq_true_eq, beq_iff_eq] at h
  simp only [blankCodes, List.mem_append, List.mem_range'_1, List.mem_cons, List.not_mem_nil, or_false]
  omega

/-- The code points of a run. -/
def CapitalRun.codes (run : CapitalRun) : List Nat :=
  (List.range ((run.last - run.first) / run.step + 1)).map fun i => run.first + run.step * i

theorem CapitalRun.mem_codes {run : CapitalRun} {code : Nat} (h : run.covers code = true) : code ∈ run.codes := by
  simp only [covers, Bool.and_eq_true, decide_eq_true_eq, beq_iff_eq] at h
  obtain ⟨⟨hfirst, hlast⟩, hstep⟩ := h
  refine List.mem_map.mpr ⟨(code - run.first) / run.step, List.mem_range.mpr ?_, ?_⟩
  . exact Nat.lt_succ_of_le (Nat.div_le_div_right (Nat.sub_le_sub_right hlast _))
  . rw [Nat.mul_div_cancel' (Nat.dvd_of_mod_eq_zero hstep), Nat.add_sub_cancel' hfirst]

/-- Some code points as the bits of a number, where each one is found at once. -/
def bitSet (codes : List Nat) : Nat := codes.foldr (fun code bits => 1 <<< code ||| bits) 0

theorem testBit_foldr_or {α : Type} (f : α → Nat) (xs : List α) (start n : Nat) :
    (xs.foldr (fun x bits => f x ||| bits) start).testBit n
      = (xs.any (fun x => (f x).testBit n) || start.testBit n) := by
  induction xs with
  | nil => rfl
  | cons x xs ih => rw [List.foldr_cons, Nat.testBit_or, ih, List.any_cons, Bool.or_assoc]

theorem testBit_bitSet {codes : List Nat} {code : Nat} (h : code ∈ codes) : (bitSet codes).testBit code = true := by
  have hself : (1 <<< code).testBit code = true := by
    rw [Nat.one_shiftLeft]
    exact Nat.testBit_two_pow_self
  have hany : codes.any (fun other => (1 <<< other).testBit code) = true := List.any_eq_true.mpr ⟨code, h, hself⟩
  rw [bitSet, testBit_foldr_or, hany, Bool.true_or]

/-- The code points that no small letter has: those of the capital letters and of the blank characters. -/
def reserved : Nat :=
  capitalRuns.foldr (fun run bits => bitSet run.codes ||| bits) (bitSet (0x130 :: blankCodes))

theorem testBit_reserved {c : Char} (h : isCapital c = true ∨ isBlank c = true) :
    reserved.testBit c.toNat = true := by
  rw [reserved, testBit_foldr_or, Bool.or_eq_true]
  rcases h with hcapital | hblank
  . rcases (Bool.or_eq_true ..).mp hcapital with hdotted | hruns
    . have hmem : c.toNat ∈ 0x130 :: blankCodes := by
        rw [beq_iff_eq.mp hdotted]
        exact List.mem_cons_self ..
      exact .inr (testBit_bitSet hmem)
    . obtain ⟨run, hrun, hcovers⟩ := List.any_eq_true.mp hruns
      exact .inl (List.any_eq_true.mpr ⟨run, hrun, testBit_bitSet (CapitalRun.mem_codes hcovers)⟩)
  . exact .inr (testBit_bitSet (List.mem_cons_of_mem _ (mem_blankCodes_of_isBlank hblank)))

namespace CapitalRun

/-- A run is that of the ASCII letters or has none of them, and its small letters are characters of no reserved kind. -/
@[mk_iff]
structure IsSound (run : CapitalRun) : Prop where
  ascii : run.first = 0x41 ∧ run.last = 0x5a ∨ 0x80 ≤ run.first
  plain : ∀ code ∈ run.codes, (run.small code).isValidChar ∧ reserved.testBit (run.small code) = false

instance (run : CapitalRun) : Decidable run.IsSound := decidable_of_iff' _ (isSound_iff run)

theorem isSound_of_mem : ∀ run ∈ capitalRuns, run.IsSound := by
  decide +kernel

theorem small_plain {run : CapitalRun} {code : Nat} (hrun : run ∈ capitalRuns) (hcovers : run.covers code = true) :
    isCapital (Char.ofNat (run.small code)) = false ∧ isBlank (Char.ofNat (run.small code)) = false := by
  obtain ⟨hvalid, hplain⟩ := (isSound_of_mem run hrun).plain code (mem_codes hcovers)
  have hcode : (Char.ofNat (run.small code)).toNat = run.small code := by
    rw [Char.ofNat, dif_pos hvalid]
    rfl
  rw [← hcode] at hplain
  constructor
  . rw [Bool.eq_false_iff]
    intro hcapital
    exact Bool.eq_false_iff.mp hplain (testBit_reserved (.inl hcapital))
  . rw [Bool.eq_false_iff]
    intro hblank
    exact Bool.eq_false_iff.mp hplain (testBit_reserved (.inr hblank))

end CapitalRun

/-- A letter of the first run, which nothing tells from its small one. -/
@[mk_iff]
structure IsAsciiCapital (c : Char) : Prop where
  covered : CapitalRun.covers ⟨0x41, 0x5a, 1, 32⟩ c.toNat = true
  toLower_eq : c.toLower = Char.ofNat (CapitalRun.small ⟨0x41, 0x5a, 1, 32⟩ c.toNat)
  letters : (0x41 ≤ c.toNat ∧ c.toNat ≤ 0x5a) ∧ 0x61 ≤ c.toLower.toNat ∧ c.toLower.toNat ≤ 0x7a
  lowerChar_eq : lowerChar c.toLower = lowerChar c
  sigma_eq : (c.toLower == 'Σ') = (c == 'Σ')
  isCased_eq : isCased c.toLower = isCased c
  isBlank_eq : isBlank c.toLower = isBlank c

instance (c : Char) : Decidable (IsAsciiCapital c) := decidable_of_iff' _ (isAsciiCapital_iff c)

theorem isAsciiCapital_of_isUpper {c : Char} (hc : c.isUpper = true) : IsAsciiCapital c := by
  have hall : ∀ n < 26, IsAsciiCapital (Char.ofNat (0x41 + n)) := by decide +kernel
  have hbounds : 0x41 ≤ c.toNat ∧ c.toNat ≤ 0x5a := of_decide_eq_true hc
  have hcode : 0x41 + (c.toNat - 0x41) = c.toNat := by omega
  have hletter := hall (c.toNat - 0x41) (by omega)
  rwa [hcode, Char.ofNat_toNat] at hletter

theorem toLower_of_not_isUpper {c : Char} (h : ¬c.isUpper = true) : c.toLower = c :=
  dif_neg fun hc => h (decide_eq_true hc)

/-- What a character becomes between what is before it and the rest of the text. -/
def lowerAt (afterCased : Bool) (c : Char) (rest : List Char) : List Char :=
  if c == 'Σ' then
    if afterCased && !leadsToCased rest then ['ς'] else ['σ']
  else lowerChar c

/-- What can become of a character in a text. -/
inductive Lowered (c : Char) : List Char → Prop
  | same (h : isCapital c = false) : Lowered c [c]
  | dotted (h : c.toNat = 0x130) : Lowered c ['i', Char.ofNat 0x307]
  | small {run : CapitalRun} (hrun : run ∈ capitalRuns) (hcovers : run.covers c.toNat = true) :
    Lowered c [Char.ofNat (run.small c.toNat)]
  | final (h : c = 'Σ') : Lowered c ['ς']

/-- Of the ASCII characters just the letters of the first run are capital. -/
theorem isCapital_of_ascii {c : Char} (hascii : c.toNat < 0x80) (hc : ¬c.isUpper = true) : isCapital c = false := by
  have hbounds : ¬(0x41 ≤ c.toNat ∧ c.toNat ≤ 0x5a) := fun h => hc (decide_eq_true h)
  refine isCapital_eq_false_iff.mpr ⟨by omega, fun run hrun => ?_⟩
  have hrun := (CapitalRun.isSound_of_mem run hrun).ascii
  simp only [CapitalRun.covers, Bool.and_eq_false_iff, decide_eq_false_iff_not]
  omega

theorem lowered_lowerChar (c : Char) : Lowered c (lowerChar c) := by
  unfold lowerChar
  split
  . next hascii =>
    by_cases hc : c.isUpper = true
    . have hletter := isAsciiCapital_of_isUpper hc
      rw [hletter.toLower_eq]
      exact .small (List.mem_cons_self ..) hletter.covered
    . rw [toLower_of_not_isUpper hc]
      exact .same (isCapital_of_ascii hascii hc)
  . split
    . next hdotted => exact .dotted (beq_iff_eq.mp hdotted)
    . next hdotted =>
      split
      . next run hfind =>
        have hcovers := List.find?_some (p := fun run : CapitalRun => run.covers c.toNat) hfind
        exact .small (List.mem_of_find?_eq_some hfind) hcovers
      . next hfind =>
        have hnone := List.find?_eq_none.mp hfind
        refine .same (isCapital_eq_false_iff.mpr ⟨mt beq_iff_eq.mpr hdotted, fun run hrun => ?_⟩)
        exact Bool.eq_false_iff.mpr (hnone run hrun)

theorem lowered_lowerAt (afterCased : Bool) (c : Char) (rest : List Char) : Lowered c (lowerAt afterCased c rest) := by
  have hsigma : lowerChar 'Σ' = ['σ'] := rfl
  unfold lowerAt
  split
  . next hc =>
    split
    . exact .final (beq_iff_eq.mp hc)
    . rw [← hsigma, ← beq_iff_eq.mp hc]
      exact lowered_lowerChar c
  . exact lowered_lowerChar c

namespace Lowered

variable {c : Char} {ds : List Char}

theorem ne_nil (h : Lowered c ds) : ds ≠ [] := by
  cases h <;> exact List.cons_ne_nil _ _

theorem isCapital_of_mem (h : Lowered c ds) : ∀ d ∈ ds, isCapital d = false := by
  have hothers : isCapital 'i' = false ∧ isCapital (Char.ofNat 0x307) = false ∧ isCapital 'ς' = false := by
    decide +kernel
  cases h with
  | same h => exact List.forall_mem_singleton.mpr h
  | dotted => exact List.forall_mem_cons.mpr ⟨hothers.1, List.forall_mem_singleton.mpr hothers.2.1⟩
  | small hrun hcovers => exact List.forall_mem_singleton.mpr (CapitalRun.small_plain hrun hcovers).1
  | final => exact List.forall_mem_singleton.mpr hothers.2.2

theorem isBlank_of_mem (h : Lowered c ds) (hc : isBlank c = false) : ∀ d ∈ ds, isBlank d = false := by
  cases h with
  | same => exact List.forall_mem_singleton.mpr hc
  | dotted => exact List.forall_mem_cons.mpr ⟨by decide, List.forall_mem_singleton.mpr (by decide)⟩
  | small hrun hcovers => exact List.forall_mem_singleton.mpr (CapitalRun.small_plain hrun hcovers).2
  | final => exact List.forall_mem_singleton.mpr (by decide)

theorem eq_singleton (h : Lowered c ds) (hc : isCapital c = false) : ds = [c] := by
  have ⟨hdotted, hruns⟩ := isCapital_eq_false_iff.mp hc
  cases h with
  | same => rfl
  | dotted h => exact absurd h hdotted
  | small hrun hcovers => exact absurd hcovers (Bool.eq_false_iff.mp (hruns _ hrun))
  | final h =>
    have hsigma : isCapital 'Σ' = true := rfl
    rw [h, hsigma] at hc
    cases hc

end Lowered

theorem go_cons (afterCased : Bool) (c : Char) (rest : List Char) :
    lowerList.go afterCased (c :: rest) =
      lowerAt afterCased c rest ++ lowerList.go (if isCaseIgnorable c then afterCased else isCased c) rest := rfl

theorem go_ne_nil {afterCased : Bool} {cs : List Char} (h : cs ≠ []) : lowerList.go afterCased cs ≠ [] := by
  obtain ⟨c, rest, rfl⟩ := List.exists_cons_of_ne_nil h
  rw [go_cons]
  exact List.append_ne_nil_of_left_ne_nil (lowered_lowerAt ..).ne_nil _

/-- No capital letters are left. -/
theorem isCapital_of_mem_go {afterCased : Bool} {cs : List Char} :
    ∀ d ∈ lowerList.go afterCased cs, isCapital d = false := by
  induction cs generalizing afterCased with
  | nil => nofun
  | cons c rest ih =>
    rw [go_cons, List.forall_mem_append]
    exact ⟨(lowered_lowerAt ..).isCapital_of_mem, ih⟩

theorem go_eq_self {afterCased : Bool} {cs : List Char} (h : ∀ c ∈ cs, isCapital c = false) :
    lowerList.go afterCased cs = cs := by
  induction cs generalizing afterCased with
  | nil => rfl
  | cons c rest ih =>
    rw [List.forall_mem_cons] at h
    rw [go_cons, (lowered_lowerAt ..).eq_singleton h.1, ih h.2]
    rfl

theorem lowerList_lowerList (cs : List Char) : lowerList (lowerList cs) = lowerList cs :=
  go_eq_self isCapital_of_mem_go

theorem isBlank_of_mem_head?_go {afterCased : Bool} {cs : List Char} (h : ∀ c ∈ cs.head?, isBlank c = false) :
    ∀ d ∈ (lowerList.go afterCased cs).head?, isBlank d = false := by
  cases cs with
  | nil => nofun
  | cons c rest =>
    have hlowered := lowered_lowerAt afterCased c rest
    rw [go_cons, List.head?_append_of_ne_nil _ hlowered.ne_nil]
    exact fun d hd => hlowered.isBlank_of_mem (h c rfl) d (List.mem_of_mem_head? hd)

theorem isBlank_of_mem_getLast?_go {afterCased : Bool} {cs : List Char} (h : ∀ c ∈ cs.getLast?, isBlank c = false) :
    ∀ d ∈ (lowerList.go afterCased cs).getLast?, isBlank d = false := by
  -- What becomes of the last character depends on those before it, so the induction starts at the front all the same.
  induction cs generalizing afterCased with
  | nil => nofun
  | cons c rest ih =>
    rw [go_cons]
    cases rest with
    | nil =>
      rw [lowerList.go, List.append_nil]
      exact fun d hd => (lowered_lowerAt afterCased c []).isBlank_of_mem (h c rfl) d (List.mem_of_mem_getLast? hd)
    | cons next rest =>
      rw [List.getLast?_append_of_ne_nil _ (go_ne_nil (List.cons_ne_nil next rest))]
      rw [List.getLast?_cons_cons] at h
      exact ih h

/-- Only capital ASCII letters need to be looked at, since any other character stays as it is. -/
theorem apply_toLower {α : Type} {f : Char → α} (h : ∀ c : Char, c.isUpper = true → f c.toLower = f c) (c : Char) :
    f c.toLower = f c := by
  by_cases hc : c.isUpper = true
  . exact h c hc
  . rw [toLower_of_not_isUpper hc]

theorem isBlank_toLower : ∀ c : Char, isBlank c.toLower = isBlank c :=
  apply_toLower fun _ hc => (isAsciiCapital_of_isUpper hc).isBlank_eq

theorem isCased_toLower : ∀ c : Char, isCased c.toLower = isCased c :=
  apply_toLower fun _ hc => (isAsciiCapital_of_isUpper hc).isCased_eq

theorem lowerChar_toLower : ∀ c : Char, lowerChar c.toLower = lowerChar c :=
  apply_toLower fun _ hc => (isAsciiCapital_of_isUpper hc).lowerChar_eq

theorem beq_sigma_toLower : ∀ c : Char, (c.toLower == 'Σ') = (c == 'Σ') :=
  apply_toLower (f := (· == 'Σ')) fun _ hc => (isAsciiCapital_of_isUpper hc).sigma_eq

theorem isCaseIgnorable_of_letter {c : Char}
    (h : 0x41 ≤ c.toNat ∧ c.toNat ≤ 0x5a ∨ 0x61 ≤ c.toNat ∧ c.toNat ≤ 0x7a) : isCaseIgnorable c = false := by
  have hranges : ∀ range ∈ caseIgnorableRanges,
      range.2 < 0x41 ∨ 0x5a < range.1 ∧ range.2 < 0x61 ∨ 0x7a < range.1 := by
    decide +kernel
  refine List.any_eq_false.mpr fun range hrange => ?_
  have hrange := hranges range hrange
  simp only [Bool.and_eq_true, decide_eq_true_eq]
  omega

theorem isCaseIgnorable_toLower : ∀ c : Char, isCaseIgnorable c.toLower = isCaseIgnorable c := by
  apply apply_toLower
  intro c hc
  have hletters := (isAsciiCapital_of_isUpper hc).letters
  rw [isCaseIgnorable_of_letter (.inl hletters.1), isCaseIgnorable_of_letter (.inr hletters.2)]

theorem leadsToCased_map_toLower (cs : List Char) : leadsToCased (cs.map Char.toLower) = leadsToCased cs := by
  have hignorable : isCaseIgnorable ∘ Char.toLower = isCaseIgnorable := funext isCaseIgnorable_toLower
  unfold leadsToCased
  simp only [List.dropWhile_map, hignorable, List.head?_map, Option.any_map, isCased_toLower]

/-- The case of ASCII letters does not count, whether a sigma looks at them or they become small themselves. -/
theorem go_map_toLower (afterCased : Bool) (cs : List Char) :
    lowerList.go afterCased (cs.map Char.toLower) = lowerList.go afterCased cs := by
  induction cs generalizing afterCased with
  | nil => rfl
  | cons c rest ih =>
    have hat : lowerAt afterCased c.toLower (rest.map Char.toLower) = lowerAt afterCased c rest := by
      unfold lowerAt
      rw [beq_sigma_toLower, leadsToCased_map_toLower, lowerChar_toLower]
    rw [List.map_cons, go_cons, go_cons, hat, isCaseIgnorable_toLower, isCased_toLower, ih]

end Text
end BeaconSentry
