import BeaconSentry.Text.Utf8
import Mathlib.Tactic.MkIffOfInductiveProp

/-!
This module contains the UTF-8 decoder of the Encoding Standard, a machine that takes one byte after the other, and that
the lossy decoding gives what the machine gives. A byte of ASCII always stands for itself, so bytes may be cut there
before they are decoded.
-/

namespace BeaconSentry
namespace Utf8

/-- The variables of the decoder, as the standard has them. -/
structure Decoder where
  codePoint : Nat
  bytesSeen : Nat
  bytesNeeded : Nat
  lower : UInt8
  upper : UInt8
  deriving Repr, DecidableEq

theorem forall_byte {p : UInt8 → Prop} (h : ∀ n < 256, p (UInt8.ofNat n)) (b : UInt8) : p b := by
  have hbyte := h b.toNat b.toNat_lt
  rwa [UInt8.ofNat_toNat] at hbyte

namespace Decoder

def start : Decoder := ⟨0, 0, 0, 0x80, 0xbf⟩

/-- Take a byte that no other one has announced. What comes out are code points, and `none` for an error. -/
def first (b : UInt8) : Decoder × List (Option Nat) :=
  if b ≤ 0x7f then (start, [some b.toNat])
  else if 0xc2 ≤ b ∧ b ≤ 0xdf then (⟨b.toNat % 32, 0, 1, 0x80, 0xbf⟩, [])
  else if 0xe0 ≤ b ∧ b ≤ 0xef then
    (⟨b.toNat % 16, 0, 2, if b = 0xe0 then 0xa0 else 0x80, if b = 0xed then 0x9f else 0xbf⟩, [])
  else if 0xf0 ≤ b ∧ b ≤ 0xf4 then
    (⟨b.toNat % 8, 0, 3, if b = 0xf0 then 0x90 else 0x80, if b = 0xf4 then 0x8f else 0xbf⟩, [])
  else (start, [none])

def push (decoder : Decoder) (b : UInt8) : Decoder × List (Option Nat) :=
  if decoder.bytesNeeded = 0 then first b
  else if decoder.lower ≤ b ∧ b ≤ decoder.upper then
    let codePoint := decoder.codePoint * 64 + b.toNat % 64
    if decoder.bytesSeen + 1 = decoder.bytesNeeded then (start, [some codePoint])
    else (⟨codePoint, decoder.bytesSeen + 1, decoder.bytesNeeded, 0x80, 0xbf⟩, [])
  else
    -- The byte does not belong to those before it. It is taken once more, as if it came first.
    ((first b).1, none :: (first b).2)

def run (decoder : Decoder) : List UInt8 → List (Option Nat)
  | [] => if decoder.bytesNeeded = 0 then [] else [none]
  | b :: bytes => (decoder.push b).2 ++ (decoder.push b).1.run bytes

/-- How many bytes are announced after the next one. -/
def more (decoder : Decoder) : Nat := decoder.bytesNeeded - decoder.bytesSeen - 1

/-- In a code point that is not ASCII and that is not yet complete. -/
@[mk_iff]
structure Pending (decoder : Decoder) : Prop where
  needed : decoder.bytesNeeded = decoder.bytesSeen + 1 + decoder.more
  lower : 0x80 ≤ decoder.lower
  upper : decoder.upper ≤ 0xbf
  code : 0x80 ≤ (decoder.codePoint * 64 + decoder.lower.toNat % 64) * Nat.pow 64 decoder.more

theorem Pending.needed_ne_zero {decoder : Decoder} (h : decoder.Pending) : decoder.bytesNeeded ≠ 0 := by
  rw [h.needed]
  omega

instance (decoder : Decoder) : Decidable decoder.Pending := decidable_of_iff' _ (pending_iff decoder)

/-- What a byte leads to that comes first: to more bytes, or to an error or the byte itself. -/
def Led (b : UInt8) : Decoder × List (Option Nat) → Prop
  | (decoder, []) => decoder.Pending
  | (decoder, [code]) => decoder = start ∧ code.all (· == b.toNat) = true
  | _ => False

instance (b : UInt8) : (led : Decoder × List (Option Nat)) → Decidable (Led b led)
  | (decoder, []) => inferInstanceAs (Decidable decoder.Pending)
  | (decoder, [code]) => inferInstanceAs (Decidable (decoder = start ∧ code.all (· == b.toNat) = true))
  | (_, _ :: _ :: _) => inferInstanceAs (Decidable False)

theorem led_first : ∀ b, Led b (first b) := forall_byte (by decide +kernel)

/-- What a leading byte announces: the second byte is within these bounds, and plain continuation bytes follow it. -/
def announce (lead : Nat) (low high : UInt8) (count : Nat) : Decoder × List (Option Nat) :=
  (⟨lead, 0, count + 1, low, high⟩, [])

/-- The first byte by the classes that the lossy decoding tells apart. -/
def lead (b : UInt8) : Decoder × List (Option Nat) :=
  if b < 0x80 then (start, [some b.toNat])
  else if b < 0xc2 then (start, [none])
  else if b < 0xe0 then announce (b.toNat - 0xc0) 0x80 0xbf 0
  else if b = 0xe0 then announce 0 0xa0 0xbf 1
  else if b = 0xed then announce 0xd 0x80 0x9f 1
  else if b < 0xf0 then announce (b.toNat - 0xe0) 0x80 0xbf 1
  else if b = 0xf0 then announce 0 0x90 0xbf 2
  else if b < 0xf4 then announce (b.toNat - 0xf0) 0x80 0xbf 2
  else if b = 0xf4 then announce 4 0x80 0x8f 2
  else (start, [none])

theorem first_eq_lead : ∀ b, first b = lead b := forall_byte (by decide +kernel)

/-- What the lossy decoding reads of the bytes that follow. -/
def rest (led : Decoder × List (Option Nat)) (bytes : List UInt8) : Option Nat × List UInt8 :=
  match led with
  | (_, [code]) => (code, bytes)
  | (decoder, _) => tail decoder.codePoint decoder.lower decoder.upper decoder.more bytes

theorem next_eq_rest (b : UInt8) (bytes : List UInt8) : next b bytes = rest (first b) bytes := by
  rw [first_eq_lead, lead]
  simp only [apply_ite (rest · bytes)]
  rfl

/-- The bytes that are still to come are read as the rest of a code point. -/
theorem run_eq_tail {decoder : Decoder} {count : Nat} (h : decoder.bytesNeeded = decoder.bytesSeen + 1 + count)
    (bytes : List UInt8)
    : decoder.run bytes
        = (tail decoder.codePoint decoder.lower decoder.upper count bytes).1
          :: start.run (tail decoder.codePoint decoder.lower decoder.upper count bytes).2 := by
  have hneeded : decoder.bytesNeeded ≠ 0 := by omega
  induction bytes generalizing decoder count with
  | nil => exact if_neg hneeded
  | cons b bytes ih =>
    rw [run, push, if_neg hneeded, tail, continuation]
    by_cases hrange : decoder.lower ≤ b ∧ b ≤ decoder.upper
    . rw [if_pos hrange, if_pos hrange]
      dsimp only
      cases count with
      | zero =>
        rw [if_pos h.symm]
        rfl
      | succ count =>
        have hmore : decoder.bytesNeeded = decoder.bytesSeen + 1 + 1 + count := by omega
        rw [if_neg (by omega)]
        exact ih hmore hneeded
    . rw [if_neg hrange, if_neg hrange]
      rfl

theorem run_first (b : UInt8) (bytes : List UInt8)
    : (first b).2 ++ (first b).1.run bytes = (next b bytes).1 :: start.run (next b bytes).2 := by
  rw [next_eq_rest]
  match first b, led_first b with
  | (_, []), hpending => exact run_eq_tail hpending.needed bytes
  | (_, [_]), ⟨rfl, _⟩ => rfl

/-- The machine and the lossy decoding read the same from any bytes. -/
theorem run_start (bytes : List UInt8) : start.run bytes = pieces bytes := by
  fun_induction pieces bytes with
  | case1 => rfl
  | case2 b bytes ih =>
    rw [← ih]
    exact run_first b bytes

/-- Between code points or in one. -/
def Sound (decoder : Decoder) : Prop := decoder.bytesNeeded = 0 ∨ decoder.Pending

theorem sound_start : start.Sound := .inl rfl

theorem sound_first (b : UInt8)
    : (first b).1.Sound ∧ ∀ code, some code ∈ (first b).2 → code < 0x80 → code = b.toNat := by
  match first b, led_first b with
  | (_, []), hpending => exact ⟨.inr hpending, nofun⟩
  | (_, [code]), ⟨rfl, hcode⟩ =>
    refine ⟨sound_start, fun _ hmem _ => ?_⟩
    cases List.mem_singleton.mp hmem
    exact beq_iff_eq.mp hcode

section

variable {decoder : Decoder} {b : UInt8}

theorem Pending.payload_le (h : decoder.Pending) (hrange : decoder.lower ≤ b ∧ b ≤ decoder.upper)
    : decoder.lower.toNat % 64 ≤ b.toNat % 64 := by
  have hlower := UInt8.le_iff_toNat_le.mp h.lower
  have hupper := UInt8.le_iff_toNat_le.mp h.upper
  rw [UInt8.le_iff_toNat_le, UInt8.le_iff_toNat_le] at hrange
  simp only [UInt8.reduceToNat] at hlower hupper
  omega

theorem Pending.le_code (h : decoder.Pending) (hrange : decoder.lower ≤ b ∧ b ≤ decoder.upper)
    (hlast : decoder.bytesSeen + 1 = decoder.bytesNeeded)
    : 0x80 ≤ decoder.codePoint * 64 + b.toNat % 64 := by
  have hmore : decoder.more = 0 := by
    have := h.needed
    omega
  have hcode := h.code
  have hone : Nat.pow 64 0 = 1 := rfl
  have := h.payload_le hrange
  rw [hmore, hone] at hcode
  omega

/-- Each byte adds six bits, so what is not ASCII stays so. -/
theorem Pending.continued (h : decoder.Pending) (hrange : decoder.lower ≤ b ∧ b ≤ decoder.upper)
    (hmore : decoder.bytesSeen + 1 ≠ decoder.bytesNeeded)
    : Pending ⟨decoder.codePoint * 64 + b.toNat % 64, decoder.bytesSeen + 1, decoder.bytesNeeded, 0x80, 0xbf⟩ := by
  obtain ⟨count, hcount⟩ : ∃ count, decoder.more = count + 1 := by
    refine Nat.exists_eq_add_one.mpr (Nat.pos_of_ne_zero fun hzero => hmore ?_)
    rw [h.needed, hzero]
  have hneeded := h.needed
  have hrest : decoder.bytesNeeded - (decoder.bytesSeen + 1) - 1 = count := by omega
  refine ⟨?_, UInt8.le_refl _, UInt8.le_refl _, ?_⟩
  . rw [more, hrest]
    dsimp only
    omega
  . have hlow : (0x80 : UInt8).toNat % 64 = 0 := rfl
    rw [more, hrest, hlow, Nat.add_zero]
    calc 0x80
      _ ≤ (decoder.codePoint * 64 + decoder.lower.toNat % 64) * Nat.pow 64 (count + 1) := hcount ▸ h.code
      _ ≤ (decoder.codePoint * 64 + b.toNat % 64) * Nat.pow 64 (count + 1) :=
        Nat.mul_le_mul_right _ (Nat.add_le_add_left (h.payload_le hrange) _)
      _ = (decoder.codePoint * 64 + b.toNat % 64) * (Nat.pow 64 count * 64) := rfl
      _ = (decoder.codePoint * 64 + b.toNat % 64) * 64 * Nat.pow 64 count := by
        rw [Nat.mul_comm (Nat.pow 64 count), Nat.mul_assoc]

end

/-- After each byte the decoder is sound, and if the byte completes a code point of ASCII, it is this code point. -/
theorem sound_push {decoder : Decoder} (h : decoder.Sound) (b : UInt8)
    : (decoder.push b).1.Sound ∧ ∀ code, some code ∈ (decoder.push b).2 → code < 0x80 → code = b.toNat := by
  rcases h with hneeded | hpending
  . rw [push, if_pos hneeded]
    exact sound_first b
  . rw [push, if_neg hpending.needed_ne_zero]
    split
    next hrange =>
      dsimp only
      split
      next hlast =>
        refine ⟨sound_start, fun code hmem hlt => ?_⟩
        cases List.mem_singleton.mp hmem
        exact absurd hlt (Nat.not_lt.mpr (hpending.le_code hrange hlast))
      next hmore => exact ⟨.inr (hpending.continued hrange hmore), nofun⟩
    next =>
      obtain ⟨hsound, hascii⟩ := sound_first b
      refine ⟨hsound, fun code hmem => ?_⟩
      rcases List.mem_cons.mp hmem with hnone | hmem
      . cases hnone
      . exact hascii code hmem

/-- A byte of ASCII stands for itself and ends what came before it. -/
theorem run_append_ascii {decoder : Decoder} {b : UInt8} (h : decoder.Sound) (hb : b < 0x80) (xs ys : List UInt8)
    : decoder.run (xs ++ b :: ys) = decoder.run xs ++ some b.toNat :: start.run ys := by
  induction xs generalizing decoder with
  | nil =>
    have hfirst : first b = (start, [some b.toNat]) := by rw [first_eq_lead, lead, if_pos hb]
    rw [List.nil_append, run, run, push, hfirst]
    rcases h with hneeded | hpending
    . rw [if_pos hneeded, if_pos hneeded]
      rfl
    . have hneeded := hpending.needed_ne_zero
      have hrange : ¬(decoder.lower ≤ b ∧ b ≤ decoder.upper) := fun hrange =>
        UInt8.not_lt.mpr (UInt8.le_trans hpending.lower hrange.1) hb
      rw [if_neg hneeded, if_neg hrange, if_neg hneeded]
      rfl
  | cons x xs ih => rw [List.cons_append, run, run, ih (sound_push h x).1, List.append_assoc]

/-- No other bytes lead to a code point of ASCII. -/
theorem mem_of_mem_run {decoder : Decoder} {bytes : List UInt8} {b : UInt8} (h : decoder.Sound) (hb : b < 0x80)
    (hmem : some b.toNat ∈ decoder.run bytes)
    : b ∈ bytes := by
  induction bytes generalizing decoder with
  | nil =>
    rw [run] at hmem
    split at hmem
    . cases hmem
    . cases List.mem_singleton.mp hmem
  | cons x bytes ih =>
    obtain ⟨hsound, hascii⟩ := sound_push h x
    rw [run, List.mem_append] at hmem
    rcases hmem with hmem | hmem
    . rw [UInt8.toNat_inj.mp (hascii _ hmem (UInt8.lt_iff_toNat_lt.mp hb))]
      exact List.mem_cons_self
    . exact List.mem_cons_of_mem x (ih hsound hmem)

end Decoder

/-- The characters that bytes stand for, with a replacement character for each error. -/
def chars (bytes : List UInt8) : List Char :=
  (Decoder.start.run bytes).map fun code => (code.map Char.ofNat).getD replacement

theorem toList_decodeLossy (bytes : List UInt8) : (decodeLossy bytes).toList = chars bytes := by
  rw [decodeLossy, String.toList_ofList, chars, Decoder.run_start]

theorem chars_append_ascii {b : UInt8} (hb : b < 0x80) (xs ys : List UInt8)
    : chars (xs ++ b :: ys) = chars xs ++ Char.ofNat b.toNat :: chars ys := by
  rw [chars, Decoder.run_append_ascii Decoder.sound_start hb, List.map_append, List.map_cons]
  rfl

/-- The first character also stands for what is no character, but any other one comes from its own number alone. -/
theorem code_of_toNat_ofNat {code n : Nat} (hn : 0 < n) (h : (Char.ofNat code).toNat = n) : code = n := by
  by_cases hvalid : code.isValidChar
  . rw [Char.ofNat, dif_pos hvalid] at h
    exact h
  . rw [Char.ofNat, dif_neg hvalid] at h
    exact absurd h (Nat.ne_of_lt hn)

theorem mem_of_mem_chars {bytes : List UInt8} {b : UInt8} (hpos : 0 < b) (hb : b < 0x80)
    (h : Char.ofNat b.toNat ∈ chars bytes)
    : b ∈ bytes := by
  have hpos := UInt8.lt_iff_toNat_lt.mp hpos
  have hlt := UInt8.lt_iff_toNat_lt.mp hb
  simp only [UInt8.reduceToNat] at hpos hlt
  have hvalue : (Char.ofNat b.toNat).toNat = b.toNat := by
    rw [Char.ofNat, dif_pos (.inl (by omega))]
    rfl
  obtain ⟨code, hmem, hcode⟩ := List.mem_map.mp h
  have hsame := (congrArg Char.toNat hcode).trans hvalue
  cases code with
  | none =>
    have hreplacement : replacement.toNat = b.toNat := hsame
    have : replacement.toNat = 0xfffd := by decide
    omega
  | some code =>
    rw [code_of_toNat_ofNat hpos hsame] at hmem
    exact Decoder.mem_of_mem_run Decoder.sound_start hb hmem

end Utf8
end BeaconSentry
