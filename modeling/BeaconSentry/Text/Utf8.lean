/-!
This module contains the decoding of UTF-8. Malformed input is cut into its maximal malformed pieces, each
of which the lossy decoding turns into one replacement character.
-/

namespace BeaconSentry
namespace Utf8

def replacement : Char := Char.ofNat 0xfffd

/-- Take a continuation byte between `low` and `high` off the front, with its six payload bits. -/
def continuation (low high : UInt8) : List UInt8 → Option (Nat × List UInt8)
  | [] => none
  | b :: rest => if low ≤ b ∧ b ≤ high then some (b.toNat % 64, rest) else none

theorem length_of_continuation {low high : UInt8} {bytes : List UInt8} {payload : Nat}
    {rest : List UInt8} (h : continuation low high bytes = some (payload, rest)) :
    rest.length < bytes.length := by
  cases bytes with
  | nil => simp [continuation] at h
  | cons b tail =>
    simp only [continuation] at h
    split at h
    · simp only [Option.some.injEq, Prod.mk.injEq] at h
      simp [h.2.symm]
    · simp at h

/-- Read `count` plain continuation bytes into `acc`; the bytes read are gone even if one is missing. -/
def continuations (acc : Nat) (bytes : List UInt8) : Nat → Option Nat × List UInt8
  | 0 => (some acc, bytes)
  | count + 1 =>
    match continuation 0x80 0xbf bytes with
    | none => (none, bytes)
    | some (payload, rest) => continuations (acc * 64 + payload) rest count

theorem length_continuations_le (acc : Nat) (bytes : List UInt8) (count : Nat) :
    (continuations acc bytes count).2.length ≤ bytes.length := by
  induction count generalizing acc bytes with
  | zero => simp [continuations]
  | succ count ih =>
    simp only [continuations]
    split
    · simp
    · rename_i payload rest h
      have := length_of_continuation h
      have := ih (acc * 64 + payload) rest
      omega

/--
Read the bytes after a leading byte: the second one is between `low` and `high`, then follow `count` plain
continuation bytes.
-/
def tail (lead : Nat) (low high : UInt8) (count : Nat) (bytes : List UInt8) :
    Option Nat × List UInt8 :=
  match continuation low high bytes with
  | none => (none, bytes)
  | some (payload, rest) => continuations (lead * 64 + payload) rest count

theorem length_tail_le (lead : Nat) (low high : UInt8) (count : Nat) (bytes : List UInt8) :
    (tail lead low high count bytes).2.length ≤ bytes.length := by
  unfold tail
  split
  · simp
  · rename_i payload rest h
    have := length_of_continuation h
    have := length_continuations_le (lead * 64 + payload) rest count
    omega

def next (b : UInt8) (bytes : List UInt8) : Option Nat × List UInt8 :=
  if b < 0x80 then (some b.toNat, bytes)
  else if b < 0xc2 then (none, bytes)
  else if b < 0xe0 then tail (b.toNat - 0xc0) 0x80 0xbf 0 bytes
  else if b = 0xe0 then tail 0 0xa0 0xbf 1 bytes
  else if b = 0xed then tail 0xd 0x80 0x9f 1 bytes
  else if b < 0xf0 then tail (b.toNat - 0xe0) 0x80 0xbf 1 bytes
  else if b = 0xf0 then tail 0 0x90 0xbf 2 bytes
  else if b < 0xf4 then tail (b.toNat - 0xf0) 0x80 0xbf 2 bytes
  else if b = 0xf4 then tail 4 0x80 0x8f 2 bytes
  else (none, bytes)

theorem length_next_le (b : UInt8) (bytes : List UInt8) :
    (next b bytes).2.length ≤ bytes.length := by
  unfold next
  repeat' split
  all_goals first | exact length_tail_le .. | exact Nat.le_refl _

/-- The pieces of a byte sequence in order: code points, and `none` for each malformed piece. -/
def pieces : List UInt8 → List (Option Nat)
  | [] => []
  | b :: bytes => (next b bytes).1 :: pieces (next b bytes).2
termination_by bytes => bytes.length
decreasing_by
  have := length_next_le b bytes
  simp only [List.length_cons]
  omega

def decodeLossy (bytes : List UInt8) : String :=
  String.ofList ((pieces bytes).map fun code => (code.map Char.ofNat).getD replacement)

def decode? (bytes : List UInt8) : Option String :=
  ((pieces bytes).mapM id).map fun codes => String.ofList (codes.map Char.ofNat)

def encode (s : String) : List UInt8 := s.toUTF8.toList

end Utf8
end BeaconSentry
