import BeaconSentry.Beacon.Slot
import BeaconSentry.Text.Blank
import BeaconSentry.Text.Numeral

/-!
This module contains ranges of slots to replay, written as two numerals with a dash between them.
-/

namespace BeaconSentry

/-- The slots from `first` to `last`, both included. -/
structure SlotRange where
  first : Slot
  last : Slot
  deriving Repr, DecidableEq

namespace SlotRange

inductive Error where
  | noDash (text : String)
  | badFirst (error : Numeral.Error)
  | badLast (error : Numeral.Error)
  | inverted (first last : Slot)
  deriving Repr, DecidableEq

def Error.message : Error → String
  | .noDash text => s!"expected \x60start-end\x60, got \x60{text}\x60"
  | .badFirst error => s!"invalid start slot: {error.message}"
  | .badLast error => s!"invalid end slot: {error.message}"
  | .inverted first last => s!"start slot {first} is after end slot {last}"

def bound (cs : List Char) : Except Numeral.Error Slot :=
  Numeral.word (String.ofList (Text.trimList cs))

/-- Read a range. The first dash parts the two slots. -/
def parse (text : String) : Except Error SlotRange := do
  let cs := text.toList
  match cs.dropWhile (· != '-') with
  | [] => .error (.noDash text)
  | _ :: rest =>
    let first ← (bound (cs.takeWhile (· != '-'))).mapError .badFirst
    let last ← (bound rest).mapError .badLast
    if last < first then .error (.inverted first last) else pure ⟨first, last⟩

/-- The first `count` slots of a range, in order. -/
def firstSlots (count : Nat) (range : SlotRange) : List Slot :=
  (List.range (min count (range.last.toNat + 1 - range.first.toNat))).map fun i =>
    range.first + UInt64.ofNat i

def slots (range : SlotRange) : List Slot :=
  range.firstSlots (range.last.toNat + 1 - range.first.toNat)

end SlotRange
end BeaconSentry
