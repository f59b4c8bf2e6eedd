import BeaconSentry.Word

/-!
This module contains the numbers that the watcher shows of its work.
-/

namespace BeaconSentry
namespace Watch

/-- The value of a gauge that shows a word. Gauges hold signed words, so it stops at the greatest of them. -/
def gaugeValue (n : UInt64) : Nat := min n.toNat 0x7fffffffffffffff

structure Gauges where
  genesisTime : Nat
  /-- The slot of the head that was handled last. -/
  slot : Nat
  /-- The execution block of the head that was handled last and had one. -/
  block : Nat
  /-- The slot of the head at which the keys source was asked last. -/
  keysSlot : Nat
  /-- The slot at which the validator registry was read last. -/
  registrySlot : Nat
  deriving Repr, DecidableEq

def Gauges.zero : Gauges := ⟨0, 0, 0, 0, 0⟩

def Gauges.members (gauges : Gauges) : List (String × Nat) :=
  [("genesis_time", gauges.genesisTime), ("slot_number", gauges.slot), ("block_number", gauges.block),
    ("keys_source_slot_number", gauges.keysSlot), ("validators_index_slot_number", gauges.registrySlot)]

structure Stint where
  name : String
  succeeded : Bool
  deriving Repr, DecidableEq

end Watch
end BeaconSentry
