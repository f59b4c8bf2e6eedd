import BeaconSentry.Beacon.Basic
import BeaconSentry.Keys.Basic

/-!
This module contains what the watcher knows between two heads: the owned keys, the validator registry, the
reorganisations that wait to be looked at, and a window of the heads it handled last.
-/

namespace BeaconSentry
namespace Watch

open Beacon

structure State where
  keys : OwnedKeys
  registry : Registry
  /-- The waiting reorganisations, by slot. -/
  reorgs : Std.TreeMap Slot Reorg
  /-- The heads handled last, oldest first. -/
  handled : List Head
  /-- How many handled heads are kept. -/
  capacity : Nat

namespace State

/-- How many handled heads are kept unless it is told otherwise: those of three epochs. -/
def defaultCapacity : Nat := 96

def empty (capacity : Nat) : State := ⟨∅, ∅, ∅, [], capacity⟩

/-- Let a reorganisation wait. It replaces a waiting one of the same slot. -/
def insertReorg (state : State) (reorg : Reorg) : State :=
  { state with reorgs := state.reorgs.insert reorg.slot reorg }

def drainReorgs (state : State) : List Reorg × State :=
  (state.reorgs.values, { state with reorgs := ∅ })

def pushHandled (state : State) (head : Head) : State :=
  let handled := state.handled ++ [head]
  { state with handled := handled.drop (handled.length - state.capacity) }

def lastHandledSlot (state : State) : Option Slot := state.handled.getLast?.map (·.slot)

end State
end Watch
end BeaconSentry
