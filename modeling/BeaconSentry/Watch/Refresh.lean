import BeaconSentry.Watch.Watcher

/-!
This module contains the two refreshers, which keep the owned keys and the validator registry up to date. They
run beside the watcher, step by step, and at most one of each kind is under way.
-/

namespace BeaconSentry
namespace Watch

open Beacon

/-- Add entries to a registry. A validator that is known keeps its public key. -/
def mergeEntries (known : Registry) (entries : List ValidatorEntry) : Registry :=
  entries.foldl (fun registry entry => registry.insertIfNew entry.index entry.pubkey) known

namespace Watcher

variable {η ω : Type}

def kick (slot : Slot) (watcher : Watcher η ω) : Watcher η ω :=
  { watcher with
    keysRefresh := watcher.keysRefresh <|> some (.asking slot)
    registryRefresh := watcher.registryRefresh <|> some .reading }

def showKeysSlot (slot : Slot) (watcher : Watcher η ω) : Watcher η ω :=
  { watcher with gauges := { watcher.gauges with keysSlot := gaugeValue slot } }

/-- Take in how the keys source answered. A number out of range ends the refresh, and nobody notes it. -/
def answeredKeys (slot : Slot) (result : Except Failure (Option OwnedKeys)) (watcher : Watcher η ω) :
    Watcher η ω :=
  match result with
  | .ok (some keys) =>
    { watcher.note "update_user_keys" true with keysRefresh := some (.publishing slot keys) }
  | .ok none =>
    { (watcher.note "update_user_keys" true).showKeysSlot slot with keysRefresh := none }
  | .error (.report _) => { watcher.note "update_user_keys" false with keysRefresh := none }
  | .error (.overflow _) => { watcher with keysRefresh := none }

def stepKeys (plan : Plan η ω) (watcher : Watcher η ω) : Watcher η ω :=
  match watcher.keysRefresh with
  | none => watcher
  | some (.asking slot) =>
    let (result, world) := plan.services.updateKeys.run watcher.world
    { watcher with world }.answeredKeys slot result
  | some (.publishing slot keys) =>
    let state := { watcher.state with keys }
    { watcher.showKeysSlot slot with state, keysRefresh := none }

/-- Begin a refresh of the registry, unless what is known may be kept until the next epoch. -/
def readRegistry (plan : Plan η ω) (watcher : Watcher η ω) : Watcher η ω :=
  let slot := Slot.ofTime plan.genesisTime (plan.services.clock watcher.world)
  let known := watcher.state.registry
  if known.isEmpty || slot.startsEpoch then
    { watcher with registryRefresh := some (.asking slot known) }
  else
    { watcher with registryRefresh := none }

def stepRegistry (plan : Plan η ω) (watcher : Watcher η ω) : Watcher η ω :=
  match watcher.registryRefresh with
  | none => watcher
  | some .reading => watcher.readRegistry plan
  | some (.asking slot known) =>
    match plan.services.validators.run watcher.world with
    | (.ok entries, world) =>
      { { watcher with world }.note "update_validators" true with
        registryRefresh := some (.publishing slot (mergeEntries known entries)) }
    | (.error _, world) =>
      { { watcher with world }.note "update_validators" false with registryRefresh := none }
  | some (.publishing slot merged) =>
    { watcher with
      state := { watcher.state with registry := merged }
      gauges := { watcher.gauges with registrySlot := gaugeValue slot }
      registryRefresh := none }

/-- Wait until both refreshers have ended: no refresh of keys has more than two steps, none of the registry
more than three. -/
def settle (plan : Plan η ω) (watcher : Watcher η ω) : Watcher η ω :=
  let watcher := (watcher.stepKeys plan).stepKeys plan
  ((watcher.stepRegistry plan).stepRegistry plan).stepRegistry plan

def takeReorgs (state : State) : List (Except ε Reorg) → State
  | .ok reorg :: rest => takeReorgs (state.insertReorg reorg) rest
  | _ => state

def listen (plan : Plan η ω) (watcher : Watcher η ω) : Watcher η ω :=
  match plan.services.reorgs.run watcher.world with
  | (.ok reorgs, world) => { watcher with world, state := takeReorgs watcher.state reorgs }
  | (.error _, world) => { watcher with world }

end Watcher
end Watch
end BeaconSentry
