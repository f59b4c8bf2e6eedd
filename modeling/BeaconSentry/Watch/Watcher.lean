import BeaconSentry.Beacon.Client
import BeaconSentry.Watch.Gauges
import BeaconSentry.Watch.Handler

/-!
This module contains the watcher: the handlers with their memories, what it knows, what it shows, and how far
its refreshers are.
-/

namespace BeaconSentry
namespace Watch

open Beacon Net

structure Services (η ω : Type) where
  handlerName : η → String
  handle : Settings → Head → Action (Desk η ω) Failure Unit
  header : BlockId → (HeaderRecord → Bool) → Action ω ProviderError HeaderRecord
  block : BlockId → Action ω ProviderError Block
  validators : Action ω ProviderError (List ValidatorEntry)
  /-- The reorganisations that an event stream tells of until it ends. -/
  reorgs : Action ω ProviderError (List (Except ProviderError Reorg))
  /-- The owned keys, if they may have changed. -/
  updateKeys : Action ω Failure (Option OwnedKeys)
  /-- The time in seconds since the start of 1970. -/
  clock : ω → UInt64

structure Plan (η ω : Type) where
  services : Services η ω
  settings : Settings
  genesisTime : UInt64

inductive KeysStage where
  /-- The source is to be asked, for the head of a slot. -/
  | asking (slot : Slot)
  /-- The source gave new keys. -/
  | publishing (slot : Slot) (keys : OwnedKeys)

inductive RegistryStage where
  /-- The registry that is known is to be read. -/
  | reading
  /-- The nodes are to be asked. -/
  | asking (slot : Slot) (known : Registry)
  /-- The nodes gave entries, which are merged into what was known. -/
  | publishing (slot : Slot) (merged : Registry)

structure Watcher (η ω : Type) where
  handlers : List η
  state : State
  gauges : Gauges
  /-- The work that has ended, in order. -/
  stints : List Stint
  /-- How often the heart has beaten, if somebody listens to it. -/
  beats : Option Nat
  /-- The refresh of the owned keys that is under way. -/
  keysRefresh : Option KeysStage
  /-- The refresh of the validator registry that is under way. -/
  registryRefresh : Option RegistryStage
  world : ω

namespace Watcher

variable {η ω : Type}

def start (handlers : List η) (state : State) (genesisTime : UInt64) (beats : Option Nat) (world : ω) :
    Watcher η ω where
  handlers := handlers
  state := state
  gauges := { Gauges.zero with genesisTime := gaugeValue genesisTime }
  stints := []
  beats := beats
  keysRefresh := none
  registryRefresh := none
  world := world

def note (watcher : Watcher η ω) (name : String) (succeeded : Bool) : Watcher η ω :=
  { watcher with stints := watcher.stints ++ [⟨name, succeeded⟩] }

def outside (action : Action ω ε α) : Action (Watcher η ω) ε α :=
  action.within (·.world) fun world watcher => { watcher with world }

/-- Note how an action ends, unless it ends the watcher. -/
def noted (name : String) (action : Action (Watcher η ω) Failure α) : Action (Watcher η ω) Failure α where
  run watcher :=
    match action.run watcher with
    | (.ok value, watcher) => (.ok value, watcher.note name true)
    | (.error (.report report), watcher) => (.error (.report report), watcher.note name false)
    | (.error failure, watcher) => (.error failure, watcher)

end Watcher

def Services.ofClient (wire : Wire ω) (client : Client) (outlets : Outlets ω) (firing : Instant)
    (updateKeys : Action ω Failure (Option OwnedKeys)) (clock : ω → UInt64) : Services Handler ω where
  handlerName := Handler.name
  handle settings head := Handler.handle outlets settings firing head
  header := client.header wire
  block := client.block wire
  validators := client.validators wire .head
  reorgs := client.reorgs wire
  updateKeys := updateKeys
  clock := clock

end Watch
end BeaconSentry
