import BeaconSentry.Exit.Cache
import BeaconSentry.Watch.Groups
import BeaconSentry.Watch.Owner
import BeaconSentry.Watch.Settings
import BeaconSentry.Watch.State

/-!
This module contains the alerts about validators that exit: our own ones without having been requested to, and
validators that are not in the registry.
-/

namespace BeaconSentry
namespace Watch

open Beacon Exit

structure ExitWatch where
  requests : ExitCache
  /-- The modules whose exits are never unexpected. -/
  disabledModules : List UInt64
  sent : SentAlerts

namespace ExitWatch

def start (lookback : UInt64) (disabledModules : List UInt64) : ExitWatch :=
  ⟨.empty lookback, disabledModules, .empty SentAlerts.defaultCapacity⟩

def unexpectedKind : AlertKind := ⟨"HeadWatcherUserUnexpectedExit", .critical⟩

def unknownKind : AlertKind := ⟨"HeadWatcherUnknownExit", .critical⟩

def exiting (head : Head) : List ValidatorIndex := head.body.voluntaryExits.map (·.validator)

/-- Our key of an exiting validator, unless its module is disabled. -/
def ownedKey? (disabledModules : List UInt64) (state : State) (index : ValidatorIndex) :
    Option (ValidatorIndex × NamedKey) :=
  match Owner.of index state.registry state.keys with
  | .owned key => if disabledModules.contains key.moduleIndex then none else some (index, key)
  | _ => none

def owned (disabledModules : List UInt64) (state : State) (head : Head) :
    List (ValidatorIndex × NamedKey) :=
  (exiting head).filterMap (ownedKey? disabledModules state)

def unknown (state : State) (head : Head) : List ValidatorIndex :=
  (exiting head).filter fun index => Owner.of index state.registry state.keys = .unknown

def unexpected (requests : ExitCache) (owned : List (ValidatorIndex × NamedKey)) :
    List (String × ValidatorIndex) :=
  (owned.filter fun (index, key) =>
    !requests.isExpected key.moduleIndex key.operatorIndex index).map
    fun (index, key) => (key.operatorName, index)

def unexpectedDraft (settings : Settings) (slot : Slot) (unexpected : List (String × ValidatorIndex)) :
    List Draft :=
  if unexpected.isEmpty then []
  else
    let summary := s!"🚨🚨🚨 {unexpected.length} Our validators were unexpected exited! 🚨🚨🚨"
    let operators := (groupByKey unexpected).map fun (operator, indices) =>
      s!"\n{operator} -{settings.links.validators indices}"
    let description := String.join operators ++ settings.links.slotLine slot
    [⟨unexpectedKind, ⟨summary, description⟩, settings.labels⟩]

def unknownDraft (settings : Settings) (slot : Slot) (unknown : List ValidatorIndex) : List Draft :=
  if unknown.isEmpty then []
  else [.plain unknownKind s!"🚨 {unknown.length} unknown validators were exited!"
    (settings.links.validators unknown ++ settings.links.slotLine slot)]

def drafts (settings : Settings) (state : State) (head : Head) (disabledModules : List UInt64)
    (requests : ExitCache) : List Draft :=
  unexpectedDraft settings head.slot (unexpected requests (owned disabledModules state head)) ++
    unknownDraft settings head.slot (unknown state head)

/--
Learn of the requests to exit as far as the oracle tells. It is asked only if validators of ours exit, and
requests that it does not tell are missing for now.
-/
def learn (oracle : Option (ExitOracle ω)) (state : State) (head : Head) :
    Action (ExitWatch × ω) Failure Unit where
  run := fun (watch, world) =>
    match oracle, head.blockNumber, owned watch.disabledModules state head with
    | some oracle, some block, _ :: _ =>
      let (result, requests, world) := (ExitCache.refresh oracle block).run (watch.requests, world)
      match result with
      | .error (.overflow overflow) => (.error (.overflow overflow), { watch with requests }, world)
      | _ => (.ok (), { watch with requests }, world)
    | _, _, _ => (.ok (), watch, world)

def report (sink : Sink ω) (settings : Settings) (now : Instant) (state : State) (head : Head) :
    Action (ExitWatch × ω) Failure Unit where
  run := fun (watch, world) =>
    let drafts := drafts settings state head watch.disabledModules watch.requests
    let (result, sent, world) := (deliverDrafts sink now drafts).run (watch.sent, world)
    (result, { watch with sent }, world)

def handle (oracle : Option (ExitOracle ω)) (sink : Sink ω) (settings : Settings) (now : Instant)
    (state : State) (head : Head) : Action (ExitWatch × ω) Failure Unit := do
  learn oracle state head
  report sink settings now state head

end ExitWatch
end Watch
end BeaconSentry
