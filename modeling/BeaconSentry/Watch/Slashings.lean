import BeaconSentry.Watch.Groups
import BeaconSentry.Watch.Owner
import BeaconSentry.Watch.Settings
import BeaconSentry.Watch.State

/-!
This module contains the alerts about slashed validators: one about our own ones, one about validators that
are not in the registry, and one about all others.
-/

namespace BeaconSentry
namespace Watch

open Beacon

inductive Duty where
  | proposer
  | attester
  deriving Repr, DecidableEq

def Duty.name : Duty → String
  | .proposer => "proposer"
  | .attester => "attester"

structure Slashing where
  index : ValidatorIndex
  duty : Duty
  owner : Owner
  deriving Repr, DecidableEq

namespace Slashing

/-- The slashed validators of a block with their duties: proposers first, then attesters. -/
def entries (body : BlockBody) : List (Duty × ValidatorIndex) :=
  body.proposerSlashings.map (fun slashing => (.proposer, slashing.proposer)) ++
    body.attesterSlashings.flatMap fun slashing => slashing.slashed.map (.attester, ·)

def ofHead (state : State) (head : Head) : List Slashing :=
  (entries head.body).map fun (duty, index) => ⟨index, duty, .of index state.registry state.keys⟩

def owned? (slashing : Slashing) : Option (String × Duty × ValidatorIndex) :=
  match slashing.owner with
  | .owned key => some (key.operatorName, slashing.duty, slashing.index)
  | _ => none

def foreign? (owner : Owner) (slashing : Slashing) : Option (Duty × ValidatorIndex) :=
  if slashing.owner = owner then some (slashing.duty, slashing.index) else none

def ownedKind : AlertKind := ⟨"HeadWatcherUserSlashing", .critical⟩

def unknownKind : AlertKind := ⟨"HeadWatcherUnknownSlashing", .critical⟩

def otherKind : AlertKind := ⟨"HeadWatcherOtherSlashing", .info⟩

def describe (links : Links) (slashed : List (Duty × ValidatorIndex)) : String :=
  String.join ((groupByKey slashed).map fun (duty, indices) =>
    s!" Violated duty: {duty.name} | Validators: {links.validators indices}")

def ownedDraft (settings : Settings) (slot : Slot)
    (owned : List (String × Duty × ValidatorIndex)) : List Draft :=
  if owned.isEmpty then []
  else
    let summary := s!"🚨🚨🚨 {owned.length} Our validators were slashed! 🚨🚨🚨"
    let operators := (groupByKey owned).map fun (operator, slashed) =>
      s!"\n{operator} -" ++ describe settings.links slashed
    let description := String.join operators ++ settings.links.slotLine slot
    [⟨ownedKind, ⟨summary, description⟩, settings.labels⟩]

def foreignDraft (settings : Settings) (slot : Slot) (kind : AlertKind) (summary : String)
    (slashed : List (Duty × ValidatorIndex)) : List Draft :=
  if slashed.isEmpty then []
  else [.plain kind summary (describe settings.links slashed ++ settings.links.slotLine slot)]

def drafts (settings : Settings) (state : State) (head : Head) : List Draft :=
  let slashings := ofHead state head
  let unknown := slashings.filterMap (foreign? .unknown)
  let other := slashings.filterMap (foreign? .other)
  ownedDraft settings head.slot (slashings.filterMap owned?) ++
    foreignDraft settings head.slot unknownKind s!"🚨 {unknown.length} unknown validators were slashed!"
      unknown ++
    foreignDraft settings head.slot otherKind
      s!"\u2139\ufe0f {other.length} other validators were slashed" other

end Slashing
end Watch
end BeaconSentry
