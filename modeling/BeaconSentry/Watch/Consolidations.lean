import BeaconSentry.Watch.Groups
import BeaconSentry.Watch.Settings
import BeaconSentry.Watch.State

/-!
This module contains the alerts about consolidations that the execution layer asks for, if they come from an
address of ours or involve a validator of ours.
-/

namespace BeaconSentry
namespace Watch

open Beacon

inductive ConsolidationCategory where
  /-- Our address asks for it. -/
  | sourceAddress
  /-- A validator of ours is to give up its balance. -/
  | ownedSource
  /-- A validator of ours is to take over a balance. -/
  | ownedTarget
  deriving Repr, DecidableEq

namespace ConsolidationCategory

/-- The category of a request, if it concerns us: the first one that applies. -/
def of? (settings : Settings) (keys : OwnedKeys) (request : ConsolidationRequest) :
    Option ConsolidationCategory :=
  if settings.isValidAddress request.sourceAddress then some .sourceAddress
  else if (keys.owner? request.sourcePubkey).isSome then some .ownedSource
  else if (keys.owner? request.targetPubkey).isSome then some .ownedTarget
  else none

def name : ConsolidationCategory → String
  | sourceAddress => "SourceWithdrawalAddress"
  | ownedSource => "OwnedSource"
  | ownedTarget => "OwnedTarget"

def kind : ConsolidationCategory → AlertKind
  | sourceAddress => ⟨"HeadWatcherConsolidationSourceWithdrawalAddress", .critical⟩
  | ownedSource => ⟨"HeadWatcherConsolidationUserSourcePubkey", .info⟩
  | ownedTarget => ⟨"HeadWatcherConsolidationUserTargetPubkey", .info⟩

def summary : ConsolidationCategory → String
  | sourceAddress =>
    "\u203c\ufe0f\u26d4\ufe0fValidator consolidation was requested from Withdrawal Vault source address"
  | ownedSource => "\u26a0\ufe0fConsolidation was requested for our validators"
  | ownedTarget => "\u26a0\ufe0fSomeone attempts to consolidate their validators to our validators"

def line (links : Links) (keys : OwnedKeys) (request : ConsolidationRequest) : String :=
  s!"\nsource_address: {request.sourceAddress}" ++
    s!" | source_pubkey: {links.pubkey request.sourcePubkey keys}" ++
    s!" | target_pubkey: {links.pubkey request.targetPubkey keys}"

def draft (settings : Settings) (keys : OwnedKeys) (slot : Slot) (category : ConsolidationCategory)
    (requests : List ConsolidationRequest) : Draft :=
  .plain category.kind category.summary
    (String.join (requests.map (line settings.links keys)) ++ settings.links.slotLine slot)

def drafts (settings : Settings) (state : State) (head : Head) : List Draft :=
  let entries := head.consolidations.filterMap fun request =>
    (of? settings state.keys request).map (·, request)
  (groupByKey entries).map fun (category, requests) =>
    draft settings state.keys head.slot category requests

end ConsolidationCategory
end Watch
end BeaconSentry
