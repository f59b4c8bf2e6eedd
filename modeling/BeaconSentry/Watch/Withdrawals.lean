import BeaconSentry.Watch.Groups
import BeaconSentry.Watch.Settings
import BeaconSentry.Watch.State

/-!
This module contains the alerts about withdrawals that the execution layer asks for, if they come from an
address of ours or concern a validator of ours.
-/

namespace BeaconSentry
namespace Watch

open Beacon

inductive WithdrawalCategory where
  /-- Our address asks that a validator of ours leaves. -/
  | full
  /-- Our address asks for a part of the balance of a validator of ours. -/
  | partialAmount
  /-- Our address asks for a validator that is not ours. -/
  | fromValidAddress
  /-- Somebody else asks for a validator of ours. -/
  | ownedFromUnknownSource
  deriving Repr, DecidableEq

namespace WithdrawalCategory

def of? (request : WithdrawalRequest) (validSource owned : Bool) : Option WithdrawalCategory :=
  match validSource, owned with
  | true, true => some (if request.isFull then .full else .partialAmount)
  | true, false => some .fromValidAddress
  | false, true => some .ownedFromUnknownSource
  | false, false => none

def name : WithdrawalCategory → String
  | full => "Full"
  | partialAmount => "Partial"
  | fromValidAddress => "FromValidAddress"
  | ownedFromUnknownSource => "OwnedFromUnknownSource"

def kind : WithdrawalCategory → AlertKind
  | full => ⟨"HeadWatcherELFullWithdrawal", .info⟩
  | partialAmount => ⟨"HeadWatcherELPartialWithdrawal", .critical⟩
  | fromValidAddress => ⟨"HeadWatcherELWithdrawalFromUserWithdrawalAddress", .critical⟩
  | ownedFromUnknownSource => ⟨"HeadWatcherUserELWithdrawal", .critical⟩

def summary : WithdrawalCategory → String
  | full => "\u2139\ufe0f Full withdrawal was requested for our validators"
  | partialAmount => "🚨🚨🚨 Partial withdrawal was requested for our validators 🚨🚨🚨"
  | fromValidAddress =>
    "🚨🚨🚨 Our validator triggered withdrawal was requested from our Withdrawal Vault address"
  | ownedFromUnknownSource =>
    "\u26a0\ufe0f\u26a0\ufe0f\u26a0\ufe0f Our validator triggered withdrawal was requested"

def concern? (settings : Settings) (keys : OwnedKeys) (request : WithdrawalRequest) :
    Option (WithdrawalCategory × WithdrawalRequest) :=
  (of? request (settings.isValidAddress request.sourceAddress)
    (keys.owner? request.validatorPubkey).isSome).map (·, request)

def line (links : Links) (keys : OwnedKeys) (request : WithdrawalRequest) : String :=
  let operator := ((keys.owner? request.validatorPubkey).map (·.operatorName)).getD "unknown"
  s!"\nvalidator_pubkey: {links.pubkey request.validatorPubkey keys} | operator: {operator}" ++
    s!" | source_address: {request.sourceAddress} | amount: {request.amount}"

def draft (settings : Settings) (keys : OwnedKeys) (slot : Slot) (category : WithdrawalCategory)
    (requests : List WithdrawalRequest) : Draft where
  kind := category.kind
  annotations := {
    summary := category.summary
    description := String.join (requests.map (line settings.links keys)) ++ settings.links.slotLine slot }
  labels := if category = .partialAmount then settings.labels else ∅

def drafts (settings : Settings) (state : State) (head : Head) : List Draft :=
  (groupByKey (head.withdrawals.filterMap (concern? settings state.keys))).map
    fun (category, requests) => draft settings state.keys head.slot category requests

end WithdrawalCategory
end Watch
end BeaconSentry
