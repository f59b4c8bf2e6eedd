import BeaconSentry.Alert.Sink
import BeaconSentry.Alert.Wire
import BeaconSentry.Net.Provider

/-!
This module contains the posting of alerts to alert managers. Each alert is labelled with the network it is
about.
-/

namespace BeaconSentry

open Net Json

structure AlertManager where
  /-- The managers, unless a dry run goes without. -/
  provider : Option Provider
  network : String
  /-- Whether alerts are made but not posted. -/
  dryRun : Bool
  deriving Repr, DecidableEq

namespace AlertManager

variable {ω : Type}

def new (hosts : List Url) (policy : RequestPolicy) (network : String) (dryRun : Bool) :
    Except ProviderError AlertManager :=
  if hosts.isEmpty && dryRun then .ok ⟨none, network, dryRun⟩
  else do
    let provider ← Provider.new "AlertmanagerClient" hosts policy
    pure ⟨some provider, network, dryRun⟩

def tag (manager : AlertManager) (alert : Alert) : Alert :=
  { alert with extra := alert.extra.insert "network" manager.network }

def body (manager : AlertManager) (alerts : List Alert) : Value :=
  .array (alerts.map fun alert => (manager.tag alert).encodeMerged)

/-- Post alerts. In a dry run nothing is posted. -/
def post (wire : Wire ω) (manager : AlertManager) (alerts : List Alert) : Action ω Report Unit :=
  let path := "api/v2/alerts"
  match manager.provider, manager.dryRun with
  | some provider, false =>
    (provider.postJson wire path path (manager.body alerts)).mapError .provider
  | _, _ => pure ()

def sink (wire : Wire ω) (manager : AlertManager) : Sink ω := ⟨manager.post wire⟩

end AlertManager
end BeaconSentry
