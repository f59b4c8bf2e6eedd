import BeaconSentry.Alert.Sink
import BeaconSentry.Watch.Links

/-!
This module contains the settings of the watcher and the drafts of its alerts, which become alerts when they
are given a time.
-/

namespace BeaconSentry
namespace Watch

structure Settings where
  links : Links
  /-- The labels of alerts about owned validators. -/
  labels : Labels
  /-- The addresses, in small letters, that may act on owned validators. -/
  addresses : List String

def Settings.isValidAddress (settings : Settings) (address : String) : Bool :=
  settings.addresses.contains (Text.lower address)

theorem Settings.isValidAddress_iff {settings : Settings} {address : String} :
    settings.isValidAddress address = true ↔ Text.lower address ∈ settings.addresses :=
  List.contains_iff_mem

structure Draft where
  kind : AlertKind
  annotations : Annotations
  labels : Labels

namespace Draft

def plain (kind : AlertKind) (summary description : String) : Draft :=
  ⟨kind, ⟨summary, description⟩, ∅⟩

def alert (now : Instant) (draft : Draft) : Alert := draft.kind.alert now draft.annotations draft.labels

end Draft

/-- The last line of a description, which names the slot. -/
def Links.slotLine (links : Links) (slot : Slot) : String := s!"\n\nslot: {links.slot slot}"

def deliverDrafts (sink : Sink ω) (now : Instant) (drafts : List Draft) :
    Action (SentAlerts × ω) Failure Unit :=
  (SentAlerts.sendEach sink (drafts.map (·.alert now))).mapError .report

end Watch
end BeaconSentry
