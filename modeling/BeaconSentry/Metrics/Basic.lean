import BeaconSentry.Metrics.Build
import BeaconSentry.Metrics.Histogram
import BeaconSentry.Watch.Gauges

/-!
This module contains the metrics of the watcher: gauges, and histograms by labels.
-/

namespace BeaconSentry

inductive RequestFamily where
  | beacon
  | keys
  | alerts
  deriving Repr, DecidableEq

def RequestFamily.ofName? : String → Option RequestFamily
  | "cl" => some beacon
  | "keys_api" => some keys
  | "alertmanager" => some alerts
  | _ => none

abbrev Series := List (List String × Histogram)

def Series.observe (values : List String) (span : Duration) : Series → Series
  | [] => [(values, Histogram.empty.observe span)]
  | (others, histogram) :: rest =>
    if others == values then (others, histogram.observe span) :: rest
    else (others, histogram) :: observe values span rest

structure Metrics where
  /-- What all names begin with. -/
  scope : String
  gauges : Watch.Gauges
  /-- The execution block of the snapshot that the keys service gave last. -/
  keysBlock : Nat
  beaconRequests : Series
  keysRequests : Series
  alertRequests : Series
  stints : Series
  /-- The builds that were shown. -/
  builds : List BuildInfo

namespace Metrics

def new? (scope : String) : Option Metrics :=
  if scope.isEmpty then none else some ⟨scope, .zero, 0, [], [], [], [], []⟩

def noScope : String := "Error: empty prefix namespace"

def statusLabel (succeeded : Bool) : String := if succeeded then "success" else "failure"

def requestLabels : List String := ["endpoint", "code", "domain"]

def stintLabels : List String := ["name", "status"]

def observeStint (name : String) (succeeded : Bool) (span : Duration) (metrics : Metrics) : Metrics :=
  { metrics with stints := metrics.stints.observe [name, statusLabel succeeded] span }

/-- Record how long a request took. There must be a value for each label. -/
def observeRequest (family : RequestFamily) (values : List String) (span : Duration) (metrics : Metrics) :
    Except String Metrics :=
  if values.length = requestLabels.length then
    .ok (match family with
    | .beacon => { metrics with beaconRequests := metrics.beaconRequests.observe values span }
    | .keys => { metrics with keysRequests := metrics.keysRequests.observe values span }
    | .alerts => { metrics with alertRequests := metrics.alertRequests.observe values span })
  else
    .error (s!"Inconsistent label cardinality, expect {requestLabels.length} label values, " ++
      s!"but got {values.length}")

def setGauge? (name : String) (value : Nat) (metrics : Metrics) : Option Metrics :=
  let put (gauges : Watch.Gauges) : Option Metrics := some { metrics with gauges }
  match name with
  | "genesis_time" => put { metrics.gauges with genesisTime := value }
  | "slot_number" => put { metrics.gauges with slot := value }
  | "block_number" => put { metrics.gauges with block := value }
  | "keys_source_slot_number" => put { metrics.gauges with keysSlot := value }
  | "validators_index_slot_number" => put { metrics.gauges with registrySlot := value }
  | "keys_api_block_number" => some { metrics with keysBlock := value }
  | _ => none

def showBuild (build : BuildInfo) (metrics : Metrics) : Metrics :=
  if metrics.builds.contains build then metrics
  else { metrics with builds := metrics.builds ++ [build] }

end Metrics
end BeaconSentry
