import BeaconSentry.Metrics.Basic

/-!
This module contains the text in which metrics are exposed: families in the order of their names, series in
the order of their label values, and no family without a series.
-/

namespace BeaconSentry
namespace Metrics

def escapedChar (c : Char) : List Char :=
  if c == '\\' then ['\\', '\\']
  else if c == '"' then ['\\', '"']
  else if c == '\n' then ['\\', 'n']
  else [c]

def label (name value : String) : String :=
  name ++ "=\"" ++ String.ofList (value.toList.flatMap escapedChar) ++ "\""

def labelText (labels : List (String × String)) : String :=
  if labels.isEmpty then ""
  else "\x7b" ++ ",".intercalate (labels.map fun (name, value) => label name value) ++ "\x7d"

def line (name : String) (labels : List (String × String)) (value : String) : String :=
  name ++ labelText labels ++ " " ++ value ++ "\n"

/-- A family: what it is called and about, its type, and its lines. -/
structure Family where
  name : String
  help : String
  type : String
  lines : String

/-- The text of a family. A family without a line is left out. -/
def Family.text (scope : String) (family : Family) : String :=
  if family.lines.isEmpty then ""
  else
    let name := s!"{scope}_{family.name}"
    s!"# HELP {name} {family.help}\n# TYPE {name} {family.type}\n{family.lines}"

def gaugeText (value : Nat) : String := (Binary.ofFraction value 1).print

def gauge (scope name help : String) (value : Nat) : Family :=
  ⟨name, help, "gauge", line s!"{scope}_{name}" [] (gaugeText value)⟩

/-- Labels in the order of their names, given the values in the order of `names`. -/
def sortedLabels (names values : List String) : List (String × String) :=
  (names.zip values).mergeSort fun a b => a.1 ≤ b.1

def valuesLe (a b : List (String × String)) : Bool :=
  match a, b with
  | (_, x) :: a, (_, y) :: b => if x == y then valuesLe a b else x < y
  | _, _ => true

def histogramLines (name : String) (labels : List (String × String)) (histogram : Histogram) : String :=
  let buckets := (Histogram.bounds.zip histogram.within).map fun (bound, n) =>
    line (name ++ "_bucket") (labels ++ [("le", bound.print)]) (toString n)
  String.join buckets ++
    line (name ++ "_bucket") (labels ++ [("le", "+Inf")]) (toString histogram.count) ++
    line (name ++ "_sum") labels histogram.sum.print ++
    line (name ++ "_count") labels (toString histogram.count)

def histograms (scope name help : String) (labelNames : List String) (series : Series) : Family :=
  let series := series.map fun (values, histogram) => (sortedLabels labelNames values, histogram)
  let series := series.mergeSort fun a b => valuesLe a.1 b.1
  let lines := series.map fun (labels, histogram) => histogramLines s!"{scope}_{name}" labels histogram
  ⟨name, help, "histogram", String.join lines⟩

def buildFamily (scope : String) (builds : List BuildInfo) : Family :=
  let series := builds.map fun build =>
    [("branch", build.branch), ("commit", build.commit), ("version", build.version)]
  let lines := (series.mergeSort valuesLe).map fun labels => line s!"{scope}_build" labels "1"
  ⟨"build", "Build info", "gauge", String.join lines⟩

def families (metrics : Metrics) : List Family :=
  let gauge := gauge metrics.scope
  let requests (name help : String) (series : Series) : Family :=
    histograms metrics.scope name help requestLabels series
  [requests "alertmanager_requests_duration" "Duration of requests to Alertmanager" metrics.alertRequests,
    gauge "block_number" "Watcher head block number" metrics.gauges.block,
    buildFamily metrics.scope metrics.builds,
    requests "cl_requests_duration" "Duration of requests to CL API" metrics.beaconRequests,
    histograms metrics.scope "functions_duration" "Duration of watcher daemon tasks" stintLabels
      metrics.stints,
    gauge "genesis_time" "Genesis time" metrics.gauges.genesisTime,
    gauge "keys_api_block_number" "Keys API block number from status" metrics.keysBlock,
    requests "keys_api_requests_duration" "Duration of requests to Keys API" metrics.keysRequests,
    gauge "keys_source_slot_number" "Head slot number at the last keys source update"
      metrics.gauges.keysSlot,
    gauge "slot_number" "Watcher head slot number" metrics.gauges.slot,
    gauge "validators_index_slot_number" "Validators index last updated slot number"
      metrics.gauges.registrySlot]

def text (metrics : Metrics) : String := String.join (metrics.families.map (·.text metrics.scope))

end Metrics
end BeaconSentry
