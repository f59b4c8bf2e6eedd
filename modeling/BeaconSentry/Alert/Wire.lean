import BeaconSentry.Alert.Basic
import BeaconSentry.Json.Decode
import BeaconSentry.Json.Printer
import BeaconSentry.Time.Timestamp

/-!
This module contains the form in which alerts travel: a JSON object with two timestamps, one object of labels
that holds the name, the severity and all further labels side by side, and one object of annotations.
-/

namespace BeaconSentry

open Json

namespace Severity

def ofLabel? (label : String) : Option Severity :=
  if label == critical.label then some .critical
  else if label == info.label then some .info
  else none

def decode : Decoder Severity
  | .string (some label) => ofLabel? label
  | .object [(some label, .null)] => ofLabel? label
  | _ => none

end Severity

namespace Alert

/-- The labels in order: name, severity, then the further labels by name. -/
def labelPairs (alert : Alert) : List (String × String) :=
  ("alertname", alert.name) :: ("severity", alert.severity.label) :: alert.extra.toList

def encodeWith (labels : List (String × String)) (alert : Alert) : Value :=
  .record [("startsAt", .text alert.startsAt.print),
    ("endsAt", .text alert.endsAt.print),
    ("labels", .record (labels.map fun (name, value) => (name, .text value))),
    ("annotations", .record [("summary", .text alert.annotations.summary),
      ("description", .text alert.annotations.description)])]

/-- The object of an alert. A label name may repeat. -/
def encode (alert : Alert) : Value := alert.encodeWith alert.labelPairs

/-- The object of an alert with one label for each name; of those that repeat a name the last one stays. -/
def encodeMerged (alert : Alert) : Value :=
  alert.encodeWith (Labels.ofList alert.labelPairs).toList

def toText (alert : Alert) : String := alert.encode.toText

end Alert

def Instant.decode : Decoder Instant := fun value => value.asText.bind Timestamp.parse?

def Annotations.decode : Decoder Annotations := fun value => do
  let [summary, description] ← value.fields? ["summary", "description"] | none
  pure {
    summary := ← required Value.asText summary
    description := ← required Value.asText description }

/-- The name, the severity and the further labels of a label object, which an array cannot stand for. -/
def Alert.decodeLabels : Decoder (String × Severity × Labels)
  | .object members => do
    let [name, severity] ← Value.fields? ["alertname", "severity"] (.object members) | none
    let further := members.filter fun (key, _) => key != some "alertname" && key != some "severity"
    let extra ← Value.asMembers Value.asText (.object further)
    pure (← required Value.asText name, ← required Severity.decode severity, Labels.ofList extra)
  | _ => none

def Alert.decode : Decoder Alert := fun value => do
  let [startsAt, endsAt, labels, annotations] ←
    value.fields? ["startsAt", "endsAt", "labels", "annotations"] | none
  let startsAt ← required Instant.decode startsAt
  let endsAt ← required Instant.decode endsAt
  let (name, severity, extra) ← required decodeLabels labels
  let annotations ← required Annotations.decode annotations
  pure { startsAt, endsAt, name, severity, extra, annotations }

end BeaconSentry
