import BeaconSentry.Proofs.Alert.Labels
import BeaconSentry.Proofs.Json.Records
import BeaconSentry.Proofs.Time.Stamps

/-!
This module contains that alerts are read back from their text: the labels and the annotations as they were, and the
times down to the microsecond.
-/

namespace BeaconSentry

open Json

@[simp]
theorem Severity.decode_text_label (severity : Severity) : Severity.decode (.text severity.label) = some severity := by
  cases severity <;> rfl

theorem Instant.decode_text_print {instant : Instant} (hproper : instant.IsProper) (hyear : instant.HasPlainYear)
    : Instant.decode (.text instant.print) = some instant.toMicros := by
  rw [Instant.decode, Value.asText_text, Option.bind_some]
  exact parse?_print hproper hyear

theorem Annotations.decode_record (annotations : Annotations)
    : Annotations.decode (.record [("summary", .text annotations.summary),
        ("description", .text annotations.description)]) = some annotations := by
  let parts := [some (Value.text annotations.summary), some (Value.text annotations.description)]
  have hfields : (Value.record (Value.given ["summary", "description"] parts)).fields? ["summary", "description"]
      = some parts := Value.fields?_given (by decide) rfl
  simp only [Value.given, parts] at hfields
  simp [Annotations.decode, hfields]

namespace Alert

section

variable {pairs : List (String × String)}

def fixedPairs (alert : Alert) : List (String × String) :=
  [("alertname", alert.name), ("severity", alert.severity.label)]

/-- The fixed labels are unique if no further label is called like one of them. -/
theorem namesUnique_iff (alert : Alert)
    : Value.namesUnique ["alertname", "severity"] (Value.keyed (Labels.members (alert.fixedPairs ++ pairs))) = true
        ↔ ∀ pair ∈ pairs, pair.1 ≠ "alertname" ∧ pair.1 ≠ "severity" := by
  have hcount (name : String) : ((Value.keyed (Labels.members (alert.fixedPairs ++ pairs))).filter
      (·.1 == some name)).length = ((alert.fixedPairs ++ pairs).filter (·.1 == name)).length := by
    have hfilter := Labels.filter_members (· == some name) (alert.fixedPairs ++ pairs)
    rw [hfilter]
    simp [Value.keyed, Labels.members]
  simp only [Value.namesUnique, hcount]
  simp [fixedPairs, List.filter_cons, imp_and, forall_and]

theorem decodeLabels_members (alert : Alert) (h : ∀ pair ∈ pairs, pair.1 ≠ "alertname" ∧ pair.1 ≠ "severity")
    : decodeLabels (.record (Labels.members (alert.fixedPairs ++ pairs)))
        = some (alert.name, alert.severity, Labels.ofList pairs) := by
  let members := Value.keyed (Labels.members (alert.fixedPairs ++ pairs))
  have hfields : Value.fields? ["alertname", "severity"] (.object members)
      = some [some (.text alert.name), some (.text alert.severity.label)] := by
    have hkeys : members.all (·.1.isSome) = true := by simp [members, Labels.keyed_members]
    rw [Value.fields?, hkeys, (namesUnique_iff alert).mpr h]
    simp [members, fixedPairs, Labels.members, Value.member?_cons_self, Value.member?_cons_of_ne]
  have hfilter : members.filter (fun member => member.1 != some "alertname" && member.1 != some "severity")
      = Value.keyed (Labels.members pairs) := by
    have hpairs : (alert.fixedPairs ++ pairs).filter
        (fun pair => some pair.1 != some "alertname" && some pair.1 != some "severity") = pairs := by
      simp [fixedPairs, List.filter_eq_self]
      exact fun name value hmem => h (name, value) hmem
    have hfilter := Labels.filter_members (fun key => key != some "alertname" && key != some "severity")
      (alert.fixedPairs ++ pairs)
    rw [hpairs] at hfilter
    exact hfilter
  show decodeLabels (.object members) = _
  simp [decodeLabels, hfields, hfilter, Labels.asMembers_members]

theorem decodeLabels_eq_none (alert : Alert) (h : ¬∀ pair ∈ pairs, pair.1 ≠ "alertname" ∧ pair.1 ≠ "severity")
    : decodeLabels (.record (Labels.members (alert.fixedPairs ++ pairs))) = none := by
  rw [← namesUnique_iff alert, Bool.not_eq_true] at h
  show decodeLabels (.object (Value.keyed (Labels.members (alert.fixedPairs ++ pairs)))) = none
  simp [decodeLabels, Value.fields?, h]

end

theorem written_encodeWith (alert : Alert) (pairs : List (String × String)) : (alert.encodeWith pairs).Written := by
  have hlabels : ∀ member ∈ Labels.members pairs, member.2.Written := by
    unfold Labels.members
    rw [List.forall_mem_map]
    exact fun _ _ => Value.written_text _
  apply Value.written_record
  have hlabels := Value.written_record hlabels
  have hannotations : (Value.record [("summary", .text alert.annotations.summary),
      ("description", .text alert.annotations.description)]).Written := Value.written_record (by simp)
  simp only [List.forall_mem_cons]
  exact ⟨Value.written_text _, Value.written_text _, hlabels, hannotations, List.forall_mem_nil _⟩

/-- What is read of an alert is up to its times and its labels. -/
theorem decode_encode {alert : Alert}
    (hstart : Instant.decode (.text alert.startsAt.print) = some alert.startsAt.toMicros)
    (hend : Instant.decode (.text alert.endsAt.print) = some alert.endsAt.toMicros)
    : Alert.decode alert.encode = (decodeLabels (.record (Labels.members alert.labelPairs))).map
        fun (name, severity, extra) => {
          startsAt := alert.startsAt.toMicros, endsAt := alert.endsAt.toMicros, name, severity, extra
          annotations := alert.annotations } := by
  let names := ["startsAt", "endsAt", "labels", "annotations"]
  let parts : List (Option Value) := [some (.text alert.startsAt.print), some (.text alert.endsAt.print),
    some (.record (Labels.members alert.labelPairs)), some (.record [("summary", .text alert.annotations.summary),
      ("description", .text alert.annotations.description)])]
  have hfields : (Value.record (Value.given names parts)).fields? names = some parts :=
    Value.fields?_given (by decide) rfl
  show Alert.decode (.record (Value.given names parts)) = _
  rw [Alert.decode, hfields]
  simp only [Option.bind_eq_bind, Option.bind_some, required_some, hstart, hend, Annotations.decode_record, parts]
  cases decodeLabels (.record (Labels.members alert.labelPairs)) <;> rfl

/-- What a text keeps of an alert: everything but the last nanoseconds of its times. -/
structure IsCopy (alert copy : Alert) : Prop where
  startsAt_eq : copy.startsAt = alert.startsAt.toMicros
  endsAt_eq : copy.endsAt = alert.endsAt.toMicros
  name_eq : copy.name = alert.name
  severity_eq : copy.severity = alert.severity
  extra_equiv : copy.extra.Equiv alert.extra
  annotations_eq : copy.annotations = alert.annotations

end Alert

namespace Alert.LeapSecond

/-- In the leap second at the end of 2016. -/
def now : Instant := ⟨1483228799, 1500000700⟩

def kind : AlertKind := ⟨"UnhandledHead", .info⟩

def annotations : Annotations := ⟨"🔗 \"head\"", "a\tb\x07\\\n"⟩

def extra : Labels := Labels.ofList [("team", "ops"), ("summary", "")]

end Alert.LeapSecond
end BeaconSentry
