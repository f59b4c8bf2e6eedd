import BeaconSentry.Alert.Manager
import BeaconSentry.Options.Basic
import BeaconSentry.Proofs.Alert.ReadBack
import BeaconSentry.Proofs.Net.Tour
import BeaconSentry.Watch.Slashings
import Mathlib.Data.List.Forall2

/-!
This module contains what alert managers are told of alerts: one item for each alert, in order, which differs from the
alert by the network, and by the name and the severity if further labels are called like them.
-/

namespace BeaconSentry

open Json Net

/-- The text at the end of a path of keys. -/
def Json.Value.textAt? : List String → Value → Option String
  | [], value => value.asText
  | key :: path, .object members => (member? members key).bind (textAt? path)
  | _, _ => none

namespace Alert

/-- The item that stands for an alert about a network. A further label takes the place of a fixed one. -/
structure PostedAs (network : String) (alert : Alert) (item : Value) : Prop where
  /-- The labels have one value for each name. -/
  exists_labels : ∃ labels : Labels, item = alert.encodeWith labels.toList
  name_eq : item.textAt? ["labels", "alertname"] = some (alert.extra["alertname"]?.getD alert.name)
  severity_eq : item.textAt? ["labels", "severity"] = some (alert.extra["severity"]?.getD alert.severity.label)
  network_eq : item.textAt? ["labels", "network"] = some network
  extra_eq : ∀ name, name ∉ ["alertname", "severity", "network"] →
    item.textAt? ["labels", name] = alert.extra[name]?
  startsAt_eq : item.textAt? ["startsAt"] = some alert.startsAt.print
  endsAt_eq : item.textAt? ["endsAt"] = some alert.endsAt.print
  summary_eq : item.textAt? ["annotations", "summary"] = some alert.annotations.summary
  description_eq : item.textAt? ["annotations", "description"] = some alert.annotations.description

/-- An item has the name and the severity of its alert. -/
structure Keeps (alert : Alert) (item : Value) : Prop where
  name_eq : item.textAt? ["labels", "alertname"] = some alert.name
  severity_eq : item.textAt? ["labels", "severity"] = some alert.severity.label

/-- No further label gives the alert another name or another severity. -/
structure IsUnmasked (alert : Alert) : Prop where
  name_eq : ∀ name ∈ alert.extra["alertname"]?, name = alert.name
  severity_eq : ∀ label ∈ alert.extra["severity"]?, label = alert.severity.label

theorem PostedAs.keeps_iff {network : String} {alert : Alert} {item : Value} (h : alert.PostedAs network item)
    : alert.Keeps item ↔ alert.IsUnmasked := by
  have hgetD (label : Option String) (own : String) : label.getD own = own ↔ ∀ value ∈ label, value = own := by
    cases label <;> simp
  constructor
  . intro hkeeps
    constructor
    . rw [← hgetD]
      exact Option.some.inj (h.name_eq.symm.trans hkeeps.name_eq)
    . rw [← hgetD]
      exact Option.some.inj (h.severity_eq.symm.trans hkeeps.severity_eq)
  . intro hunmasked
    constructor
    . rw [h.name_eq, (hgetD ..).mpr hunmasked.name_eq]
    . rw [h.severity_eq, (hgetD ..).mpr hunmasked.severity_eq]

theorem textAt?_encodeWith (labels : Labels) (alert : Alert) (name : String)
    : (alert.encodeWith labels.toList).textAt? ["labels", name] = labels[name]? := by
  have hlabels : (alert.encodeWith labels.toList).textAt? ["labels", name]
      = (Value.member? (Value.keyed (Labels.members labels.toList)) name).bind (Value.textAt? []) := by
    simp [encodeWith, Value.textAt?, Value.record, Value.member?, Value.keyed, Labels.members]
  rw [hlabels, Labels.member?_members]
  cases labels[name]? <;> rfl

theorem postedAs_tag (manager : AlertManager) (alert : Alert)
    : alert.PostedAs manager.network (manager.tag alert).encodeMerged := by
  have hlabel (name : String) : (manager.tag alert).encodeMerged.textAt? ["labels", name]
      = ((alert.extra.insert "network" manager.network)[name]?).or (alert.fixed? name) := by
    rw [encodeMerged, textAt?_encodeWith]
    exact (manager.tag alert).getElem?_merged name
  have hother {name : String} (hname : "network" ≠ name)
      : (alert.extra.insert "network" manager.network)[name]? = alert.extra[name]? := by
    rw [Std.TreeMap.getElem?_insert, if_neg]
    rwa [Std.compare_eq_iff_eq]
  refine ⟨⟨(manager.tag alert).merged, rfl⟩, ?_, ?_, ?_, ?_, rfl, rfl, rfl, rfl⟩
  . rw [hlabel, hother (by decide)]
    cases alert.extra["alertname"]? <;> rfl
  . rw [hlabel, hother (by decide)]
    cases alert.extra["severity"]? <;> rfl
  . rw [hlabel, Std.TreeMap.getElem?_insert_self]
    rfl
  . intro name hname
    simp only [List.mem_cons, List.not_mem_nil, or_false, not_or] at hname
    have hfixed : alert.fixed? name = none := by
      rw [fixed?, if_neg hname.1, if_neg hname.2.1]
    rw [hlabel, hother (Ne.symm hname.2.2), hfixed, Option.or_none]

theorem forall₂_keeps_iff {network : String} {alerts : List Alert} {items : List Value}
    (h : List.Forall₂ (PostedAs network) alerts items)
    : List.Forall₂ Keeps alerts items ↔ ∀ alert ∈ alerts, alert.IsUnmasked := by
  induction h with
  | nil => simp
  | cons hposted _ ih => rw [List.forall₂_cons, hposted.keeps_iff, ih, List.forall_mem_cons]

end Alert

namespace AlertManager

variable {ω : Type}

theorem forall₂_postedAs (manager : AlertManager) (alerts : List Alert)
    : List.Forall₂ (Alert.PostedAs manager.network) alerts
        (alerts.map fun alert => (manager.tag alert).encodeMerged) := by
  rw [List.forall₂_map_right_iff, List.forall₂_same]
  exact fun alert _ => Alert.postedAs_tag manager alert

theorem written_body (manager : AlertManager) (alerts : List Alert) : (manager.body alerts).Written := by
  apply Value.Written.array
  rw [List.forall_mem_map]
  exact fun alert _ => (manager.tag alert).written_encodeWith _

theorem exists_provider {hosts : List Url} {policy : RequestPolicy} {network : String} {manager : AlertManager}
    (h : AlertManager.new hosts policy network false = .ok manager)
    : ∃ provider : Provider, manager = ⟨some provider, network, false⟩ ∧ provider.hosts = hosts
        ∧ provider.policy = policy := by
  unfold AlertManager.new Provider.new at h
  rw [Bool.and_false, if_neg Bool.false_ne_true] at h
  split at h
  . cases h
  . cases h
    exact ⟨_, rfl, rfl, rfl⟩

/-- The request that tells alert managers some items. -/
def posting (items : List Value) : Inquiry :=
  { method := .post, endpoint := "api/v2/alerts", path := "api/v2/alerts", body := some (.array items) }

/--
Without a dry run the hosts are toured with one item for each alert, in order. The items have the names and the
severities of their alerts unless a further label of one of them says something else.
-/
theorem post_keeps_iff (wire : Wire ω) {hosts : List Url} {policy : RequestPolicy} {network : String}
    {manager : AlertManager} (hnew : AlertManager.new hosts policy network false = .ok manager) (alerts : List Alert)
    (world : ω)
    : ∃ items visits after,
        ((manager.post wire.logged alerts).run ([], world)).2 = (visits.flatMap (·.events), after)
          ∧ Tour wire policy (posting items) (fun _ => .ok ()) hosts world visits after
          ∧ Value.parse? (Value.array items).toText = some (.array items)
          ∧ List.Forall₂ (Alert.PostedAs network) alerts items
          ∧ (List.Forall₂ Alert.Keeps alerts items ↔ ∀ alert ∈ alerts, alert.IsUnmasked) := by
  obtain ⟨provider, rfl, rfl, rfl⟩ := exists_provider hnew
  let manager : AlertManager := ⟨some provider, network, false⟩
  let items := alerts.map fun alert => (manager.tag alert).encodeMerged
  have hposted : List.Forall₂ (Alert.PostedAs network) alerts items := manager.forall₂_postedAs alerts
  have ⟨visits, after, hrun, htour, _⟩ : provider.Toured wire provider.policy (posting items) (fun _ => .ok ()) world
      (provider.postJson wire.logged "api/v2/alerts" "api/v2/alerts" (.array items)) :=
    Provider.toured_withFallbacks isVisit_send_bind provider world
  refine ⟨items, visits, after, ?_, htour, Value.parse?_toText (manager.written_body alerts), hposted,
    Alert.forall₂_keeps_iff hposted⟩
  show (((provider.postJson wire.logged "api/v2/alerts" "api/v2/alerts" (.array items)).mapError
    Report.provider).run ([], world)).2 = _
  rw [Action.run_mapError]
  exact congrArg Prod.snd hrun

namespace Masked

def hosts : List Url := [⟨"http", some ⟨"", "", "alerts", none⟩, .segments [""], none, none⟩]

def policy : RequestPolicy := .limited (.ofMillis 10) 0 .zero

def manager : AlertManager := ⟨some ⟨"AlertmanagerClient", hosts, policy⟩, "mainnet", false⟩

def wire : Wire Unit where
  exchange _ := pure ⟨200, [], true⟩
  observe _ world := world

/-- An alert about a slashed validator of an own operator. -/
def alert (labels : Labels) : Alert :=
  Watch.Slashing.ownedKind.alert ⟨1709294400, 0⟩ ⟨"slashed", "one validator"⟩ labels

def routed : Alert := alert (Labels.ofList [("team", "ops"), ("network", "holesky")])

theorem posts_routed : AlertManager.new hosts policy "mainnet" false = .ok manager
    ∧ ∃ items visits after, ((manager.post wire.logged [routed]).run ([], ())).2 = (visits.flatMap (·.events), after)
      ∧ Tour wire policy (posting items) (fun _ => .ok ()) hosts () visits after
      ∧ List.Forall₂ Alert.Keeps [routed] items := by
  have ⟨items, visits, after, hrun, htour, _, _, hkeeps⟩ :=
    post_keeps_iff wire (show AlertManager.new hosts policy "mainnet" false = .ok manager from rfl) [routed] ()
  have hunmasked : routed.IsUnmasked := by
    constructor <;> decide +kernel
  refine ⟨rfl, items, visits, after, hrun, htour, hkeeps.mpr ?_⟩
  rw [List.forall_mem_singleton]
  exact hunmasked

/-- What an event of the wire tells of the severities of alerts. -/
def severities : WireEvent → List (Option String)
  | .exchanged ⟨.post, _, some (.array items), _⟩ _ => items.map (Value.textAt? ["labels", "severity"])
  | _ => []

/-- With labels from the options a critical alert is posted as a mere piece of information. -/
theorem posts_info : ∃ labels ∈ Labels.parse? "\x7b\"severity\": \"info\"\x7d",
    (alert labels).severity = .critical
      ∧ ((manager.post wire.logged [alert labels]).run ([], ())).2.1.flatMap severities = [some "info"] := by
  decide +kernel

end Masked
end AlertManager
end BeaconSentry
