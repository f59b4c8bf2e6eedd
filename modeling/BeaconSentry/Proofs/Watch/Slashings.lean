import BeaconSentry.Proofs.Beacon.Slashed
import BeaconSentry.Proofs.Watch.Outlets

/-!
This module contains what is told about the slashings of a block: each slashed validator is named once, in the alert
about its owner, under the duty that it violated.
-/

namespace BeaconSentry
namespace Watch

open Beacon

namespace Slashing

/-- The slashings of a block, one by one: the proposers, and then the validators that signed both attestations. -/
def AreEntries (body : BlockBody) (entries : List (Duty × ValidatorIndex)) : Prop :=
  ∃ convicted, List.Forall₂ AttesterSlashing.BothSigned body.attesterSlashings convicted
    ∧ entries = body.proposerSlashings.map (fun slashing => (.proposer, slashing.proposer))
      ++ convicted.flatten.map (.attester, ·)

def ownerOf (state : State) (entry : Duty × ValidatorIndex) : Owner :=
  Owner.of entry.2 state.registry state.keys

def IsRunBy (state : State) (entry : Duty × ValidatorIndex) (operator : String) : Prop :=
  ∃ key, ownerOf state entry = .owned key ∧ key.operatorName = operator

/-- A text that names validators under the duties that they violated. -/
def NamesByDuty (links : Links) (slashed : List (Duty × ValidatorIndex)) (text : String) : Prop :=
  ∃ duties, Grouped slashed duties
    ∧ text = String.join (duties.map fun (duty, indices) =>
        s!" Violated duty: {duty.name} | Validators: {links.validators indices}")

def NamesOfOperator (links : Links) (group : String × List (Duty × ValidatorIndex)) (text : String) : Prop :=
  ∃ duties, NamesByDuty links group.2 duties ∧ text = s!"\n{group.1} -" ++ duties

structure TellsOwned (settings : Settings) (slot : Slot) (owned : List (String × Duty × ValidatorIndex))
    (draft : Draft) : Prop where
  kind_eq : draft.kind = ⟨"HeadWatcherUserSlashing", .critical⟩
  summary_eq : draft.annotations.summary = s!"🚨🚨🚨 {owned.length} Our validators were slashed! 🚨🚨🚨"
  description_eq : ∃ operators texts, Grouped owned operators
    ∧ List.Forall₂ (NamesOfOperator settings.links) operators texts
    ∧ draft.annotations.description = String.join texts ++ settings.links.slotLine slot
  labels_eq : draft.labels = settings.labels

structure TellsForeign (kind : AlertKind) (summary : Nat → String) (settings : Settings) (slot : Slot)
    (slashed : List (Duty × ValidatorIndex)) (draft : Draft) : Prop where
  kind_eq : draft.kind = kind
  summary_eq : draft.annotations.summary = summary slashed.length
  description_eq : ∃ duties, NamesByDuty settings.links slashed duties
    ∧ draft.annotations.description = duties ++ settings.links.slotLine slot
  labels_eq : draft.labels = ∅

abbrev TellsUnknown : Settings → Slot → List (Duty × ValidatorIndex) → Draft → Prop :=
  TellsForeign ⟨"HeadWatcherUnknownSlashing", .critical⟩ fun n => s!"🚨 {n} unknown validators were slashed!"

abbrev TellsOther : Settings → Slot → List (Duty × ValidatorIndex) → Draft → Prop :=
  TellsForeign ⟨"HeadWatcherOtherSlashing", .info⟩ fun n => s!"\u2139\ufe0f {n} other validators were slashed"

theorem areEntries_entries (body : BlockBody) : AreEntries body (entries body) := by
  refine ⟨_, forall₂_map_right AttesterSlashing.bothSigned_slashed body.attesterSlashings, ?_⟩
  rw [entries, List.map_flatten, List.map_map]
  rfl

theorem namesByDuty_describe (links : Links) (slashed : List (Duty × ValidatorIndex)) :
    NamesByDuty links slashed (describe links slashed) :=
  ⟨groupByKey slashed, grouped_groupByKey slashed, rfl⟩

theorem oneIfAny_ownedDraft (settings : Settings) (slot : Slot) (owned : List (String × Duty × ValidatorIndex)) :
    OneIfAny (TellsOwned settings slot) owned (ownedDraft settings slot owned) := by
  apply oneIfAny_ite
  refine ⟨rfl, rfl, ⟨groupByKey owned, _, grouped_groupByKey owned, forall₂_map_right ?_ _, rfl⟩, rfl⟩
  exact fun group => ⟨_, namesByDuty_describe settings.links group.2, rfl⟩

theorem oneIfAny_foreignDraft (kind : AlertKind) (summary : Nat → String) (settings : Settings) (slot : Slot)
    (slashed : List (Duty × ValidatorIndex))
    : OneIfAny (TellsForeign kind summary settings slot) slashed
        (foreignDraft settings slot kind (summary slashed.length) slashed) := by
  apply oneIfAny_ite
  exact ⟨rfl, rfl, ⟨_, namesByDuty_describe settings.links slashed, rfl⟩, rfl⟩

def operator? (state : State) (entry : Duty × ValidatorIndex) : Option String :=
  match ownerOf state entry with
  | .owned key => some key.operatorName
  | _ => none

theorem operator?_eq_some_iff (state : State) (entry : Duty × ValidatorIndex) (operator : String) :
    operator? state entry = some operator ↔ IsRunBy state entry operator := by
  unfold operator? IsRunBy
  cases ownerOf state entry <;> simp

/-- The entries of a block by operator, for those of our validators. -/
def ofOurs (state : State) (entries : List (Duty × ValidatorIndex)) : List (String × Duty × ValidatorIndex) :=
  entries.filterMap fun entry => (operator? state entry).map (·, entry)

theorem filterMap_owned? (state : State) (head : Head) :
    (ofHead state head).filterMap owned? = ofOurs state (entries head.body) := by
  rw [ofHead, List.filterMap_map, ofOurs]
  congr
  funext entry
  unfold owned? operator? ownerOf
  dsimp only [Function.comp_apply]
  cases Owner.of entry.2 state.registry state.keys <;> rfl

theorem filterMap_foreign? (owner : Owner) (state : State) (head : Head) :
    (ofHead state head).filterMap (foreign? owner)
      = (entries head.body).filter fun entry => ownerOf state entry = owner := by
  rw [ofHead, List.filterMap_map, ← List.filterMap_eq_filter]
  congr
  funext entry
  unfold foreign? Option.guard ownerOf
  simp

theorem drafts_eq (settings : Settings) (state : State) (head : Head) :
    drafts settings state head =
      let unknown := (entries head.body).filter (ownerOf state · = .unknown)
      let other := (entries head.body).filter (ownerOf state · = .other)
      ownedDraft settings head.slot (ofOurs state (entries head.body)) ++
        foreignDraft settings head.slot unknownKind s!"🚨 {unknown.length} unknown validators were slashed!" unknown ++
        foreignDraft settings head.slot otherKind s!"\u2139\ufe0f {other.length} other validators were slashed"
          other := by
  rw [drafts, filterMap_owned?, filterMap_foreign?, filterMap_foreign?]

theorem perm_of_owners (state : State) (entries : List (Duty × ValidatorIndex)) :
    ((ofOurs state entries).map (·.2) ++ entries.filter (ownerOf state · = .unknown)
        ++ entries.filter (ownerOf state · = .other)).Perm entries := by
  unfold ofOurs
  induction entries with
  | nil => exact .nil
  | cons entry rest ih =>
    rw [List.append_assoc] at ih ⊢
    cases howner : ownerOf state entry with
    | owned key =>
      have hoperator : operator? state entry = some key.operatorName := by rw [operator?, howner]
      simpa [hoperator, howner] using ih
    | unknown =>
      have hoperator : operator? state entry = none := by rw [operator?, howner]
      simpa [hoperator, howner] using List.perm_middle.trans (ih.cons entry)
    | other =>
      have hoperator : operator? state entry = none := by rw [operator?, howner]
      rw [← List.append_assoc] at ih ⊢
      simpa [hoperator, howner] using List.perm_middle.trans (ih.cons entry)

/--
With a sink that takes every alert, a handler that has not sent anything yet tells of all slashings of a block: first of
those of our validators, then of those of validators that are not in the registry, then of all others, in one alert each
if there are any. An alert says how many they are, and names the validators under the violated duties, our own ones by
their operators. Each slashing is in one of the three alerts, so nothing is sent only if there is none.
-/
theorem handle_tells_slashings {ω : Type} {outlets : Outlets ω} (hsink : outlets.sink.IsReliable)
    (settings : Settings) (now : Instant) (state : State) (head : Head) (capacity : Nat) (events : List OutletEvent)
    (world : ω)
    : ∃ entries ofOurs owned unknown other sent after,
        (Handler.handle outlets.logged settings now head).run ⟨.slashing (.empty capacity), state, events, world⟩
            = (.ok (),
                ⟨.slashing sent, state, events ++ (owned ++ unknown ++ other).map (·.goesOut now), after⟩)
          ∧ AreEntries head.body entries
          ∧ Classified (IsRunBy state) entries ofOurs
          ∧ OneIfAny (TellsOwned settings head.slot) ofOurs owned
          ∧ OneIfAny (TellsUnknown settings head.slot) (entries.filter (ownerOf state · = .unknown)) unknown
          ∧ OneIfAny (TellsOther settings head.slot) (entries.filter (ownerOf state · = .other)) other
          ∧ (ofOurs.map (·.2) ++ entries.filter (ownerOf state · = .unknown)
              ++ entries.filter (ownerOf state · = .other)).Perm entries
          ∧ (owned ++ unknown ++ other = [] ↔ entries = []) := by
  let entries := entries head.body
  have ⟨sent, after, hrun⟩ :=
    Handler.exists_deliver hsink now (pairwise_drafts settings state head) .slashing capacity state events world
  have howned := oneIfAny_ownedDraft settings head.slot (ofOurs state entries)
  have hunknown := oneIfAny_foreignDraft unknownKind (fun n => s!"🚨 {n} unknown validators were slashed!") settings
    head.slot (entries.filter (ownerOf state · = .unknown))
  have hother := oneIfAny_foreignDraft otherKind (fun n => s!"\u2139\ufe0f {n} other validators were slashed") settings
    head.slot (entries.filter (ownerOf state · = .other))
  have hperm := perm_of_owners state entries
  refine ⟨entries, ofOurs state entries, _, _, _, sent, after, hrun.trans ?_, areEntries_entries head.body,
    classified_filterMap (operator?_eq_some_iff state) entries, howned, hunknown, hother, hperm, ?_⟩
  . rw [drafts_eq]
  . rw [← List.length_eq_zero_iff (l := entries), ← hperm.length_eq, List.length_eq_zero_iff, List.append_eq_nil_iff,
      List.append_eq_nil_iff, List.append_eq_nil_iff, List.append_eq_nil_iff, howned.eq_nil_iff, hunknown.eq_nil_iff,
      hother.eq_nil_iff, List.map_eq_nil_iff]

namespace Convicted

def settings : Settings := ⟨⟨"mainnet"⟩, Labels.ofList [("team", "validators")], []⟩

/-- Validators 1 and 7 are run by Alpha and 5 by Beta, 3 is known, and 9 is not. -/
def state : State := { State.empty 96 with
  keys := .ofKeys [⟨"0xaa01", "Alpha", 0, 1⟩, ⟨"0xaa05", "Beta", 1, 1⟩, ⟨"0xaa07", "Alpha", 0, 2⟩]
  registry := (∅ : Registry).insert 1 "0xaa01" |>.insert 3 "0xff03" |>.insert 5 " 0xAA05" |>.insert 7 "0xaa07" }

def head : Head :=
  let slashing (index : ValidatorIndex) : ProposerSlashing := ⟨⟨99, index, "0x01", "0x02"⟩, ⟨99, index, "0x01", "0x03"⟩⟩
  ⟨⟨"0x0b", true, ⟨100, 1, "0x0a", "0x03"⟩⟩, ⟨100, "0x0a", ⟨none, [], [slashing 9, slashing 1],
    [⟨⟨[5, 2, 7, 1, 5]⟩, ⟨[7, 1, 1, 5, 9]⟩⟩, ⟨⟨[5, 3]⟩, ⟨[3, 5, 4]⟩⟩], none⟩⟩⟩

def events : List OutletEvent :=
  Handler.outgoing .reliable settings ⟨0, 0⟩ state head () (.slashing (.empty 10))

def told : List Annotations := [
  ⟨"🚨🚨🚨 5 Our validators were slashed! 🚨🚨🚨",
    "\nAlpha - Violated duty: proposer | Validators: [[1](http://mainnet.beaconcha.in/validator/1)]"
      ++ " Violated duty: attester | Validators: [[1](http://mainnet.beaconcha.in/validator/1),"
      ++ " [7](http://mainnet.beaconcha.in/validator/7)]"
      ++ "\nBeta - Violated duty: attester | Validators: [[5](http://mainnet.beaconcha.in/validator/5),"
      ++ " [5](http://mainnet.beaconcha.in/validator/5)]\n\nslot: [100](https://mainnet.beaconcha.in/slot/100)"⟩,
  ⟨"🚨 1 unknown validators were slashed!",
    " Violated duty: proposer | Validators: [[9](http://mainnet.beaconcha.in/validator/9)]"
      ++ "\n\nslot: [100](https://mainnet.beaconcha.in/slot/100)"⟩,
  ⟨"\u2139\ufe0f 1 other validators were slashed",
    " Violated duty: attester | Validators: [[3](http://mainnet.beaconcha.in/validator/3)]"
      ++ "\n\nslot: [100](https://mainnet.beaconcha.in/slot/100)"⟩]

theorem entries_head : entries head.body = [(.proposer, 9), (.proposer, 1), (.attester, 1), (.attester, 5),
    (.attester, 7), (.attester, 3), (.attester, 5)] := by
  simp only [entries, AttesterSlashing.slashed, List.mergeSort_eq_insertionSort (· ≤ ·)]
  decide +kernel

theorem told_events : events.flatMap OutletEvent.told = told := by
  have ⟨_, _, hrun⟩ := Handler.exists_deliver Outlets.isReliable_reliable ⟨0, 0⟩
    (pairwise_drafts settings state head) .slashing 10 state [] ()
  have hevents : events = (drafts settings state head).map (·.goesOut ⟨0, 0⟩) := congrArg (·.2.world.1) hrun
  rw [hevents, flatMap_told_map_goesOut, drafts, ofHead, entries_head]
  decide +kernel

/-- An index that signed only one of two attestations is not told, and one that signed twice is told once. -/
theorem handle_tells_convicted : Outlets.reliable.sink.IsReliable
    ∧ ∃ entries ofOurs owned unknown other, events = (owned ++ unknown ++ other).map (·.goesOut ⟨0, 0⟩)
      ∧ AreEntries head.body entries ∧ Classified (IsRunBy state) entries ofOurs
      ∧ OneIfAny (TellsOwned settings 100) ofOurs owned
      ∧ OneIfAny (TellsUnknown settings 100) (entries.filter (ownerOf state · = .unknown)) unknown
      ∧ OneIfAny (TellsOther settings 100) (entries.filter (ownerOf state · = .other)) other
      ∧ (owned ++ unknown ++ other).map (·.annotations) = told := by
  have ⟨entries, ofOurs, owned, unknown, other, _, _, hrun, hentries, hours, howned, hunknown, hother, _⟩ :=
    handle_tells_slashings Outlets.isReliable_reliable settings ⟨0, 0⟩ state head 10 [] ()
  have hevents : events = (owned ++ unknown ++ other).map (·.goesOut ⟨0, 0⟩) := congrArg (·.2.world.1) hrun
  have htold := told_events
  rw [hevents, flatMap_told_map_goesOut] at htold
  exact ⟨Outlets.isReliable_reliable, entries, ofOurs, owned, unknown, other, hevents, hentries, hours, howned,
    hunknown, hother, htold⟩

end Convicted
end Slashing
end Watch
end BeaconSentry
