import BeaconSentry.Proofs.Watch.Outlets

/-!
This module contains what is told about the consolidations that the execution layer asks for in a block: each one is
told in the alert of the first category that applies to it, and those to which none applies are not told.
-/

namespace BeaconSentry
namespace Watch

open Beacon

variable {ω : Type}

namespace ConsolidationCategory

section

variable {settings : Settings} {keys : OwnedKeys} {request : ConsolidationRequest} {category : ConsolidationCategory}

/-- A category may apply to a request. More than one of them can. -/
def Applies (settings : Settings) (keys : OwnedKeys) (request : ConsolidationRequest) : ConsolidationCategory → Prop
  | sourceAddress => Text.lower request.sourceAddress ∈ settings.addresses
  | ownedSource => NamedKey.normalize request.sourcePubkey ∈ keys
  | ownedTarget => NamedKey.normalize request.targetPubkey ∈ keys

instance : DecidablePred (Applies settings keys request)
  | sourceAddress => inferInstanceAs (Decidable (_ ∈ settings.addresses))
  | ownedSource => inferInstanceAs (Decidable (_ ∈ keys))
  | ownedTarget => inferInstanceAs (Decidable (_ ∈ keys))

def order : List ConsolidationCategory := [sourceAddress, ownedSource, ownedTarget]

/-- The category of a request: it applies, and none before it does. -/
def Falls (settings : Settings) (keys : OwnedKeys) (request : ConsolidationRequest)
    (category : ConsolidationCategory) : Prop :=
  ∃ earlier later, order = earlier ++ category :: later ∧ Applies settings keys request category
    ∧ ∀ other ∈ earlier, ¬Applies settings keys request other

def Describes (links : Links) (keys : OwnedKeys) (request : ConsolidationRequest) (text : String) : Prop :=
  text = s!"\nsource_address: {request.sourceAddress}" ++
    s!" | source_pubkey: {links.pubkey request.sourcePubkey keys}" ++
    s!" | target_pubkey: {links.pubkey request.targetPubkey keys}"

abbrev Tells (settings : Settings) (keys : OwnedKeys) (slot : Slot)
    (group : ConsolidationCategory × List ConsolidationRequest) : Draft → Prop :=
  TellsEach group.1.kind group.1.summary ∅ (Describes settings.links keys) settings.links slot group.2

theorem of?_eq_find? : of? settings keys request = order.find? (Applies settings keys request ·) := by
  unfold of? order
  by_cases hsource : Applies settings keys request .sourceAddress
  . rw [if_pos (Settings.isValidAddress_iff.mpr hsource), List.find?_cons_of_pos (by simpa using hsource)]
  . rw [if_neg (mt Settings.isValidAddress_iff.mp hsource), List.find?_cons_of_neg (by simpa using hsource)]
    by_cases hgiver : Applies settings keys request .ownedSource
    . rw [if_pos (OwnedKeys.isSome_owner?_iff.mpr hgiver), List.find?_cons_of_pos (by simpa using hgiver)]
    . rw [if_neg (mt OwnedKeys.isSome_owner?_iff.mp hgiver), List.find?_cons_of_neg (by simpa using hgiver)]
      by_cases htaker : Applies settings keys request .ownedTarget
      . rw [if_pos (OwnedKeys.isSome_owner?_iff.mpr htaker), List.find?_cons_of_pos (by simpa using htaker)]
      . rw [if_neg (mt OwnedKeys.isSome_owner?_iff.mp htaker), List.find?_cons_of_neg (by simpa using htaker)]
        rfl

theorem of?_eq_some_iff : of? settings keys request = some category ↔ Falls settings keys request category := by
  rw [of?_eq_find?, List.find?_eq_some_iff_append, Falls]
  constructor
  . intro ⟨happlies, earlier, later, horder, hearlier⟩
    exact ⟨earlier, later, horder, of_decide_eq_true happlies, by simpa using hearlier⟩
  . intro ⟨earlier, later, horder, happlies, hearlier⟩
    exact ⟨decide_eq_true happlies, earlier, later, horder, by simpa using hearlier⟩

theorem exists_applies_iff :
    (∃ category, Applies settings keys request category) ↔ ∃! category, Falls settings keys request category := by
  constructor
  . intro ⟨category, happlies⟩
    apply existsUnique_of_exists_of_unique
    . have hmem : category ∈ order := by cases category <;> decide
      have hsome : (of? settings keys request).isSome := by
        rw [of?_eq_find?, List.find?_isSome]
        exact ⟨category, hmem, decide_eq_true happlies⟩
      have ⟨first, hfirst⟩ := Option.isSome_iff_exists.mp hsome
      exact ⟨first, of?_eq_some_iff.mp hfirst⟩
    . intro first other hfirst hother
      rw [← of?_eq_some_iff] at hfirst hother
      exact Option.some.inj (hfirst.symm.trans hother)
  . intro ⟨category, ⟨_, _, _, happlies, _⟩, _⟩
    exact ⟨category, happlies⟩

end

theorem describes_line (links : Links) (keys : OwnedKeys) (request : ConsolidationRequest) :
    Describes links keys request (line links keys request) := rfl

theorem tells_draft (settings : Settings) (keys : OwnedKeys) (slot : Slot)
    (group : ConsolidationCategory × List ConsolidationRequest)
    : Tells settings keys slot group (draft settings keys slot group.1 group.2) :=
  ⟨rfl, rfl, ⟨_, forall₂_map_right (describes_line settings.links keys) group.2, rfl⟩, rfl⟩

/--
With a sink that takes every alert, a handler that has not sent anything yet tells of all requests for consolidations
in a block that concern us. There is one alert for each category that occurs, in the order in which they occur first,
with one line for each request of the category. A request has the first category that applies to it.
-/
theorem handle_tells_consolidations {outlets : Outlets ω} (hsink : outlets.sink.IsReliable) (settings : Settings)
    (now : Instant) (state : State) (head : Head) (capacity : Nat) (events : List OutletEvent) (world : ω)
    : (∃ groups drafts sent after,
        (Handler.handle outlets.logged settings now head).run ⟨.consolidation (.empty capacity), state, events, world⟩
            = (.ok (), ⟨.consolidation sent, state, events ++ drafts.map (·.goesOut now), after⟩)
          ∧ Filed (Falls settings state.keys) head.consolidations groups
          ∧ List.Forall₂ (Tells settings state.keys head.slot) groups drafts)
      ∧ ∀ request, (∃ category, Applies settings state.keys request category)
          ↔ ∃! category, Falls settings state.keys request category := by
  have ⟨sent, after, hrun⟩ :=
    Handler.exists_deliver hsink now (pairwise_drafts settings state head) .consolidation capacity state events world
  exact ⟨⟨_, _, sent, after, hrun, filed_groupByKey (fun _ _ => of?_eq_some_iff) head.consolidations,
    forall₂_map_right (tells_draft settings state.keys head.slot) _⟩, fun _ => exists_applies_iff⟩

namespace Rivals

/-- Validators of Alpha and Beta are ours, and so is one address. -/
def settings : Settings := ⟨⟨"mainnet"⟩, Labels.ofList [("team", "validators")], ["0xva17"]⟩

def state : State := { State.empty 96 with
  keys := .ofKeys [⟨"0xaa01", "Alpha", 0, 1⟩, ⟨"0xaa05", "Beta", 1, 1⟩] }

def requests : List ConsolidationRequest := [
  ⟨"0xff", "0xbb02", " 0xAA01"⟩,
  ⟨"0xVA17", "0xaa05", "0xaa01"⟩,
  ⟨"0xff", "0xAA05", "0xaa01"⟩,
  ⟨"0xff", "0xbb02", "0xbb03"⟩,
  ⟨"0xff", "0xbb02", " 0xAA01"⟩,
  ⟨"0xva17", "0xbb02", "0xbb03"⟩]

def head : Head :=
  ⟨⟨"0x0b", true, ⟨100, 1, "0x0a", "0x03"⟩⟩, ⟨100, "0x0a", ⟨none, [], [], [], some ⟨[], [], requests⟩⟩⟩⟩

def events : List OutletEvent :=
  Handler.outgoing .reliable settings ⟨0, 0⟩ state head () (.consolidation (.empty 10))

def told : List Annotations :=
  let slot := "\n\nslot: [100](https://mainnet.beaconcha.in/slot/100)"
  let alpha := "[Alpha 0xaa01](https://mainnet.beaconcha.in/validator/0xaa01)"
  let shouted := "[Alpha  0xAA01](https://mainnet.beaconcha.in/validator/ 0xAA01)"
  let stranger := "[0xbb02](https://mainnet.beaconcha.in/validator/0xbb02)"
  let taken := s!"\nsource_address: 0xff | source_pubkey: {stranger} | target_pubkey: {shouted}"
  [⟨"\u26a0\ufe0fSomeone attempts to consolidate their validators to our validators", taken ++ taken ++ slot⟩,
    ⟨"\u203c\ufe0f\u26d4\ufe0fValidator consolidation was requested from Withdrawal Vault source address",
      "\nsource_address: 0xVA17 | source_pubkey: [Beta 0xaa05](https://mainnet.beaconcha.in/validator/0xaa05)" ++
        s!" | target_pubkey: {alpha}\nsource_address: 0xva17 | source_pubkey: {stranger}" ++
        " | target_pubkey: [0xbb03](https://mainnet.beaconcha.in/validator/0xbb03)" ++ slot⟩,
    ⟨"\u26a0\ufe0fConsolidation was requested for our validators",
      "\nsource_address: 0xff | source_pubkey: [Beta 0xAA05](https://mainnet.beaconcha.in/validator/0xAA05)" ++
        s!" | target_pubkey: {alpha}" ++ slot⟩]

theorem told_events : events.flatMap OutletEvent.told = told := by
  decide +kernel

/-- A request to which more categories apply is told in the alert of the first one. -/
theorem handle_tells_rivals : Outlets.reliable.sink.IsReliable
    ∧ ∃ groups drafts, events = drafts.map (·.goesOut ⟨0, 0⟩)
      ∧ Filed (Falls settings state.keys) requests groups
      ∧ List.Forall₂ (Tells settings state.keys 100) groups drafts
      ∧ events.flatMap OutletEvent.told = told := by
  have ⟨⟨groups, drafts, _, _, hrun, hfiled, htells⟩, _⟩ :=
    handle_tells_consolidations Outlets.isReliable_reliable settings ⟨0, 0⟩ state head 10 [] ()
  exact ⟨Outlets.isReliable_reliable, groups, drafts, congrArg (·.2.world.1) hrun, hfiled, htells, told_events⟩

end Rivals
end ConsolidationCategory
end Watch
end BeaconSentry
