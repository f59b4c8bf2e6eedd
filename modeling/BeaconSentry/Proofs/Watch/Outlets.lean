import BeaconSentry.Proofs.Alert.Delivery
import BeaconSentry.Proofs.Watch.Drafts
import BeaconSentry.Watch.Handler
import Mathlib.Data.List.Forall2

/-!
This module contains what goes out of a handler that has not sent anything yet, if its sink is one that takes every
alert: all drafts about a head, one by one.
-/

namespace BeaconSentry

open Beacon

variable {ω : Type}

/-- A sink that takes every alert. -/
def Sink.IsReliable (sink : Sink ω) : Prop :=
  ∀ alerts world, ((sink.deliver alerts).run world).1 = .ok ()

namespace Watch

open Exit SentAlerts

/-- What goes out of a handler: questions to the oracle, and alerts. -/
inductive OutletEvent where
  | askedTotal (block : BlockNumber)
  | askedRequests (first last : BlockNumber)
  | sent (alerts : List Alert)

/-- An action that is recorded as an event. -/
def OutletEvent.note {ε α : Type} (event : OutletEvent) (action : Action ω ε α) :
    Action (List OutletEvent × ω) ε α where
  run := fun (events, world) =>
    let (result, world) := action.run world
    (result, events ++ [event], world)

def OutletEvent.oracle (oracle : ExitOracle ω) : ExitOracle (List OutletEvent × ω) where
  total block := (askedTotal block).note (oracle.total block)
  requests first last := (askedRequests first last).note (oracle.requests first last)

theorem OutletEvent.run_total_oracle (oracle : ExitOracle ω) (block : BlockNumber) (events : List OutletEvent)
    (world : ω) :
    ((OutletEvent.oracle oracle).total block).run (events, world)
      = (((oracle.total block).run world).1, events ++ [.askedTotal block], ((oracle.total block).run world).2) := rfl

theorem OutletEvent.run_requests_oracle (oracle : ExitOracle ω) (first last : BlockNumber) (events : List OutletEvent)
    (world : ω) :
    ((OutletEvent.oracle oracle).requests first last).run (events, world)
      = (((oracle.requests first last).run world).1, events ++ [.askedRequests first last],
          ((oracle.requests first last).run world).2) := rfl

def OutletEvent.sink (sink : Sink ω) : Sink (List OutletEvent × ω) where
  deliver alerts := (sent alerts).note (sink.deliver alerts)

/-- Outlets that keep a record of what goes through them. -/
def Outlets.logged (outlets : Outlets ω) : Outlets (List OutletEvent × ω) where
  oracle := outlets.oracle.map OutletEvent.oracle
  sink := OutletEvent.sink outlets.sink

/-- What goes out of a handler for a head. -/
def Handler.outgoing (outlets : Outlets ω) (settings : Settings) (now : Instant) (state : State) (head : Head)
    (world : ω) (handler : Handler) : List OutletEvent :=
  ((handle outlets.logged settings now head).run ⟨handler, state, [], world⟩).2.world.1

/-- Outlets without an oracle, through which every alert goes. -/
def Outlets.reliable : Outlets Unit := ⟨none, ⟨fun _ => pure ()⟩⟩

theorem Outlets.isReliable_reliable : reliable.sink.IsReliable := fun _ _ => rfl

/-- The alert made of a draft goes out. -/
def Draft.goesOut (now : Instant) (draft : Draft) : OutletEvent := .sent [draft.alert now]

/-- What an event tells people. -/
def OutletEvent.told : OutletEvent → List Annotations
  | sent alerts => alerts.map (·.annotations)
  | _ => []

theorem flatMap_told_map_goesOut (now : Instant) (drafts : List Draft) :
    (drafts.map (·.goesOut now)).flatMap OutletEvent.told = drafts.map (·.annotations) := by
  rw [List.flatMap_map, List.map_eq_flatMap]
  rfl

theorem exists_deliver_sink {sink : Sink ω} (hsink : sink.IsReliable) (alerts : List Alert)
    (events : List OutletEvent) (world : ω)
    : ∃ after, ((OutletEvent.sink sink).deliver alerts).run (events, world)
        = (.ok (), events ++ [.sent alerts], after) := by
  refine ⟨((sink.deliver alerts).run world).2, ?_⟩
  rw [← hsink alerts world]
  rfl

theorem exists_sendEach {sink : Sink ω} (hsink : sink.IsReliable) (now : Instant) (drafts : List Draft)
    (history : SentAlerts) (events : List OutletEvent) (world : ω)
    : ∃ history' after,
        (sendEach (OutletEvent.sink sink) (drafts.map (·.alert now))).run (history, events, world)
          = (.ok (), history', events ++ (history.news (·.annotations) drafts).map (·.goesOut now), after) := by
  induction drafts generalizing history events world with
  | nil => exact ⟨history, world, by simp [sendEach, news]⟩
  | cons draft rest ih =>
    obtain ⟨result, history', ⟨events', world'⟩, hrun, hsent⟩ :=
      sentOnce_sendOnce (OutletEvent.sink sink) (draft.alert now) history (events, world)
    rw [List.map_cons, sendEach, Action.run_bind, hrun]
    obtain ⟨after, hdeliver⟩ := exists_deliver_sink hsink [draft.alert now] events world
    cases hsent with
    | repeated hmem =>
      have hmem : draft.annotations ∈ history.sent := hmem
      rw [news_cons_of_mem hmem]
      exact ih history events world
    | taken hmem hanswer =>
      have hmem : draft.annotations ∉ history.sent := hmem
      rw [hdeliver] at hanswer
      cases hanswer
      obtain ⟨history', after, hrest⟩ := ih (history.push draft.annotations) (events ++ [draft.goesOut now]) world'
      refine ⟨history', after, hrest.trans ?_⟩
      rw [news_cons_of_not_mem hmem, List.map_cons, List.append_assoc, List.singleton_append]
    | refused _ hanswer =>
      rw [hdeliver] at hanswer
      cases hanswer

/-- With an empty memory every draft goes out, since no two of them say the same. -/
theorem exists_deliverDrafts {sink : Sink ω} (hsink : sink.IsReliable) (now : Instant) {drafts : List Draft}
    (hapart : drafts.Pairwise Draft.Apart) (capacity : Nat) (events : List OutletEvent) (world : ω)
    : ∃ sent after,
        (deliverDrafts (OutletEvent.sink sink) now drafts).run (.empty capacity, events, world)
          = (.ok (), sent, events ++ drafts.map (·.goesOut now), after) := by
  have ⟨sent, after, hrun⟩ := exists_sendEach hsink now drafts (.empty capacity) events world
  refine ⟨sent, after, ?_⟩
  rw [deliverDrafts, Action.run_mapError, hrun,
    news_eq_self (nodup_annotations_of_pairwise hapart) fun _ _ => List.not_mem_nil]
  rfl

theorem Handler.exists_deliver {outlets : Outlets ω} (hsink : outlets.sink.IsReliable) (now : Instant)
    {drafts : List Draft} (hapart : drafts.Pairwise Draft.Apart) (remember : SentAlerts → Handler) (capacity : Nat)
    (state : State) (events : List OutletEvent) (world : ω)
    : ∃ sent after,
        deliver outlets.logged now drafts remember (.empty capacity) state (events, world)
          = (.ok (), ⟨remember sent, state, events ++ drafts.map (·.goesOut now), after⟩) := by
  have ⟨sent, after, hrun⟩ := exists_deliverDrafts hsink now hapart capacity events world
  refine ⟨sent, after, ?_⟩
  unfold deliver
  rw [show outlets.logged.sink = OutletEvent.sink outlets.sink from rfl, hrun]

/-- One draft about some things, or none if there are none of them. -/
inductive OneIfAny {α : Type} (tells : List α → Draft → Prop) : List α → List Draft → Prop
  | none : OneIfAny tells [] []
  | one {things : List α} {draft : Draft} (hany : things ≠ []) (htells : tells things draft) :
    OneIfAny tells things [draft]

theorem oneIfAny_ite {α : Type} {tells : List α → Draft → Prop} {things : List α} {draft : Draft}
    (htells : tells things draft) : OneIfAny tells things (if things.isEmpty then [] else [draft]) := by
  cases things with
  | nil => exact .none
  | cons thing rest => exact .one (List.cons_ne_nil thing rest) htells

theorem OneIfAny.eq_nil_iff {α : Type} {tells : List α → Draft → Prop} {things : List α} {drafts : List Draft}
    (h : OneIfAny tells things drafts) : drafts = [] ↔ things = [] := by
  cases h with
  | none => simp
  | one hany => simp [hany]

/-- A draft about some things, with one line for each. -/
structure TellsEach {α : Type} (kind : AlertKind) (summary : String) (labels : Labels) (describes : α → String → Prop)
    (links : Links) (slot : Slot) (things : List α) (draft : Draft) : Prop where
  kind_eq : draft.kind = kind
  summary_eq : draft.annotations.summary = summary
  description_eq : ∃ lines, List.Forall₂ describes things lines
    ∧ draft.annotations.description = String.join lines ++ links.slotLine slot
  labels_eq : draft.labels = labels

theorem forall₂_map_right {α β : Type} {r : α → β → Prop} {f : α → β} (h : ∀ x, r x (f x)) (xs : List α) :
    List.Forall₂ r xs (xs.map f) := by
  rw [List.forall₂_map_right_iff, List.forall₂_same]
  exact fun x _ => h x

end Watch
end BeaconSentry
