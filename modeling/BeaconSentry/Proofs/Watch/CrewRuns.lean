import BeaconSentry.Proofs.Watch.Course
import BeaconSentry.Proofs.Watch.Crew
import BeaconSentry.Proofs.Watch.Replay

/-!
This module contains the ways in which the watcher runs, as courses of events of a crew: following the head of the
chain and replaying slots are two of the many orders in which its tasks can go on.
-/

namespace BeaconSentry
namespace Watch
namespace Crew

open Beacon Watcher

variable {ω : Type} {plan : Plan Handler ω} {outlets : Outlets ω}

theorem take_kick {crew : Crew ω} (slot : Slot) (hwaiting : crew.waiting = false)
    : crew.take plan outlets (.kick slot)
      = { crew with keys := crew.keys.kick (.asking slot), registry := crew.registry.kick .reading } := by
  unfold take
  dsimp only
  rw [hwaiting]
  exact if_neg Bool.false_ne_true

theorem stepKeys_of_find? {crew : Crew ω} {number : Nat} {refresh : Refresh KeysStage KeysAnswer}
    (hfind : crew.keys.find? number = some refresh)
    : crew.stepKeys plan number =
      let watcher := { crew.watcher with keysRefresh := some refresh.stage }.stepKeys plan
      let answer := keysAnswer plan crew.watcher.world refresh.stage
      { crew with watcher, keys := crew.keys.proceed refresh answer watcher.keysRefresh } := by
  unfold Crew.stepKeys
  rw [hfind]

theorem stepRegistry_of_find? {crew : Crew ω} {number : Nat} {refresh : Refresh RegistryStage RegistryAnswer}
    (hfind : crew.registry.find? number = some refresh)
    : crew.stepRegistry plan number =
      let watcher := { crew.watcher with registryRefresh := some refresh.stage }.stepRegistry plan
      let answer := registryAnswer plan crew.watcher.world refresh.stage
      { crew with watcher, registry := crew.registry.proceed refresh answer watcher.registryRefresh } := by
  unfold Crew.stepRegistry
  rw [hfind]

/-- What happens between two states of a watcher is a course of events, after which it waits as before. -/
def IsRun (plan : Plan Handler ω) (outlets : Outlets ω) (waiting : Bool) (watcher watcher' : Watcher Handler ω) :
    Prop :=
  ∀ crew : Crew ω, crew.Sound → crew.waiting = waiting → crew.shown = watcher →
    ∃ events, (Crew.run plan outlets events crew).waiting = waiting
      ∧ (Crew.run plan outlets events crew).shown = watcher'

namespace IsRun

variable {waiting : Bool} {watcher watcher' watcher'' : Watcher Handler ω}

theorem trans (h : IsRun plan outlets waiting watcher watcher') (h' : IsRun plan outlets waiting watcher' watcher'')
    : IsRun plan outlets waiting watcher watcher'' := by
  intro crew hsound hwaiting hshown
  obtain ⟨events, hwaiting, hshown⟩ := h crew hsound hwaiting hshown
  obtain ⟨later, hwaiting, hshown⟩ := h' _ (hsound.run plan outlets events) hwaiting hshown
  refine ⟨events ++ later, ?_⟩
  unfold Crew.run at *
  rw [List.foldl_append]
  exact ⟨hwaiting, hshown⟩

theorem of_take (h : ∀ crew : Crew ω, crew.Sound → crew.waiting = waiting → crew.shown = watcher →
      ∃ event, (crew.take plan outlets event).waiting = waiting ∧ (crew.take plan outlets event).shown = watcher')
    : IsRun plan outlets waiting watcher watcher' := by
  intro crew hsound hwaiting hshown
  obtain ⟨event, hafter⟩ := h crew hsound hwaiting hshown
  exact ⟨[event], hafter⟩

/-- What touches neither what the watcher knows nor its refreshers goes on elsewhere. -/
theorem of_eq (hstate : watcher'.state = watcher.state) (hkeys : watcher'.keysRefresh = watcher.keysRefresh)
    (hregistry : watcher'.registryRefresh = watcher.registryRefresh)
    : IsRun plan outlets waiting watcher watcher' := by
  apply of_take
  intro crew hsound hwaiting hshown
  refine ⟨.elsewhere watcher', hwaiting, ?_⟩
  subst hshown
  unfold take shown
  dsimp only
  rcases watcher' with ⟨handlers, state, gauges, stints, beats, keysRefresh, registryRefresh, world⟩
  cases hstate
  cases hkeys
  cases hregistry
  rfl

theorem refl (watcher : Watcher Handler ω) : IsRun plan outlets waiting watcher watcher := of_eq rfl rfl rfl

theorem kick (slot : Slot) (watcher : Watcher Handler ω) : IsRun plan outlets false watcher (watcher.kick slot) := by
  apply of_take
  intro crew hsound hwaiting hshown
  subst hshown
  obtain ⟨hkeys, hregistry⟩ := hsound.awaited_eq hwaiting
  refine ⟨.kick slot, ?_⟩
  rw [take_kick slot hwaiting]
  refine ⟨hwaiting, ?_⟩
  unfold shown Watcher.kick
  dsimp only
  rw [hsound.keys.inTurn.stage?_kick hkeys, hsound.registry.inTurn.stage?_kick hregistry]

theorem announce (reorg : Reorg) (watcher : Watcher Handler ω)
    : IsRun plan outlets waiting watcher { watcher with state := watcher.state.insertReorg reorg } := by
  apply of_take
  intro crew _ hwaiting hshown
  subst hshown
  exact ⟨.announce reorg, hwaiting, rfl⟩

theorem remember (head : Head) (watcher : Watcher Handler ω)
    : IsRun plan outlets waiting watcher { watcher with state := watcher.state.pushHandled head } := by
  apply of_take
  intro crew _ hwaiting hshown
  subst hshown
  exact ⟨.remember head, hwaiting, rfl⟩

theorem look (now : Instant) (head : Head) {handler : Handler} {result : Except Failure Unit}
    {desk : Desk Handler ω} (watcher : Watcher Handler ω)
    (hrun : (Handler.handle outlets plan.settings now head).run ⟨handler, watcher.state, watcher.world⟩
      = (result, desk))
    : IsRun plan outlets waiting watcher { watcher with state := desk.state, world := desk.world } := by
  apply of_take
  intro crew _ hwaiting hshown
  subst hshown
  refine ⟨.look now handler head, hwaiting, ?_⟩
  unfold shown at hrun
  unfold take shown
  dsimp only at *
  rw [hrun]

end IsRun

theorem stepKeys_withRegistry (plan : Plan Handler ω) (watcher : Watcher Handler ω)
    (registryRefresh : Option RegistryStage) :
    { watcher with registryRefresh }.stepKeys plan = { watcher.stepKeys plan with registryRefresh } := by
  unfold Watcher.stepKeys
  dsimp only
  split
  . rfl
  . unfold answeredKeys
    dsimp only
    split <;> rfl
  . rfl

theorem stepRegistry_withKeys (plan : Plan Handler ω) (watcher : Watcher Handler ω)
    (keysRefresh : Option KeysStage) :
    { watcher with keysRefresh }.stepRegistry plan = { watcher.stepRegistry plan with keysRefresh } := by
  unfold Watcher.stepRegistry
  dsimp only
  split
  . rfl
  . unfold readRegistry
    dsimp only
    split <;> rfl
  . split <;> rfl
  . rfl

theorem isRun_stepKeys (plan : Plan Handler ω) (outlets : Outlets ω) (waiting : Bool)
    (watcher : Watcher Handler ω) :
    IsRun plan outlets waiting watcher (watcher.stepKeys plan) := by
  cases hstage : watcher.keysRefresh with
  | none =>
    unfold Watcher.stepKeys
    rw [hstage]
    exact .refl watcher
  | some stage =>
    apply IsRun.of_take
    intro crew hsound hwaiting hshown
    subst hshown
    obtain ⟨refresh, hrunning, hstage', hfind⟩ := hsound.keys.inTurn.exists_of_stage?_eq_some hstage
    subst hstage'
    refine ⟨.stepKeys refresh.number, ?_⟩
    unfold take
    dsimp only
    rw [stepKeys_of_find? hfind]
    refine ⟨hwaiting, ?_⟩
    have hshown : crew.shown = { { crew.watcher with keysRefresh := some refresh.stage } with
        registryRefresh := crew.registry.stage? } := by
      rw [← hstage]
      rfl
    rw [hshown, stepKeys_withRegistry, shown]
    dsimp only
    rw [hsound.keys.inTurn.stage?_proceed hrunning]

theorem isRun_stepRegistry (plan : Plan Handler ω) (outlets : Outlets ω) (waiting : Bool)
    (watcher : Watcher Handler ω) :
    IsRun plan outlets waiting watcher (watcher.stepRegistry plan) := by
  cases hstage : watcher.registryRefresh with
  | none =>
    unfold Watcher.stepRegistry
    rw [hstage]
    exact .refl watcher
  | some stage =>
    apply IsRun.of_take
    intro crew hsound hwaiting hshown
    subst hshown
    obtain ⟨refresh, hrunning, hstage', hfind⟩ := hsound.registry.inTurn.exists_of_stage?_eq_some hstage
    subst hstage'
    refine ⟨.stepRegistry refresh.number, ?_⟩
    unfold take
    dsimp only
    rw [stepRegistry_of_find? hfind]
    refine ⟨hwaiting, ?_⟩
    have hshown : crew.shown = { { crew.watcher with registryRefresh := some refresh.stage } with
        keysRefresh := crew.keys.stage? } := by
      rw [← hstage]
      rfl
    rw [hshown, stepRegistry_withKeys, shown]
    dsimp only
    rw [hsound.registry.inTurn.stage?_proceed hrunning]

theorem isRun_settle (plan : Plan Handler ω) (outlets : Outlets ω) (waiting : Bool)
    (watcher : Watcher Handler ω) :
    IsRun plan outlets waiting watcher (watcher.settle plan) := by
  have hkeys := isRun_stepKeys plan outlets waiting
  have hregistry := isRun_stepRegistry plan outlets waiting
  unfold settle
  exact ((((hkeys _).trans (hkeys _)).trans (hregistry _)).trans (hregistry _)).trans (hregistry _)

/-- How many steps a refresh of the keys has left at most. -/
def keysLeft : Option KeysStage → Nat
  | none => 0
  | some (.publishing _ _) => 1
  | some (.asking _) => 2

def registryLeft : Option RegistryStage → Nat
  | none => 0
  | some (.publishing _ _) => 1
  | some (.asking _ _) => 2
  | some .reading => 3

theorem keysLeft_stepKeys (plan : Plan Handler ω) (watcher : Watcher Handler ω) :
    keysLeft (watcher.stepKeys plan).keysRefresh ≤ keysLeft watcher.keysRefresh - 1 := by
  cases hstage : watcher.keysRefresh with
  | none =>
    unfold Watcher.stepKeys
    rw [hstage]
    exact (congrArg keysLeft hstage).le
  | some stage =>
    have hstep := keysStep_stepKeys plan watcher hstage
    generalize (watcher.stepKeys plan).keysRefresh = next at hstep
    generalize (watcher.stepKeys plan).state = state at hstep
    generalize keysAnswer plan watcher.world stage = answer at hstep
    cases hstep <;> simp [keysLeft]

theorem registryLeft_stepRegistry (plan : Plan Handler ω) (watcher : Watcher Handler ω) :
    registryLeft (watcher.stepRegistry plan).registryRefresh ≤ registryLeft watcher.registryRefresh - 1 := by
  cases hstage : watcher.registryRefresh with
  | none =>
    unfold Watcher.stepRegistry
    rw [hstage]
    exact (congrArg registryLeft hstage).le
  | some stage =>
    have hstep := registryStep_stepRegistry plan watcher hstage
    generalize (watcher.stepRegistry plan).registryRefresh = next at hstep
    generalize (watcher.stepRegistry plan).state = state at hstep
    generalize registryAnswer plan watcher.world stage = answer at hstep
    cases hstep <;> simp [registryLeft]

theorem eq_none_of_keysLeft {stage : Option KeysStage} (h : keysLeft stage ≤ 0) : stage = none := by
  rcases stage with _ | _ | _
  . rfl
  . cases h
  . cases h

theorem eq_none_of_registryLeft {stage : Option RegistryStage} (h : registryLeft stage ≤ 0) : stage = none := by
  rcases stage with _ | _ | _ | _
  . rfl
  . cases h
  . cases h
  . cases h

theorem keysLeft_le (stage : Option KeysStage) : keysLeft stage ≤ 2 := by
  rcases stage with _ | _ | _ <;> simp [keysLeft]

theorem registryLeft_le (stage : Option RegistryStage) : registryLeft stage ≤ 3 := by
  rcases stage with _ | _ | _ | _ <;> simp [registryLeft]

theorem keysRefresh_stepRegistry (plan : Plan Handler ω) (watcher : Watcher Handler ω) :
    (watcher.stepRegistry plan).keysRefresh = watcher.keysRefresh := by
  have hkeys := congrArg (·.keysRefresh) (stepRegistry_withKeys plan watcher watcher.keysRefresh)
  exact hkeys

/-- Once the watcher has settled, no refresh is under way. -/
theorem refresh_settle (plan : Plan Handler ω) (watcher : Watcher Handler ω) :
    (watcher.settle plan).keysRefresh = none ∧ (watcher.settle plan).registryRefresh = none := by
  unfold settle
  dsimp only
  constructor
  . rw [keysRefresh_stepRegistry, keysRefresh_stepRegistry, keysRefresh_stepRegistry]
    apply eq_none_of_keysLeft
    have hfirst := keysLeft_stepKeys plan watcher
    have hsecond := keysLeft_stepKeys plan (watcher.stepKeys plan)
    have hleft := keysLeft_le watcher.keysRefresh
    omega
  . generalize (watcher.stepKeys plan).stepKeys plan = watcher
    apply eq_none_of_registryLeft
    have hfirst := registryLeft_stepRegistry plan watcher
    have hsecond := registryLeft_stepRegistry plan (watcher.stepRegistry plan)
    have hthird := registryLeft_stepRegistry plan ((watcher.stepRegistry plan).stepRegistry plan)
    have hleft := registryLeft_le watcher.registryRefresh
    omega

/-- The watcher waits for its refreshes and goes on once they have ended. -/
theorem isRun_await (watcher : Watcher Handler ω) : IsRun plan outlets false watcher (watcher.settle plan) := by
  intro crew hsound hwaiting hshown
  have htake : crew.take plan outlets .wait
      = { crew with keys := crew.keys.await, registry := crew.registry.await, waiting := true } := by
    unfold take
    dsimp only
    rw [hwaiting]
    exact if_neg Bool.false_ne_true
  have hsound' := hsound.of_moves (moves_take plan outlets crew .wait)
  have hshown' : (crew.take plan outlets .wait).shown = watcher := by
    rw [htake]
    exact hshown
  have hwaiting' : (crew.take plan outlets .wait).waiting = true := by
    rw [htake]
  obtain ⟨events, hwaiting', hshown'⟩ := isRun_settle plan outlets true watcher _ hsound' hwaiting' hshown'
  have hsound' := hsound'.run plan outlets events
  obtain ⟨hkeys, hregistry⟩ := refresh_settle plan watcher
  rw [← hshown'] at hkeys hregistry
  generalize hcrew : Crew.run plan outlets events (crew.take plan outlets .wait) = settled at *
  have hresume : settled.take plan outlets .resume
      = { settled with keys := settled.keys.resume, registry := settled.registry.resume, waiting := false } := by
    unfold take
    dsimp only
    rw [Refreshes.isAwaitedOver_of_stage?_eq_none hkeys, Refreshes.isAwaitedOver_of_stage?_eq_none hregistry]
    rfl
  refine ⟨.wait :: events ++ [.resume], ?_⟩
  have hrun : Crew.run plan outlets (.wait :: events ++ [.resume]) crew = settled.take plan outlets .resume := by
    rw [← hcrew]
    unfold Crew.run
    rw [List.foldl_append]
    rfl
  rw [hrun, hresume]
  exact ⟨rfl, hshown'⟩

section

variable {now : Instant} (hplan : plan.services.handle = fun settings head => Handler.handle outlets settings now head)

theorem isRun_takeReorgs {ε : Type} (waiting : Bool) (watcher : Watcher Handler ω) (reorgs : List (Except ε Reorg)) :
    IsRun plan outlets waiting watcher { watcher with state := takeReorgs watcher.state reorgs } := by
  induction reorgs generalizing watcher with
  | nil => exact .refl watcher
  | cons first rest ih =>
    cases first with
    | error => exact .refl watcher
    | ok reorg => exact (IsRun.announce reorg watcher).trans (ih _)

theorem isRun_listen (plan : Plan Handler ω) (outlets : Outlets ω) (waiting : Bool) (watcher : Watcher Handler ω) :
    IsRun plan outlets waiting watcher (watcher.listen plan) := by
  unfold Watcher.listen
  split
  . exact (isRun_takeReorgs waiting watcher _).trans (.of_eq rfl rfl rfl)
  . exact .of_eq rfl rfl rfl

theorem isRun_polling (plan : Plan Handler ω) (outlets : Outlets ω) (waiting : Bool) (watcher : Watcher Handler ω) :
    IsRun plan outlets waiting watcher (watcher.polling plan) :=
  (isRun_settle plan outlets waiting watcher).trans (isRun_listen plan outlets waiting _)

include hplan

theorem isRun_runHandlers (head : Head) (handlers : List Handler) (watcher : Watcher Handler ω)
    : IsRun plan outlets false watcher (runHandlers plan head handlers watcher).2.2 := by
  induction handlers generalizing watcher with
  | nil => exact .refl watcher
  | cons handler rest ih =>
    generalize hrun : (plan.services.handle plan.settings head).run ⟨handler, watcher.state, watcher.world⟩ = answer
    rcases answer with ⟨result, desk⟩
    have hlook : IsRun plan outlets false watcher { watcher with state := desk.state, world := desk.world } := by
      rw [hplan] at hrun
      exact .look now head watcher hrun
    rcases Fork.runHandlers_cons_cases rest hrun with hanswer | ⟨name, succeeded, hanswer⟩
    . rw [hanswer]
      exact hlook
    . rw [hanswer]
      let left : Watcher Handler ω := { watcher with state := desk.state, world := desk.world }
      have hleft : IsRun plan outlets false watcher (left.note name succeeded) := hlook.trans (.of_eq rfl rfl rfl)
      exact hleft.trans (ih (left.note name succeeded))

theorem isRun_consulted (head : Head) (watcher : Watcher Handler ω)
    : IsRun plan outlets false watcher (watcher.consulted plan head) := by
  refine (isRun_runHandlers hplan head watcher.handlers watcher).trans ?_
  unfold consulted noteEnd
  dsimp only
  split <;> exact .of_eq rfl rfl rfl

theorem isRun_cycle (id : BlockId) (watcher : Watcher Handler ω)
    : IsRun plan outlets false watcher ((cycle plan id).run watcher).2 := by
  have hcycled := cycled_cycle plan id watcher
  generalize (cycle plan id).run watcher = outcome at hcycled
  rcases outcome with ⟨result, after⟩
  have hfacing (head : Head) (world : ω) : IsRun plan outlets false watcher (watcher.facing head world) := by
    let noted := (watcher.inWorld world).note "get_header_full_info" true
    have hnoted : IsRun plan outlets false watcher noted := .of_eq rfl rfl rfl
    exact hnoted.trans (.kick head.slot noted)
  cases hcycled with
  | @unfetched failure world =>
    cases failure <;> exact .of_eq rfl rfl rfl
  | repeated => exact .of_eq rfl rfl rfl
  | refused => exact (hfacing _ _).trans (isRun_consulted hplan _ _)
  | @handled head world =>
    have hconsulted := (hfacing head world).trans (isRun_consulted hplan head (watcher.facing head world))
    exact (hconsulted.trans (.remember head _)).trans (.of_eq rfl rfl rfl)

/-- A watcher that follows the head of the chain goes through events of a crew. -/
theorem isRun_follow (hasEnded : ω → Bool) (cycles : Nat) (watcher : Watcher Handler ω)
    : IsRun plan outlets false watcher ((follow plan hasEnded cycles).run watcher).2 := by
  induction cycles generalizing watcher with
  | zero => exact .refl watcher
  | succ cycles ih =>
    have hpolling := isRun_polling plan outlets false watcher
    have hcycle := hpolling.trans (isRun_cycle hplan .head (watcher.polling plan))
    rw [run_follow_succ]
    dsimp only
    split
    . exact hcycle.trans (ih _)
    . split
      . next hrun =>
        rw [hrun] at hcycle
        exact hcycle
      . exact hpolling.trans (.of_eq rfl rfl rfl)

/-- So does one that replays slots, which waits for its refreshes after each of them. -/
theorem isRun_replay (slots : List Slot) (watcher : Watcher Handler ω)
    : IsRun plan outlets false watcher ((replay plan slots).run watcher).2 := by
  induction slots generalizing watcher with
  | nil => exact .refl watcher
  | cons slot rest ih =>
    have hcycle := isRun_cycle hplan (.slot slot) watcher
    rw [replay_cons]
    dsimp only
    split
    . exact (hcycle.trans (isRun_await _)).trans (ih _)
    . exact hcycle

/-- So what becomes of a watcher from its start on is what a crew shows after some events. -/
theorem exists_shown (handlers : List Handler) (capacity : Nat) (genesisTime : UInt64) (beats : Option Nat) (world : ω)
    : let watcher := Watcher.start handlers (.empty capacity) genesisTime beats world
      (∀ hasEnded cycles, ∃ events,
        (Crew.run plan outlets events (start watcher)).shown = ((follow plan hasEnded cycles).run watcher).2)
      ∧ ∀ slots, ∃ events,
        (Crew.run plan outlets events (start watcher)).shown = ((replay plan slots).run watcher).2 := by
  intro watcher
  have hsound : (start watcher).Sound := sound_start rfl
  constructor
  . intro hasEnded cycles
    obtain ⟨events, -, hshown⟩ := isRun_follow hplan hasEnded cycles watcher (start watcher) hsound rfl rfl
    exact ⟨events, hshown⟩
  . intro slots
    obtain ⟨events, -, hshown⟩ := isRun_replay hplan slots watcher (start watcher) hsound rfl rfl
    exact ⟨events, hshown⟩

end

end Crew
end Watch
end BeaconSentry
