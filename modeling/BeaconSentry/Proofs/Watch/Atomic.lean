import BeaconSentry.Proofs.Watch.Looks
import BeaconSentry.Proofs.Watch.Window

/-!
This module contains that cycles are atomic. How far the watcher is changes at once, when all handlers have accepted a
head, and a cycle that fails has not changed it. Still each handler has looked at the head, whichever fails.
-/

namespace BeaconSentry
namespace Watch

open Beacon

variable {η ω : Type}

structure Progress where
  handled : List Head
  lastHandledSlot : Option Slot
  slotGauge : Nat
  blockGauge : Nat
  beats : Option Nat

namespace Watcher

def progress (watcher : Watcher η ω) : Progress where
  handled := watcher.state.handled
  lastHandledSlot := watcher.state.lastHandledSlot
  slotGauge := watcher.gauges.slot
  blockGauge := watcher.gauges.block
  beats := watcher.beats

structure Advanced (head : Head) (watcher after : Watcher η ω) : Prop where
  handled_eq : after.state.handled = (watcher.state.handled ++ [head]).rtake watcher.state.capacity
  isNewest : 0 < watcher.state.capacity
    → after.state.handled.getLast? = some head ∧ after.state.lastHandledSlot = some head.slot
  slotGauge_eq : after.gauges.slot = gaugeValue head.slot
  blockGauge_eq : after.gauges.block = (head.blockNumber.map gaugeValue).getD watcher.gauges.block
  beats_eq : after.beats = watcher.beats.map (· + 1)

section

variable {plan : Plan η ω} {head : Head} {watcher after : Watcher η ω}

theorem progress_eq (hwindow : after.state.window = watcher.state.window) (hgauges : after.gauges = watcher.gauges)
    (hbeats : after.beats = watcher.beats) : after.progress = watcher.progress := by
  unfold progress State.lastHandledSlot
  rw [State.handled_eq_of_window hwindow, hgauges, hbeats]

theorem runHandlers_gauges (plan : Plan η ω) (head : Head) (handlers : List η) (watcher : Watcher η ω) :
    (runHandlers plan head handlers watcher).2.2.gauges = watcher.gauges
      ∧ (runHandlers plan head handlers watcher).2.2.beats = watcher.beats := by
  induction handlers generalizing watcher with
  | nil => exact ⟨rfl, rfl⟩
  | cons handler rest ih =>
    unfold runHandlers
    dsimp only
    split
    . exact ⟨rfl, rfl⟩
    . exact ih _

theorem consulted_gauges (plan : Plan η ω) (head : Head) (watcher : Watcher η ω) :
    (watcher.consulted plan head).gauges = watcher.gauges ∧ (watcher.consulted plan head).beats = watcher.beats := by
  have hrun := runHandlers_gauges plan head watcher.handlers watcher
  unfold consulted
  dsimp only
  unfold noteEnd
  split <;> exact hrun

theorem handlers_consulted (plan : Plan η ω) (head : Head) (watcher : Watcher η ω) :
    (watcher.consulted plan head).handlers = (runHandlers plan head watcher.handlers watcher).2.1 := by
  unfold consulted
  dsimp only
  unfold noteEnd
  split <;> rfl

theorem progress_consulted (hkeeps : plan.KeepsWindow) (watcher : Watcher η ω)
    : (watcher.consulted plan head).progress = watcher.progress := by
  have ⟨hgauges, hbeats⟩ := consulted_gauges plan head watcher
  exact progress_eq (window_consulted hkeeps watcher) hgauges hbeats

theorem progress_noteEnd {α : Type} (name : String) (result : Except Failure α) (watcher : Watcher η ω) :
    (watcher.noteEnd name result).progress = watcher.progress := by
  unfold noteEnd
  split <;> rfl

theorem advanced_remembered (hkeeps : plan.KeepsWindow) (head : Head) (watcher : Watcher η ω)
    : Advanced head watcher ((watcher.consulted plan head).remembered head) := by
  have hwindow := @window_consulted _ _ plan head hkeeps watcher
  have ⟨hgauges, hbeats⟩ := consulted_gauges plan head watcher
  have hhandled : ((watcher.consulted plan head).remembered head).state.handled
      = (watcher.state.handled ++ [head]).rtake watcher.state.capacity :=
    State.handled_eq_of_window (State.window_pushHandled head hwindow)
  constructor
  . exact hhandled
  . intro hcapacity
    have hlast : ((watcher.consulted plan head).remembered head).state.handled.getLast? = some head := by
      rw [hhandled, getLast?_rtake hcapacity, List.getLast?_concat]
    refine ⟨hlast, ?_⟩
    unfold State.lastHandledSlot
    rw [hlast]
    rfl
  . rfl
  . rw [← hgauges]
    rfl
  . rw [← hbeats]
    rfl

variable {id : BlockId}

theorem progress_of_error {failure : Failure} (hkeeps : plan.KeepsWindow)
    (h : ((cycle plan id).run watcher).1 = .error failure)
    : ((cycle plan id).run watcher).2.progress = watcher.progress := by
  have hcycled := cycled_cycle plan id watcher
  generalize (cycle plan id).run watcher = outcome at h hcycled
  rcases outcome with ⟨result, after⟩
  cases h
  cases hcycled with
  | unfetched => exact progress_noteEnd ..
  | refused => exact progress_consulted hkeeps _

theorem eq_nil_of_passed (h : ((cycle plan id).run watcher).1 = .ok false)
    : seen plan id watcher = [] ∧ ((cycle plan id).run watcher).2.handlers = watcher.handlers
      ∧ ((cycle plan id).run watcher).2.progress = watcher.progress := by
  have hcycled := cycled_cycle plan id watcher
  generalize (cycle plan id).run watcher = outcome at h hcycled
  rcases outcome with ⟨result, after⟩
  cases h
  cases hcycled with
  | repeated hfetched =>
    refine ⟨?_, rfl, rfl⟩
    rw [seen, hfetched.run_eq]

theorem advanced_of_handled (hkeeps : plan.KeepsWindow) (h : ((cycle plan id).run watcher).1 = .ok true)
    : ∃ head world, Fetched plan id watcher (.ok (some head)) world
      ∧ Advanced head watcher ((cycle plan id).run watcher).2 := by
  have hcycled := cycled_cycle plan id watcher
  generalize (cycle plan id).run watcher = outcome at h hcycled
  rcases outcome with ⟨result, after⟩
  cases h
  cases hcycled with
  | @handled head world hfetched =>
    have hadvanced := advanced_remembered hkeeps head (watcher.facing head world)
    exact ⟨head, world, hfetched, ⟨hadvanced.handled_eq, hadvanced.isNewest, hadvanced.slotGauge_eq,
      hadvanced.blockGauge_eq, hadvanced.beats_eq⟩⟩

theorem allLook_of_fetched {world : ω} (hfetched : Fetched plan id watcher (.ok (some head)) world)
    (hrange : ∀ overflow, ((cycle plan id).run watcher).1 ≠ .error (.overflow overflow))
    : AllLook plan head watcher.handlers ((cycle plan id).run watcher).2.handlers (seen plan id watcher)
      ∧ Concluded plan (seen plan id watcher) true ((cycle plan id).run watcher).1 := by
  have hlooks := allLook_or_overflow plan head watcher.handlers (watcher.facing head world)
  have hhandlers := handlers_consulted plan head (watcher.facing head world)
  have hfacing : (watcher.facing head world).handlers = watcher.handlers := rfl
  rw [hfacing] at hhandlers
  rw [run_cycle_of_fetched hfetched] at *
  rw [seen_of_fetched hfetched]
  rcases hlooks with ⟨hall, hconcluded⟩ | ⟨overflow, hoverflow, _⟩
  . rw [← hhandlers] at hall
    generalize (runHandlers plan head watcher.handlers (watcher.facing head world)).1 = result at hconcluded
    cases hconcluded with
    | accepted haccepted => exact ⟨hall, .accepted haccepted⟩
    | reported hlooks hearlier hresult => exact ⟨hall, .reported hlooks hearlier hresult⟩
  . rw [hoverflow] at hrange
    exact absurd rfl (hrange overflow)

end

/--
A cycle of the watcher is atomic. If it fails, the watcher is as far as before. Whenever there is a new head, each
handler looks at it one time, even if others fail, and the first failure counts. If all of them accept the head, the
watcher is one head further, and if there is no new head, no handler has looked and the watcher is as far as before.
-/
theorem cycle_atomic {plan : Plan η ω} (hkeeps : plan.KeepsWindow) (id : BlockId) (watcher : Watcher η ω)
    (log : List (Look η ω))
    : let outcome := (cycle plan id).run watcher
      let seen := seen plan id watcher
      (cycle plan.recorded id).run (watcher.recording log) = (outcome.1, outcome.2.recording (log ++ seen))
        ∧ (∀ failure, outcome.1 = .error failure → outcome.2.progress = watcher.progress)
        ∧ (∀ head world, Fetched plan id watcher (.ok (some head)) world
          → (∀ overflow, outcome.1 ≠ .error (.overflow overflow))
          → AllLook plan head watcher.handlers outcome.2.handlers seen ∧ Concluded plan seen true outcome.1)
        ∧ (outcome.1 = .ok true
          → ∃ head world, Fetched plan id watcher (.ok (some head)) world ∧ Advanced head watcher outcome.2)
        ∧ (outcome.1 = .ok false
          → seen = [] ∧ outcome.2.handlers = watcher.handlers ∧ outcome.2.progress = watcher.progress) := by
  intro outcome
  refine ⟨run_cycle_recorded plan id watcher log, ?_, ?_, ?_, ?_⟩
  . intro failure
    exact progress_of_error hkeeps
  . intro head world
    exact allLook_of_fetched
  . exact advanced_of_handled hkeeps
  . exact eq_nil_of_passed

namespace Refused

def head : Head :=
  ⟨⟨"0x0b", true, ⟨11, 1, "0x0a", "0x03"⟩⟩,
    ⟨11, "0x0a", ⟨some ⟨7⟩, [], [], [], some ⟨[], [], [⟨"0xaa", "0x01", "0x02"⟩]⟩⟩⟩⟩

/-- The world counts how many alerts were refused. -/
def sink : Sink Nat := ⟨fun _ => ⟨fun refused => (.error (.plain "refused"), refused + 1)⟩⟩

def plan : Plan Handler Nat where
  services := {
    handlerName := Handler.name
    handle settings head := Handler.handle ⟨none, sink⟩ settings ⟨0, 0⟩ head
    header _ _ := pure head.header
    block _ := pure head.block
    validators := pure []
    reorgs := pure []
    updateKeys := pure none
    clock _ := 0 }
  settings := ⟨⟨"mainnet"⟩, ∅, ["0xaa"]⟩
  genesisTime := 0

def handled : Head := ⟨⟨"0x08", true, ⟨8, 1, "0x07", "0x03"⟩⟩, ⟨8, "0x07", ⟨none, [], [], [], none⟩⟩⟩

def watcher : Watcher Handler Nat :=
  .start [.slashing (.empty 10), .consolidation (.empty 10), .fork (.empty 10)] ((State.empty 96).pushHandled handled) 0
    (some 0) 0

theorem fetched_head : Fetched plan (.slot 11) watcher (.ok (some head)) 0 :=
  .found rfl rfl (by decide) rfl

theorem run_cycle :
    ((cycle plan (.slot 11)).run watcher).1
        = .error (.report (.context "consolidation handler failed" (.plain "refused")))
      ∧ ((cycle plan (.slot 11)).run watcher).2.world = 2 := by
  decide +kernel

/-- Two of three handlers fail, and all of them have looked at the head. -/
theorem cycle_atomic_of_refused :
    let outcome := (cycle plan (.slot 11)).run watcher
    let seen := seen plan (.slot 11) watcher
    plan.KeepsWindow ∧ outcome.1 = .error (.report (.context "consolidation handler failed" (.plain "refused")))
      ∧ outcome.2.progress = watcher.progress ∧ AllLook plan head watcher.handlers outcome.2.handlers seen
      ∧ outcome.2.world = 2 := by
  have hkeeps : plan.KeepsWindow := Plan.keepsWindow_of_handle rfl
  have ⟨_, hfailed, hlooked, _⟩ := cycle_atomic hkeeps (.slot 11) watcher []
  have ⟨hresult, hworld⟩ := run_cycle
  have hrange (overflow : Overflow) : ((cycle plan (.slot 11)).run watcher).1 ≠ .error (.overflow overflow) := by
    rw [hresult]
    nofun
  exact ⟨hkeeps, hresult, hfailed _ hresult, (hlooked head 0 fetched_head hrange).1, hworld⟩

end Refused
end Watcher
end Watch
end BeaconSentry
