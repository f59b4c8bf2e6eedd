import BeaconSentry.Proofs.Alert.Recent
import BeaconSentry.Proofs.Watch.Cycle
import Mathlib.Data.List.Chain
import Mathlib.Data.List.DropRight

/-!
This module contains what changes the window of handled heads. Only a head that has been handled does, neither the
refreshers nor the event stream nor the handlers.
-/

namespace BeaconSentry
namespace Watch

open Beacon

theorem getLast?_rtake {α : Type} {n : Nat} (h : 1 ≤ n) (xs : List α) : (xs.rtake n).getLast? = xs.getLast? := by
  unfold List.rtake
  rw [List.getLast?_drop]
  split
  . have hnil : xs = [] := by rw [← List.length_eq_zero_iff]; omega
    rw [hnil]
    rfl
  . rfl

namespace State

/-- The handled heads, and how many of them are kept. -/
def window (state : State) : List Head × Nat := (state.handled, state.capacity)

theorem handled_eq_of_window {state state' : State} (h : state.window = state'.window) :
    state.handled = state'.handled :=
  congrArg Prod.fst h

theorem capacity_eq_of_window {state state' : State} (h : state.window = state'.window) :
    state.capacity = state'.capacity :=
  congrArg Prod.snd h

@[simp] theorem window_insertReorg (state : State) (reorg : Reorg) :
    (state.insertReorg reorg).window = state.window := rfl

@[simp] theorem capacity_pushHandled (state : State) (head : Head) :
    (state.pushHandled head).capacity = state.capacity := rfl

theorem window_pushHandled {state state' : State} (head : Head) (h : state.window = state'.window) :
    (state.pushHandled head).window = (state'.pushHandled head).window := by
  unfold window pushHandled
  dsimp only
  rw [handled_eq_of_window h, capacity_eq_of_window h]

/-- A head that the window has dropped is not among the last ones of a longer list either. -/
theorem window_pushHandled_of_rtake {state : State} {heads : List Head} {capacity : Nat}
    (h : state.window = (heads.rtake capacity, capacity)) (head : Head)
    : (state.pushHandled head).window = ((heads ++ [head]).rtake capacity, capacity) := by
  unfold window at *
  rw [Prod.mk.injEq] at h
  unfold pushHandled
  rw [h.1, h.2, Prod.mk.injEq]
  exact ⟨SentAlerts.drop_append_singleton .., rfl⟩

theorem mem_getLast?_iff_of_window {state : State} {heads : List Head} {capacity : Nat} {last : Head}
    (h : state.window = (heads.rtake capacity, capacity))
    : last ∈ state.handled.getLast? ↔ 0 < capacity ∧ last ∈ heads.getLast? := by
  have hhandled : state.handled = heads.rtake capacity := congrArg Prod.fst h
  rw [hhandled]
  rcases Nat.eq_zero_or_pos capacity with hzero | hpos
  . simp [hzero, List.rtake]
  . rw [getLast?_rtake hpos, and_iff_right hpos]

theorem lastHandledSlot_eq_some_iff {state : State} {slot : Slot} :
    state.lastHandledSlot = some slot ↔ ∃ last ∈ state.handled.getLast?, last.slot = slot :=
  Option.map_eq_some_iff

/-- If there is room for two heads, the last one stays when one is added. -/
theorem isChain_pushHandled {r : Head → Head → Prop} {state : State} {head : Head} (hchain : state.handled.IsChain r)
    (hcapacity : 2 ≤ state.capacity)
    : (state.pushHandled head).handled.IsChain r ↔ ∀ last ∈ state.handled.getLast?, r last head := by
  have hpush : (state.pushHandled head).handled
      = state.handled.drop (state.handled.length + 1 - state.capacity) ++ [head] := by
    unfold pushHandled
    dsimp only
    rw [List.length_append, List.length_singleton, List.drop_append_of_le_length (by omega)]
  rw [hpush, List.isChain_append, List.getLast?_drop]
  constructor
  . intro ⟨_, _, hlast⟩ last hmem
    have hnonempty := List.length_pos_of_mem (List.mem_of_getLast? hmem)
    rw [if_neg (by omega)] at hlast
    exact hlast last hmem head rfl
  . intro hlast
    refine ⟨hchain.drop _, .singleton head, ?_⟩
    intro last hmem head' hhead
    cases hhead
    split at hmem
    . cases hmem
    . exact hlast last hmem

end State

namespace Handler

variable {ω : Type}

theorem window_handle (outlets : Outlets ω) (settings : Settings) (now : Instant) (head : Head)
    (desk : Desk Handler ω) :
    ((handle outlets settings now head).run desk).2.state.window = desk.state.window := by
  rcases desk with ⟨handler, state, world⟩
  cases handler with
  | slashing | exit | withdrawal | consolidation => rfl
  | fork sent =>
    unfold handle
    dsimp only
    split <;> rfl

end Handler

/-- No handler changes the window of handled heads. -/
def Plan.KeepsWindow {η ω : Type} (plan : Plan η ω) : Prop :=
  ∀ head desk, ((plan.services.handle plan.settings head).run desk).2.state.window = desk.state.window

theorem Plan.keepsWindow_of_handle {ω : Type} {outlets : Outlets ω} {now : Instant} {plan : Plan Handler ω}
    (h : plan.services.handle = fun settings head => Handler.handle outlets settings now head) : plan.KeepsWindow := by
  intro head desk
  rw [h]
  exact Handler.window_handle ..

namespace Watcher

variable {η ω : Type}

theorem window_stepKeys (plan : Plan η ω) (watcher : Watcher η ω) :
    (watcher.stepKeys plan).state.window = watcher.state.window := by
  unfold stepKeys
  split
  . rfl
  . unfold answeredKeys
    dsimp only
    split <;> rfl
  . rfl

theorem window_stepRegistry (plan : Plan η ω) (watcher : Watcher η ω) :
    (watcher.stepRegistry plan).state.window = watcher.state.window := by
  unfold stepRegistry
  split
  . rfl
  . unfold readRegistry
    dsimp only
    split <;> rfl
  . split <;> rfl
  . rfl

theorem window_settle (plan : Plan η ω) (watcher : Watcher η ω) :
    (watcher.settle plan).state.window = watcher.state.window := by
  unfold settle
  simp only [window_stepKeys, window_stepRegistry]

theorem window_takeReorgs {ε : Type} (state : State) (reorgs : List (Except ε Reorg)) :
    (takeReorgs state reorgs).window = state.window := by
  induction reorgs generalizing state with
  | nil => rfl
  | cons first rest ih =>
    cases first with
    | error => rfl
    | ok reorg => rw [takeReorgs, ih, State.window_insertReorg]

theorem window_listen (plan : Plan η ω) (watcher : Watcher η ω) :
    (watcher.listen plan).state.window = watcher.state.window := by
  unfold listen
  split
  . exact window_takeReorgs ..
  . rfl

variable {plan : Plan η ω} {id : BlockId} {head : Head}

theorem window_runHandlers (hkeeps : plan.KeepsWindow) (handlers : List η) (watcher : Watcher η ω)
    : (runHandlers plan head handlers watcher).2.2.state.window = watcher.state.window := by
  induction handlers generalizing watcher with
  | nil => rfl
  | cons handler rest ih =>
    have hhandle := hkeeps head ⟨handler, watcher.state, watcher.world⟩
    unfold runHandlers
    dsimp only
    split
    . next hrun =>
      rw [hrun] at hhandle
      exact hhandle
    . next hrun =>
      rw [hrun] at hhandle
      exact (ih _).trans hhandle

theorem window_noteEnd {α : Type} (name : String) (result : Except Failure α) (watcher : Watcher η ω) :
    (watcher.noteEnd name result).state.window = watcher.state.window := by
  unfold noteEnd
  split <;> rfl

theorem window_consulted (hkeeps : plan.KeepsWindow) (watcher : Watcher η ω)
    : (watcher.consulted plan head).state.window = watcher.state.window := by
  unfold consulted
  dsimp only
  rw [window_noteEnd]
  exact window_runHandlers hkeeps ..

/-- The watcher fetches a head that all its handlers accept. -/
def Handles (plan : Plan η ω) (id : BlockId) (watcher : Watcher η ω) (head : Head) : Prop :=
  ∃ world, Fetched plan id watcher (.ok (some head)) world
    ∧ (runHandlers plan head watcher.handlers (watcher.facing head world)).1 = .ok ()

theorem handles_iff {watcher : Watcher η ω}
    : Handles plan id watcher head
        ↔ ((fetchHead plan id).run watcher).1 = .ok (some head) ∧ ((cycle plan id).run watcher).1 = .ok true := by
  have ⟨world, hworld, hfetched⟩ := fetched_fetchHead plan id watcher
  constructor
  . intro ⟨world, hfetched, hresult⟩
    rw [hfetched.run_eq, (Cycled.handled hfetched hresult).run_eq]
    exact ⟨rfl, rfl⟩
  . intro ⟨hfetch, hcycle⟩
    rw [hfetch] at hfetched
    refine ⟨world, hfetched, ?_⟩
    rw [run_cycle_of_fetched hfetched] at hcycle
    split at hcycle
    . assumption
    . cases hcycle

/-- A cycle adds the head that it handles to the window, and does nothing else to it. -/
theorem window_cycle (hkeeps : plan.KeepsWindow) (watcher : Watcher η ω)
    : (∀ head, ¬Handles plan id watcher head)
          ∧ ((cycle plan id).run watcher).2.state.window = watcher.state.window
        ∨ ∃ head, (∀ head', Handles plan id watcher head' ↔ head' = head)
          ∧ ((cycle plan id).run watcher).2.state.window = (watcher.state.pushHandled head).window := by
  have hcycled := cycled_cycle plan id watcher
  generalize hrun : (cycle plan id).run watcher = outcome at hcycled
  rcases outcome with ⟨result, after⟩
  simp only [handles_iff, hrun]
  cases hcycled with
  | unfetched => exact .inl ⟨nofun, window_noteEnd ..⟩
  | repeated => exact .inl ⟨nofun, rfl⟩
  | refused => exact .inl ⟨nofun, window_consulted hkeeps _⟩
  | @handled head _ hfetched =>
    refine .inr ⟨head, ?_, State.window_pushHandled head (window_consulted hkeeps _)⟩
    intro head'
    rw [hfetched.run_eq]
    simp [eq_comm]

theorem window_cycle_of_ne (hkeeps : plan.KeepsWindow) {watcher : Watcher η ω}
    (h : ((cycle plan id).run watcher).1 ≠ .ok true)
    : ((cycle plan id).run watcher).2.state.window = watcher.state.window := by
  rcases window_cycle hkeeps watcher with ⟨_, hwindow⟩ | ⟨head, hhead, _⟩
  . exact hwindow
  . exact absurd (handles_iff.mp ((hhead head).mpr rfl)).2 h

theorem capacity_cycle (hkeeps : plan.KeepsWindow) (watcher : Watcher η ω)
    : ((cycle plan id).run watcher).2.state.capacity = watcher.state.capacity := by
  rcases window_cycle hkeeps watcher with ⟨_, hwindow⟩ | ⟨head, _, hwindow⟩
  . exact State.capacity_eq_of_window hwindow
  . exact (State.capacity_eq_of_window hwindow).trans (State.capacity_pushHandled ..)

/-- Whether a cycle leaves neighbours in the window related is up to the head that it adds. -/
theorem isChain_cycle_iff {r : Head → Head → Prop} {watcher : Watcher η ω} (hkeeps : plan.KeepsWindow)
    (hchain : watcher.state.handled.IsChain r) (hcapacity : 2 ≤ watcher.state.capacity)
    : ((cycle plan id).run watcher).2.state.handled.IsChain r
        ↔ ∀ head, Handles plan id watcher head → ∀ last ∈ watcher.state.handled.getLast?, r last head := by
  rcases window_cycle hkeeps watcher with ⟨hnone, hwindow⟩ | ⟨head, hhead, hwindow⟩
  . rw [State.handled_eq_of_window hwindow]
    exact iff_of_true hchain fun head h => absurd h (hnone head)
  . rw [State.handled_eq_of_window hwindow, State.isChain_pushHandled hchain hcapacity]
    simp only [hhead, forall_eq]

end Watcher
end Watch
end BeaconSentry
