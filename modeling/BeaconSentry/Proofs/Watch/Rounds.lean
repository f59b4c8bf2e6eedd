import BeaconSentry.Proofs.Watch.Atomic
import BeaconSentry.Proofs.Watch.Lineage
import BeaconSentry.Proofs.Watch.Order

/-!
This module contains the record of a replay: what its handlers see in each cycle, and what they know then. A replay can
be cut into rounds, in each of which all handlers accept one head.
-/

namespace BeaconSentry
namespace Watch

open Beacon Net

variable {η ω : Type}

/-- Whatever the handlers do, what they know keeps a property. -/
def Plan.Keeps (plan : Plan η ω) (p : State → Prop) : Prop :=
  ∀ head desk, p desk.state → p ((plan.services.handle plan.settings head).run desk).2.state

theorem Plan.KeepsWindow.keeps {plan : Plan η ω} (h : plan.KeepsWindow) (window : List Head × Nat)
    : plan.Keeps (·.window = window) := by
  intro head desk hdesk
  rw [h head desk]
  exact hdesk

theorem Plan.keeps_of_handle {outlets : Outlets ω} {now : Instant} {plan : Plan Handler ω}
    (h : plan.services.handle = fun settings head => Handler.handle outlets settings now head)
    : plan.Keeps (·.reorgs = ∅) := by
  intro head desk hdesk
  rcases desk with ⟨handler, state, world⟩
  rw [h]
  cases handler with
  | slashing | exit | withdrawal | consolidation => exact hdesk
  | fork sent =>
    have ⟨_, _, _, hrun⟩ := Fork.exists_run_handle outlets plan.settings now head sent state world
    rw [hrun]
    rfl

namespace Watcher

section

variable {plan : Plan η ω} {p : State → Prop} {head : Head} {watcher : Watcher η ω}

theorem looks_keeps (hkeeps : plan.Keeps p) (handlers : List η) {state : State} (world : ω) (hstate : p state)
    : ∀ look ∈ looks plan head handlers state world, p look.before.state := by
  induction handlers generalizing state world with
  | nil => exact List.forall_mem_nil _
  | cons handler rest ih =>
    have hafter := hkeeps head ⟨handler, state, world⟩ hstate
    generalize hrun : (plan.services.handle plan.settings head).run ⟨handler, state, world⟩ = answer at hafter
    rcases answer with ⟨result, after⟩
    rw [looks_cons hrun, List.forall_mem_cons]
    refine ⟨hstate, ?_⟩
    split
    . exact List.forall_mem_nil _
    . exact ih after.world hafter

theorem seen_keeps (hkeeps : plan.Keeps p) (id : BlockId) (hstate : p watcher.state)
    : ∀ look ∈ seen plan id watcher, p look.before.state := by
  unfold seen
  split
  . exact looks_keeps hkeeps _ _ hstate
  . exact List.forall_mem_nil _

theorem runHandlers_keeps (hkeeps : plan.Keeps p) (handlers : List η) (watcher : Watcher η ω) (hstate : p watcher.state)
    : p (runHandlers plan head handlers watcher).2.2.state := by
  induction handlers generalizing watcher with
  | nil => exact hstate
  | cons handler rest ih =>
    have hafter := hkeeps head ⟨handler, watcher.state, watcher.world⟩ hstate
    unfold runHandlers
    dsimp only
    split
    . next hrun =>
      rw [hrun] at hafter
      exact hafter
    . next hrun =>
      rw [hrun] at hafter
      exact ih _ hafter

theorem state_noteEnd {α : Type} (name : String) (result : Except Failure α) (watcher : Watcher η ω) :
    (watcher.noteEnd name result).state = watcher.state := by
  unfold noteEnd
  split <;> rfl

theorem reorgs_cycle (hkeeps : plan.Keeps (·.reorgs = ∅)) (id : BlockId) (hreorgs : watcher.state.reorgs = ∅)
    : ((cycle plan id).run watcher).2.state.reorgs = ∅ := by
  have hconsulted (head : Head) (world : ω) : ((watcher.facing head world).consulted plan head).state.reorgs = ∅ := by
    unfold consulted
    dsimp only
    rw [state_noteEnd]
    exact runHandlers_keeps hkeeps _ (watcher.facing head world) hreorgs
  have hcycled := cycled_cycle plan id watcher
  generalize (cycle plan id).run watcher = outcome at hcycled
  rcases outcome with ⟨result, after⟩
  cases hcycled with
  | unfetched => exact (congrArg State.reorgs (state_noteEnd ..)).trans hreorgs
  | repeated => exact hreorgs
  | refused => exact hconsulted ..
  | handled => exact hconsulted ..

end

/-- What the refreshers leave as it is, beside the window. -/
def settled (watcher : Watcher η ω) : List η × Nat × Std.TreeMap Slot Reorg :=
  (watcher.handlers, watcher.gauges.slot, watcher.state.reorgs)

theorem settled_stepKeys (plan : Plan η ω) (watcher : Watcher η ω) :
    (watcher.stepKeys plan).settled = watcher.settled := by
  unfold stepKeys
  split
  . rfl
  . unfold answeredKeys
    dsimp only
    split <;> rfl
  . rfl

theorem settled_stepRegistry (plan : Plan η ω) (watcher : Watcher η ω) :
    (watcher.stepRegistry plan).settled = watcher.settled := by
  unfold stepRegistry
  split
  . rfl
  . unfold readRegistry
    dsimp only
    split <;> rfl
  . split <;> rfl
  . rfl

theorem settled_settle (plan : Plan η ω) (watcher : Watcher η ω) :
    (watcher.settle plan).settled = watcher.settled := by
  unfold settle
  simp only [settled_stepKeys, settled_stepRegistry]

def seenIn (plan : Plan η ω) : List Slot → Watcher η ω → List (Look η ω)
  | [], _ => []
  | slot :: rest, watcher =>
    let outcome := (cycle plan (.slot slot)).run watcher
    seen plan (.slot slot) watcher ++ if passes outcome.1 then seenIn plan rest (outcome.2.settle plan) else []

theorem run_replay_recorded (plan : Plan η ω) (slots : List Slot) (watcher : Watcher η ω) (log : List (Look η ω)) :
    (replay plan.recorded slots).run (watcher.recording log)
      = (((replay plan slots).run watcher).1,
          ((replay plan slots).run watcher).2.recording (log ++ seenIn plan slots watcher)) := by
  induction slots generalizing watcher log with
  | nil =>
    rw [seenIn, List.append_nil]
    rfl
  | cons slot rest ih =>
    rw [replay_cons, replay_cons, run_cycle_recorded, seenIn]
    dsimp only
    split
    . rw [settle_recording, ih, List.append_assoc]
    . rw [List.append_nil]

section

variable {plan : Plan η ω} {slots : List Slot} {watcher : Watcher η ω}

theorem seenIn_keeps (hkeeps : plan.Keeps (·.reorgs = ∅)) (slots : List Slot) (watcher : Watcher η ω)
    (hreorgs : watcher.state.reorgs = ∅)
    : ∀ look ∈ seenIn plan slots watcher, look.before.state.reorgs = ∅ := by
  induction slots generalizing watcher with
  | nil => exact List.forall_mem_nil _
  | cons slot rest ih =>
    rw [seenIn, List.forall_mem_append]
    refine ⟨seen_keeps hkeeps _ hreorgs, ?_⟩
    split
    . apply ih
      have hsettled := congrArg (·.2.2) (settled_settle plan ((cycle plan (.slot slot)).run watcher).2)
      exact hsettled.trans (reorgs_cycle hkeeps _ hreorgs)
    . exact List.forall_mem_nil _

theorem replay_append (slots rest : List Slot) (watcher : Watcher η ω)
    (hok : ((replay plan slots).run watcher).1 = .ok ())
    : (replay plan (slots ++ rest)).run watcher = (replay plan rest).run ((replay plan slots).run watcher).2
        ∧ seenIn plan (slots ++ rest) watcher
          = seenIn plan slots watcher ++ seenIn plan rest ((replay plan slots).run watcher).2 := by
  induction slots generalizing watcher with
  | nil => exact ⟨rfl, rfl⟩
  | cons slot slots ih =>
    obtain ⟨hpasses, hok⟩ := (run_replay_cons ..).mp hok
    have ⟨hrun, hseen⟩ := ih _ hok
    rw [List.cons_append, replay_cons, replay_cons, seenIn, seenIn]
    simp only [hpasses, ↓reduceIte, hrun, hseen, List.append_assoc, and_self]

/-- If the cycle of some slot fails, and not since the slot has no block, the replay ends with this cycle. -/
theorem replay_of_failure {slot : Slot} (rest : List Slot) {failure : Failure}
    (hok : ((replay plan slots).run watcher).1 = .ok ())
    (hcycle : ((cycle plan (.slot slot)).run ((replay plan slots).run watcher).2).1 = .error failure)
    (hpasses : passes (.error failure) = false)
    : let ended := ((replay plan slots).run watcher).2
      (replay plan (slots ++ slot :: rest)).run watcher = (.error failure, ((cycle plan (.slot slot)).run ended).2)
        ∧ seenIn plan (slots ++ slot :: rest) watcher
          = seenIn plan slots watcher ++ seen plan (.slot slot) ended := by
  have ⟨hrun, hseen⟩ := replay_append slots (slot :: rest) watcher hok
  rw [hrun, hseen, replay_cons, seenIn]
  dsimp only
  rw [hcycle, hpasses, if_neg Bool.false_ne_true, if_neg Bool.false_ne_true, List.append_nil]
  exact ⟨rfl, rfl⟩

end

/--
Heads are looked at in rounds. In each one all handlers look at a head and accept it, with what the round before has
left them, and know the last of the heads before it.
-/
inductive Rounds (plan : Plan η ω) (capacity : Nat) :
    List Head → List η → List Head → List (List (Look η ω)) → List η → Prop
  | nil {earlier : List Head} {handlers : List η} : Rounds plan capacity earlier handlers [] [] handlers
  | cons {earlier later : List Head} {handlers handlers' handlers'' : List η} {head : Head} {looks : List (Look η ω)}
      {rounds : List (List (Look η ω))} (hall : AllLook plan head handlers handlers' looks)
      (haccepted : ∀ look ∈ looks, look.result = .ok ())
      (hwindow : ∀ look ∈ looks, look.before.state.window = (earlier.rtake capacity, capacity))
      (hrest : Rounds plan capacity (earlier ++ [head]) handlers' later rounds handlers'') :
    Rounds plan capacity earlier handlers (head :: later) (looks :: rounds) handlers''

theorem Rounds.isLinked {plan : Plan η ω} {capacity : Nat} {earlier later : List Head} {handlers handlers' : List η}
    {rounds : List (List (Look η ω))} (h : Rounds plan capacity earlier handlers later rounds handlers')
    (hchain : (earlier ++ later).IsChain fun last head => head.parentRoot = last.root)
    : ∀ look ∈ rounds.flatten, ∀ last ∈ look.before.state.handled.getLast?, look.head.parentRoot = last.root := by
  induction h with
  | nil => exact List.forall_mem_nil _
  | @cons earlier later _ _ _ head looks rounds hall _ hwindow _ ih =>
    rw [List.flatten_cons, List.forall_mem_append]
    constructor
    . intro look hmem last hlast
      have ⟨_, hlast⟩ := (State.mem_getLast?_iff_of_window (hwindow look hmem)).mp hlast
      rw [List.isChain_append] at hchain
      rw [hall.head_eq look hmem]
      exact hchain.2.2 last hlast head rfl
    . apply ih
      rw [List.append_assoc]
      exact hchain

end Watcher
end Watch
end BeaconSentry
