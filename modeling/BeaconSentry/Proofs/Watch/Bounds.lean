import BeaconSentry.Proofs.Watch.Independence
import BeaconSentry.Proofs.Watch.Overflows
import BeaconSentry.Proofs.Watch.Range

/-!
This module contains that a watcher never ends for a number out of range as long as its nodes tell of slots and blocks
that have next ones.
-/

namespace BeaconSentry
namespace Watch

open Beacon Exit Net

variable {ω : Type}

/-- The slots and the blocks that nodes tell of have next ones, and the slot of a head starts in the range of time. -/
structure Plan.InRange {η : Type} (plan : Plan η ω) : Prop where
  slot_lt : ∀ id rejects world record after, (plan.services.header id rejects).run world = (.ok record, after) →
    record.header.slot.toNat + 1 < UInt64.size
  start_lt : ∀ rejects world record after, (plan.services.header .head rejects).run world = (.ok record, after) →
    plan.genesisTime.toNat + record.header.slot.toNat * Slot.seconds.toNat < UInt64.size
  block_lt : ∀ id world block after, (plan.services.block id).run world = (.ok block, after) →
    ∀ payload ∈ block.body.executionPayload, payload.blockNumber.toNat + 1 < UInt64.size

/-- What a watcher counts on from has next ones. -/
structure Watcher.InRange (watcher : Watcher Handler ω) : Prop where
  last_lt : ∀ last ∈ watcher.state.handled.getLast?, last.slot.toNat + 1 < UInt64.size
  canScan : ∀ handler ∈ watcher.handlers, handler.CanScan

theorem Handler.CanScan.handle {handler : Handler} {head : Head} (outlets : Outlets ω) (settings : Settings)
    (now : Instant) (state : State) (world : ω) (h : handler.CanScan) (hnext : head.HasNext)
    : ((Handler.handle outlets settings now head).run ⟨handler, state, world⟩).2.handler.CanScan := by
  cases handler with
  | exit watch =>
    have hsteady : (Handler.exit watch).IsSteady := h
    exact (hsteady.handle outlets settings now state world hnext).1
  | fork sent =>
    rw [Handler.handle]
    dsimp only
    split <;> trivial
  | _ => trivial

theorem Plan.keepsWindow_handling (outlets : Outlets ω) (firing : ω → Instant) (plan : Plan Handler ω)
    : (plan.handling outlets firing).KeepsWindow :=
  fun _ desk => Handler.window_handle outlets _ _ _ desk

theorem State.eq_of_mem_getLast?_pushHandled {state : State} {head last : Head}
    (h : last ∈ (state.pushHandled head).handled.getLast?) : last = head := by
  unfold pushHandled at h
  rw [List.getLast?_drop] at h
  split at h
  . cases h
  . simpa [eq_comm] using h

namespace Watcher

section

variable {η : Type} {plan : Plan η ω} {head : Head} {id : BlockId} {watcher : Watcher η ω}

/-- Each handler looks at a head as the cycle has found it, at the same window. -/
theorem before_of_mem_looks (hkeeps : plan.KeepsWindow) {handlers : List η} {state : State} {world : ω}
    {look : Look η ω} (h : look ∈ looks plan head handlers state world)
    : look.before.handler ∈ handlers ∧ look.before.state.window = state.window := by
  induction handlers generalizing state world with
  | nil => cases h
  | cons handler rest ih =>
    have hwindow := hkeeps head ⟨handler, state, world⟩
    generalize hrun : (plan.services.handle plan.settings head).run ⟨handler, state, world⟩ = answer at hwindow
    rcases answer with ⟨result, after⟩
    rw [looks_cons hrun] at h
    rcases List.mem_cons.mp h with rfl | hmem
    . exact ⟨List.mem_cons_self, rfl⟩
    . split at hmem
      . cases hmem
      . have ⟨hhandler, hbefore⟩ := ih hmem
        exact ⟨List.mem_cons_of_mem _ hhandler, hbefore.trans hwindow⟩

theorem before_of_mem_seen (hkeeps : plan.KeepsWindow) {look : Look η ω} (h : look ∈ seen plan id watcher)
    : look.before.handler ∈ watcher.handlers ∧ look.before.state.window = watcher.state.window := by
  unfold seen at h
  split at h
  . exact before_of_mem_looks hkeeps h
  . cases h

theorem handlers_noteEnd {α : Type} (name : String) (result : Except Failure α) (watcher : Watcher η ω)
    : (watcher.noteEnd name result).handlers = watcher.handlers := by
  unfold noteEnd
  split <;> rfl

theorem handlers_polling (plan : Plan η ω) (watcher : Watcher η ω)
    : (watcher.polling plan).handlers = watcher.handlers := by
  have hlisten (watcher : Watcher η ω) : (watcher.listen plan).handlers = watcher.handlers := by
    unfold listen
    split <;> rfl
  rw [polling, hlisten, handlers_settle]

end

section

variable {outlets : Outlets ω} {firing : ω → Instant} {plan : Plan Handler ω} {id : BlockId}
  {watcher watcher' : Watcher Handler ω}

theorem InRange.of_eq (h : watcher.InRange) (hwindow : watcher'.state.window = watcher.state.window)
    (hhandlers : watcher'.handlers = watcher.handlers) : watcher'.InRange where
  last_lt := by
    rw [State.handled_eq_of_window hwindow]
    exact h.last_lt
  canScan := by
    rw [hhandlers]
    exact h.canScan

theorem InRange.not_overflowed (hplan : plan.InRange) (h : watcher.InRange)
    : ¬Overflowed ((cycle (plan.handling outlets firing) id).run watcher).1 := by
  rw [overflowed_cycle_iff]
  rintro (⟨hhead, _, record, world, hheader, hstart⟩ | ⟨look, hmem, hlook⟩)
  . cases id with
    | head => exact Nat.not_lt.mpr hstart (hplan.start_lt _ _ _ _ hheader)
    | _ => cases hhead
  . have ⟨hhandler, hwindow⟩ := before_of_mem_seen (plan.keepsWindow_handling outlets firing) hmem
    generalize look.before = desk at hlook hhandler hwindow
    cases hlook with
    | missing _ _ hlast hslot =>
      rw [State.handled_eq_of_window hwindow] at hlast
      exact Nat.not_lt.mpr hslot (h.last_lt _ hlast)
    | scan _ _ _ _ _ hscanned hnext => exact Nat.not_lt.mpr hnext (h.canScan _ hhandler _ hscanned)

theorem canScan_runHandlers {head : Head} (hnext : head.HasNext) {handlers : List Handler}
    (hscan : ∀ handler ∈ handlers, handler.CanScan) (watcher : Watcher Handler ω)
    : ∀ handler ∈ (runHandlers (plan.handling outlets firing) head handlers watcher).2.1, handler.CanScan := by
  induction handlers generalizing watcher with
  | nil => exact hscan
  | cons handler rest ih =>
    rw [List.forall_mem_cons] at hscan
    have hafter : ((Handler.handle outlets plan.settings (firing watcher.world) head).run
        ⟨handler, watcher.state, watcher.world⟩).2.handler.CanScan :=
      hscan.1.handle outlets plan.settings (firing watcher.world) watcher.state watcher.world hnext
    generalize hrun : (Handler.handle outlets plan.settings (firing watcher.world) head).run
      ⟨handler, watcher.state, watcher.world⟩ = answer at hafter
    rcases answer with ⟨result, after⟩
    have hrun : ((plan.handling outlets firing).services.handle plan.settings head).run
        ⟨handler, watcher.state, watcher.world⟩ = (result, after) := hrun
    rcases Fork.runHandlers_cons_cases rest hrun with hanswer | ⟨name, succeeded, hanswer⟩
    . rw [hanswer, List.forall_mem_cons]
      exact ⟨hafter, hscan.2⟩
    . rw [hanswer]
      exact List.forall_mem_cons.mpr ⟨hafter, ih hscan.2 _⟩

theorem Fetched.inRange {head : Head} {world : ω} (hplan : plan.InRange)
    (h : Fetched (plan.handling outlets firing) id watcher (.ok (some head)) world)
    : head.slot.toNat + 1 < UInt64.size ∧ head.HasNext := by
  cases h with
  | found hheader hage hslot hblock =>
    refine ⟨hplan.slot_lt _ _ _ _ _ hheader, ?_⟩
    intro number hnumber
    obtain ⟨payload, hpayload, rfl⟩ := Option.map_eq_some_iff.mp hnumber
    exact hplan.block_lt _ _ _ _ hblock payload hpayload

theorem InRange.consulted {head : Head} (hnext : head.HasNext) (h : watcher.InRange)
    : (watcher.consulted (plan.handling outlets firing) head).InRange where
  last_lt := by
    rw [State.handled_eq_of_window (window_consulted (plan.keepsWindow_handling outlets firing) watcher)]
    exact h.last_lt
  canScan := by
    unfold Watcher.consulted
    dsimp only
    rw [handlers_noteEnd]
    exact canScan_runHandlers hnext h.canScan watcher

theorem InRange.cycle (hplan : plan.InRange) (h : watcher.InRange)
    : ((Watcher.cycle (plan.handling outlets firing) id).run watcher).2.InRange := by
  have hcycled := cycled_cycle (plan.handling outlets firing) id watcher
  generalize (Watcher.cycle (plan.handling outlets firing) id).run watcher = outcome at hcycled
  rcases outcome with ⟨result, after⟩
  have hfacing (head : Head) (world : ω) : (watcher.facing head world).InRange := h.of_eq rfl rfl
  cases hcycled with
  | @unfetched failure world => exact (h.of_eq rfl rfl).of_eq (window_noteEnd ..) (handlers_noteEnd ..)
  | repeated => exact h.of_eq rfl rfl
  | refused hfetched => exact (hfacing _ _).consulted (hfetched.inRange hplan).2
  | @handled head world hfetched =>
    have hrange := hfetched.inRange hplan
    refine ⟨?_, ((hfacing head world).consulted hrange.2).canScan⟩
    intro last hlast
    rw [State.eq_of_mem_getLast?_pushHandled hlast]
    exact hrange.1

theorem InRange.polling (h : watcher.InRange) (plan : Plan Handler ω) : (watcher.polling plan).InRange :=
  h.of_eq (window_polling ..) (handlers_polling ..)

theorem InRange.settle (h : watcher.InRange) (plan : Plan Handler ω) : (watcher.settle plan).InRange :=
  h.of_eq (window_settle ..) (handlers_settle ..)

theorem InRange.run_follow (hplan : plan.InRange) (h : watcher.InRange) (hasEnded : ω → Bool) (cycles : Nat)
    : ((follow (plan.handling outlets firing) hasEnded cycles).run watcher).1 = .ok () := by
  induction cycles generalizing watcher with
  | zero => rfl
  | succ cycles ih =>
    have hpolling := h.polling (plan.handling outlets firing)
    have hrange := @not_overflowed _ outlets firing plan .head _ hplan hpolling
    rw [run_follow_succ]
    dsimp only
    split
    . exact ih (hpolling.cycle hplan)
    . split
      . next heq =>
        rw [heq] at hrange
        exact absurd (overflowed_overflow _) hrange
      . rfl

theorem InRange.not_overflowed_replay (hplan : plan.InRange) (h : watcher.InRange) (slots : List Slot)
    : ¬Overflowed ((replay (plan.handling outlets firing) slots).run watcher).1 := by
  induction slots generalizing watcher with
  | nil => exact not_overflowed_ok ()
  | cons slot rest ih =>
    rw [replay_cons]
    dsimp only
    split
    . exact ih ((h.cycle hplan).settle _)
    . rw [overflowed_map_iff]
      exact h.not_overflowed hplan

theorem InRange.of_start {handlers : List Handler} (h : ∀ handler ∈ handlers, handler.CanScan) (capacity : Nat)
    (genesisTime : UInt64) (beats : Option Nat) (world : ω)
    : (Watcher.start handlers (.empty capacity) genesisTime beats world).InRange :=
  ⟨nofun, h⟩

end

/--
A number leaves its range in a cycle just if the slot of a head starts after the end of time, if the slots after the
last one of all are counted, or if the blocks after the last one of all are scanned. So neither way to run the watcher
ends for a number as long as the nodes tell of slots and blocks that have next ones.
-/
theorem overflowed_iff (outlets : Outlets ω) (firing : ω → Instant) (plan : Plan Handler ω) :
    let handling := plan.handling outlets firing
    (∀ id watcher, Overflowed ((cycle handling id).run watcher).1
        ↔ watcher.AgeOverflows handling id
          ∨ ∃ look ∈ seen handling id watcher, look.before.Overflows outlets look.head)
      ∧ (plan.InRange → ∀ watcher, watcher.InRange →
        (∀ hasEnded cycles, ((follow handling hasEnded cycles).run watcher).1 = .ok ())
          ∧ ∀ slots, ¬Overflowed ((replay handling slots).run watcher).1) := by
  intro handling
  refine ⟨fun _ _ => overflowed_cycle_iff, ?_⟩
  intro hplan watcher h
  exact ⟨h.run_follow hplan, h.not_overflowed_replay hplan⟩

namespace Endmost

/-- A head with a payload of some number, in which some validators exit. -/
def head (slot : Slot) (root parent : String) (number : BlockNumber) (exits : List ValidatorIndex) : Head where
  header := ⟨root, true, ⟨slot, 1, parent, "0x03"⟩⟩
  block := ⟨slot, parent, ⟨some ⟨number⟩, exits.map (⟨·⟩), [], [], none⟩⟩

/-- The oracle counts one more request at block 12 than it does at other blocks. -/
def outlets : Outlets (List Head) where
  oracle := some ⟨fun block => pure (if block = 12 then 2 else 1), fun _ _ => pure []⟩
  sink := ⟨fun _ => pure ()⟩

/-- The world is a list of heads. Nodes tell of the first one, and go on to the next one when they gave its block. -/
def plan : Plan Handler (List Head) where
  services := {
    handlerName := Handler.name
    handle settings := Handler.handle outlets settings ⟨0, 0⟩
    header _ rejects := {
      run := fun heads =>
        match heads with
        | head :: _ =>
          if rejects head.header then (.error (.rejected "headers"), heads) else (.ok head.header, heads)
        | [] => (.error (.noHosts "ConsensusClient"), []) }
    block _ := {
      run := fun heads =>
        match heads with
        | head :: rest => (.ok head.block, rest)
        | [] => (.error (.noHosts "ConsensusClient"), []) }
    validators := pure [⟨7, "0xaa"⟩]
    reorgs := pure []
    updateKeys := pure (some (.ofKeys [⟨"0xaa", "one", 1, 1⟩]))
    clock _ := 140 }
  settings := ⟨⟨"mainnet"⟩, ∅, []⟩
  genesisTime := 0

def start (heads : List Head) : Watcher Handler (List Head) :=
  .start [.fork (.empty 10), .exit (.start 100 [])] (.empty 96) 0 none heads

/-- How a watch over some heads ends. -/
def watch (heads : List Head) : Except Failure Unit :=
  ((follow (plan.handling outlets fun _ => ⟨0, 0⟩) (fun _ => false) heads.length).run (start heads)).1

/-- From a start with nothing handled, each of the three numbers can leave its range. -/
theorem watch_overflows :
    watch [head 10 "0x0a" "0x09" 10 [], head Word.max "0x0b" "0x0a" 11 []] = .error (.overflow .multiplication)
      ∧ watch [head Word.max "0x0a" "0x09" 10 [], head 14 "0x0e" "0x0d" 11 []] = .error (.overflow .addition)
      ∧ watch [head 10 "0x0a" "0x09" 10 [], head 11 "0x0b" "0x0a" Word.max [7], head 12 "0x0c" "0x0b" 12 [7]]
        = .error (.overflow .addition) := by
  refine ⟨?_, ?_, ?_⟩ <;> decide +kernel

/-- The plan whose nodes only ever tell of one head. -/
def calm : Plan Handler (List Head) :=
  { plan with
    services := { plan.services with
      header := fun _ _ => pure (head 10 "0x0a" "0x09" 10 [7]).header
      block := fun _ => pure (head 10 "0x0a" "0x09" 10 [7]).block } }

theorem inRange_calm : calm.InRange where
  slot_lt := by
    rintro id rejects world record after ⟨⟩
    decide
  start_lt := by
    rintro rejects world record after ⟨⟩
    decide
  block_lt := by
    rintro id world block after ⟨⟩ payload ⟨⟩
    decide

theorem inRange_start (heads : List Head) : (start heads).InRange := by
  apply InRange.of_start
  simp only [List.forall_mem_cons]
  exact ⟨trivial, nofun, List.forall_mem_nil _⟩

theorem follow_calm : calm.InRange ∧ (start []).InRange
    ∧ ∀ cycles,
      ((follow (calm.handling outlets fun _ => ⟨0, 0⟩) (fun _ => false) cycles).run (start [])).1 = .ok () := by
  have ⟨_, hrange⟩ := overflowed_iff outlets (fun _ => ⟨0, 0⟩) calm
  exact ⟨inRange_calm, inRange_start [], (hrange inRange_calm (start []) (inRange_start [])).1 _⟩

end Endmost

end Watcher
end Watch
end BeaconSentry
