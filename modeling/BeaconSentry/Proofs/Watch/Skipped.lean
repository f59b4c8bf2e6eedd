import BeaconSentry.Proofs.Watch.Order

/-!
This module contains which headers the watcher passes over as handled already: those of the slot that it handled last,
whatever their block. So it does not look at a block that has taken the place of the one it handled.
-/

namespace BeaconSentry
namespace Watch
namespace Watcher

open Beacon Net

variable {η ω : Type}

/--
What a run from an empty window comes to, with all the heads that it has handled, oldest first. Cycles for any blocks,
steps of the refreshers and event streams follow each other in any order, and the world outside changes at any time.
-/
inductive Reached (plan : Plan η ω) (capacity : Nat) : List Head → Watcher η ω → Prop
  | start {watcher : Watcher η ω} (hwindow : watcher.state.window = ([], capacity)) : Reached plan capacity [] watcher
  | outside {heads : List Head} {watcher : Watcher η ω} (h : Reached plan capacity heads watcher) (world : ω) :
    Reached plan capacity heads (watcher.inWorld world)
  | stepKeys {heads : List Head} {watcher : Watcher η ω} (h : Reached plan capacity heads watcher) :
    Reached plan capacity heads (watcher.stepKeys plan)
  | stepRegistry {heads : List Head} {watcher : Watcher η ω} (h : Reached plan capacity heads watcher) :
    Reached plan capacity heads (watcher.stepRegistry plan)
  | listen {heads : List Head} {watcher : Watcher η ω} (h : Reached plan capacity heads watcher) :
    Reached plan capacity heads (watcher.listen plan)
  | unhandled {heads : List Head} {watcher : Watcher η ω} {id : BlockId} (h : Reached plan capacity heads watcher)
      (hnone : ∀ head, ¬Handles plan id watcher head) :
    Reached plan capacity heads ((cycle plan id).run watcher).2
  | handled {heads : List Head} {watcher : Watcher η ω} {id : BlockId} {head : Head}
      (h : Reached plan capacity heads watcher) (hhandles : Handles plan id watcher head) :
    Reached plan capacity (heads ++ [head]) ((cycle plan id).run watcher).2

namespace Reached

variable {plan : Plan η ω} {capacity : Nat} {heads : List Head} {watcher : Watcher η ω}

theorem window_eq (hkeeps : plan.KeepsWindow) (h : Reached plan capacity heads watcher)
    : watcher.state.window = (heads.rtake capacity, capacity) := by
  induction h with
  | start hwindow => rw [hwindow, List.rtake_nil]
  | outside _ world ih => exact ih
  | stepKeys _ ih => rw [window_stepKeys, ih]
  | stepRegistry _ ih => rw [window_stepRegistry, ih]
  | listen _ ih => rw [window_listen, ih]
  | unhandled _ hnone ih =>
    rcases window_cycle hkeeps _ with ⟨_, hwindow⟩ | ⟨head, hhead, _⟩
    . rw [hwindow, ih]
    . exact absurd ((hhead head).mpr rfl) (hnone head)
  | handled _ hhandles ih =>
    rcases window_cycle hkeeps _ with ⟨hnone, _⟩ | ⟨head, hhead, hwindow⟩
    . exact absurd hhandles (hnone _)
    . cases (hhead _).mp hhandles
      rw [hwindow, State.window_pushHandled_of_rtake ih]

theorem settle (h : Reached plan capacity heads watcher) : Reached plan capacity heads (watcher.settle plan) :=
  h.stepKeys.stepKeys.stepRegistry.stepRegistry.stepRegistry

theorem polling (h : Reached plan capacity heads watcher) : Reached plan capacity heads (watcher.polling plan) :=
  h.settle.listen

theorem cycle (h : Reached plan capacity heads watcher) (id : BlockId)
    : ∃ later, Reached plan capacity (heads ++ later) ((Watcher.cycle plan id).run watcher).2 := by
  by_cases hhandles : ∃ head, Handles plan id watcher head
  . have ⟨head, hhandles⟩ := hhandles
    exact ⟨[head], h.handled hhandles⟩
  . refine ⟨[], ?_⟩
    rw [List.append_nil]
    exact h.unhandled (not_exists.mp hhandles)

/-- Whether the watcher follows the head of the chain or replays slots, it is in such a run. -/
theorem follow (h : Reached plan capacity heads watcher) (hasEnded : ω → Bool) (cycles : Nat)
    : ∃ later, Reached plan capacity (heads ++ later) ((Watcher.follow plan hasEnded cycles).run watcher).2 := by
  induction cycles generalizing heads watcher with
  | zero => exact ⟨[], by rwa [List.append_nil]⟩
  | succ cycles ih =>
    obtain ⟨later, hcycle⟩ := h.polling.cycle .head
    rw [run_follow_succ]
    dsimp only
    split
    . obtain ⟨later', hrest⟩ := ih hcycle
      exact ⟨later ++ later', by rwa [← List.append_assoc]⟩
    . split
      . next hrun =>
        rw [hrun] at hcycle
        exact ⟨later, hcycle⟩
      . exact ⟨[], by rw [List.append_nil]; exact h.polling.outside _⟩

theorem replay (h : Reached plan capacity heads watcher) (slots : List Slot)
    : ∃ later, Reached plan capacity (heads ++ later) ((Watcher.replay plan slots).run watcher).2 := by
  induction slots generalizing heads watcher with
  | nil => exact ⟨[], by rwa [List.append_nil]⟩
  | cons slot rest ih =>
    obtain ⟨later, hcycle⟩ := h.cycle (.slot slot)
    rw [replay_cons]
    dsimp only
    split
    . obtain ⟨later', hrest⟩ := ih hcycle.settle
      exact ⟨later ++ later', by rwa [← List.append_assoc]⟩
    . exact ⟨later, hcycle⟩

end Reached

/-- A cycle ends with a header as that of a head that was handled already. It has done nothing but ask for it. -/
def Skips (plan : Plan η ω) (id : BlockId) (watcher : Watcher η ω) (record : HeaderRecord) : Prop :=
  ∃ world, watcher.askedHeader plan id = (.ok record, world)
    ∧ (cycle plan id).run watcher = (.ok false, (watcher.inWorld world).note "get_header_full_info" true)

/-- The first node whose header is not turned down has one for the slot of a head. -/
inductive Meets (wire : Wire ω) (client : Client) (plan : Plan η ω) (id : BlockId) (watcher : Watcher η ω) (last : Head)
    (record : HeaderRecord) : Prop
  | intro {world : ω} {stale : Bool}
      (hheader : (Provider.poll (Client.askHeader wire id (watcher.rejectsHeader plan id)) client.provider.hosts).run
        watcher.world = (.ok record, world))
      (hage : watcher.isStaleHead plan id record = .ok stale) (hslot : record.header.slot = last.slot)

section

variable {wire : Wire ω} {client : Client} {plan : Plan η ω} {id : BlockId} {watcher : Watcher η ω}

theorem cycle_eq_ok_false_iff
    : ((cycle plan id).run watcher).1 = .ok false ↔ ∃ record, Skips plan id watcher record := by
  constructor
  . intro h
    have hcycled := cycled_cycle plan id watcher
    generalize hrun : (cycle plan id).run watcher = outcome at h hcycled
    rcases outcome with ⟨result, after⟩
    cases h
    cases hcycled with
    | repeated hfetched =>
      cases hfetched with
      | repeated hheader => exact ⟨_, _, hheader, hrun⟩
  . intro ⟨record, world, _, hrun⟩
    rw [hrun]

theorem skips_iff {record : HeaderRecord}
    : Skips (plan.asking wire client) id watcher record
        ↔ ∃ last ∈ watcher.state.handled.getLast?,
          Meets wire client (plan.asking wire client) id watcher last record := by
  constructor
  . intro ⟨world, hheader, hrun⟩
    have hcycled := cycled_cycle (plan.asking wire client) id watcher
    rw [hrun] at hcycled
    cases hcycled with
    | repeated hfetched =>
      cases hfetched with
      | repeated hheader' hage hslot =>
        cases hheader.symm.trans hheader'
        obtain ⟨last, hlast, hslot⟩ := State.lastHandledSlot_eq_some_iff.mp hslot
        exact ⟨last, hlast, .intro (Client.run_firstKnown_eq_ok_iff.mp hheader) hage hslot.symm⟩
  . intro ⟨last, hlast, hmeets⟩
    cases hmeets with
    | @intro world _ hheader hage hslot =>
      have hheader : watcher.askedHeader (plan.asking wire client) id = (.ok record, world) :=
        Client.run_firstKnown_eq_ok_iff.mpr hheader
      have hslot := State.lastHandledSlot_eq_some_iff.mpr ⟨last, hlast, hslot.symm⟩
      exact ⟨_, hheader, (Cycled.repeated (.repeated hheader hage hslot)).run_eq⟩

end

/--
In a run from an empty window, a cycle ends as one for a head that was handled already if and only if the header is of
the slot that was handled last, and then nothing is handled. This is the header of the head that was handled last if and
only if no other block has come to its slot.
-/
theorem reached_skips_iff {wire : Wire ω} {client : Client} {plan : Plan η ω} {capacity : Nat} {heads : List Head}
    {watcher : Watcher η ω} (hkeeps : plan.KeepsWindow) (h : Reached (plan.asking wire client) capacity heads watcher)
    (id : BlockId)
    : let plan := plan.asking wire client
      (((cycle plan id).run watcher).1 = .ok false ↔ ∃ record, Skips plan id watcher record)
        ∧ (∀ record, Skips plan id watcher record
          ↔ 0 < capacity ∧ ∃ last ∈ heads.getLast?, Meets wire client plan id watcher last record)
        ∧ ((∀ record, Skips plan id watcher record → ∃ last ∈ heads.getLast?, record.root = last.root)
          ↔ ¬(0 < capacity ∧ ∃ last ∈ heads.getLast?, ∃ record, Meets wire client plan id watcher last record
            ∧ record.root ≠ last.root)) := by
  intro plan'
  have hskips (record : HeaderRecord) : Skips plan' id watcher record
      ↔ 0 < capacity ∧ ∃ last ∈ heads.getLast?, Meets wire client plan' id watcher last record := by
    have hkeeps' : plan'.KeepsWindow := hkeeps
    rw [skips_iff]
    simp only [State.mem_getLast?_iff_of_window (h.window_eq hkeeps'), and_assoc, exists_and_left]
    rfl
  refine ⟨cycle_eq_ok_false_iff, hskips, ?_⟩
  simp only [hskips]
  constructor
  . intro hroot ⟨hpos, last, hlast, record, hmeets, hne⟩
    obtain ⟨last', hlast', heq⟩ := hroot record ⟨hpos, last, hlast, hmeets⟩
    cases hlast.symm.trans hlast'
    exact hne heq
  . intro hnone record ⟨hpos, last, hlast, hmeets⟩
    refine ⟨last, hlast, ?_⟩
    by_contra hne
    exact hnone ⟨hpos, last, hlast, record, hmeets, hne⟩

namespace Supplanted

/-- A host with a head of slot 9, then one of slot 10, and then another one of slot 10. The world counts the answers. -/
def wire : Wire Nat where
  exchange request := {
    run := fun asked =>
      match request.url.path with
      | .segments ["eth", "v1", "beacon", "headers", "head"] =>
        let answer :=
          match asked with
          | 0 => "[[\"0x09\",true,[[9,1,\"0x08\",\"0x03\"]]]]"
          | 1 => "[[\"0x0a\",true,[[10,1,\"0x09\",\"0x03\"]]]]"
          | _ => "[[\"0x0b\",true,[[10,1,\"0x09\",\"0x03\"]]]]"
        (.ok ⟨200, answer.toUTF8.toList, true⟩, asked + 1)
      | .segments ["eth", "v2", "beacon", "blocks", "0x09"] =>
        (.ok ⟨200, "[[[9,\"0x08\",[null,[],[],[],null]]]]".toUTF8.toList, true⟩, asked)
      | .segments ["eth", "v2", "beacon", "blocks", _] =>
        (.ok ⟨200, "[[[10,\"0x09\",[null,[],[],[],null]]]]".toUTF8.toList, true⟩, asked)
      | _ => (.ok ⟨404, [], true⟩, asked) }
  observe _ asked := asked

def client : Client :=
  ⟨⟨"ConsensusClient", [⟨"http", some ⟨"", "", "host", none⟩, .segments [""], none, none⟩],
    .limited (.ofMillis 10) 0 .zero⟩⟩

def plan : Plan Handler Nat where
  services := {
    Services.ofClient wire client ⟨none, ⟨fun _ => pure ()⟩⟩ ⟨0, 0⟩ (pure none) fun _ => 140 with
    validators := pure []
    reorgs := pure [] }
  settings := ⟨⟨"mainnet"⟩, ∅, []⟩
  genesisTime := 0

def start : Watcher Handler Nat := .start [.slashing (.empty 10), .fork (.empty 10)] (.empty 96) 0 none 0

def watcher : Watcher Handler Nat :=
  ((follow (plan.asking wire client) (fun _ => false) 2).run start).2.polling (plan.asking wire client)

def supplanting : HeaderRecord := ⟨"0x0b", true, ⟨10, 1, "0x09", "0x03"⟩⟩

theorem third_poll :
    watcher.state.handled.map (·.root) = ["0x09", "0x0a"]
      ∧ watcher.askedHeader (plan.asking wire client) .head = (.ok supplanting, 3)
      ∧ ((cycle (plan.asking wire client) .head).run watcher).1 = .ok false := by
  decide +kernel

theorem skips_supplanting : Skips (plan.asking wire client) .head watcher supplanting := by
  have ⟨_, hheader, hrun⟩ := third_poll
  obtain ⟨record, world, hheader', hrun⟩ := cycle_eq_ok_false_iff.mp hrun
  cases hheader.symm.trans hheader'
  exact ⟨3, hheader, hrun⟩

theorem root_notMem_handled : supplanting.root ∉ watcher.state.handled.map (·.root) := by
  rw [third_poll.1]
  decide

/-- A run begins with an empty window, and passes over the second block of a slot, which it has not handled. -/
theorem skips_unhandled :
    let plan := plan.asking wire client
    start.state.handled = [] ∧ watcher = ((follow plan (fun _ => false) 2).run start).2.polling plan
      ∧ ((cycle plan .head).run watcher).1 = .ok false ∧ Skips plan .head watcher supplanting
      ∧ supplanting.root ∉ watcher.state.handled.map (·.root) :=
  ⟨rfl, rfl, third_poll.2.2, skips_supplanting, root_notMem_handled⟩

theorem reached_supplanted :
    ∃ heads, Reached (plan.asking wire client) 96 heads watcher
      ∧ ∃ last ∈ heads.getLast?, Meets wire client (plan.asking wire client) .head watcher last supplanting
        ∧ supplanting.root ≠ last.root := by
  have hkeeps : plan.KeepsWindow := Plan.keepsWindow_of_handle rfl
  have hstart : Reached (plan.asking wire client) 96 [] start := .start rfl
  obtain ⟨heads, hreached⟩ := hstart.follow (fun _ => false) 2
  have hreached : Reached (plan.asking wire client) 96 heads watcher := hreached.polling
  have ⟨_, hskips, _⟩ := reached_skips_iff hkeeps hreached .head
  obtain ⟨_, last, hlast, hmeets⟩ := (hskips supplanting).mp skips_supplanting
  refine ⟨heads, hreached, last, hlast, hmeets, ?_⟩
  intro heq
  have hhandled := (State.mem_getLast?_iff_of_window (hreached.window_eq hkeeps)).mpr ⟨by decide, hlast⟩
  exact root_notMem_handled (List.mem_map.mpr ⟨last, List.mem_of_getLast? hhandled, heq.symm⟩)

end Supplanted
end Watcher
end Watch
end BeaconSentry
