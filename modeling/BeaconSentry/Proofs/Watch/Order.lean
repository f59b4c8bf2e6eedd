import BeaconSentry.Proofs.Watch.Replay
import BeaconSentry.Proofs.Watch.Window

/-!
This module contains the order of the handled heads while the watcher follows the head of the chain. A poll passes over
a head only if its slot is the one that was handled last, so a node that lags can take the watcher back.
-/

namespace BeaconSentry
namespace Watch

open Beacon Net

variable {η ω : Type}

/-- The slots of some heads, oldest first, strictly increase. -/
def IsOrdered (heads : List Head) : Prop := heads.Pairwise (·.slot < ·.slot)

theorem isOrdered_iff_isChain (heads : List Head) : IsOrdered heads ↔ heads.IsChain (·.slot < ·.slot) :=
  have : @Trans Head Head Head (·.slot < ·.slot) (·.slot < ·.slot) (·.slot < ·.slot) := ⟨UInt64.lt_trans⟩
  List.isChain_iff_pairwise.symm

namespace Watcher

/-- The watcher at its next poll: the refreshers have ended, and an event stream was heard to its end. -/
def polling (plan : Plan η ω) (watcher : Watcher η ω) : Watcher η ω := (watcher.settle plan).listen plan

/-- Whether a watch goes on after a cycle that ends in some way. -/
def goesOn (hasEnded : ω → Bool) : Except Failure Bool × Watcher η ω → Bool
  | (.error (.overflow _), _) => false
  | (_, after) => !hasEnded after.world

/-- Something holds of the watcher at each poll after which the watch goes on. -/
def AtEachPoll (plan : Plan η ω) (hasEnded : ω → Bool) (p : Watcher η ω → Prop) : Nat → Watcher η ω → Prop
  | 0, _ => True
  | cycles + 1, watcher =>
    let outcome := (cycle plan .head).run (watcher.polling plan)
    goesOn hasEnded outcome = true → p (watcher.polling plan) ∧ AtEachPoll plan hasEnded p cycles outcome.2

section

variable {plan : Plan η ω} {hasEnded : ω → Bool} {watcher : Watcher η ω}

theorem atEachPoll_of_forall {p : Watcher η ω → Prop} (h : ∀ watcher, p watcher) (cycles : Nat)
    (watcher : Watcher η ω) : AtEachPoll plan hasEnded p cycles watcher := by
  induction cycles generalizing watcher with
  | zero => trivial
  | succ cycles ih => exact fun _ => ⟨h _, ih _⟩

theorem window_polling (plan : Plan η ω) (watcher : Watcher η ω) :
    (watcher.polling plan).state.window = watcher.state.window := by
  unfold polling
  rw [window_listen, window_settle]

theorem run_follow_succ (plan : Plan η ω) (hasEnded : ω → Bool) (cycles : Nat) (watcher : Watcher η ω) :
    (follow plan hasEnded (cycles + 1)).run watcher =
      let outcome := (cycle plan .head).run (watcher.polling plan)
      if goesOn hasEnded outcome then
        (follow plan hasEnded cycles).run outcome.2
      else
        match outcome with
        | (.error (.overflow overflow), after) => (.error (.overflow overflow), after)
        | (_, after) => (.ok (), (watcher.polling plan).inWorld after.world) := by
  rw [follow]
  unfold polling
  dsimp only
  generalize (cycle plan .head).run ((watcher.settle plan).listen plan) = outcome
  rcases outcome with ⟨(_ | _) | _, after⟩
  . by_cases hended : hasEnded after.world = true <;> simp [goesOn, hended, inWorld]
  . rfl
  . by_cases hended : hasEnded after.world = true <;> simp [goesOn, hended, inWorld]

theorem run_follow_of_goesOn (cycles : Nat)
    (h : goesOn hasEnded ((cycle plan .head).run (watcher.polling plan)) = true)
    : (follow plan hasEnded (cycles + 1)).run watcher
        = (follow plan hasEnded cycles).run ((cycle plan .head).run (watcher.polling plan)).2 := by
  rw [run_follow_succ]
  dsimp only
  rw [if_pos h]

theorem window_follow_of_not_goesOn (hkeeps : plan.KeepsWindow) (cycles : Nat)
    (h : ¬goesOn hasEnded ((cycle plan .head).run (watcher.polling plan)) = true)
    : ((follow plan hasEnded (cycles + 1)).run watcher).2.state.window = watcher.state.window := by
  rw [run_follow_succ, ← window_polling plan watcher]
  dsimp only
  rw [if_neg h]
  split
  . next hcycle =>
    have hkept := @window_cycle_of_ne _ _ plan .head hkeeps (watcher.polling plan)
    rw [hcycle] at hkept
    exact hkept nofun
  . rfl

/-- Neighbours in the window stay related as long as each poll adds a head that is related to the last one. -/
theorem isChain_follow_iff {r : Head → Head → Prop} (hkeeps : plan.KeepsWindow)
    (hchain : watcher.state.handled.IsChain r) (hcapacity : 2 ≤ watcher.state.capacity) (cycles : Nat)
    : (∀ n ≤ cycles, ((follow plan hasEnded n).run watcher).2.state.handled.IsChain r)
        ↔ AtEachPoll plan hasEnded
          (fun watcher =>
            ∀ head, Handles plan .head watcher head → ∀ last ∈ watcher.state.handled.getLast?, r last head)
          cycles watcher := by
  induction cycles generalizing watcher with
  | zero =>
    refine iff_of_true ?_ trivial
    intro n hn
    cases hn
    exact hchain
  | succ cycles ih =>
    have hpolling := window_polling plan watcher
    have hcapacity' : 2 ≤ (watcher.polling plan).state.capacity := by
      rw [State.capacity_eq_of_window hpolling]
      exact hcapacity
    have hcycle := @isChain_cycle_iff _ _ plan .head r (watcher.polling plan) hkeeps
      (by rw [State.handled_eq_of_window hpolling]; exact hchain) hcapacity'
    rw [← @capacity_cycle _ _ plan .head hkeeps] at hcapacity'
    rw [AtEachPoll, ← hcycle]
    by_cases hgoes : goesOn hasEnded ((cycle plan .head).run (watcher.polling plan)) = true
    . simp only [hgoes, forall_const]
      constructor
      . intro h
        have hrest (n : Nat) (hn : n ≤ cycles) := h (n + 1) (Nat.succ_le_succ hn)
        simp only [run_follow_of_goesOn _ hgoes] at hrest
        have hnext := hrest 0 (Nat.zero_le _)
        exact ⟨hnext, (ih hnext hcapacity').mp hrest⟩
      . intro ⟨hnext, hrest⟩ n hn
        cases n with
        | zero => exact hchain
        | succ n =>
          rw [run_follow_of_goesOn _ hgoes]
          exact (ih hnext hcapacity').mpr hrest n (Nat.le_of_succ_le_succ hn)
    . -- The last cycle leaves the window as it is.
      refine iff_of_true ?_ fun h => absurd h hgoes
      intro n hn
      cases n with
      | zero => exact hchain
      | succ n =>
        rw [State.handled_eq_of_window (window_follow_of_not_goesOn hkeeps n hgoes)]
        exact hchain

end

/-- What the nodes of a client answer if the watcher asks them for the header of the head. -/
def answeredHead (wire : Wire ω) (client : Client) (plan : Plan η ω) (watcher : Watcher η ω) :
    Except (List ProviderError) HeaderRecord × ω :=
  (Provider.poll (Client.askHeader wire .head (watcher.rejectsHeader plan .head)) client.provider.hosts).run
    watcher.world

/--
The first node that knows of a fresh head knows of one that is older than the head handled last, and all handlers accept
it.
-/
inductive StepsBack (wire : Wire ω) (client : Client) (plan : Plan η ω) (watcher : Watcher η ω) : Prop
  | handled {head last : Head} {world after : ω}
      (hheader : answeredHead wire client plan watcher = (.ok head.header, world))
      (hfresh : watcher.isStaleHead plan .head head.header = .ok false)
      (hblock : answeredRoot wire client head.root world = (.ok head.block, after))
      (hverdicts : ∀ verdict ∈ verdicts plan head watcher.handlers (watcher.facing head after), verdict = .ok ())
      (hlast : watcher.state.handled.getLast? = some last)
      (holder : head.slot < last.slot)

section

variable {wire : Wire ω} {client : Client} {plan : Plan η ω} {watcher : Watcher η ω}

theorem askedHead_eq_ok_iff {record : HeaderRecord} {world : ω}
    : watcher.askedHeader (plan.asking wire client) .head = (.ok record, world)
        ↔ answeredHead wire client (plan.asking wire client) watcher = (.ok record, world) :=
  Client.run_firstKnown_eq_ok_iff

theorem isStaleHead_of_answeredHead {record : HeaderRecord} {world : ω} {stale : Bool}
    (hheader : answeredHead wire client plan watcher = (.ok record, world))
    (hage : watcher.isStaleHead plan .head record = .ok stale) : stale = false := by
  have ⟨_, _, _, hask⟩ := Provider.exists_of_poll_eq_ok hheader
  have hrejects : watcher.rejectsHeader plan .head record = false := Provider.rejects_of_askJson_eq_ok hask
  unfold rejectsHeader at hrejects
  rw [hage] at hrejects
  exact hrejects

theorem stepsBack_iff
    : StepsBack wire client (plan.asking wire client) watcher
        ↔ ∃ head, Handles (plan.asking wire client) .head watcher head
          ∧ ∃ last ∈ watcher.state.handled.getLast?, head.slot < last.slot := by
  constructor
  . intro h
    cases h with
    | @handled head last world after hheader hfresh hblock hverdicts hlast holder =>
      have hslot : watcher.state.lastHandledSlot ≠ some head.slot := by
        unfold State.lastHandledSlot
        rw [hlast]
        exact fun heq => UInt64.ne_of_lt holder (Option.some.inj heq).symm
      have hfetched : Fetched (plan.asking wire client) .head watcher (.ok (some head)) after :=
        .found (askedHead_eq_ok_iff.mpr hheader) hfresh hslot (run_block_eq_ok_iff.mpr hblock)
      exact ⟨head, ⟨after, hfetched, (judged_runHandlers ..).eq_ok hverdicts⟩, last, hlast, holder⟩
  . intro ⟨head, ⟨after, hfetched, hresult⟩, last, hlast, holder⟩
    cases hfetched with
    | found hheader hage hslot hblock =>
      have hanswer := askedHead_eq_ok_iff.mp hheader
      cases isStaleHead_of_answeredHead hanswer hage
      have hjudged := judged_runHandlers (plan.asking wire client) head watcher.handlers (watcher.facing head after)
      rw [hresult] at hjudged
      cases hjudged with
      | accepted hall => exact .handled hanswer hage (run_block_eq_ok_iff.mp hblock) hall hlast holder

/-- A head is never handled right after one of its slot. -/
theorem ne_last_of_handles {head : Head} (h : Handles plan .head watcher head)
    : ∀ last ∈ watcher.state.handled.getLast?, last.slot ≠ head.slot := by
  intro last hlast heq
  obtain ⟨_, hfetched, _⟩ := h
  cases hfetched with
  | found _ _ hslot => exact hslot (State.lastHandledSlot_eq_some_iff.mpr ⟨last, hlast, heq⟩)

theorem not_stepsBack_iff
    : ¬StepsBack wire client (plan.asking wire client) watcher
        ↔ ∀ head, Handles (plan.asking wire client) .head watcher head
          → ∀ last ∈ watcher.state.handled.getLast?, last.slot < head.slot := by
  rw [stepsBack_iff]
  constructor
  . intro h head hhandles last hlast
    have hle : last.slot ≤ head.slot := UInt64.not_lt.mp fun hlt => h ⟨head, hhandles, last, hlast, hlt⟩
    exact UInt64.lt_of_le_of_ne hle (ne_last_of_handles hhandles last hlast)
  . intro h ⟨head, hhandles, last, hlast, hlt⟩
    exact UInt64.lt_asymm hlt (h head hhandles last hlast)

end

/--
While the watcher follows the head of the chain, neighbours among the handled heads have different slots. All of them
are in order if and only if no poll steps back.
-/
theorem follow_isOrdered_iff (wire : Wire ω) (client : Client) (plan : Plan η ω) (hasEnded : ω → Bool) (cycles : Nat)
    (watcher : Watcher η ω) (hkeeps : plan.KeepsWindow) (hordered : IsOrdered watcher.state.handled)
    (hcapacity : 2 ≤ watcher.state.capacity)
    : let plan := plan.asking wire client
      let handled (cycles : Nat) := ((follow plan hasEnded cycles).run watcher).2.state.handled
      (handled cycles).IsChain (·.slot ≠ ·.slot)
        ∧ ((∀ n ≤ cycles, IsOrdered (handled n))
          ↔ AtEachPoll plan hasEnded (fun watcher => ¬StepsBack wire client plan watcher) cycles watcher) := by
  intro plan' handled
  have hchain := (isOrdered_iff_isChain _).mp hordered
  have hkeeps' : plan'.KeepsWindow := hkeeps
  constructor
  . have hne : watcher.state.handled.IsChain (·.slot ≠ ·.slot) := hchain.imp fun _ _ => UInt64.ne_of_lt
    refine (isChain_follow_iff hkeeps' hne hcapacity cycles).mpr ?_ cycles (Nat.le_refl _)
    exact atEachPoll_of_forall (fun _ _ => ne_last_of_handles) ..
  . simp only [isOrdered_iff_isChain, plan', not_stepsBack_iff]
    exact isChain_follow_iff hkeeps' hchain hcapacity cycles

namespace Wavering

/-- A host that takes turns to have two heads, of slot 10 and of slot 11. The world is how often it was asked. -/
def wire : Wire Nat where
  exchange request := {
    run := fun asked =>
      match request.url.path with
      | .segments ["eth", "v1", "beacon", "headers", "head"] =>
        let answer :=
          if asked % 2 = 0 then "[[\"0x0a\",true,[[10,1,\"0x09\",\"0x03\"]]]]"
          else "[[\"0x0b\",true,[[11,1,\"0x0a\",\"0x03\"]]]]"
        (.ok ⟨200, answer.toUTF8.toList, true⟩, asked + 1)
      | .segments ["eth", "v2", "beacon", "blocks", "0x0a"] =>
        (.ok ⟨200, "[[[10,\"0x09\",[null,[],[],[],null]]]]".toUTF8.toList, true⟩, asked)
      | .segments ["eth", "v2", "beacon", "blocks", "0x0b"] =>
        (.ok ⟨200, "[[[11,\"0x0a\",[null,[],[],[],null]]]]".toUTF8.toList, true⟩, asked)
      | _ => (.ok ⟨404, [], true⟩, asked) }
  observe _ asked := asked

def client : Client :=
  ⟨⟨"ConsensusClient", [⟨"http", some ⟨"", "", "host", none⟩, .segments [""], none, none⟩],
    .limited (.ofMillis 10) 0 .zero⟩⟩

def plan : Plan Handler Nat where
  services := {
    Services.ofClient wire client ⟨none, ⟨fun _ => pure ()⟩⟩ ⟨0, 0⟩ (pure none) fun _ => 140 with
    validators := pure []
    reorgs := pure [] }
  settings := ⟨⟨"mainnet"⟩, ∅, []⟩
  genesisTime := 0

def watcher : Watcher Handler Nat := .start [.slashing (.empty 10), .fork (.empty 10)] (.empty 96) 0 none 0

theorem slots_follow :
    ((follow (plan.asking wire client) (fun _ => false) 3).run watcher).2.state.handled.map (·.slot)
      = [10, 11, 10] := by
  decide +kernel

theorem not_isOrdered_of_slots {heads : List Head} (h : heads.map (·.slot) = [10, 11, 10]) : ¬IsOrdered heads := by
  intro hordered
  have hslots : (heads.map (·.slot)).Pairwise (· < ·) := List.pairwise_map.mpr hordered
  rw [h] at hslots
  exact absurd hslots (by decide)

/-- A watch begins with an empty window, and handles a head again after the one that came next. -/
theorem not_isOrdered_follow :
    let handled := ((follow (plan.asking wire client) (fun _ => false) 3).run watcher).2.state.handled
    watcher.state.handled = [] ∧ handled.map (·.slot) = [10, 11, 10] ∧ ¬IsOrdered handled :=
  ⟨rfl, slots_follow, not_isOrdered_of_slots slots_follow⟩

theorem follow_stepsBack :
    let plan := plan.asking wire client
    ((follow plan (fun _ => false) 3).run watcher).2.state.handled.IsChain (·.slot ≠ ·.slot)
      ∧ ¬AtEachPoll plan (fun _ => false) (fun watcher => ¬StepsBack wire client plan watcher) 3 watcher := by
  have hkeeps : plan.KeepsWindow := Plan.keepsWindow_of_handle rfl
  have ⟨hne, hordered⟩ := follow_isOrdered_iff wire client plan (fun _ => false) 3 watcher hkeeps .nil (by decide)
  exact ⟨hne, fun h => not_isOrdered_of_slots slots_follow (hordered.mpr h 3 (Nat.le_refl _))⟩

end Wavering
end Watcher
end Watch
end BeaconSentry
