import BeaconSentry.Proofs.Watch.Forks
import BeaconSentry.Proofs.Watch.Window

/-!
This module contains which forks the handler finds in the course of a run. It finds them by what happened before: which
heads were handled last, and which reorganisations were announced since it looked.
-/

namespace BeaconSentry

theorem SentAlerts.exists_sendEach {ω : Type} {sink : Sink ω}
    (haccepts : ∀ alerts world, ((sink.deliver alerts).run world).1 = .ok ()) (alerts : List Alert)
    (history : SentAlerts) (world : ω)
    : ∃ history' world', (sendEach sink alerts).run (history, world) = (.ok (), history', world') := by
  induction alerts generalizing history world with
  | nil => exact ⟨history, world, rfl⟩
  | cons alert rest ih =>
    have ⟨result, history', after, hrun, hsent⟩ := sentOnce_sendOnce sink alert history world
    rw [sendEach, Action.run_bind, hrun]
    cases hsent with
    | repeated => exact ih history world
    | taken => exact ih _ after
    | refused _ hdeliver =>
      have haccepted := haccepts [alert] world
      rw [hdeliver] at haccepted
      cases haccepted

namespace Watch

open Beacon

namespace Fork

def Unknown (heads : List Head) (root : String) : Prop := ∀ head ∈ heads, head.root ≠ root

instance (heads : List Head) (root : String) : Decidable (Unknown heads root) :=
  inferInstanceAs (Decidable (∀ head ∈ heads, head.root ≠ root))

theorem known?_eq_none_iff {heads : List Head} {root : String} : known? heads root = none ↔ Unknown heads root := by
  simp [known?, Unknown]

/-- A reorganisation leads to no head, or to one whose parent is none of the heads. The first head of a root counts. -/
inductive Unlinked (heads : List Head) (reorg : Reorg) : Prop
  | unknown (hunknown : Unknown heads reorg.newHead)
  | orphaned {earlier later : List Head} {head : Head} (hheads : heads = earlier ++ head :: later)
      (hearlier : Unknown earlier reorg.newHead) (hroot : head.root = reorg.newHead)
      (hparent : Unknown heads head.parentRoot)

theorem known?_eq_some_iff {heads : List Head} {root : String} {head : Head}
    : known? heads root = some head
        ↔ head.root = root ∧ ∃ earlier later, heads = earlier ++ head :: later ∧ Unknown earlier root := by
  simp [known?, Unknown, List.find?_eq_some_iff_append]

theorem unlinked_iff {heads : List Head} {reorg : Reorg} : Unlinked heads reorg ↔ isLinked heads reorg = false := by
  unfold isLinked
  constructor
  . intro h
    cases h with
    | unknown hunknown =>
      rw [known?_eq_none_iff.mpr hunknown]
      rfl
    | orphaned hheads hearlier hroot hparent =>
      rw [known?_eq_some_iff.mpr ⟨hroot, _, _, hheads, hearlier⟩, Option.any_some, known?_eq_none_iff.mpr hparent]
      rfl
  . intro h
    cases hknown : known? heads reorg.newHead with
    | none => exact .unknown (known?_eq_none_iff.mp hknown)
    | some head =>
      rw [hknown, Option.any_some, Option.isSome_eq_false_iff, Option.isNone_iff_eq_none] at h
      obtain ⟨hroot, earlier, later, hheads, hearlier⟩ := known?_eq_some_iff.mp hknown
      exact .orphaned hheads hearlier hroot (known?_eq_none_iff.mp h)

instance (heads : List Head) (reorg : Reorg) : Decidable (Unlinked heads reorg) :=
  decidable_of_iff _ unlinked_iff.symm

/-- A reorganisation is announced, and none of its slot is announced after it. -/
def Latest (announced : List Reorg) (reorg : Reorg) : Prop :=
  ∃ earlier later, announced = earlier ++ reorg :: later ∧ ∀ other ∈ later, other.slot ≠ reorg.slot

theorem latest_concat_iff {announced : List Reorg} {last reorg : Reorg}
    : Latest (announced ++ [last]) reorg ↔ reorg = last ∨ last.slot ≠ reorg.slot ∧ Latest announced reorg := by
  constructor
  . intro ⟨earlier, later, heq, hlater⟩
    rcases List.eq_nil_or_concat later with rfl | ⟨later, other, rfl⟩
    . have ⟨_, hlast⟩ := List.append_inj' heq rfl
      exact .inl (List.singleton_inj.mp hlast).symm
    . rw [List.concat_eq_append] at heq hlater
      rw [← List.cons_append, ← List.append_assoc] at heq
      have ⟨hannounced, hlast⟩ := List.append_inj' heq rfl
      rw [List.singleton_inj] at hlast
      rw [List.forall_mem_append, List.forall_mem_singleton, ← hlast] at hlater
      exact .inr ⟨hlater.2, earlier, later, hannounced, hlater.1⟩
  . rintro (rfl | ⟨hne, earlier, later, rfl, hlater⟩)
    . exact ⟨announced, [], rfl, List.forall_mem_nil _⟩
    . refine ⟨earlier, later ++ [last], ?_, ?_⟩
      . rw [List.append_assoc, List.cons_append]
      . rw [List.forall_mem_append, List.forall_mem_singleton]
        exact ⟨hlater, hne⟩

/-- What waits is the latest of what was announced, by slot. -/
def Waits (announced : List Reorg) (reorgs : Std.TreeMap Slot Reorg) : Prop :=
  ∀ slot reorg, reorgs[slot]? = some reorg ↔ reorg.slot = slot ∧ Latest announced reorg

theorem waits_empty : Waits [] ∅ := by
  intro slot reorg
  rw [Std.TreeMap.getElem?_emptyc]
  simp [Latest]

theorem Waits.insert {announced : List Reorg} {reorgs : Std.TreeMap Slot Reorg} (h : Waits announced reorgs)
    (last : Reorg) : Waits (announced ++ [last]) (reorgs.insert last.slot last) := by
  intro slot reorg
  rw [Std.TreeMap.getElem?_insert, latest_concat_iff]
  split
  . next heq =>
    rw [Std.compare_eq_iff_eq] at heq
    subst heq
    constructor
    . intro hlast
      cases hlast
      exact ⟨rfl, .inl rfl⟩
    . rintro ⟨hslot, rfl | ⟨hne, _⟩⟩
      . rfl
      . exact absurd hslot.symm hne
  . next hne =>
    rw [Std.compare_eq_iff_eq] at hne
    rw [h]
    constructor
    . rintro ⟨rfl, hlatest⟩
      exact ⟨rfl, .inr ⟨hne, hlatest⟩⟩
    . rintro ⟨rfl, rfl | ⟨_, hlatest⟩⟩
      . exact absurd rfl hne
      . exact ⟨rfl, hlatest⟩

theorem values_eq_map_snd {reorgs : Std.TreeMap Slot Reorg} : reorgs.values = reorgs.toList.map (·.2) := by
  have hvalues : reorgs.values = reorgs.foldr (fun _ reorg rest => reorg :: rest) [] := rfl
  rw [hvalues, Std.TreeMap.foldr_eq_foldr_toList, List.foldr_cons_eq_append, List.append_nil]

theorem Waits.mem_values_iff {announced : List Reorg} {reorgs : Std.TreeMap Slot Reorg} {reorg : Reorg}
    (h : Waits announced reorgs) : reorg ∈ reorgs.values ↔ Latest announced reorg := by
  rw [values_eq_map_snd, List.mem_map]
  simp only [Prod.exists, Std.TreeMap.mem_toList_iff_getElem?_eq_some, h _ _]
  simp

theorem pairwise_values {reorgs : Std.TreeMap Slot Reorg}
    (h : ∀ (slot : Slot) (reorg : Reorg), reorgs[slot]? = some reorg → reorg.slot = slot)
    : reorgs.values.Pairwise (·.slot < ·.slot) := by
  rw [values_eq_map_snd, List.pairwise_map]
  apply Std.TreeMap.ordered_keys_toList.imp_of_mem
  intro ⟨slot, reorg⟩ ⟨slot', reorg'⟩ hmem hmem' hlt
  rw [Std.TreeMap.mem_toList_iff_getElem?_eq_some] at hmem hmem'
  rw [Std.compare_eq_lt] at hlt
  rw [h slot reorg hmem, h slot' reorg' hmem']
  exact hlt

theorem Waits.pairwise_values {announced : List Reorg} {reorgs : Std.TreeMap Slot Reorg} (h : Waits announced reorgs)
    : reorgs.values.Pairwise (·.slot < ·.slot) :=
  Fork.pairwise_values fun slot reorg hreorg => ((h slot reorg).mp hreorg).1

/-- What can happen to the desk of a handler, in any order. -/
inductive Step (ω : Type) where
  | announce (reorg : Reorg)
  | replaceKeys (keys : OwnedKeys)
  | replaceRegistry (registry : Registry)
  /-- Others work in the world. -/
  | outside (change : ω → ω)
  | look (now : Instant) (head : Head)
  /-- A head has passed all handlers. -/
  | push (head : Head)

namespace Step

variable {ω : Type}

def isLook : Step ω → Bool
  | look .. => true
  | _ => false

def reorg? : Step ω → Option Reorg
  | announce reorg => some reorg
  | _ => none

def pushed? : Step ω → Option Head
  | push head => some head
  | _ => none

def take (outlets : Outlets ω) (settings : Settings) (desk : Desk Handler ω) : Step ω → Desk Handler ω
  | announce reorg => { desk with state := desk.state.insertReorg reorg }
  | replaceKeys keys => { desk with state := { desk.state with keys } }
  | replaceRegistry registry => { desk with state := { desk.state with registry } }
  | outside change => { desk with world := change desk.world }
  | look now head => ((Handler.handle outlets settings now head).run desk).2
  | push head => { desk with state := desk.state.pushHandled head }

def pushed (steps : List (Step ω)) : List Head := steps.filterMap pushed?

/-- The reorganisations announced after the last look. -/
def announced (steps : List (Step ω)) : List Reorg := (steps.rtakeWhile (!·.isLook)).filterMap reorg?

theorem announced_concat (steps : List (Step ω)) (step : Step ω) :
    announced (steps ++ [step]) = if step.isLook then [] else announced steps ++ step.reorg?.toList := by
  unfold announced
  rw [List.rtakeWhile_concat]
  by_cases hlook : step.isLook = true
  . simp [hlook]
  . cases step <;> simp [reorg?, isLook] at *

theorem pushed_concat (steps : List (Step ω)) (step : Step ω) :
    pushed (steps ++ [step]) = pushed steps ++ step.pushed?.toList := by
  unfold pushed
  rw [List.filterMap_append]
  cases step <;> rfl

attribute [simp] isLook reorg? pushed?

def run (outlets : Outlets ω) (settings : Settings) (steps : List (Step ω)) (desk : Desk Handler ω) : Desk Handler ω :=
  steps.foldl (take outlets settings) desk

end Step

variable {ω : Type}

theorem exists_run_handle (outlets : Outlets ω) (settings : Settings) (now : Instant) (head : Head) (sent : SentAlerts)
    (state : State) (world : ω) :
    ∃ result sent' world', (Handler.handle outlets settings now head).run ⟨.fork sent, state, world⟩
      = (result, ⟨.fork sent', state.drainReorgs.2, world'⟩) := by
  rw [run_handle]
  cases Fork.drafts settings state head with
  | error overflow => exact ⟨_, sent, world, rfl⟩
  | ok drafts => exact ⟨_, _, _, rfl⟩

/-- What the desk of the handler for forks holds after some steps. -/
structure Tracks (capacity : Nat) (steps : List (Step ω)) (desk : Desk Handler ω) : Prop where
  isFork : ∃ sent, desk.handler = .fork sent
  capacity_eq : desk.state.capacity = capacity
  handled_eq : desk.state.handled = (Step.pushed steps).rtake capacity
  waits : Waits (Step.announced steps) desk.state.reorgs

theorem tracks_empty (capacity : Nat) (sent : SentAlerts) (world : ω) :
    Tracks capacity [] ⟨.fork sent, .empty capacity, world⟩ where
  isFork := ⟨sent, rfl⟩
  capacity_eq := rfl
  handled_eq := (List.rtake_nil ..).symm
  waits := waits_empty

theorem Tracks.take {capacity : Nat} {steps : List (Step ω)} {desk : Desk Handler ω} (h : Tracks capacity steps desk)
    (outlets : Outlets ω) (settings : Settings) (step : Step ω)
    : Tracks capacity (steps ++ [step]) (step.take outlets settings desk) := by
  have hpushed := Step.pushed_concat steps step
  have hannounced := Step.announced_concat steps step
  cases step with
  | announce reorg =>
    simp at hpushed hannounced
    refine ⟨h.isFork, h.capacity_eq, ?_, ?_⟩
    . rw [hpushed]
      exact h.handled_eq
    . rw [hannounced]
      exact h.waits.insert reorg
  | replaceKeys | replaceRegistry | outside =>
    simp at hpushed hannounced
    refine ⟨h.isFork, h.capacity_eq, ?_, ?_⟩
    . rw [hpushed]
      exact h.handled_eq
    . rw [hannounced]
      exact h.waits
  | look now head =>
    rcases desk with ⟨handler, state, world⟩
    obtain ⟨sent, rfl⟩ := h.isFork
    have ⟨result, sent', world', hrun⟩ := exists_run_handle outlets settings now head sent state world
    simp at hpushed hannounced
    rw [Step.take, hrun]
    refine ⟨⟨sent', rfl⟩, h.capacity_eq, ?_, ?_⟩
    . rw [hpushed]
      exact h.handled_eq
    . rw [hannounced]
      exact waits_empty
  | push head =>
    simp at hpushed hannounced
    refine ⟨h.isFork, h.capacity_eq, ?_, ?_⟩
    . -- A head that the window has dropped is not among the last ones of the longer list either.
      rw [hpushed, Step.take, State.pushHandled, h.handled_eq, h.capacity_eq]
      exact SentAlerts.drop_append_singleton ..
    . rw [hannounced]
      exact h.waits

theorem tracks_run (outlets : Outlets ω) (settings : Settings) (capacity : Nat) (sent : SentAlerts) (world : ω)
    (steps : List (Step ω)) :
    Tracks capacity steps (Step.run outlets settings steps ⟨.fork sent, .empty capacity, world⟩) := by
  induction steps using List.reverseRecOn with
  | nil => exact tracks_empty capacity sent world
  | append_singleton steps step ih =>
    unfold Step.run
    rw [List.foldl_append]
    exact ih.take outlets settings step

/-- The heads that count as known when a head is looked at: the last ones that passed all handlers, and itself. -/
def knownHeads (capacity : Nat) (steps : List (Step ω)) (head : Head) : List Head :=
  (Step.pushed steps).rtake capacity ++ [head]

/-- The reorganisations and, at most, the head itself that alerts are about. -/
structure Found (settings : Settings) (capacity : Nat) (steps : List (Step ω)) (head : Head) (reorgs : List Reorg)
    (heads : List Draft) : Prop where
  ascending : reorgs.Pairwise (·.slot < ·.slot)
  mem_reorgs_iff : ∀ reorg,
    reorg ∈ reorgs ↔ Latest (Step.announced steps) reorg ∧ Unlinked (knownHeads capacity steps head) reorg
  heads_cases : heads = [] ∨ ∃ last ∈ (Step.pushed steps).getLast?,
    heads = [headDraft settings head (Word.monus head.slot (last.slot + 1))]
  heads_ne_nil_iff : heads ≠ []
    ↔ reorgs = [] ∧ Step.pushed steps ≠ [] ∧ Unknown (knownHeads capacity steps head) head.parentRoot

theorem missingSlots_of_lt {last slot : Slot} (h : last.toNat + 1 < UInt64.size)
    : missingSlots last slot = .ok (Word.monus slot (last + 1)) := by
  unfold missingSlots Word.add
  rw [UInt64.toNat_one, if_pos h]
  rfl

theorem exists_headDrafts (settings : Settings) {handled : List Head} (head : Head)
    (hslot : ∀ last ∈ handled.getLast?, last.slot.toNat + 1 < UInt64.size)
    : ∃ heads, headDrafts settings handled head = .ok heads
      ∧ (heads = [] ∨ ∃ last ∈ handled.getLast?,
        heads = [headDraft settings head (Word.monus head.slot (last.slot + 1))])
      ∧ (heads ≠ [] ↔ handled ≠ [] ∧ Unknown (handled ++ [head]) head.parentRoot) := by
  unfold headDrafts
  cases hlast : handled.getLast? with
  | none =>
    rw [List.getLast?_eq_none_iff] at hlast
    exact ⟨[], rfl, .inl rfl, iff_of_false (absurd rfl) fun h => h.1 hlast⟩
  | some last =>
    have hhandled : handled ≠ [] := by
      rintro rfl
      cases hlast
    dsimp only
    split
    . next hknown =>
      refine ⟨[], rfl, .inl rfl, iff_of_false (absurd rfl) ?_⟩
      intro ⟨_, hunknown⟩
      rw [known?_eq_none_iff.mpr hunknown] at hknown
      cases hknown
    . next hknown =>
      rw [Bool.not_eq_true, Option.isSome_eq_false_iff, Option.isNone_iff_eq_none, known?_eq_none_iff] at hknown
      rw [missingSlots_of_lt (hslot last hlast)]
      exact ⟨_, rfl, .inr ⟨last, rfl, rfl⟩, iff_of_true nofun ⟨hhandled, hknown⟩⟩

theorem Tracks.exists_drafts {capacity : Nat} {steps : List (Step ω)} {desk : Desk Handler ω}
    (h : Tracks capacity steps desk) (settings : Settings) (head : Head) (hcapacity : 1 ≤ capacity)
    (hslots : ∀ earlier ∈ Step.pushed steps, earlier.slot.toNat + 1 < UInt64.size)
    : ∃ reorgs heads, Fork.drafts settings desk.state head = .ok (reorgs.map (reorgDraft settings) ++ heads)
      ∧ Found settings capacity steps head reorgs heads := by
  have hlast : desk.state.handled.getLast? = (Step.pushed steps).getLast? := by
    rw [h.handled_eq, getLast?_rtake hcapacity]
  have hknown : desk.state.handled ++ [head] = knownHeads capacity steps head := by
    rw [h.handled_eq]
    rfl
  have hascending : (unlinked desk.state head).Pairwise (·.slot < ·.slot) := h.waits.pairwise_values.filter _
  have hmem : ∀ reorg, reorg ∈ unlinked desk.state head
      ↔ Latest (Step.announced steps) reorg ∧ Unlinked (knownHeads capacity steps head) reorg := by
    intro reorg
    have hvalues : reorg ∈ desk.state.drainReorgs.1 ↔ Latest (Step.announced steps) reorg := h.waits.mem_values_iff
    rw [unlinked, List.mem_filter, hvalues, hknown, unlinked_iff, Bool.not_eq_true']
  have hslot : ∀ last ∈ desk.state.handled.getLast?, last.slot.toNat + 1 < UInt64.size := by
    intro last hmem
    rw [hlast] at hmem
    exact hslots last (List.mem_of_getLast? hmem)
  have hhandled : desk.state.handled ≠ [] ↔ Step.pushed steps ≠ [] := by
    rw [ne_eq, ne_eq, ← List.getLast?_eq_none_iff, hlast, List.getLast?_eq_none_iff]
  have ⟨heads, hheads, hcases, hne⟩ := exists_headDrafts settings head hslot
  rw [hlast] at hcases
  rw [hhandled, hknown] at hne
  -- The head counts only if no reorganisation does.
  by_cases hnil : unlinked desk.state head = []
  . rw [hnil] at hmem
    rw [drafts_of_unlinked_eq_nil hnil, hheads]
    refine ⟨[], heads, rfl, .nil, hmem, hcases, ?_⟩
    rw [hne, eq_self, true_and]
  . rw [drafts_of_unlinked_ne_nil hnil]
    refine ⟨_, [], ?_, hascending, hmem, .inl rfl, iff_of_false (absurd rfl) ?_⟩
    . rw [List.append_nil]
    . exact fun h => hnil h.1

/--
After any run, a look at a head sends alerts about the reorganisations announced since the last look that are not linked
to the last heads that passed all handlers, by slot, or if there is none, about the head itself if it is not linked.
Nothing waits then.
-/
theorem found_handle (outlets : Outlets ω) (settings : Settings) (capacity : Nat) (sent : SentAlerts) (world : ω)
    (steps : List (Step ω)) (now : Instant) (head : Head) (hcapacity : 1 ≤ capacity)
    (haccepts : ∀ alerts world, ((outlets.sink.deliver alerts).run world).1 = .ok ())
    (hslots : ∀ earlier ∈ Step.pushed steps, earlier.slot.toNat + 1 < UInt64.size)
    : let desk := Step.run outlets settings steps ⟨.fork sent, .empty capacity, world⟩
      ∃ reorgs heads before after world', Found settings capacity steps head reorgs heads
        ∧ desk.handler = .fork before
        ∧ (SentAlerts.sendEach outlets.sink ((reorgs.map (reorgDraft settings) ++ heads).map (·.alert now))).run
          (before, desk.world) = (.ok (), after, world')
        ∧ (Handler.handle outlets settings now head).run desk
          = (.ok (), ⟨.fork after, { desk.state with reorgs := ∅ }, world'⟩) := by
  intro desk
  have htracks : Tracks capacity steps desk := tracks_run outlets settings capacity sent world steps
  have ⟨reorgs, heads, hdrafts, hfound⟩ := htracks.exists_drafts settings head hcapacity hslots
  obtain ⟨before, hfork⟩ := htracks.isFork
  have ⟨after, world', hsend⟩ := SentAlerts.exists_sendEach haccepts
    ((reorgs.map (reorgDraft settings) ++ heads).map (·.alert now)) before desk.world
  refine ⟨reorgs, heads, before, after, world', hfound, hfork, hsend, ?_⟩
  generalize desk = desk at *
  rcases desk with ⟨handler, state, world''⟩
  cases hfork
  rw [run_handle, hdrafts]
  dsimp only
  unfold Handler.deliver deliverDrafts
  rw [Action.run_mapError, hsend]
  rfl

namespace Evicted

def outlets : Outlets (List Alert) := ⟨none, ⟨fun alerts => .modify (· ++ alerts)⟩⟩

def settings : Settings := ⟨⟨"mainnet"⟩, ∅, []⟩

def head (slot : Slot) (root parentRoot : String) : Head :=
  ⟨⟨root, true, ⟨slot, 1, parentRoot, "0x03"⟩⟩, ⟨slot, parentRoot, ⟨none, [], [], [], none⟩⟩⟩

def reorg : Reorg := ⟨11, 1, "0x10", "0x0b"⟩

/-- The parent of the head of slot 11 leaves the window between two announcements of the same reorganisation. -/
def steps : List (Step (List Alert)) := [
  .push (head 10 "0x0a" "0x09"), .push (head 11 "0x0b" "0x0a"), .announce reorg,
  .look ⟨0, 0⟩ (head 12 "0x0c" "0x0b"), .push (head 12 "0x0c" "0x0b"),
  .announce ⟨12, 1, "0x10", "0x20"⟩, .announce reorg, .announce ⟨12, 1, "0x10", "0x0c"⟩]

def desk : Desk Handler (List Alert) := Step.run outlets settings steps ⟨.fork (.empty 10), .empty 2, []⟩

/-- It was linked when it was announced first, but it is not when it is announced again. -/
theorem found_evicted :
    desk.world = [] ∧ ∃ reorgs heads after, Found settings 2 steps (head 13 "0x0d" "0x0c") reorgs heads
      ∧ reorg ∈ reorgs ∧ heads = []
      ∧ (Handler.handle outlets settings ⟨12, 0⟩ (head 13 "0x0d" "0x0c")).run desk = (.ok (), after)
      ∧ after.world.map (·.kindName) = ["UnhandledChainReorg"] := by
  have ⟨reorgs, heads, before, after, world, hfound, _, _, hrun⟩ :=
    found_handle outlets settings 2 (.empty 10) [] steps ⟨12, 0⟩ (head 13 "0x0d" "0x0c") (by decide)
      (fun _ _ => rfl) (by decide)
  have hmem : reorg ∈ reorgs := by
    rw [hfound.mem_reorgs_iff]
    exact ⟨⟨[⟨12, 1, "0x10", "0x20"⟩], [⟨12, 1, "0x10", "0x0c"⟩], rfl, by decide⟩, by decide⟩
  have hheads : heads = [] := by
    by_contra hne
    rw [(hfound.heads_ne_nil_iff.mp hne).1] at hmem
    cases hmem
  refine ⟨by decide +kernel, reorgs, heads, _, hfound, hmem, hheads, hrun, ?_⟩
  have hnames : ((Handler.handle outlets settings ⟨12, 0⟩ (head 13 "0x0d" "0x0c")).run desk).2.world.map (·.kindName)
      = ["UnhandledChainReorg"] := by
    decide +kernel
  unfold desk at hnames
  rw [hrun] at hnames
  exact hnames

end Evicted
end Fork
end Watch
end BeaconSentry
