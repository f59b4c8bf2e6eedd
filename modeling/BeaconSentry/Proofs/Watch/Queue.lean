import BeaconSentry.Proofs.EventStream.Chunks
import BeaconSentry.Proofs.Watch.Lineage
import BeaconSentry.Watch.Refresh

/-!
This module contains where waiting reorganisations come from and where they go: none is lost, none is looked at twice.
-/

namespace BeaconSentry
namespace Watch

open Beacon

/-- What listeners and handlers do to the waiting reorganisations. -/
inductive QueueStep where
  | insert (reorg : Reorg)
  | drain
  deriving Repr, DecidableEq

namespace QueueStep

def take (state : State) : QueueStep → State
  | insert reorg => state.insertReorg reorg
  | drain => state.drainReorgs.2

/-- What is known after a history that begins when nothing waits. -/
def after (state : State) (history : List QueueStep) : State := history.foldl take { state with reorgs := ∅ }

/-- What a drain returns after some steps of a history. -/
def waiting (state : State) (history : List QueueStep) (time : Nat) : List Reorg :=
  (after state (history.take time)).drainReorgs.1

/-- No reorganisation of a slot waits on after a step. -/
def Clears (slot : Slot) : QueueStep → Prop
  | insert reorg => reorg.slot = slot
  | drain => True

/-- The insertion at a position is the last one of its slot, and no drain follows it. -/
structure Waits (history : List QueueStep) (position : Nat) (reorg : Reorg) : Prop where
  inserted : history[position]? = some (.insert reorg)
  kept : ∀ step ∈ history.drop (position + 1), ¬step.Clears reorg.slot

variable {history : List QueueStep} {position time : Nat} {reorg : Reorg}

theorem Waits.lt_length (h : Waits history position reorg) : position < history.length :=
  (List.getElem?_eq_some_iff.mp h.inserted).1

theorem drop_concat (h : position < history.length) (step : QueueStep)
    : (history ++ [step]).drop (position + 1) = history.drop (position + 1) ++ [step] :=
  List.drop_append_of_le_length h

theorem waits_concat_iff {step : QueueStep}
    : Waits (history ++ [step]) position reorg
        ↔ position = history.length ∧ step = .insert reorg
          ∨ Waits history position reorg ∧ ¬step.Clears reorg.slot := by
  constructor
  . intro h
    have hlt := h.lt_length
    rw [List.length_append, List.length_singleton, Nat.lt_succ_iff_lt_or_eq] at hlt
    rcases hlt with hlt | rfl
    . have hkept := h.kept
      rw [drop_concat hlt, List.forall_mem_append, List.forall_mem_singleton] at hkept
      have hinserted := h.inserted
      rw [List.getElem?_append_left hlt] at hinserted
      exact .inr ⟨⟨hinserted, hkept.1⟩, hkept.2⟩
    . have hinserted := h.inserted
      rw [List.getElem?_concat_length, Option.some.injEq] at hinserted
      exact .inl ⟨rfl, hinserted⟩
  . rintro (⟨rfl, rfl⟩ | ⟨h, hclears⟩)
    . refine ⟨List.getElem?_concat_length, ?_⟩
      rw [List.drop_eq_nil_of_le (by simp)]
      exact List.forall_mem_nil _
    . refine ⟨?_, ?_⟩
      . rw [List.getElem?_append_left h.lt_length, h.inserted]
      . rw [drop_concat h.lt_length, List.forall_mem_append, List.forall_mem_singleton]
        exact ⟨h.kept, hclears⟩

theorem mem_drop_of_lt {later : Nat} {step : QueueStep} (hlt : position < later) (h : history[later]? = some step)
    : step ∈ history.drop (position + 1) := by
  have hdrop : (history.drop (position + 1))[later - (position + 1)]? = some step := by
    rw [List.getElem?_drop, ← h]
    have hlater : position + 1 + (later - (position + 1)) = later := by omega
    rw [hlater]
  exact List.mem_of_getElem? hdrop

/-- Of the insertions of a slot only one waits. -/
theorem Waits.position_eq {position' : Nat} {reorg' : Reorg} (h : Waits history position reorg)
    (h' : Waits history position' reorg') (hslot : reorg.slot = reorg'.slot) : position = position' := by
  rcases Nat.lt_trichotomy position position' with hlt | heq | hgt
  . exact absurd hslot.symm (h.kept _ (mem_drop_of_lt hlt h'.inserted))
  . exact heq
  . exact absurd hslot (h'.kept _ (mem_drop_of_lt hgt h.inserted))

theorem after_append (state : State) (history steps : List QueueStep)
    : after state (history ++ steps) = steps.foldl take (after state history) :=
  List.foldl_append

theorem after_concat (state : State) (history : List QueueStep) (step : QueueStep)
    : after state (history ++ [step]) = step.take (after state history) := by
  rw [after_append]
  rfl

theorem getElem?_after_iff (state : State) {slot : Slot}
    : (after state history).reorgs[slot]? = some reorg
        ↔ reorg.slot = slot ∧ ∃ position, Waits history position reorg := by
  induction history using List.reverseRecOn with
  | nil =>
    have hnone : (after state []).reorgs[slot]? = none := Std.TreeMap.getElem?_emptyc
    rw [hnone]
    constructor
    . exact nofun
    . intro ⟨_, position, h⟩
      cases h.inserted
  | append_singleton history step ih =>
    rw [after_concat]
    simp only [waits_concat_iff]
    cases step with
    | drain =>
      have hnone : (take (after state history) .drain).reorgs[slot]? = none := Std.TreeMap.getElem?_emptyc
      rw [hnone]
      simp [Clears]
    | insert last =>
      show ((after state history).reorgs.insert last.slot last)[slot]? = some reorg ↔ _
      rw [Std.TreeMap.getElem?_insert]
      split
      . next heq =>
        rw [Std.compare_eq_iff_eq] at heq
        subst heq
        constructor
        . intro hlast
          cases hlast
          exact ⟨rfl, history.length, .inl ⟨rfl, rfl⟩⟩
        . rintro ⟨hslot, _, ⟨_, hlast⟩ | ⟨_, hclears⟩⟩
          . cases hlast
            rfl
          . exact absurd hslot.symm hclears
      . next hne =>
        rw [Std.compare_eq_iff_eq] at hne
        rw [ih]
        constructor
        . rintro ⟨rfl, position, h⟩
          exact ⟨rfl, position, .inr ⟨h, hne⟩⟩
        . rintro ⟨rfl, position, ⟨_, hlast⟩ | ⟨h, _⟩⟩
          . cases hlast
            exact absurd rfl hne
          . exact ⟨rfl, position, h⟩

theorem mem_waiting_iff {state : State}
    : reorg ∈ waiting state history time ↔ ∃ position, Waits (history.take time) position reorg := by
  unfold waiting State.drainReorgs
  rw [Fork.values_eq_map_snd, List.mem_map]
  simp only [Prod.exists, Std.TreeMap.mem_toList_iff_getElem?_eq_some, getElem?_after_iff]
  simp

theorem pairwise_waiting (state : State) (history : List QueueStep) (time : Nat)
    : (waiting state history time).Pairwise (·.slot < ·.slot) :=
  Fork.pairwise_values fun _ _ h => ((getElem?_after_iff state).mp h).1

theorem Waits.reorg_eq {reorg' : Reorg} (h : Waits history position reorg) (h' : Waits history position reorg')
    : reorg = reorg' := by
  have heq := h.inserted.symm.trans h'.inserted
  rw [Option.some.injEq, insert.injEq] at heq
  exact heq

theorem exists_origins (state : State) (history : List QueueStep) (time : Nat)
    : ∃ origins : List Nat, List.Forall₂ (Waits (history.take time)) origins (waiting state history time)
        ∧ origins.Nodup
        ∧ ∀ position, position ∈ origins ↔ ∃ reorg, Waits (history.take time) position reorg := by
  have hwaiting : ∀ reorg ∈ waiting state history time, ∃ position, Waits (history.take time) position reorg :=
    fun _ => mem_waiting_iff.mp
  choose! origin horigin using hwaiting
  refine ⟨(waiting state history time).map origin, ?_, ?_, ?_⟩
  . rw [List.forall₂_map_left_iff, List.forall₂_same]
    exact horigin
  . rw [List.Nodup, List.pairwise_map]
    apply (pairwise_waiting state history time).imp_of_mem
    intro reorg reorg' hmem hmem' hlt heq
    have h := horigin reorg hmem
    rw [heq] at h
    rw [h.reorg_eq (horigin reorg' hmem')] at hlt
    exact UInt64.lt_irrefl _ hlt
  . intro position
    rw [List.mem_map]
    constructor
    . rintro ⟨reorg, hmem, rfl⟩
      exact ⟨reorg, horigin reorg hmem⟩
    . intro ⟨reorg, h⟩
      have hmem : reorg ∈ waiting state history time := mem_waiting_iff.mpr ⟨position, h⟩
      exact ⟨reorg, hmem, (horigin reorg hmem).position_eq h rfl⟩

/--
The positions of the insertions that what waits at some time of a history comes from: each one is returned by one
drain at most, and it is returned by the next drain unless another insertion of its slot comes in between.
-/
structure Ledger (state : State) (history : List QueueStep) (origins : Nat → List Nat) : Prop where
  inserted : ∀ time, List.Forall₂ (fun position reorg => position < time ∧ history[position]? = some (.insert reorg))
    (origins time) (waiting state history time)
  ascending : ∀ time, (waiting state history time).Pairwise (·.slot < ·.slot)
  nodup : ∀ time, (origins time).Nodup
  emptied : ∀ time, history[time]? = some .drain → (after state (history.take (time + 1))).reorgs = ∅
  once : ∀ position time time', history[time]? = some .drain → history[time']? = some .drain →
    position ∈ origins time → position ∈ origins time' → time = time'
  /-- Up to the next drain, and up to the end if none is left, an insertion waits unless another one replaces it. -/
  accounted : ∀ position reorg time, history[position]? = some (.insert reorg) →
    position < time → .drain ∉ (history.take time).drop (position + 1) →
      (position ∈ origins time
        ↔ ∀ other, .insert other ∈ (history.take time).drop (position + 1) → other.slot ≠ reorg.slot)

/-- What waits after some steps stands in the history, and nothing that follows it there clears its slot. -/
theorem waits_take_iff
    : Waits (history.take time) position reorg
        ↔ position < time ∧ history[position]? = some (.insert reorg)
          ∧ ∀ step ∈ (history.take time).drop (position + 1), ¬step.Clears reorg.slot := by
  constructor
  . intro h
    have hinserted := h.inserted
    rw [List.getElem?_take] at hinserted
    split at hinserted
    . next hlt => exact ⟨hlt, hinserted, h.kept⟩
    . cases hinserted
  . intro ⟨hlt, hinserted, hkept⟩
    refine ⟨?_, hkept⟩
    rw [List.getElem?_take_of_lt hlt, hinserted]

theorem exists_ledger (state : State) (history : List QueueStep) : ∃ origins, Ledger state history origins := by
  choose origins horigins hnodup hmem using exists_origins state history
  -- A drain clears what waits before it, so that nothing waits before two of them.
  have hbetween : ∀ position time time', history[time]? = some .drain → position ∈ origins time →
      position ∈ origins time' → time' ≤ time := by
    intro position time time' hdrain hposition hposition'
    rw [hmem] at hposition hposition'
    obtain ⟨reorg, h⟩ := hposition
    obtain ⟨reorg', h'⟩ := hposition'
    by_contra hlt
    rw [Nat.not_le] at hlt
    have htaken : (history.take time')[time]? = some .drain := by
      rw [List.getElem?_take_of_lt hlt, hdrain]
    exact h'.kept .drain (mem_drop_of_lt (waits_take_iff.mp h).1 htaken) trivial
  refine ⟨origins, ?_, pairwise_waiting state history, hnodup, ?_, ?_, ?_⟩
  . intro time
    apply (horigins time).imp
    intro position reorg h
    have ⟨hlt, hinserted, _⟩ := waits_take_iff.mp h
    exact ⟨hlt, hinserted⟩
  . intro time hdrain
    rw [List.take_add_one, hdrain, Option.toList_some, after_concat]
    rfl
  . intro position time time' hdrain hdrain' h h'
    exact Nat.le_antisymm (hbetween position time' time hdrain' h' h) (hbetween position time time' hdrain h h')
  . intro position reorg time hinserted hlt hnodrain
    rw [hmem]
    constructor
    . intro ⟨reorg', h⟩ other hother
      have hsame := hinserted.symm.trans (waits_take_iff.mp h).2.1
      rw [Option.some.injEq, insert.injEq] at hsame
      rw [hsame]
      exact h.kept (.insert other) hother
    . intro hnone
      refine ⟨reorg, waits_take_iff.mpr ⟨hlt, hinserted, ?_⟩⟩
      intro step hstep
      cases step with
      | insert other => exact hnone other hstep
      | drain => exact absurd hstep hnodrain

end QueueStep

def announces (event : ServerEvent) : Bool := event.event == "chain_reorg"

/-- What a listener takes from events: what those say that announce a reorganisation, up to the first unreadable one. -/
def Heard (events : List ServerEvent) (reorgs : List Reorg) : Prop :=
  ∃ read rest, events.filter announces = read ++ rest
    ∧ List.Forall₂ (fun event reorg => Json.decode? Reorg.decode event.data = some reorg) read reorgs
    ∧ ∀ event ∈ rest.head?, Json.decode? Reorg.decode event.data = none

theorem exists_heard (events : List ServerEvent) {broken : List (Except Net.ProviderError Reorg)}
    (hbroken : ∀ state, Watcher.takeReorgs state broken = state)
    : ∃ reorgs, Heard events reorgs ∧ ∀ state,
        Watcher.takeReorgs state (events.filterMap Client.reorg? ++ broken) = reorgs.foldl .insertReorg state := by
  induction events with
  | nil => exact ⟨[], ⟨[], [], rfl, .nil, nofun⟩, hbroken⟩
  | cons event events ih =>
    obtain ⟨reorgs, ⟨read, rest, hevents, hread, hrest⟩, htake⟩ := ih
    by_cases hname : (event.event == "chain_reorg") = true
    . cases hdecode : Json.decode? Reorg.decode event.data with
      | none =>
        have hreorg : Client.reorg? event = some (.error (.undecodable Client.eventsPath)) := by
          rw [Client.reorg?, if_pos hname, hdecode]
        refine ⟨[], ⟨[], event :: events.filter announces, ?_, .nil, ?_⟩, ?_⟩
        . rw [List.filter_cons_of_pos (p := announces) hname, List.nil_append]
        . rintro _ ⟨⟩
          exact hdecode
        . intro state
          rw [List.filterMap_cons_some hreorg]
          rfl
      | some reorg =>
        have hreorg : Client.reorg? event = some (.ok reorg) := by
          rw [Client.reorg?, if_pos hname, hdecode]
        refine ⟨reorg :: reorgs, ⟨event :: read, rest, ?_, .cons hdecode hread, hrest⟩, ?_⟩
        . rw [List.filter_cons_of_pos (p := announces) hname, hevents, List.cons_append]
        . intro state
          rw [List.filterMap_cons_some hreorg]
          exact htake (state.insertReorg reorg)
    . have hreorg : Client.reorg? event = none := by
        rw [Client.reorg?, if_neg hname]
      refine ⟨reorgs, ⟨read, rest, ?_, hread, hrest⟩, ?_⟩
      . rw [List.filter_cons_of_neg (p := announces) hname, hevents]
      . rw [List.filterMap_cons_none hreorg]
        exact htake

theorem flatten_feedAll {stream : EventStream} (h : 10 ∉ stream.pending) (chunks : List (List UInt8))
    : (stream.feedAll chunks).flatten = (stream.feed chunks.flatten).2 := by
  induction chunks generalizing stream with
  | nil =>
    rw [List.flatten_nil, EventStream.feed_nil h]
    rfl
  | cons chunk rest ih =>
    rw [List.flatten_cons, EventStream.feed_append]
    dsimp only
    rw [← ih (stream.lineFeed_not_mem_feed chunk)]
    rfl

/--
In any history each insertion is returned by one drain at most, namely by the next one, unless another insertion of its
slot comes in between. A listener inserts what it hears in the chunks of a stream, which may break off, one by one.
-/
theorem reorgs_accounted :
    (∀ state history, ∃ origins, QueueStep.Ledger state history origins)
      ∧ ∀ status chunks complete, ∃ reorgs, Heard (EventStream.start.feedAll chunks).flatten reorgs
        ∧ ∀ state history,
          Watcher.takeReorgs (QueueStep.after state history) (Client.readReorgs ⟨status, chunks.flatten, complete⟩)
            = QueueStep.after state (history ++ reorgs.map .insert) := by
  refine ⟨QueueStep.exists_ledger, ?_⟩
  intro status chunks complete
  have hbroken (state : State) : Watcher.takeReorgs state
      (if complete then [] else [.error (.transport Client.eventsPath .body)] : List (Except Net.ProviderError Reorg))
        = state := by
    cases complete <;> rfl
  have ⟨reorgs, hheard, htake⟩ := exists_heard (EventStream.start.feedAll chunks).flatten hbroken
  refine ⟨reorgs, hheard, ?_⟩
  intro state history
  rw [flatten_feedAll List.not_mem_nil] at htake
  have hlistened := htake (QueueStep.after state history)
  rw [QueueStep.after_append, List.foldl_map]
  exact hlistened

end Watch
end BeaconSentry
