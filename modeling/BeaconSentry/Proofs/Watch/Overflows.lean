import BeaconSentry.Proofs.Watch.Due
import BeaconSentry.Proofs.Watch.Forks
import BeaconSentry.Proofs.Watch.Lineage
import BeaconSentry.Proofs.Watch.Looks
import BeaconSentry.Proofs.Watch.Order

/-!
This module contains when a number leaves its range in a cycle of the watcher, which ends the watcher. There are three
ways: the age of a head, the count of the slots after the last head, and the block after the last scan.
-/

namespace BeaconSentry

/-- Some work ended since a number left its range. -/
def Overflowed {α : Type} (result : Except Failure α) : Prop := ∃ overflow, result = .error (.overflow overflow)

theorem overflowed_error_iff {α : Type} {failure : Failure}
    : Overflowed (.error failure : Except _ α) ↔ ∃ overflow, failure = .overflow overflow := by
  simp [Overflowed]

@[simp]
theorem overflowed_overflow {α : Type} (overflow : Overflow) : Overflowed (.error (.overflow overflow) : Except _ α) :=
  ⟨overflow, rfl⟩

@[simp]
theorem not_overflowed_report {α : Type} (report : Report) : ¬Overflowed (.error (.report report) : Except _ α) := nofun

@[simp]
theorem not_overflowed_ok {α : Type} (value : α) : ¬Overflowed (.ok value) := nofun

theorem overflowed_map_iff {α β : Type} {result : Except Failure α} {f : α → β}
    : Overflowed (result.map f) ↔ Overflowed result := by
  rcases result with (_ | _) | _ <;> simp [Except.map]

theorem Word.exists_add_eq_error_iff {a b : UInt64}
    : (∃ overflow, add a b = .error overflow) ↔ UInt64.size ≤ a.toNat + b.toNat := by
  constructor
  . intro ⟨overflow, h⟩
    exact size_le_of_add h
  . intro h
    refine ⟨.addition, ?_⟩
    rw [add, if_neg (Nat.not_lt.mpr h)]

theorem Slot.exists_isStale_eq_error_iff {genesis slot now : UInt64}
    : (∃ overflow, isStale genesis slot now = .error overflow)
        ↔ UInt64.size ≤ genesis.toNat + slot.toNat * seconds.toNat := by
  unfold isStale startTime
  cases hmul : Word.mul slot seconds with
  | error overflow =>
    refine iff_of_true ⟨overflow, rfl⟩ ?_
    unfold Word.mul at hmul
    split at hmul
    . cases hmul
    . omega
  | ok elapsed =>
    rw [← Word.toNat_of_mul hmul, ← Word.exists_add_eq_error_iff]
    dsimp only [bind, Except.bind]
    cases Word.add genesis elapsed <;> simp [pure, Except.pure]

namespace Exit.ExitCache

open Beacon

variable {ω : Type} {oracle : ExitOracle ω} {block oldest : BlockNumber} {cache : ExitCache}

theorem exists_scanStart_eq_error_iff : (∃ overflow, cache.scanStart oldest = .error overflow) ↔ ¬cache.CanScan := by
  unfold scanStart CanScan
  cases cache.lastScanned with
  | none => simp
  | some scanned =>
    have hnext := @Word.exists_add_eq_error_iff scanned 1
    rw [UInt64.toNat_one, ← Nat.not_lt] at hnext
    simp only [Option.some.injEq, forall_eq', ← hnext]
    cases Word.add scanned 1 <;> simp [Except.map]

/-- A refresh asks for the block after the last scan only if the oracle counts more requests than it did then. -/
theorem overflowed_refresh_iff {world : ω}
    : Overflowed ((refresh oracle block).run (cache, world)).1
        ↔ (∃ total after, (oracle.total block).run world = (.ok total, after) ∧ cache.lastTotal < total)
          ∧ ¬cache.CanScan := by
  rw [← @exists_scanStart_eq_error_iff (Word.monus block cache.lookback), refresh, Action.run_bind]
  generalize htotal : (oracle.total block).run world = answer
  rcases answer with ⟨report | total, after⟩
  . simp [ask, htotal]
  . simp only [ask, Action.run_beside, Action.run_mapError, htotal, mapError_ok, Action.run_bind, Action.run_inspect]
    split
    . next hle => simp [hle]
    . next hgt =>
      have hlt : cache.lastTotal < total := UInt64.not_le.mp hgt
      cases hstart : cache.scanStart (Word.monus block cache.lookback) with
      | error overflow =>
        simp only [Action.run_bind, Action.run_ofExcept, mapError_error]
        simp [hlt]
      | ok first =>
        simp only [Action.run_bind, Action.run_ofExcept, mapError_ok]
        split
        . generalize hfound : (oracle.requests first block).run after = found
          rcases found with ⟨_ | _, _⟩ <;> simp [Action.run_bind, hfound]
        . simp [Action.run_bind]

end Exit.ExitCache

namespace Watch

open Beacon Exit

theorem Fork.exists_drafts_eq_error_iff {settings : Settings} {state : State} {head : Head}
    : (∃ overflow, Fork.drafts settings state head = .error overflow)
        ↔ (∀ reorg ∈ state.reorgs.values, ¬Unlinked (state.handled ++ [head]) reorg)
          ∧ Unknown (state.handled ++ [head]) head.parentRoot
          ∧ ∃ last ∈ state.handled.getLast?, UInt64.size ≤ last.slot.toNat + 1 := by
  have hunlinked : unlinked state head = []
      ↔ ∀ reorg ∈ state.reorgs.values, ¬Unlinked (state.handled ++ [head]) reorg := by
    simp [unlinked, State.drainReorgs, unlinked_iff]
  rw [← hunlinked, ← known?_eq_none_iff]
  by_cases hnil : unlinked state head = []
  . rw [drafts_of_unlinked_eq_nil hnil, headDrafts, and_iff_right hnil]
    cases state.handled.getLast? with
    | none => simp
    | some last =>
      dsimp only
      cases hparent : known? (state.handled ++ [head]) head.parentRoot with
      | some parent => simp
      | none =>
        have hnext := @Word.exists_add_eq_error_iff last.slot 1
        rw [UInt64.toNat_one] at hnext
        simp only [missingSlots, Option.isSome_none, Bool.false_eq_true, ↓reduceIte, true_and, Option.mem_def,
          Option.some.injEq, exists_eq_left', ← hnext]
        cases Word.add last.slot 1 <;> simp [Except.map]
  . rw [drafts_of_unlinked_ne_nil hnil]
    simp [hnil]

variable {ω : Type}

/-- A handler for forks counts the slots after the last one of all, or one for exits scans after the last block. -/
inductive Desk.Overflows (outlets : Outlets ω) (head : Head) : Desk Handler ω → Prop
  | missing {sent : SentAlerts} {state : State} {world : ω} {last : Head}
      (hlinked : ∀ reorg ∈ state.reorgs.values, ¬Fork.Unlinked (state.handled ++ [head]) reorg)
      (hparent : Fork.Unknown (state.handled ++ [head]) head.parentRoot)
      (hlast : last ∈ state.handled.getLast?) (hslot : UInt64.size ≤ last.slot.toNat + 1) :
    Overflows outlets head ⟨.fork sent, state, world⟩
  | scan {watch : ExitWatch} {state : State} {world after : ω} {oracle : ExitOracle ω} {block : BlockNumber}
      {total : UInt64} {scanned : BlockNumber} (horacle : outlets.oracle = some oracle)
      (hblock : head.blockNumber = some block) (howned : ExitWatch.owned watch.disabledModules state head ≠ [])
      (htotal : (oracle.total block).run world = (.ok total, after)) (hlt : watch.requests.lastTotal < total)
      (hscanned : watch.requests.lastScanned = some scanned) (hnext : UInt64.size ≤ scanned.toNat + 1) :
    Overflows outlets head ⟨.exit watch, state, world⟩

theorem not_overflowed_deliver (outlets : Outlets ω) (now : Instant) (drafts : List Draft)
    (remember : SentAlerts → Handler) (sent : SentAlerts) (state : State) (world : ω)
    : ¬Overflowed (Handler.deliver outlets now drafts remember sent state world).1 := by
  unfold Handler.deliver deliverDrafts
  rw [Action.run_mapError]
  generalize (SentAlerts.sendEach outlets.sink (drafts.map (·.alert now))).run (sent, world) = answer
  rcases answer with ⟨_ | _, _⟩ <;> simp

theorem ExitWatch.overflowed_learn_iff {oracle : Option (ExitOracle ω)} {state : State} {head : Head}
    {watch : ExitWatch} {world : ω}
    : Overflowed ((learn oracle state head).run (watch, world)).1
        ↔ owned watch.disabledModules state head ≠ [] ∧ ∃ oracle' block, oracle = some oracle'
          ∧ head.blockNumber = some block
          ∧ Overflowed ((ExitCache.refresh oracle' block).run (watch.requests, world)).1 := by
  simp only [learn]
  cases oracle with
  | none => simp
  | some oracle =>
    cases head.blockNumber with
    | none => simp
    | some block =>
      cases owned watch.disabledModules state head with
      | nil => simp
      | cons =>
        have hresult : (∃ oracle' block', some oracle = some oracle' ∧ some block = some block'
            ∧ Overflowed ((ExitCache.refresh oracle' block').run (watch.requests, world)).1)
              ↔ Overflowed ((ExitCache.refresh oracle block).run (watch.requests, world)).1 := by
          simp
        rw [hresult, and_iff_right (List.cons_ne_nil _ _)]
        dsimp only
        split
        . next hoverflow => exact iff_of_true (overflowed_overflow _) ⟨_, hoverflow⟩
        . next hnone =>
          refine iff_of_false (not_overflowed_ok _) ?_
          rintro ⟨overflow, hoverflow⟩
          exact hnone overflow hoverflow

theorem ExitWatch.overflowed_handle_iff {oracle : Option (ExitOracle ω)} {sink : Sink ω} {settings : Settings}
    {now : Instant} {state : State} {head : Head} {watch : ExitWatch} {world : ω}
    : Overflowed ((handle oracle sink settings now state head).run (watch, world)).1
        ↔ Overflowed ((learn oracle state head).run (watch, world)).1 := by
  rw [handle, Action.run_bind]
  generalize (learn oracle state head).run (watch, world) = answer
  rcases answer with ⟨_ | _, watch, world⟩
  . rfl
  . exact iff_of_false (not_overflowed_deliver ⟨oracle, sink⟩ now _ .fork watch.sent state world) (not_overflowed_ok _)

theorem Handler.overflowed_handle_iff {outlets : Outlets ω} {settings : Settings} {now : Instant} {head : Head}
    {desk : Desk Handler ω}
    : Overflowed ((handle outlets settings now head).run desk).1 ↔ desk.Overflows outlets head := by
  rcases desk with ⟨handler, state, world⟩
  cases handler with
  | slashing | withdrawal | consolidation =>
    refine iff_of_false ?_ ?_
    . apply not_overflowed_deliver
    . rintro ⟨⟩
  | fork sent =>
    have hdrafts := @Fork.exists_drafts_eq_error_iff settings state head
    have hhandle : Overflowed ((handle outlets settings now head).run ⟨.fork sent, state, world⟩).1
        ↔ ∃ overflow, Fork.drafts settings state head = .error overflow := by
      rw [handle]
      dsimp only
      cases Fork.drafts settings state head with
      | error => simp
      | ok drafts =>
        refine iff_of_false ?_ ?_
        . apply not_overflowed_deliver
        . rintro ⟨_, ⟨⟩⟩
    rw [hhandle, hdrafts]
    constructor
    . rintro ⟨hlinked, hparent, last, hlast, hslot⟩
      exact .missing hlinked hparent hlast hslot
    . intro h
      cases h with
      | missing hlinked hparent hlast hslot => exact ⟨hlinked, hparent, _, hlast, hslot⟩
  | exit watch =>
    have hhandle : Overflowed ((handle outlets settings now head).run ⟨.exit watch, state, world⟩).1
        ↔ Overflowed ((ExitWatch.learn outlets.oracle state head).run (watch, world)).1 :=
      ExitWatch.overflowed_handle_iff
    rw [hhandle, ExitWatch.overflowed_learn_iff]
    simp only [ExitCache.overflowed_refresh_iff]
    constructor
    . rintro ⟨howned, oracle, block, horacle, hblock, ⟨total, after, htotal, hlt⟩, hscan⟩
      simp only [ExitCache.CanScan, not_forall, Nat.not_lt] at hscan
      obtain ⟨scanned, hscanned, hnext⟩ := hscan
      exact .scan horacle hblock howned htotal hlt hscanned hnext
    . intro h
      cases h with
      | scan horacle hblock howned htotal hlt hscanned hnext =>
        refine ⟨howned, _, _, horacle, hblock, ⟨_, _, htotal, hlt⟩, ?_⟩
        intro hscan
        exact Nat.not_lt.mpr hnext (hscan _ hscanned)

/-- The plan whose handlers are those of the program. They fire alerts at the time that the world outside shows. -/
def Plan.handling (outlets : Outlets ω) (firing : ω → Instant) (plan : Plan Handler ω) : Plan Handler ω :=
  { plan with
    services := { plan.services with
      handle := fun settings head =>
        ⟨fun desk => (Handler.handle outlets settings (firing desk.world) head).run desk⟩ } }

namespace Watcher

section

variable {η : Type} {plan : Plan η ω} {head : Head}

theorem run_eq_of_mem_looks {handlers : List η} {state : State} {world : ω} {look : Look η ω}
    (h : look ∈ looks plan head handlers state world)
    : look.head = head
        ∧ (plan.services.handle plan.settings look.head).run look.before = (look.result, look.after) := by
  induction handlers generalizing state world with
  | nil => cases h
  | cons handler rest ih =>
    generalize hrun : (plan.services.handle plan.settings head).run ⟨handler, state, world⟩ = answer
    rcases answer with ⟨result, after⟩
    rw [looks_cons hrun] at h
    rcases List.mem_cons.mp h with rfl | hmem
    . exact ⟨rfl, hrun⟩
    . split at hmem
      . cases hmem
      . exact ih hmem

theorem overflowed_firstFailure_iff {first later : Except Failure Unit} (h : isOverflow first = false) (name : String)
    : Overflowed (firstFailure (first.mapError (handlerFailure name)) later) ↔ Overflowed later := by
  rcases first with (_ | _) | _
  . rcases later with (_ | _) | _ <;> simp [firstFailure, handlerFailure]
  . cases h
  . rcases later with (_ | _) | _ <;> simp [firstFailure]

/-- All handlers end if one of them does so since a number has left its range. -/
theorem overflowed_runHandlers_iff (handlers : List η) (watcher : Watcher η ω)
    : Overflowed (runHandlers plan head handlers watcher).1
        ↔ ∃ look ∈ looks plan head handlers watcher.state watcher.world, Overflowed look.result := by
  induction handlers generalizing watcher with
  | nil => simp [runHandlers, looks]
  | cons handler rest ih =>
    generalize hrun : (plan.services.handle plan.settings head).run ⟨handler, watcher.state, watcher.world⟩ = answer
    rcases answer with ⟨result, after⟩
    rw [looks_cons hrun]
    cases hoverflow : isOverflow result with
    | true =>
      rcases result with (_ | overflow) | _
      . cases hoverflow
      . rw [runHandlers_cons_overflow hrun]
        exact iff_of_true (overflowed_overflow _) ⟨_, List.mem_cons_self, overflowed_overflow _⟩
      . cases hoverflow
    | false =>
      have hnone : ¬Overflowed result := by
        rintro ⟨overflow, rfl⟩
        cases hoverflow
      have hrest : Overflowed (runHandlers plan head rest (watcher.leave plan handler result after)).1
          ↔ ∃ look ∈ looks plan head rest after.state after.world, Overflowed look.result :=
        ih (watcher.leave plan handler result after)
      rw [runHandlers_cons_leave hrun hoverflow, if_neg Bool.false_ne_true, List.exists_mem_cons_iff,
        or_iff_right hnone, ← hrest]
      exact overflowed_firstFailure_iff hoverflow _

variable {id : BlockId} {watcher : Watcher η ω}

/-- The header that the nodes agree on belongs to a slot that starts after the end of time. -/
structure AgeOverflows (plan : Plan η ω) (id : BlockId) (watcher : Watcher η ω) : Prop where
  isHead : id.isHead = true
  handled_ne_nil : watcher.state.handled ≠ []
  exists_header : ∃ record world, watcher.askedHeader plan id = (.ok record, world)
    ∧ UInt64.size ≤ plan.genesisTime.toNat + record.header.slot.toNat * Slot.seconds.toNat

theorem exists_isStaleHead_eq_error_iff {record : HeaderRecord}
    : (∃ overflow, watcher.isStaleHead plan id record = .error overflow)
        ↔ id.isHead = true ∧ watcher.state.handled ≠ []
          ∧ UInt64.size ≤ plan.genesisTime.toNat + record.header.slot.toNat * Slot.seconds.toNat := by
  have hhandled : watcher.state.lastHandledSlot.isSome = true ↔ watcher.state.handled ≠ [] := by
    simp [State.lastHandledSlot]
  unfold isStaleHead
  rw [← hhandled, ← and_assoc, ← Bool.and_eq_true]
  split
  . next h => rw [Slot.exists_isStale_eq_error_iff, and_iff_right h]
  . next h => simp [h]

theorem overflowed_fetchHead_iff : Overflowed ((fetchHead plan id).run watcher).1 ↔ watcher.AgeOverflows plan id := by
  have ⟨world, _, hfetched⟩ := fetched_fetchHead plan id watcher
  constructor
  . intro ⟨overflow, h⟩
    rw [h] at hfetched
    cases hfetched with
    | ageOverflowed hheader hage =>
      have ⟨hhead, hhandled, hstart⟩ := exists_isStaleHead_eq_error_iff.mp ⟨overflow, hage⟩
      exact ⟨hhead, hhandled, _, _, hheader, hstart⟩
  . intro ⟨hhead, hhandled, record, after, hheader, hstart⟩
    have ⟨overflow, hage⟩ := exists_isStaleHead_eq_error_iff.mpr ⟨hhead, hhandled, hstart⟩
    exact ⟨overflow, congrArg Prod.fst (Fetched.ageOverflowed hheader hage).run_eq⟩

theorem run_eq_of_mem_seen {look : Look η ω} (h : look ∈ seen plan id watcher)
    : (plan.services.handle plan.settings look.head).run look.before = (look.result, look.after) := by
  unfold seen at h
  split at h
  . exact (run_eq_of_mem_looks h).2
  . cases h

theorem seen_of_not_found {result : Except Failure (Option Head)} {world : ω} (h : Fetched plan id watcher result world)
    (hnone : ∀ head, result ≠ .ok (some head)) : seen plan id watcher = [] := by
  rw [seen, h.run_eq]
  split
  . next head _ heq => exact absurd (congrArg Prod.fst heq) (hnone head)
  . rfl

theorem overflowed_cycle_iff_seen
    : Overflowed ((cycle plan id).run watcher).1
        ↔ watcher.AgeOverflows plan id ∨ ∃ look ∈ seen plan id watcher, Overflowed look.result := by
  have hcycled := cycled_cycle plan id watcher
  rw [← overflowed_fetchHead_iff]
  generalize (cycle plan id).run watcher = outcome at hcycled
  rcases outcome with ⟨result, after⟩
  cases hcycled with
  | unfetched hfetched =>
    rw [seen_of_not_found hfetched nofun, hfetched.run_eq, overflowed_error_iff, overflowed_error_iff]
    simp
  | repeated hfetched =>
    rw [seen_of_not_found hfetched nofun, hfetched.run_eq]
    simp
  | @refused head world _ hfetched hresult =>
    have hhandlers := @overflowed_runHandlers_iff _ _ plan head watcher.handlers (watcher.facing head world)
    rw [hresult, overflowed_error_iff] at hhandlers
    rw [seen_of_fetched hfetched, hfetched.run_eq, or_iff_right (not_overflowed_ok _), overflowed_error_iff]
    exact hhandlers
  | @handled head world hfetched hresult =>
    have hhandlers := @overflowed_runHandlers_iff _ _ plan head watcher.handlers (watcher.facing head world)
    rw [hresult] at hhandlers
    rw [seen_of_fetched hfetched, hfetched.run_eq, or_iff_right (not_overflowed_ok _)]
    exact (iff_of_false (not_overflowed_ok _) (not_overflowed_ok _)).trans hhandlers

end

section

variable {outlets : Outlets ω} {firing : ω → Instant} {plan : Plan Handler ω} {id : BlockId}
  {watcher : Watcher Handler ω}

/-- A cycle ends for a number out of range just if the age of a header has none, or if a handler counts too far. -/
theorem overflowed_cycle_iff
    : Overflowed ((cycle (plan.handling outlets firing) id).run watcher).1
        ↔ watcher.AgeOverflows (plan.handling outlets firing) id
          ∨ ∃ look ∈ seen (plan.handling outlets firing) id watcher, look.before.Overflows outlets look.head := by
  rw [overflowed_cycle_iff_seen]
  have hlook : ∀ look ∈ seen (plan.handling outlets firing) id watcher,
      Overflowed look.result ↔ look.before.Overflows outlets look.head := by
    intro look hmem
    have hrun := run_eq_of_mem_seen hmem
    have hresult : ((Handler.handle outlets plan.settings (firing look.before.world) look.head).run look.before).1
        = look.result :=
      congrArg Prod.fst hrun
    rw [← hresult]
    exact Handler.overflowed_handle_iff
  have hlooks := exists_congr fun look => and_congr_right (hlook look)
  rw [hlooks]

end

end Watcher
end Watch
end BeaconSentry
