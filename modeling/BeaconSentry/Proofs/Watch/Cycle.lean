import BeaconSentry.Proofs.Watch.Verdicts

/-!
This module contains what one cycle of the watcher can do, and how it can end.
-/

namespace BeaconSentry
namespace Watch

open Beacon Net

namespace Watcher

variable {η ω : Type}

/-- Note how a piece of work has ended, unless a number has left its range. -/
def noteEnd (name : String) (result : Except Failure α) (watcher : Watcher η ω) : Watcher η ω :=
  match result with
  | .ok _ => watcher.note name true
  | .error (.report _) => watcher.note name false
  | .error (.overflow _) => watcher

theorem run_noted (name : String) (action : Action (Watcher η ω) Failure α) (watcher : Watcher η ω) :
    (noted name action).run watcher
      = ((action.run watcher).1, (action.run watcher).2.noteEnd name (action.run watcher).1) := by
  unfold noted
  dsimp only
  generalize action.run watcher = answer
  rcases answer with ⟨_ | _, after⟩
  . next failure => cases failure <;> rfl
  . rfl

/-- The watcher with the world outside in another state. -/
def inWorld (watcher : Watcher η ω) (world : ω) : Watcher η ω := { watcher with world }

/-- The watcher at the time at which its handlers look at a head. -/
def facing (watcher : Watcher η ω) (head : Head) (world : ω) : Watcher η ω :=
  ((watcher.inWorld world).note "get_header_full_info" true).kick head.slot

/-- The watcher after its handlers have looked at a head. -/
def consulted (plan : Plan η ω) (head : Head) (watcher : Watcher η ω) : Watcher η ω :=
  let (result, handlers, watcher) := runHandlers plan head watcher.handlers watcher
  { watcher with handlers }.noteEnd "handle_head" result

/-- The watcher once a head has been handled. -/
def remembered (head : Head) (watcher : Watcher η ω) : Watcher η ω :=
  showHead head { watcher with state := watcher.state.pushHandled head }

theorem run_ask (action : Action ω ProviderError α) (watcher : Watcher η ω) :
    (ask action).run watcher
      = ((action.run watcher.world).1.mapError fun error => .report (.provider error),
          watcher.inWorld (action.run watcher.world).2) := rfl

theorem run_handleHead (plan : Plan η ω) (head : Head) (watcher : Watcher η ω) :
    (handleHead plan head).run watcher =
      match (runHandlers plan head watcher.handlers watcher).1 with
      | .ok () =>
        (.ok (), { watcher.consulted plan head with state := (watcher.consulted plan head).state.pushHandled head })
      | .error failure => (.error failure, watcher.consulted plan head) := by
  unfold handleHead consulted
  rw [Action.run_bind, run_noted, consult]
  dsimp only
  generalize runHandlers plan head watcher.handlers watcher = answer
  rcases answer with ⟨_ | ⟨⟨⟩⟩, handlers, after⟩ <;> rfl

/-- The answer to the question for a header. -/
def askedHeader (plan : Plan η ω) (id : BlockId) (watcher : Watcher η ω) : Except ProviderError HeaderRecord × ω :=
  (plan.services.header id (watcher.rejectsHeader plan id)).run watcher.world

/-- How the watcher can fetch a head, and in which state this leaves the world outside. -/
inductive Fetched (plan : Plan η ω) (id : BlockId) (watcher : Watcher η ω) : Except Failure (Option Head) → ω → Prop
  | headerFailed {error : ProviderError} {world : ω} (hheader : watcher.askedHeader plan id = (.error error, world)) :
    Fetched plan id watcher (.error (.report (.provider error))) world
  | ageOverflowed {record : HeaderRecord} {world : ω} {overflow : Overflow}
      (hheader : watcher.askedHeader plan id = (.ok record, world))
      (hage : watcher.isStaleHead plan id record = .error overflow) :
    Fetched plan id watcher (.error (.overflow overflow)) world
  | repeated {record : HeaderRecord} {world : ω} {stale : Bool}
      (hheader : watcher.askedHeader plan id = (.ok record, world))
      (hage : watcher.isStaleHead plan id record = .ok stale)
      (hslot : watcher.state.lastHandledSlot = some record.header.slot) :
    Fetched plan id watcher (.ok none) world
  | blockFailed {record : HeaderRecord} {world after : ω} {stale : Bool} {error : ProviderError}
      (hheader : watcher.askedHeader plan id = (.ok record, world))
      (hage : watcher.isStaleHead plan id record = .ok stale)
      (hslot : watcher.state.lastHandledSlot ≠ some record.header.slot)
      (hblock : (plan.services.block (.root record.root)).run world = (.error error, after)) :
    Fetched plan id watcher (.error (.report (.provider error))) after
  | found {head : Head} {world after : ω} {stale : Bool}
      (hheader : watcher.askedHeader plan id = (.ok head.header, world))
      (hage : watcher.isStaleHead plan id head.header = .ok stale)
      (hslot : watcher.state.lastHandledSlot ≠ some head.slot)
      (hblock : (plan.services.block (.root head.root)).run world = (.ok head.block, after)) :
    Fetched plan id watcher (.ok (some head)) after

theorem fetched_fetchHead (plan : Plan η ω) (id : BlockId) (watcher : Watcher η ω) :
    ∃ world, ((fetchHead plan id).run watcher).2 = watcher.inWorld world
      ∧ Fetched plan id watcher ((fetchHead plan id).run watcher).1 world := by
  rw [fetchHead]
  simp only [Action.run_bind, look, run_ask]
  generalize hheader : watcher.askedHeader plan id = header
  unfold askedHeader at hheader
  rcases header with ⟨error | record, world⟩
  . rw [hheader]
    exact ⟨world, rfl, .headerFailed hheader⟩
  . rw [hheader]
    simp only [mapError_ok, Action.run_ofExcept]
    generalize hage : watcher.isStaleHead plan id record = age
    cases age with
    | error overflow => exact ⟨world, rfl, .ageOverflowed hheader hage⟩
    | ok stale =>
      simp only [mapError_ok]
      split
      . next hslot => exact ⟨world, rfl, .repeated hheader hage (by simpa using hslot)⟩
      . next hslot =>
        simp only [Action.run_bind, run_ask]
        have hworld : (watcher.inWorld world).world = world := rfl
        rw [hworld]
        have hslot : watcher.state.lastHandledSlot ≠ some record.header.slot := by simpa using hslot
        generalize hblock : (plan.services.block (.root record.root)).run world = answer
        rcases answer with ⟨error | block, after⟩
        . exact ⟨after, rfl, .blockFailed hheader hage hslot hblock⟩
        . exact ⟨after, rfl, .found hheader hage hslot hblock⟩

theorem Fetched.run_eq {plan : Plan η ω} {id : BlockId} {watcher : Watcher η ω} {result : Except Failure (Option Head)}
    {world : ω} (h : Fetched plan id watcher result world)
    : (fetchHead plan id).run watcher = (result, watcher.inWorld world) := by
  have hask {answer : Except ProviderError HeaderRecord} {after : ω}
      (hheader : watcher.askedHeader plan id = (answer, after))
      : (ask (plan.services.header id (watcher.rejectsHeader plan id))).run watcher
          = (answer.mapError fun error => .report (.provider error), watcher.inWorld after) := by
    rw [run_ask]
    unfold askedHeader at hheader
    rw [hheader]
  rw [fetchHead, Action.run_bind, look]
  dsimp only
  rw [Action.run_bind]
  cases h with
  | headerFailed hheader =>
    rw [hask hheader]
    rfl
  | ageOverflowed hheader hage =>
    rw [hask hheader]
    simp only [mapError_ok, mapError_error, Action.run_bind, Action.run_ofExcept, hage]
  | repeated hheader hage hslot =>
    rw [hask hheader]
    simp only [mapError_ok, Action.run_bind, Action.run_ofExcept, hage, hslot, beq_self_eq_true, ↓reduceIte,
      Action.run_pure]
  | blockFailed hheader hage hslot hblock =>
    rw [hask hheader]
    simp only [mapError_ok, mapError_error, Action.run_bind, Action.run_ofExcept, hage, beq_eq_false_iff_ne.mpr hslot,
      Bool.false_eq_true, ↓reduceIte, run_ask, inWorld, hblock]
  | found hheader hage hslot hblock =>
    unfold Head.slot at hslot
    unfold Head.root at hblock
    rw [hask hheader]
    simp only [mapError_ok, Action.run_bind, Action.run_ofExcept, hage, beq_eq_false_iff_ne.mpr hslot,
      Bool.false_eq_true, ↓reduceIte, run_ask, inWorld, hblock, Action.run_pure]

/-- What a cycle for a block can do to the watcher, and how it can end. -/
inductive Cycled (plan : Plan η ω) (id : BlockId) (watcher : Watcher η ω) :
    Except Failure Bool → Watcher η ω → Prop
  | unfetched {failure : Failure} {world : ω} (hfetched : Fetched plan id watcher (.error failure) world) :
    Cycled plan id watcher (.error failure)
      ((watcher.inWorld world).noteEnd "get_header_full_info" (.error failure : Except Failure (Option Head)))
  | repeated {world : ω} (hfetched : Fetched plan id watcher (.ok none) world) :
    Cycled plan id watcher (.ok false) ((watcher.inWorld world).note "get_header_full_info" true)
  | refused {head : Head} {world : ω} {failure : Failure}
      (hfetched : Fetched plan id watcher (.ok (some head)) world)
      (hresult : (runHandlers plan head watcher.handlers (watcher.facing head world)).1 = .error failure) :
    Cycled plan id watcher (.error failure) ((watcher.facing head world).consulted plan head)
  | handled {head : Head} {world : ω} (hfetched : Fetched plan id watcher (.ok (some head)) world)
      (hresult : (runHandlers plan head watcher.handlers (watcher.facing head world)).1 = .ok ()) :
    Cycled plan id watcher (.ok true) (((watcher.facing head world).consulted plan head).remembered head)

theorem run_cycle_of_fetched {plan : Plan η ω} {id : BlockId} {watcher : Watcher η ω} {head : Head} {world : ω}
    (h : Fetched plan id watcher (.ok (some head)) world)
    : (cycle plan id).run watcher =
      match (runHandlers plan head watcher.handlers (watcher.facing head world)).1 with
      | .ok () => (.ok true, ((watcher.facing head world).consulted plan head).remembered head)
      | .error failure => (.error failure, (watcher.facing head world).consulted plan head) := by
  rw [cycle, Action.run_bind, run_noted, h.run_eq]
  dsimp only
  rw [Action.run_bind, Action.run_modify]
  dsimp only
  rw [Action.run_bind, run_handleHead]
  have hfacing : kick head.slot ((watcher.inWorld world).noteEnd "get_header_full_info" (.ok (some head)))
      = watcher.facing head world := rfl
  have hhandlers : (watcher.facing head world).handlers = watcher.handlers := rfl
  rw [hfacing, hhandlers]
  generalize (runHandlers plan head watcher.handlers (watcher.facing head world)).1 = result
  cases result <;> rfl

theorem cycled_cycle (plan : Plan η ω) (id : BlockId) (watcher : Watcher η ω) :
    Cycled plan id watcher ((cycle plan id).run watcher).1 ((cycle plan id).run watcher).2 := by
  have ⟨world, hworld, hfetched⟩ := fetched_fetchHead plan id watcher
  generalize hresult : ((fetchHead plan id).run watcher).1 = fetched at hfetched
  rcases fetched with failure | _ | head
  . rw [cycle, Action.run_bind, run_noted, hworld, hresult]
    exact .unfetched hfetched
  . rw [cycle, Action.run_bind, run_noted, hworld, hresult]
    exact .repeated hfetched
  . rw [run_cycle_of_fetched hfetched]
    generalize hresult : (runHandlers plan head watcher.handlers (watcher.facing head world)).1 = result
    cases result with
    | error failure => exact .refused hfetched hresult
    | ok => exact .handled hfetched hresult

theorem Cycled.run_eq {plan : Plan η ω} {id : BlockId} {watcher after : Watcher η ω} {result : Except Failure Bool}
    (h : Cycled plan id watcher result after) : (cycle plan id).run watcher = (result, after) := by
  cases h with
  | unfetched hfetched => rw [cycle, Action.run_bind, run_noted, hfetched.run_eq]
  | repeated hfetched =>
    rw [cycle, Action.run_bind, run_noted, hfetched.run_eq]
    rfl
  | refused hfetched hresult => rw [run_cycle_of_fetched hfetched, hresult]
  | handled hfetched hresult => rw [run_cycle_of_fetched hfetched, hresult]

end Watcher
end Watch
end BeaconSentry
