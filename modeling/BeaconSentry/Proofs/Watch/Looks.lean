import BeaconSentry.Proofs.Watch.Cycle

/-!
This module contains a record of the work of the handlers: which of them looks at which head, and how that ends. It is
kept beside the world outside by the cycles themselves, and changes nothing of what they do.
-/

namespace BeaconSentry
namespace Watch

open Beacon

variable {η ω : Type}

structure Look (η ω : Type) where
  head : Head
  before : Desk η ω
  result : Except Failure Unit
  after : Desk η ω

/-- The plan with handlers that record how they look at heads. -/
def Plan.recorded (plan : Plan η ω) : Plan η (List (Look η ω) × ω) where
  services := {
    handlerName := plan.services.handlerName
    handle settings head := {
      run := fun ⟨handler, state, log, world⟩ =>
        let (result, after) := (plan.services.handle settings head).run ⟨handler, state, world⟩
        let look := ⟨head, ⟨handler, state, world⟩, result, after⟩
        (result, ⟨after.handler, after.state, log ++ [look], after.world⟩) }
    header id rejects := (plan.services.header id rejects).beside
    block id := (plan.services.block id).beside
    validators := plan.services.validators.beside
    reorgs := plan.services.reorgs.beside
    updateKeys := plan.services.updateKeys.beside
    clock recorded := plan.services.clock recorded.2 }
  settings := plan.settings
  genesisTime := plan.genesisTime

namespace Watcher

def recording (watcher : Watcher η ω) (log : List (Look η ω)) : Watcher η (List (Look η ω) × ω) :=
  { watcher with world := (log, watcher.world) }

/-- How handlers look at a head, one after the other. None looks after one in which a number has left its range. -/
def looks (plan : Plan η ω) (head : Head) : List η → State → ω → List (Look η ω)
  | [], _, _ => []
  | handler :: rest, state, world =>
    let (result, after) := (plan.services.handle plan.settings head).run ⟨handler, state, world⟩
    ⟨head, ⟨handler, state, world⟩, result, after⟩
      :: if isOverflow result then [] else looks plan head rest after.state after.world

section

variable {plan : Plan η ω} {head : Head}

theorem looks_cons {handler : η} {rest : List η} {state : State} {world : ω} {result : Except Failure Unit}
    {after : Desk η ω} (hrun : (plan.services.handle plan.settings head).run ⟨handler, state, world⟩ = (result, after))
    : looks plan head (handler :: rest) state world = ⟨head, ⟨handler, state, world⟩, result, after⟩
        :: if isOverflow result then [] else looks plan head rest after.state after.world := by
  rw [looks, hrun]

theorem runHandlers_cons_overflow {handler : η} {rest : List η} {watcher : Watcher η ω} {overflow : Overflow}
    {after : Desk η ω} (hrun : (plan.services.handle plan.settings head).run ⟨handler, watcher.state, watcher.world⟩
      = (.error (.overflow overflow), after))
    : runHandlers plan head (handler :: rest) watcher
        = (.error (.overflow overflow), after.handler :: rest,
            { watcher with state := after.state, world := after.world }) := by
  rw [runHandlers, hrun]

def leave (plan : Plan η ω) (handler : η) (result : Except Failure Unit) (after : Desk η ω) (watcher : Watcher η ω) :
    Watcher η ω :=
  { watcher with state := after.state, world := after.world }.note (plan.services.handlerName handler) result.isOk

theorem runHandlers_cons_leave {handler : η} {rest : List η} {watcher : Watcher η ω} {result : Except Failure Unit}
    {after : Desk η ω}
    (hrun : (plan.services.handle plan.settings head).run ⟨handler, watcher.state, watcher.world⟩ = (result, after))
    (hoverflow : isOverflow result = false)
    : runHandlers plan head (handler :: rest) watcher =
        let (later, handlers, final) := runHandlers plan head rest (watcher.leave plan handler result after)
        (firstFailure (result.mapError (handlerFailure (plan.services.handlerName handler))) later,
          after.handler :: handlers, final) :=
  runHandlers_cons hrun hoverflow

theorem leave_recording (plan : Plan η ω) (handler : η) (result : Except Failure Unit) (after : Desk η ω)
    (watcher : Watcher η ω) (log log' : List (Look η ω)) :
    (watcher.recording log).leave plan.recorded handler result ⟨after.handler, after.state, log', after.world⟩
      = (watcher.leave plan handler result after).recording log' := rfl

theorem run_handle_recorded (plan : Plan η ω) (settings : Settings) (head : Head) (handler : η) (state : State)
    (log : List (Look η ω)) (world : ω) :
    (plan.recorded.services.handle settings head).run ⟨handler, state, log, world⟩ =
      let (result, after) := (plan.services.handle settings head).run ⟨handler, state, world⟩
      let look := ⟨head, ⟨handler, state, world⟩, result, after⟩
      (result, ⟨after.handler, after.state, log ++ [look], after.world⟩) := rfl

theorem runHandlers_recorded (plan : Plan η ω) (head : Head) (handlers : List η) (watcher : Watcher η ω)
    (log : List (Look η ω)) :
    runHandlers plan.recorded head handlers (watcher.recording log) =
      let (result, handlers', after) := runHandlers plan head handlers watcher
      (result, handlers', after.recording (log ++ looks plan head handlers watcher.state watcher.world)) := by
  induction handlers generalizing watcher log with
  | nil =>
    rw [looks, List.append_nil]
    rfl
  | cons handler rest ih =>
    have hrecorded := run_handle_recorded plan plan.settings head handler watcher.state log watcher.world
    generalize hrun : (plan.services.handle plan.settings head).run ⟨handler, watcher.state, watcher.world⟩ = answer
      at hrecorded
    rcases answer with ⟨result, after⟩
    rw [looks_cons hrun]
    cases hoverflow : isOverflow result with
    | true =>
      -- The loop ends here, and so does the record: the handlers after this one do not look.
      rcases result with (_ | overflow) | _
      . cases hoverflow
      . rw [runHandlers_cons_overflow hrun, runHandlers_cons_overflow hrecorded]
        rfl
      . cases hoverflow
    | false =>
      rw [runHandlers_cons_leave hrun hoverflow, runHandlers_cons_leave hrecorded hoverflow, leave_recording, ih]
      dsimp only
      rw [List.append_assoc]
      rfl

theorem consulted_recording (plan : Plan η ω) (head : Head) (watcher : Watcher η ω) (log : List (Look η ω)) :
    (watcher.recording log).consulted plan.recorded head
      = (watcher.consulted plan head).recording
          (log ++ looks plan head watcher.handlers watcher.state watcher.world) := by
  unfold consulted
  have hhandlers : (watcher.recording log).handlers = watcher.handlers := rfl
  rw [hhandlers, runHandlers_recorded]
  dsimp only
  generalize runHandlers plan head watcher.handlers watcher = answer
  rcases answer with ⟨(_ | _) | _, handlers, after⟩ <;> rfl

variable {id : BlockId} {watcher : Watcher η ω} {result : Except Failure (Option Head)} {world : ω}

theorem run_beside_of_run {ε α σ : Type} {action : Action ω ε α} {answer : Except ε α} {after : ω}
    (h : action.run world = (answer, after)) (memory : σ)
    : (action.beside : Action (σ × ω) ε α).run (memory, world) = (answer, memory, after) := by
  rw [Action.run_beside, h]

theorem askedHeader_recording {answer : Except Net.ProviderError HeaderRecord}
    (h : watcher.askedHeader plan id = (answer, world)) (log : List (Look η ω))
    : (watcher.recording log).askedHeader plan.recorded id = (answer, log, world) :=
  run_beside_of_run h log

theorem Fetched.recorded (h : Fetched plan id watcher result world) (log : List (Look η ω))
    : Fetched plan.recorded id (watcher.recording log) result (log, world) := by
  cases h with
  | headerFailed hheader => exact .headerFailed (askedHeader_recording hheader log)
  | ageOverflowed hheader hage => exact .ageOverflowed (askedHeader_recording hheader log) hage
  | repeated hheader hage hslot => exact .repeated (askedHeader_recording hheader log) hage hslot
  | blockFailed hheader hage hslot hblock =>
    exact .blockFailed (askedHeader_recording hheader log) hage hslot (run_beside_of_run hblock log)
  | found hheader hage hslot hblock =>
    exact .found (askedHeader_recording hheader log) hage hslot (run_beside_of_run hblock log)

end

/-- How handlers look at a head in a cycle. -/
def seen (plan : Plan η ω) (id : BlockId) (watcher : Watcher η ω) : List (Look η ω) :=
  match (fetchHead plan id).run watcher with
  | (.ok (some head), after) => looks plan head watcher.handlers watcher.state after.world
  | _ => []

theorem seen_of_fetched {plan : Plan η ω} {id : BlockId} {watcher : Watcher η ω} {head : Head} {world : ω}
    (h : Fetched plan id watcher (.ok (some head)) world)
    : seen plan id watcher = looks plan head watcher.handlers watcher.state world := by
  rw [seen, h.run_eq]
  rfl

/-- A cycle does the same with a record, and the record is of what its handlers do. -/
theorem run_cycle_recorded (plan : Plan η ω) (id : BlockId) (watcher : Watcher η ω) (log : List (Look η ω)) :
    (cycle plan.recorded id).run (watcher.recording log)
      = (((cycle plan id).run watcher).1, ((cycle plan id).run watcher).2.recording (log ++ seen plan id watcher)) := by
  have hcycled := cycled_cycle plan id watcher
  generalize (cycle plan id).run watcher = outcome at hcycled
  rcases outcome with ⟨result, after⟩
  cases hcycled with
  | @unfetched failure _ hfetched =>
    have hseen : seen plan id watcher = [] := by rw [seen, hfetched.run_eq]
    rw [(Cycled.unfetched (hfetched.recorded log)).run_eq, hseen, List.append_nil]
    cases failure <;> rfl
  | repeated hfetched =>
    have hseen : seen plan id watcher = [] := by rw [seen, hfetched.run_eq]
    rw [(Cycled.repeated (hfetched.recorded log)).run_eq, hseen, List.append_nil]
    rfl
  | @refused head world _ hfetched hresult =>
    rw [seen_of_fetched hfetched]
    have hrecorded := runHandlers_recorded plan head watcher.handlers (watcher.facing head world) log
    have hresult := (congrArg Prod.fst hrecorded).trans hresult
    rw [(Cycled.refused (hfetched.recorded log) hresult).run_eq]
    exact congrArg (Prod.mk _) (consulted_recording plan head (watcher.facing head world) log)
  | @handled head world hfetched hresult =>
    rw [seen_of_fetched hfetched]
    have hrecorded := runHandlers_recorded plan head watcher.handlers (watcher.facing head world) log
    have hresult := (congrArg Prod.fst hrecorded).trans hresult
    rw [(Cycled.handled (hfetched.recorded log) hresult).run_eq]
    exact congrArg (Prod.mk _ ∘ remembered head) (consulted_recording plan head (watcher.facing head world) log)

theorem answeredKeys_recording (slot : Slot) (result : Except Failure (Option OwnedKeys)) (watcher : Watcher η ω)
    (log : List (Look η ω)) :
    (watcher.recording log).answeredKeys slot result = (watcher.answeredKeys slot result).recording log := by
  rcases result with (_ | _) | _ | _ <;> rfl

theorem stepKeys_recording (plan : Plan η ω) (watcher : Watcher η ω) (log : List (Look η ω)) :
    (watcher.recording log).stepKeys plan.recorded = (watcher.stepKeys plan).recording log := by
  have hstage : (watcher.recording log).keysRefresh = watcher.keysRefresh := rfl
  unfold stepKeys
  rw [hstage]
  rcases watcher.keysRefresh with _ | slot | ⟨slot, keys⟩
  . rfl
  . exact answeredKeys_recording slot _ (watcher.inWorld (plan.services.updateKeys.run watcher.world).2) log
  . rfl

theorem readRegistry_recording (plan : Plan η ω) (watcher : Watcher η ω) (log : List (Look η ω)) :
    (watcher.recording log).readRegistry plan.recorded = (watcher.readRegistry plan).recording log := by
  unfold readRegistry
  dsimp only
  rw [apply_ite (recording · log)]
  rfl

theorem stepRegistry_recording (plan : Plan η ω) (watcher : Watcher η ω) (log : List (Look η ω)) :
    (watcher.recording log).stepRegistry plan.recorded = (watcher.stepRegistry plan).recording log := by
  have hstage : (watcher.recording log).registryRefresh = watcher.registryRefresh := rfl
  unfold stepRegistry
  rw [hstage]
  rcases watcher.registryRefresh with _ | _ | ⟨slot, known⟩ | ⟨slot, merged⟩
  . rfl
  . exact readRegistry_recording plan watcher log
  . have hrun : plan.recorded.services.validators.run (watcher.recording log).world
        = ((plan.services.validators.run watcher.world).1, log, (plan.services.validators.run watcher.world).2) := rfl
    dsimp only
    rw [hrun]
    generalize plan.services.validators.run watcher.world = answer
    rcases answer with ⟨_ | _, world⟩ <;> rfl
  . rfl

theorem settle_recording (plan : Plan η ω) (watcher : Watcher η ω) (log : List (Look η ω)) :
    (watcher.recording log).settle plan.recorded = (watcher.settle plan).recording log := by
  unfold settle
  simp only [stepKeys_recording, stepRegistry_recording]

/-- Some handlers look at a head, each of them one time, whatever the others make of it. -/
structure AllLook (plan : Plan η ω) (head : Head) (handlers handlers' : List η) (looks : List (Look η ω)) : Prop where
  head_eq : ∀ look ∈ looks, look.head = head
  run_eq : ∀ look ∈ looks, (plan.services.handle plan.settings head).run look.before = (look.result, look.after)
  before_eq : looks.map (·.before.handler) = handlers
  after_eq : looks.map (·.after.handler) = handlers'

/-- What comes of some looks at a head: the failure of the first one that fails, with the name of its handler. -/
inductive Concluded {α : Type} (plan : Plan η ω) (looks : List (Look η ω)) (value : α) : Except Failure α → Prop
  | accepted (hall : ∀ look ∈ looks, look.result = .ok ()) : Concluded plan looks value (.ok value)
  | reported {earlier later : List (Look η ω)} {look : Look η ω} {report : Report}
      (hlooks : looks = earlier ++ look :: later) (hearlier : ∀ look ∈ earlier, look.result = .ok ())
      (hresult : look.result = .error (.report report)) :
    Concluded plan looks value
      (.error (.report (.context s!"{plan.services.handlerName look.before.handler} handler failed" report)))

section

variable {plan : Plan η ω} {head : Head} {handlers handlers' : List η} {looks : List (Look η ω)}

theorem AllLook.cons (look : Look η ω) (h : AllLook plan head handlers handlers' looks) (hhead : look.head = head)
    (hrun : (plan.services.handle plan.settings head).run look.before = (look.result, look.after))
    : AllLook plan head (look.before.handler :: handlers) (look.after.handler :: handlers') (look :: looks) where
  head_eq := List.forall_mem_cons.mpr ⟨hhead, h.head_eq⟩
  run_eq := List.forall_mem_cons.mpr ⟨hrun, h.run_eq⟩
  before_eq := by rw [List.map_cons, h.before_eq]
  after_eq := by rw [List.map_cons, h.after_eq]

theorem Concluded.cons (look : Look η ω) {result : Except Failure Unit} (h : Concluded plan looks () result)
    (hoverflow : isOverflow look.result = false)
    : Concluded plan (look :: looks) () (firstFailure
        (look.result.mapError (handlerFailure (plan.services.handlerName look.before.handler))) result) := by
  generalize hlook : look.result = verdict at hoverflow
  rcases verdict with (report | overflow) | _
  . have hlooks : look :: looks = [] ++ look :: looks := rfl
    have hreported : Concluded plan (look :: looks) () _ := .reported hlooks (List.forall_mem_nil _) hlook
    cases h <;> exact hreported
  . cases hoverflow
  . cases h with
    | accepted hall => exact .accepted (List.forall_mem_cons.mpr ⟨hlook, hall⟩)
    | @reported earlier later failing _ hlooks hearlier hresult =>
      have hlooks : look :: looks = (look :: earlier) ++ failing :: later := by rw [hlooks, List.cons_append]
      exact .reported hlooks (List.forall_mem_cons.mpr ⟨hlook, hearlier⟩) hresult

theorem allLook_or_overflow (plan : Plan η ω) (head : Head) (handlers : List η) (watcher : Watcher η ω) :
    let seen := Watcher.looks plan head handlers watcher.state watcher.world
    let answer := runHandlers plan head handlers watcher
    AllLook plan head handlers answer.2.1 seen ∧ Concluded plan seen () answer.1
      ∨ ∃ overflow, answer.1 = .error (.overflow overflow)
        ∧ ∃ look ∈ seen, look.result = .error (.overflow overflow) := by
  induction handlers generalizing watcher with
  | nil =>
    have hnone {p : Look η ω → Prop} : ∀ look ∈ looks plan head [] watcher.state watcher.world, p look :=
      List.forall_mem_nil _
    exact .inl ⟨⟨hnone, hnone, rfl, rfl⟩, .accepted hnone⟩
  | cons handler rest ih =>
    generalize hrun : (plan.services.handle plan.settings head).run ⟨handler, watcher.state, watcher.world⟩ = answer
    rcases answer with ⟨result, after⟩
    rw [looks_cons hrun]
    cases hoverflow : isOverflow result with
    | true =>
      rcases result with (_ | overflow) | _
      . cases hoverflow
      . rw [runHandlers_cons_overflow hrun]
        exact .inr ⟨overflow, rfl, _, List.mem_cons_self, rfl⟩
      . cases hoverflow
    | false =>
      let look : Look η ω := ⟨head, ⟨handler, watcher.state, watcher.world⟩, result, after⟩
      rw [runHandlers_cons_leave hrun hoverflow, if_neg Bool.false_ne_true]
      have hrest := ih (watcher.leave plan handler result after)
      rcases hrest with ⟨hall, hconcluded⟩ | ⟨overflow, hlater, failing, hmem, hfailing⟩
      . exact .inl ⟨hall.cons look rfl hrun, hconcluded.cons look hoverflow⟩
      . dsimp only
        rw [hlater]
        exact .inr ⟨overflow, rfl, failing, List.mem_cons_of_mem _ hmem, hfailing⟩

end

end Watcher
end Watch
end BeaconSentry
