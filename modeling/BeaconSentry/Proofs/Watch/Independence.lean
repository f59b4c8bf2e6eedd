import BeaconSentry.Proofs.Alert.Judged
import BeaconSentry.Proofs.Watch.Course
import BeaconSentry.Proofs.Watch.Due
import BeaconSentry.Proofs.Watch.Looks

/-!
This module contains the law that the handlers of a head do not depend on each other: in whichever order they look at
it, each of them sends the same alerts, ends in the same way and remembers the same.
-/

namespace BeaconSentry
namespace Watch

open Beacon Exit SentAlerts

variable {ω : Type}

/-- The plan with handlers that fire their alerts at instants of their own. -/
def Plan.timed (outlets : Outlets ω) (plan : Plan Handler ω) : Plan (Instant × Handler) ω where
  services := { plan.services with
    handlerName := fun (_, handler) => handler.name
    handle := fun settings head => {
      run := fun ⟨(now, handler), state, world⟩ =>
        let (result, desk) := (Handler.handle outlets settings now head).run ⟨handler, state, world⟩
        (result, ⟨(now, desk.handler), desk.state, desk.world⟩) } }
  settings := plan.settings
  genesisTime := plan.genesisTime

theorem Plan.run_timed {outlets : Outlets ω} {plan : Plan Handler ω} {head : Head} {now : Instant} {handler : Handler}
    {state : State} {world : ω} {result : Except Failure Unit} {desk : Desk Handler ω}
    (h : (Handler.handle outlets plan.settings now head).run ⟨handler, state, world⟩ = (result, desk))
    : ((plan.timed outlets).services.handle (plan.timed outlets).settings head).run ⟨(now, handler), state, world⟩
        = (result, ⟨(now, desk.handler), desk.state, desk.world⟩) := by
  simp only [timed, h]

/-- What a look of a handler at a head comes to, whenever its alerts are fired. -/
structure Account where
  before : Handler
  succeeded : Bool
  /-- The drafts of the alerts that were taken. -/
  delivered : List Draft
  after : Handler

def Look.account (look : Look (Instant × Handler) (SinkLog × ω)) : Account where
  before := look.before.handler.2
  succeeded := look.result.isOk
  delivered := (look.after.world.1.accepted.drop look.before.world.1.accepted.length).map Draft.ofAlert
  after := look.after.handler.2

namespace Fork

theorem exists_missingSlots {last : Slot} (slot : Slot) (hlast : last.toNat + 1 < UInt64.size)
    : ∃ missing, missingSlots last slot = .ok missing := by
  unfold missingSlots
  cases hnext : Word.add last 1 with
  | ok next => exact ⟨_, rfl⟩
  | error =>
    have hsize := Word.size_le_of_add hnext
    rw [UInt64.toNat_one] at hsize
    omega

/-- The slots that are missing between two heads can be counted unless the first one is the last that has a number. -/
theorem exists_drafts (settings : Settings) {state : State} (head : Head)
    (hslots : ∀ handled ∈ state.handled, handled.slot.toNat + 1 < UInt64.size)
    : ∃ drafts, Fork.drafts settings state head = .ok drafts := by
  unfold Fork.drafts
  split
  . unfold headDrafts
    split
    . exact ⟨_, rfl⟩
    . next last hlast =>
      split
      . exact ⟨_, rfl⟩
      . obtain ⟨missing, hmissing⟩ := exists_missingSlots head.slot (hslots last (List.mem_of_getLast? hlast))
        rw [hmissing]
        exact ⟨_, rfl⟩
  . exact ⟨_, rfl⟩

end Fork

namespace Handler

/-- All drafts of a handler for a head, those about forks included. -/
def owed (answers : Option ExitAnswers) (settings : Settings) (state : State) (head : Head) : Handler → List Draft
  | fork _ => (Fork.drafts settings state head).toOption.getD []
  | handler => handler.due answers settings state head

/-- The state as a handler leaves it. -/
def leaves (state : State) : Handler → State
  | fork _ => state.drainReorgs.2
  | _ => state

/-- The block after the last one whose requests to exit were scanned has a number. -/
def CanScan : Handler → Prop
  | exit watch => watch.requests.CanScan
  | _ => True

def account (answers : Option ExitAnswers) (takes : Draft → Bool) (settings : Settings) (state : State) (head : Head)
    (handler : Handler) : Account :=
  let drafts := handler.owed answers settings state head
  let delivered := handler.history.taken takes drafts
  let history := handler.history.pushAll (delivered.map (·.annotations))
  ⟨handler, handler.history.allTaken takes drafts, delivered,
    (handler.learned answers state head).withHistory history⟩

/-- Reorganisations matter only to the handler for forks. -/
theorem account_drainReorgs (answers : Option ExitAnswers) (takes : Draft → Bool) (settings : Settings)
    (state : State) (head : Head) {handler : Handler} (hother : Fork.isFork handler = false)
    : handler.account answers takes settings state.drainReorgs.2 head
        = handler.account answers takes settings state head := by
  cases handler with
  | fork => cases hother
  | slashing | exit | withdrawal | consolidation => rfl

theorem owed_of_other (answers : Option ExitAnswers) (settings : Settings) (state : State) (head : Head)
    {handler : Handler} (hother : Fork.isFork handler = false)
    : handler.owed answers settings state head = handler.due answers settings state head := by
  cases handler with
  | fork => cases hother
  | slashing | exit | withdrawal | consolidation => rfl

theorem leaves_of_other (state : State) {handler : Handler} (hother : Fork.isFork handler = false)
    : handler.leaves state = state := by
  cases handler with
  | fork => cases hother
  | slashing | exit | withdrawal | consolidation => rfl

theorem leaves_of_fork (state : State) {handler : Handler} (hfork : Fork.isFork handler = true)
    : handler.leaves state = state.drainReorgs.2 := by
  cases handler with
  | fork => rfl
  | slashing | exit | withdrawal | consolidation => cases hfork

theorem name_of_isFork {handler : Handler} (hfork : Fork.isFork handler = true) : handler.name = "fork" := by
  cases handler with
  | fork => rfl
  | slashing | exit | withdrawal | consolidation => cases hfork

theorem CanScan.isSteady {handler : Handler} (h : handler.CanScan) (hother : Fork.isFork handler = false)
    : handler.IsSteady := by
  cases handler with
  | fork => cases hother
  | exit => exact h
  | slashing | withdrawal | consolidation => trivial

/-- How a handler looks at a head is told by its account. -/
theorem run_handle_logged {answers : Option ExitAnswers} {sink : Sink ω} {takes : Draft → Bool}
    (hsink : sink.DecidesBy takes) (settings : Settings) {state : State} {head : Head} {handler : Handler}
    (hslots : ∀ handled ∈ state.handled, handled.slot.toNat + 1 < UInt64.size) (hnext : head.HasNext)
    (hscan : handler.CanScan) (now : Instant) (log : SinkLog) (world : ω)
    : let account := handler.account answers takes settings state head
      ∃ (result : Except Report Unit) (log' : SinkLog) (world' : ω),
        (handle ⟨answers.map (·.oracle), sink.logged⟩ settings now head).run ⟨handler, state, log, world⟩
            = (result.mapError .report, ⟨account.after, handler.leaves state, log', world'⟩)
          ∧ result.isOk = account.succeeded
          ∧ log'.accepted = log.accepted ++ account.delivered.map (·.alert now) := by
  intro account
  obtain ⟨result, log', world', hrun, hended⟩ :=
    deliverDrafts_logged hsink now (handler.owed answers settings state head) handler.history log world
  refine ⟨result, log', world', ?_, hended⟩
  cases hfork : Fork.isFork handler with
  | false =>
    have howed := owed_of_other answers settings state head hfork
    have hleaves := leaves_of_other state hfork
    rw [run_handle _ _ _ _ _ (hscan.isSteady hfork) hnext, ← howed, hrun, hleaves]
    rfl
  | true =>
    cases handler with
    | slashing | exit | withdrawal | consolidation => cases hfork
    | fork sent =>
      obtain ⟨drafts, hdrafts⟩ := Fork.exists_drafts settings head hslots
      have howed : (fork sent).owed answers settings state head = drafts := by
        unfold owed
        rw [hdrafts]
        rfl
      have hhistory : (fork sent).history = sent := rfl
      rw [howed, hhistory] at hrun
      rw [Fork.run_handle, hdrafts]
      simp only [deliver, hrun]
      unfold account Handler.account
      rw [howed]
      rfl

end Handler

namespace Watcher

theorem isOk_firstFailure (result later : Except Failure Unit) :
    (firstFailure result later).isOk = (result.isOk && later.isOk) := by
  rcases later with (_ | _) | _ <;> cases result <;> rfl

section

variable (answers : Option ExitAnswers) (takes : Draft → Bool) (settings : Settings) (state : State) (head : Head)

/-- How the handlers fare that look at a head one after the other, as told by the account of each of them. -/
structure Fare (handlers : List (Instant × Handler)) (watcher : Watcher (Instant × Handler) (SinkLog × ω))
    (looks : List (Look (Instant × Handler) (SinkLog × ω)))
    (answer : Except Failure Unit × List (Instant × Handler) × Watcher (Instant × Handler) (SinkLog × ω)) : Prop where
  looks_eq : looks.map (·.before.handler) = handlers
  accounts_eq : looks.map Look.account
    = (handlers.map Prod.snd).map (·.account answers takes settings state head)
  isOk_eq : answer.1.isOk = (handlers.map Prod.snd).all (·.account answers takes settings state head |>.succeeded)
  handlers_eq : answer.2.1.map Prod.snd
    = (handlers.map Prod.snd).map (·.account answers takes settings state head |>.after)
  state_eq : answer.2.2.state
    = if (handlers.map Prod.snd).any Fork.isFork then watcher.state.drainReorgs.2 else watcher.state
  accepted_eq : answer.2.2.world.1.accepted.map Draft.ofAlert = watcher.world.1.accepted.map Draft.ofAlert
    ++ (handlers.map Prod.snd).flatMap (·.account answers takes settings state head |>.delivered)

end

theorem isOk_mapError {ε ε' α : Type} (f : ε → ε') (result : Except ε α) : (result.mapError f).isOk = result.isOk := by
  cases result <;> rfl

theorem ite_drainReorgs (drained : Bool) (handler : Handler) (state : State) :
    (if drained then (handler.leaves state).drainReorgs.2 else handler.leaves state)
      = if Fork.isFork handler || drained then state.drainReorgs.2 else state := by
  cases drained <;> cases handler <;> rfl

theorem isFork_eq_false_of_name {handler : Handler} {rest : List (Instant × Handler)}
    (hfork : Fork.isFork handler = true) (hname : handler.name ∉ rest.map (·.2.name))
    : ∀ entry ∈ rest, Fork.isFork entry.2 = false := by
  intro entry hmem
  rw [← Bool.not_eq_true]
  intro hentry
  apply hname
  rw [Handler.name_of_isFork hfork, ← Handler.name_of_isFork hentry]
  exact List.mem_map_of_mem hmem

theorem any_isFork {handlers : List (Instant × Handler)} (hfork : "fork" ∈ handlers.map (·.2.name))
    : (handlers.map Prod.snd).any Fork.isFork = true := by
  obtain ⟨⟨now, handler⟩, hmem, hname⟩ := List.mem_map.mp hfork
  refine List.any_eq_true.mpr ⟨handler, List.mem_map_of_mem hmem, ?_⟩
  cases handler with
  | fork => rfl
  | slashing | exit | withdrawal | consolidation => simp [Handler.name] at hname

section

variable {answers : Option ExitAnswers} {takes : Draft → Bool} {settings : Settings} {state : State}
  {head : Head} {handlers : List (Instant × Handler)} {watcher : Watcher (Instant × Handler) (SinkLog × ω)}
  {looks : List (Look (Instant × Handler) (SinkLog × ω))}
  {answer : Except Failure Unit × List (Instant × Handler) × Watcher (Instant × Handler) (SinkLog × ω)}
  (h : Fare answers takes settings state head handlers watcher looks answer)

include h

theorem Fare.map_accepted
    : (answer.2.2.world.1.accepted.drop watcher.world.1.accepted.length).map Draft.ofAlert
        = (handlers.map Prod.snd).flatMap (·.account answers takes settings state head |>.delivered) := by
  rw [List.map_drop, h.accepted_eq]
  exact List.drop_left' (List.length_map _)

theorem Fare.state_of_fork (hstate : watcher.state = state) (hfork : "fork" ∈ handlers.map (·.2.name))
    : answer.2.2.state = { state with reorgs := ∅ } := by
  rw [h.state_eq, any_isFork hfork, hstate]
  rfl

end

/-- The account of one more handler that has looked before the others. -/
theorem Fare.cons {answers : Option ExitAnswers} {takes : Draft → Bool} {settings : Settings} {state : State}
    {head : Head} {rest : List (Instant × Handler)} {left : Watcher (Instant × Handler) (SinkLog × ω)}
    {looks : List (Look (Instant × Handler) (SinkLog × ω))}
    {answer : Except Failure Unit × List (Instant × Handler) × Watcher (Instant × Handler) (SinkLog × ω)}
    (h : Fare answers takes settings state head rest left looks answer) {now : Instant} {handler : Handler}
    {watcher : Watcher (Instant × Handler) (SinkLog × ω)} {result : Except Failure Unit} {world' : ω} (name : String)
    (hstate : left.state = handler.leaves watcher.state)
    (hok : result.isOk = (handler.account answers takes settings state head).succeeded)
    (haccepted : left.world.1.accepted = watcher.world.1.accepted
      ++ (handler.account answers takes settings state head).delivered.map (·.alert now))
    : let entry := (now, (handler.account answers takes settings state head).after)
      let look : Look (Instant × Handler) (SinkLog × ω) :=
        ⟨head, ⟨(now, handler), watcher.state, watcher.world⟩, result, ⟨entry, left.state, left.world.1, world'⟩⟩
      Fare answers takes settings state head ((now, handler) :: rest) watcher (look :: looks)
        (firstFailure (result.mapError (handlerFailure name)) answer.1, entry :: answer.2.1, answer.2.2) := by
  intro entry look
  constructor
  . rw [List.map_cons, h.looks_eq]
  . rw [List.map_cons, List.map_cons, h.accounts_eq]
    congr 1
    unfold look Look.account
    dsimp only
    rw [haccepted, List.drop_left, Draft.map_ofAlert_map_alert, hok]
    rfl
  . rw [isOk_firstFailure, isOk_mapError, hok, h.isOk_eq]
    rfl
  . rw [List.map_cons, h.handlers_eq]
    rfl
  . rw [h.state_eq, hstate, ite_drainReorgs]
    rfl
  . rw [h.accepted_eq, haccepted, List.map_append, Draft.map_ofAlert_map_alert, List.append_assoc]
    rfl

section

variable {answers : Option ExitAnswers} {sink : Sink ω} {takes : Draft → Bool} {plan : Plan Handler (SinkLog × ω)}
  {state : State} {head : Head} (hsink : sink.DecidesBy takes)
  (hslots : ∀ handled ∈ state.handled, handled.slot.toNat + 1 < UInt64.size) (hnext : head.HasNext)

include hsink hslots hnext

theorem fare_runHandlers (handlers : List (Instant × Handler))
    (watcher : Watcher (Instant × Handler) (SinkLog × ω)) (hscan : ∀ entry ∈ handlers, entry.2.CanScan)
    (hnodup : (handlers.map (·.2.name)).Nodup)
    (hstate : watcher.state = state
      ∨ watcher.state = state.drainReorgs.2 ∧ ∀ entry ∈ handlers, Fork.isFork entry.2 = false)
    : let timed := plan.timed ⟨answers.map (·.oracle), sink.logged⟩
      Fare answers takes plan.settings state head handlers watcher
        (looks timed head handlers watcher.state watcher.world) (runHandlers timed head handlers watcher) := by
  intro timed
  induction handlers generalizing watcher with
  | nil => exact ⟨rfl, rfl, rfl, rfl, rfl, (List.append_nil _).symm⟩
  | cons entry rest ih =>
    obtain ⟨now, handler⟩ := entry
    rw [List.forall_mem_cons] at hscan
    rw [List.map_cons, List.nodup_cons] at hnodup
    have haccount : handler.account answers takes plan.settings watcher.state head
        = handler.account answers takes plan.settings state head := by
      rcases hstate with hstate | ⟨hstate, hothers⟩
      . rw [hstate]
      . rw [hstate]
        exact Handler.account_drainReorgs _ _ _ _ _ (hothers _ List.mem_cons_self)
    have hslots' : ∀ handled ∈ watcher.state.handled, handled.slot.toNat + 1 < UInt64.size := by
      rcases hstate with hstate | ⟨hstate, -⟩ <;> exact hstate ▸ hslots
    obtain ⟨result, log', world', hrun, hok, haccepted⟩ := Handler.run_handle_logged hsink plan.settings hslots' hnext
      hscan.1 now watcher.world.1 watcher.world.2
    rw [haccount] at hrun hok haccepted
    let after : Desk (Instant × Handler) (SinkLog × ω) :=
      ⟨(now, (handler.account answers takes plan.settings state head).after), handler.leaves watcher.state,
        log', world'⟩
    have htimed : (timed.services.handle timed.settings head).run ⟨(now, handler), watcher.state, watcher.world⟩
        = (result.mapError .report, after) :=
      Plan.run_timed hrun
    have hoverflow : isOverflow (result.mapError .report) = false := by
      cases result <;> rfl
    have hstate' : handler.leaves watcher.state = state
        ∨ handler.leaves watcher.state = state.drainReorgs.2 ∧ ∀ entry ∈ rest, Fork.isFork entry.2 = false := by
      cases hfork : Fork.isFork handler with
      | false =>
        rw [Handler.leaves_of_other _ hfork]
        exact hstate.imp_right fun ⟨hdrained, hothers⟩ => ⟨hdrained, (List.forall_mem_cons.mp hothers).2⟩
      | true =>
        rw [Handler.leaves_of_fork _ hfork]
        refine .inr ⟨?_, isFork_eq_false_of_name hfork hnodup.1⟩
        rcases hstate with hstate | ⟨hstate, -⟩ <;> rw [hstate]
        rfl
    have hrest := ih (watcher.leave timed (now, handler) (result.mapError .report) after) hscan.2 hnodup.2 hstate'
    rw [← isOk_mapError Failure.report] at hok
    rw [looks_cons htimed, runHandlers_cons_leave htimed hoverflow, hoverflow, if_neg Bool.false_ne_true]
    exact hrest.cons _ rfl hok haccepted

/--
The handlers of a head are independent of each other if their sink decides by the drafts and the oracle does not change
its mind: in any two orders, with alerts that are fired at any instants, each of them looks and comes to the same
account, which tells how it was before, whether it succeeded, what was taken of its alerts one after the other, and
what it is afterwards. So the same alerts are taken in all, the same handlers are left, and what the watcher knows is
the same too, without the reorganisations that waited.
-/
theorem looks_independent {handlers handlers' : List (Instant × Handler)}
    (watcher watcher' : Watcher (Instant × Handler) (SinkLog × ω))
    (hstate : watcher.state = state) (hstate' : watcher'.state = state)
    (horder : (handlers.map Prod.snd).Perm (handlers'.map Prod.snd))
    (hnodup : (handlers.map (·.2.name)).Nodup) (hfork : "fork" ∈ handlers.map (·.2.name))
    (hscan : ∀ entry ∈ handlers, entry.2.CanScan)
    : let timed := plan.timed ⟨answers.map (·.oracle), sink.logged⟩
      let seen := looks timed head handlers state watcher.world
      let seen' := looks timed head handlers' state watcher'.world
      let answer := runHandlers timed head handlers watcher
      let answer' := runHandlers timed head handlers' watcher'
      let accepted := answer.2.2.world.1.accepted.drop watcher.world.1.accepted.length
      let accepted' := answer'.2.2.world.1.accepted.drop watcher'.world.1.accepted.length
      (seen.map (·.before.handler) = handlers ∧ seen'.map (·.before.handler) = handlers')
        ∧ (seen.map Look.account).Perm (seen'.map Look.account)
        ∧ (accepted.map Draft.ofAlert).Perm (accepted'.map Draft.ofAlert)
        ∧ (answer.2.1.map Prod.snd).Perm (answer'.2.1.map Prod.snd)
        ∧ answer.1.isOk = answer'.1.isOk
        ∧ (answer.2.2.state = { state with reorgs := ∅ } ∧ answer'.2.2.state = { state with reorgs := ∅ }) := by
  intro timed seen seen' answer answer' accepted accepted'
  have hnames := horder.map Handler.name
  rw [List.map_map, List.map_map] at hnames
  have hscan' : ∀ entry ∈ handlers', entry.2.CanScan := by
    intro entry hmem
    obtain ⟨other, hother, heq⟩ := List.mem_map.mp (horder.mem_iff.mpr (List.mem_map_of_mem hmem))
    rw [← heq]
    exact hscan other hother
  have hfare : Fare answers takes plan.settings state head handlers watcher seen answer := by
    subst hstate
    exact fare_runHandlers hsink hslots hnext handlers watcher hscan hnodup (.inl rfl)
  have hfare' : Fare answers takes plan.settings state head handlers' watcher' seen' answer' := by
    subst hstate'
    exact fare_runHandlers hsink hslots hnext handlers' watcher' hscan' (hnames.nodup_iff.mp hnodup) (.inl rfl)
  have haccepted := hfare.map_accepted
  have haccepted' := hfare'.map_accepted
  refine ⟨⟨hfare.looks_eq, hfare'.looks_eq⟩, ?_, ?_, ?_, ?_, ?_, ?_⟩
  . rw [hfare.accounts_eq, hfare'.accounts_eq]
    exact horder.map _
  . rw [haccepted, haccepted']
    exact horder.flatMap_right _
  . rw [hfare.handlers_eq, hfare'.handlers_eq]
    exact horder.map _
  . rw [hfare.isOk_eq, hfare'.isOk_eq]
    exact horder.all_eq
  . exact hfare.state_of_fork hstate hfork
  . exact hfare'.state_of_fork hstate' (hnames.mem_iff.mp hfork)

end

namespace Reversed

/-- Everything is taken but what is said about reorganisations. -/
def takes (draft : Draft) : Bool := draft.kind.name != Fork.reorgKind.name

def sink : Sink Unit where
  deliver alerts := .ofExcept (if alerts.all (takes ∘ Draft.ofAlert) then .ok () else .error (.plain "refused"))

/-- There is no oracle to ask. -/
def answers : Option ExitAnswers := none

def plan : Plan Handler (SinkLog × Unit) where
  services := {
    handlerName := Handler.name
    handle settings head := Handler.handle ⟨none, sink.logged⟩ settings ⟨0, 0⟩ head
    header _ _ := .ofExcept (.error (.rejected "header"))
    block _ := .ofExcept (.error (.rejected "block"))
    validators := pure []
    reorgs := pure []
    updateKeys := pure none
    clock _ := 0 }
  settings := ⟨⟨"mainnet"⟩, ∅, []⟩
  genesisTime := 0

/-- A head with the exit of a validator that nobody knows. -/
def head : Head :=
  ⟨⟨"0x0b", true, ⟨11, 1, "0x0a", "0x03"⟩⟩, ⟨11, "0x0a", ⟨some ⟨7⟩, [⟨5⟩], [], [], none⟩⟩⟩

def state : State := (State.empty 96).insertReorg ⟨10, 2, "0x08", "0x09"⟩

def handlers : List (Instant × Handler) :=
  [(⟨0, 0⟩, .slashing (.empty 10)), (⟨1, 0⟩, .fork (.empty 10)), (⟨2, 0⟩, .exit (.start 100 [])),
    (⟨3, 0⟩, .withdrawal (.empty 10)), (⟨4, 0⟩, .consolidation (.empty 10))]

def watcher : Watcher (Instant × Handler) (SinkLog × Unit) := .start handlers state 0 none ([], ())

theorem sink_decidesBy : sink.DecidesBy takes := by
  intro draft now world
  unfold sink
  rw [Action.run_ofExcept]
  cases htakes : takes draft <;> simp [htakes] <;> rfl

def seen (handlers : List (Instant × Handler)) : List (Look (Instant × Handler) (SinkLog × Unit)) :=
  looks (plan.timed ⟨answers.map (·.oracle), sink.logged⟩) head handlers state ([], ())

def answer (handlers : List (Instant × Handler)) :
    Except Failure Unit × List (Instant × Handler) × Watcher (Instant × Handler) (SinkLog × Unit) :=
  runHandlers (plan.timed ⟨answers.map (·.oracle), sink.logged⟩) head handlers watcher

def accepted (handlers : List (Instant × Handler)) : List Draft :=
  (answer handlers).2.2.world.1.accepted.map Draft.ofAlert

theorem accepted_handlers : (accepted handlers).map (·.kind) = [ExitWatch.unknownKind] := by
  decide +kernel

theorem isOk_handlers : (answer handlers).1.isOk = false := by
  decide +kernel

/-- What is refused keeps none of the other alerts from being taken, in either order. -/
theorem looks_independent_reversed :
    ((seen handlers).map Look.account).Perm ((seen handlers.reverse).map Look.account)
      ∧ (accepted handlers.reverse).map (·.kind) = [ExitWatch.unknownKind]
      ∧ (answer handlers.reverse).1.isOk = false
      ∧ (answer handlers.reverse).2.2.state = { state with reorgs := ∅ } := by
  have hslots : ∀ handled ∈ state.handled, handled.slot.toNat + 1 < UInt64.size := List.forall_mem_nil _
  have hnext : head.HasNext := by
    intro block hblock
    cases hblock
    decide
  have horder : (handlers.map Prod.snd).Perm (handlers.reverse.map Prod.snd) :=
    (handlers.reverse_perm.map Prod.snd).symm
  have hscan : ∀ entry ∈ handlers, entry.2.CanScan := by
    simp only [handlers, List.forall_mem_cons]
    exact ⟨trivial, trivial, nofun, trivial, trivial, List.forall_mem_nil _⟩
  have hnodup : (handlers.map (·.2.name)).Nodup := by decide
  have hfork : "fork" ∈ handlers.map (·.2.name) := by decide
  obtain ⟨-, haccounts, haccepted, -, hok, -, hstate⟩ := @looks_independent Unit answers sink takes plan state head
    sink_decidesBy hslots hnext handlers handlers.reverse watcher watcher rfl rfl horder hnodup hfork hscan
  have hkinds : ((accepted handlers).map (·.kind)).Perm ((accepted handlers.reverse).map (·.kind)) :=
    haccepted.map _
  rw [accepted_handlers, List.singleton_perm] at hkinds
  exact ⟨haccounts, hkinds.symm, hok.symm.trans isOk_handlers, hstate⟩

end Reversed
end Watcher
end Watch
end BeaconSentry
