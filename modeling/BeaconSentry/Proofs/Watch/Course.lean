import BeaconSentry.Proofs.Watch.Lineage
import BeaconSentry.Proofs.Watch.Order

/-!
This module contains what the handler for forks sees of the watcher: while the watcher follows the head of the chain,
all that happens is a course of steps for this handler.
-/

namespace BeaconSentry
namespace Watch
namespace Fork

open Beacon Watcher

variable {ω : Type}

def isFork : Handler → Bool
  | .fork _ => true
  | _ => false

/-- The desk of a handler for forks that has no other one beside it. -/
inductive IsDesk (watcher : Watcher Handler ω) : Desk Handler ω → Prop
  | intro {earlier later : List Handler} {sent : SentAlerts}
      (hhandlers : watcher.handlers = earlier ++ .fork sent :: later)
      (hearlier : ∀ handler ∈ earlier, isFork handler = false) (hlater : ∀ handler ∈ later, isFork handler = false) :
    IsDesk watcher ⟨.fork sent, watcher.state, watcher.world⟩

theorem IsDesk.cons {watcher : Watcher Handler ω} {handlers : List Handler} {handler : Handler} {desk : Desk Handler ω}
    (h : IsDesk { watcher with handlers } desk) (hother : isFork handler = false)
    : IsDesk { watcher with handlers := handler :: handlers } desk := by
  cases h with
  | @intro earlier later sent heq hearlier hlater =>
    have heq : handler :: handlers = (handler :: earlier) ++ .fork sent :: later := congrArg (handler :: ·) heq
    exact .intro heq (List.forall_mem_cons.mpr ⟨hother, hearlier⟩) hlater

/-- What happens between two states of a watcher is a course of steps for its handler for forks. -/
def IsCourse (outlets : Outlets ω) (settings : Settings) (watcher watcher' : Watcher Handler ω) : Prop :=
  ∀ desk, IsDesk watcher desk → ∃ steps, IsDesk watcher' (Step.run outlets settings steps desk)

namespace IsCourse

variable {outlets : Outlets ω} {settings : Settings} {watcher watcher' watcher'' : Watcher Handler ω}

theorem trans (h : IsCourse outlets settings watcher watcher') (h' : IsCourse outlets settings watcher' watcher'')
    : IsCourse outlets settings watcher watcher'' := by
  intro desk hdesk
  obtain ⟨steps, hdesk'⟩ := h desk hdesk
  obtain ⟨steps', hdesk''⟩ := h' _ hdesk'
  refine ⟨steps ++ steps', ?_⟩
  unfold Step.run at *
  rw [List.foldl_append]
  exact hdesk''

theorem of_take (step : Step ω) (hhandlers : watcher'.handlers = watcher.handlers)
    (htake : ∀ sent, step.take outlets settings ⟨.fork sent, watcher.state, watcher.world⟩
      = ⟨.fork sent, watcher'.state, watcher'.world⟩)
    : IsCourse outlets settings watcher watcher' := by
  intro desk hdesk
  cases hdesk with
  | intro heq hearlier hlater =>
    rw [← hhandlers] at heq
    refine ⟨[step], ?_⟩
    unfold Step.run
    rw [List.foldl_cons, List.foldl_nil, htake]
    exact .intro heq hearlier hlater

/-- What touches neither the handlers nor what the watcher knows goes on outside. -/
theorem of_eq (hhandlers : watcher'.handlers = watcher.handlers) (hstate : watcher'.state = watcher.state)
    : IsCourse outlets settings watcher watcher' := by
  apply of_take (.outside fun _ => watcher'.world) hhandlers
  intro sent
  rw [hstate]
  rfl

theorem refl (watcher : Watcher Handler ω) : IsCourse outlets settings watcher watcher := of_eq rfl rfl

end IsCourse

section

variable {plan : Plan Handler ω} {outlets : Outlets ω} {now : Instant}

theorem isCourse_stepKeys (outlets : Outlets ω) (plan : Plan Handler ω) (watcher : Watcher Handler ω) :
    IsCourse outlets plan.settings watcher (watcher.stepKeys plan) := by
  unfold stepKeys
  split
  . exact .refl watcher
  . unfold answeredKeys
    dsimp only
    split <;> exact .of_eq rfl rfl
  . next keys _ => exact .of_take (.replaceKeys keys) rfl fun _ => rfl

theorem isCourse_stepRegistry (outlets : Outlets ω) (plan : Plan Handler ω) (watcher : Watcher Handler ω) :
    IsCourse outlets plan.settings watcher (watcher.stepRegistry plan) := by
  unfold stepRegistry
  split
  . exact .refl watcher
  . unfold readRegistry
    dsimp only
    split <;> exact .of_eq rfl rfl
  . split <;> exact .of_eq rfl rfl
  . next merged _ => exact .of_take (.replaceRegistry merged) rfl fun _ => rfl

theorem isCourse_settle (outlets : Outlets ω) (plan : Plan Handler ω) (watcher : Watcher Handler ω) :
    IsCourse outlets plan.settings watcher (watcher.settle plan) := by
  have hkeys := isCourse_stepKeys outlets plan
  have hregistry := isCourse_stepRegistry outlets plan
  unfold settle
  exact ((((hkeys _).trans (hkeys _)).trans (hregistry _)).trans (hregistry _)).trans (hregistry _)

theorem isCourse_takeReorgs {ε : Type} (outlets : Outlets ω) (settings : Settings) (watcher : Watcher Handler ω)
    (reorgs : List (Except ε Reorg)) :
    IsCourse outlets settings watcher { watcher with state := takeReorgs watcher.state reorgs } := by
  induction reorgs generalizing watcher with
  | nil => exact .refl watcher
  | cons first rest ih =>
    cases first with
    | error => exact .refl watcher
    | ok reorg =>
      rw [takeReorgs]
      have hannounce : IsCourse outlets settings watcher { watcher with state := watcher.state.insertReorg reorg } :=
        .of_take (.announce reorg) rfl fun _ => rfl
      exact hannounce.trans (ih _)

theorem isCourse_listen (outlets : Outlets ω) (plan : Plan Handler ω) (watcher : Watcher Handler ω) :
    IsCourse outlets plan.settings watcher (watcher.listen plan) := by
  unfold Watcher.listen
  split
  . next reorgs _ _ =>
    exact (isCourse_takeReorgs outlets plan.settings watcher reorgs).trans (.of_eq rfl rfl)
  . exact .of_eq rfl rfl

theorem isCourse_polling (outlets : Outlets ω) (plan : Plan Handler ω) (watcher : Watcher Handler ω) :
    IsCourse outlets plan.settings watcher (watcher.polling plan) :=
  (isCourse_settle outlets plan watcher).trans (isCourse_listen outlets plan _)

theorem isCourse_noteEnd {α : Type} (outlets : Outlets ω) (settings : Settings) (name : String)
    (result : Except Failure α) (watcher : Watcher Handler ω) :
    IsCourse outlets settings watcher (watcher.noteEnd name result) := by
  unfold noteEnd
  split <;> exact .of_eq rfl rfl

/-- After a handler, the ones behind it look at the head, unless a number has left its range. -/
theorem runHandlers_cons_cases {head : Head} {handler : Handler} {watcher : Watcher Handler ω}
    {result : Except Failure Unit} {desk : Desk Handler ω} (rest : List Handler)
    (hrun : (plan.services.handle plan.settings head).run ⟨handler, watcher.state, watcher.world⟩ = (result, desk))
    : let left : Watcher Handler ω := { watcher with state := desk.state, world := desk.world }
      (runHandlers plan head (handler :: rest) watcher).2 = (desk.handler :: rest, left)
        ∨ ∃ name succeeded, (runHandlers plan head (handler :: rest) watcher).2
          = ((runHandlers plan head rest (left.note name succeeded)).2.map (desk.handler :: ·) id) := by
  rw [runHandlers]
  dsimp only
  rw [hrun]
  split
  . next heq =>
    cases heq
    exact .inl rfl
  . next heq =>
    cases heq
    exact .inr ⟨_, _, rfl⟩

variable (hplan : plan.services.handle = fun settings head => Handler.handle outlets settings now head)

include hplan

/-- Handlers of other kinds leave alone what the watcher knows. -/
theorem exists_run_other {handler : Handler} (hother : isFork handler = false) (head : Head) (state : State)
    (world : ω)
    : ∃ result handler' world', isFork handler' = false
      ∧ (plan.services.handle plan.settings head).run ⟨handler, state, world⟩
        = (result, ⟨handler', state, world'⟩) := by
  rw [hplan]
  cases handler with
  | fork => cases hother
  | slashing | exit | withdrawal | consolidation => exact ⟨_, _, _, rfl, rfl⟩

theorem runHandlers_others (head : Head) {handlers : List Handler}
    (hothers : ∀ handler ∈ handlers, isFork handler = false) (watcher : Watcher Handler ω)
    : (runHandlers plan head handlers watcher).2.2.state = watcher.state
      ∧ ∀ handler ∈ (runHandlers plan head handlers watcher).2.1, isFork handler = false := by
  induction handlers generalizing watcher with
  | nil => exact ⟨rfl, hothers⟩
  | cons handler rest ih =>
    rw [List.forall_mem_cons] at hothers
    obtain ⟨result, handler', world', hother, hrun⟩ :=
      exists_run_other hplan hothers.1 head watcher.state watcher.world
    rcases runHandlers_cons_cases rest hrun with hanswer | ⟨name, succeeded, hanswer⟩
    . rw [hanswer]
      exact ⟨rfl, List.forall_mem_cons.mpr ⟨hother, hothers.2⟩⟩
    . rw [hanswer]
      obtain ⟨hstate, hrest⟩ := ih hothers.2 ((watcher.inWorld world').note name succeeded)
      exact ⟨hstate, List.forall_mem_cons.mpr ⟨hother, hrest⟩⟩

theorem isDesk_runHandlers_others (head : Head) (sent : SentAlerts) {handlers : List Handler}
    (hothers : ∀ handler ∈ handlers, isFork handler = false) (watcher : Watcher Handler ω)
    : let answer := runHandlers plan head handlers watcher
      ∃ world, IsDesk { answer.2.2 with handlers := .fork sent :: answer.2.1 } ⟨.fork sent, watcher.state, world⟩ := by
  obtain ⟨hstate, hrest⟩ := runHandlers_others hplan head hothers watcher
  rw [← hstate]
  exact ⟨_, .intro (List.nil_append _).symm (List.forall_mem_nil _) hrest⟩

theorem isDesk_runHandlers (head : Head) {earlier later : List Handler} (sent : SentAlerts)
    (hearlier : ∀ handler ∈ earlier, isFork handler = false) (hlater : ∀ handler ∈ later, isFork handler = false)
    (watcher : Watcher Handler ω)
    : let answer := runHandlers plan head (earlier ++ .fork sent :: later) watcher
      ∃ steps, IsDesk { answer.2.2 with handlers := answer.2.1 }
        (Step.run outlets plan.settings steps ⟨.fork sent, watcher.state, watcher.world⟩) := by
  induction earlier generalizing watcher with
  | nil =>
    obtain ⟨result, sent', world', hrun⟩ :=
      exists_run_handle outlets plan.settings now head sent watcher.state watcher.world
    have hlook : Step.take outlets plan.settings ⟨.fork sent, watcher.state, watcher.world⟩ (.look now head)
        = ⟨.fork sent', watcher.state.drainReorgs.2, world'⟩ := by
      rw [Step.take, hrun]
    have hrun : (plan.services.handle plan.settings head).run ⟨.fork sent, watcher.state, watcher.world⟩
        = (result, ⟨.fork sent', watcher.state.drainReorgs.2, world'⟩) := by
      rw [hplan, hrun]
    rw [List.nil_append]
    dsimp only
    rcases runHandlers_cons_cases later hrun with hanswer | ⟨name, succeeded, hanswer⟩
    . rw [hanswer]
      refine ⟨[.look now head], ?_⟩
      unfold Step.run
      rw [List.foldl_cons, List.foldl_nil, hlook]
      exact .intro (List.nil_append _).symm (List.forall_mem_nil _) hlater
    . rw [hanswer]
      let left : Watcher Handler ω := { watcher with state := watcher.state.drainReorgs.2, world := world' }
      obtain ⟨after, hdesk⟩ := isDesk_runHandlers_others hplan head sent' hlater (left.note name succeeded)
      refine ⟨[.look now head, .outside fun _ => after], ?_⟩
      unfold Step.run
      rw [List.foldl_cons, hlook]
      exact hdesk
  | cons handler rest ih =>
    rw [List.forall_mem_cons] at hearlier
    obtain ⟨result, handler', world', hother, hrun⟩ :=
      exists_run_other hplan hearlier.1 head watcher.state watcher.world
    rw [List.cons_append]
    dsimp only
    rcases runHandlers_cons_cases (rest ++ .fork sent :: later) hrun with hanswer | ⟨name, succeeded, hanswer⟩
    . rw [hanswer]
      refine ⟨[.outside fun _ => world'], ?_⟩
      apply IsDesk.cons _ hother
      exact .intro rfl hearlier.2 hlater
    . rw [hanswer]
      obtain ⟨steps, hdesk⟩ := ih hearlier.2 ((watcher.inWorld world').note name succeeded)
      exact ⟨.outside (fun _ => world') :: steps, hdesk.cons hother⟩

theorem isCourse_consulted (head : Head) (watcher : Watcher Handler ω)
    : IsCourse outlets plan.settings watcher (watcher.consulted plan head) := by
  let answer := runHandlers plan head watcher.handlers watcher
  have hrun : IsCourse outlets plan.settings watcher { answer.2.2 with handlers := answer.2.1 } := by
    intro desk hdesk
    cases hdesk with
    | intro heq hearlier hlater =>
      unfold answer
      rw [heq]
      exact isDesk_runHandlers hplan head _ hearlier hlater watcher
  exact hrun.trans (isCourse_noteEnd outlets plan.settings "handle_head" answer.1 _)

theorem isCourse_cycle (id : BlockId) (watcher : Watcher Handler ω)
    : IsCourse outlets plan.settings watcher ((cycle plan id).run watcher).2 := by
  have hcycled := cycled_cycle plan id watcher
  generalize (cycle plan id).run watcher = outcome at hcycled
  rcases outcome with ⟨result, after⟩
  have hworld (world : ω) : IsCourse outlets plan.settings watcher (watcher.inWorld world) := .of_eq rfl rfl
  have hfacing (head : Head) (world : ω) : IsCourse outlets plan.settings watcher (watcher.facing head world) :=
    .of_eq rfl rfl
  cases hcycled with
  | @unfetched failure world =>
    have hnote := isCourse_noteEnd outlets plan.settings "get_header_full_info"
      (.error failure : Except Failure (Option Head)) (watcher.inWorld world)
    exact (hworld world).trans hnote
  | repeated => exact .of_eq rfl rfl
  | refused => exact (hfacing _ _).trans (isCourse_consulted hplan _ _)
  | @handled head world =>
    have hpush (watcher : Watcher Handler ω) : IsCourse outlets plan.settings watcher (watcher.remembered head) :=
      .of_take (.push head) rfl fun _ => rfl
    exact ((hfacing head world).trans (isCourse_consulted hplan head _)).trans (hpush _)

/-- While the watcher follows the head of the chain, its handler for forks sees nothing but steps. -/
theorem isCourse_follow (hasEnded : ω → Bool) (cycles : Nat) (watcher : Watcher Handler ω)
    : IsCourse outlets plan.settings watcher ((follow plan hasEnded cycles).run watcher).2 := by
  induction cycles generalizing watcher with
  | zero => exact .refl watcher
  | succ cycles ih =>
    have hpolling := isCourse_polling outlets plan watcher
    have hcycle := hpolling.trans (isCourse_cycle hplan .head (watcher.polling plan))
    rw [run_follow_succ]
    dsimp only
    split
    . exact hcycle.trans (ih _)
    . split
      . next hrun =>
        rw [hrun] at hcycle
        exact hcycle
      . exact hpolling.trans (.of_eq rfl rfl)

/-- So what the handler finds is up to the steps that the watcher has gone through. -/
theorem tracks_follow (hasEnded : ω → Bool) (cycles : Nat) {watcher : Watcher Handler ω} {desk : Desk Handler ω}
    {capacity : Nat} (hdesk : IsDesk watcher desk) (hstate : watcher.state = .empty capacity)
    : ∃ steps, IsDesk ((follow plan hasEnded cycles).run watcher).2 (Step.run outlets plan.settings steps desk)
      ∧ Tracks capacity steps (Step.run outlets plan.settings steps desk) := by
  obtain ⟨steps, hfollow⟩ := isCourse_follow hplan hasEnded cycles watcher desk hdesk
  refine ⟨steps, hfollow, ?_⟩
  cases hdesk
  rw [hstate]
  apply tracks_run

end

end Fork
end Watch
end BeaconSentry
