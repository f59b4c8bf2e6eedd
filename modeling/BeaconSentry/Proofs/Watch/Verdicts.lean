import BeaconSentry.Watch.Cycle

/-!
This module contains what the handlers make of a head, one by one, and what the watcher makes of that.
-/

namespace BeaconSentry

namespace Watch

open Beacon

namespace Watcher

variable {η ω : Type}

/-- Whether a handler ended since a number left its range. -/
def isOverflow : Except Failure Unit → Bool
  | .error (.overflow _) => true
  | _ => false

/-- The report with which a handler ended. -/
def report? : Except Failure Unit → Option Report
  | .error (.report report) => some report
  | _ => none

/-- How each handler ends that looks at a head after those before it. -/
def verdicts (plan : Plan η ω) (head : Head) : List η → Watcher η ω → List (Except Failure Unit)
  | [], _ => []
  | handler :: rest, watcher =>
    let (verdict, desk) :=
      (plan.services.handle plan.settings head).run ⟨handler, watcher.state, watcher.world⟩
    let watcher := { watcher with state := desk.state, world := desk.world }
    verdict :: verdicts plan head rest (watcher.note (plan.services.handlerName handler) verdict.isOk)

/-- What the watcher makes of how its handlers ended. -/
inductive Judged (verdicts : List (Except Failure Unit)) : Except Failure Unit → Prop
  | accepted (hall : ∀ verdict ∈ verdicts, verdict = .ok ()) : Judged verdicts (.ok ())
  | reported {report : Report} (name : String) (hrange : ∀ verdict ∈ verdicts, isOverflow verdict = false)
      (hfirst : verdicts.findSome? report? = some report) :
    Judged verdicts (.error (.report (.context s!"{name} handler failed" report)))
  | overflowed {overflow : Overflow} (hmem : .error (.overflow overflow) ∈ verdicts) :
    Judged verdicts (.error (.overflow overflow))

theorem length_verdicts (plan : Plan η ω) (head : Head) (handlers : List η) (watcher : Watcher η ω) :
    (verdicts plan head handlers watcher).length = handlers.length := by
  induction handlers generalizing watcher with
  | nil => rfl
  | cons handler rest ih =>
    unfold verdicts
    rw [List.length_cons, List.length_cons, ih]

theorem Judged.cons {verdicts : List (Except Failure Unit)} {later : Except Failure Unit}
    (h : Judged verdicts later) (name : String) (verdict : Except Failure Unit) (hverdict : isOverflow verdict = false)
    : Judged (verdict :: verdicts) (firstFailure (verdict.mapError (handlerFailure name)) later) := by
  cases h with
  | accepted hall =>
    cases verdict with
    | ok =>
      apply Judged.accepted
      simpa using hall
    | error failure =>
      cases failure with
      | overflow => cases hverdict
      | report report =>
        apply Judged.reported name
        . simp only [List.forall_mem_cons, isOverflow, true_and]
          intro verdict hmem
          rw [hall verdict hmem]
        . rfl
  | reported name' hrange hfirst =>
    cases verdict with
    | ok =>
      apply Judged.reported name'
      . simpa [isOverflow] using hrange
      . exact hfirst
    | error failure =>
      cases failure with
      | overflow => cases hverdict
      | report report =>
        apply Judged.reported name
        . simpa [isOverflow] using hrange
        . rfl
  | @overflowed overflow hmem =>
    have : firstFailure (verdict.mapError (handlerFailure name)) (.error (.overflow overflow))
        = .error (.overflow overflow) := by
      cases verdict <;> rfl
    rw [this]
    exact .overflowed (List.mem_cons_of_mem _ hmem)

theorem Judged.eq_ok {verdicts : List (Except Failure Unit)} {result : Except Failure Unit} (h : Judged verdicts result)
    (hall : ∀ verdict ∈ verdicts, verdict = .ok ()) : result = .ok () := by
  cases h with
  | accepted => rfl
  | reported name hrange hfirst =>
    obtain ⟨verdict, hmem, hreport⟩ := List.exists_of_findSome?_eq_some hfirst
    rw [hall verdict hmem] at hreport
    cases hreport
  | overflowed hmem => cases hall _ hmem

theorem Judged.eq_report {verdicts : List (Except Failure Unit)} {result : Except Failure Unit} {report : Report}
    (h : Judged verdicts result) (hrange : ∀ verdict ∈ verdicts, isOverflow verdict = false)
    (hfirst : verdicts.findSome? report? = some report)
    : ∃ name : String, result = .error (.report (.context s!"{name} handler failed" report)) := by
  cases h with
  | accepted hall =>
    obtain ⟨verdict, hmem, hreport⟩ := List.exists_of_findSome?_eq_some hfirst
    rw [hall verdict hmem] at hreport
    cases hreport
  | reported name _ hfirst' =>
    rw [hfirst] at hfirst'
    cases hfirst'
    exact ⟨name, rfl⟩
  | overflowed hmem => cases hrange _ hmem

theorem judged_runHandlers (plan : Plan η ω) (head : Head) (handlers : List η) (watcher : Watcher η ω) :
    Judged (verdicts plan head handlers watcher) (runHandlers plan head handlers watcher).1 := by
  induction handlers generalizing watcher with
  | nil =>
    apply Judged.accepted
    intro verdict hmem
    cases hmem
  | cons handler rest ih =>
    unfold runHandlers verdicts
    generalize (plan.services.handle plan.settings head).run ⟨handler, watcher.state, watcher.world⟩ = answer
    rcases answer with ⟨_ | ⟨_⟩, desk⟩
    . next failure =>
      cases failure with
      | report => exact (ih _).cons _ _ rfl
      | overflow => exact .overflowed (List.mem_cons_self ..)
    . exact (ih _).cons _ _ rfl

theorem runHandlers_cons {plan : Plan η ω} {head : Head} {handler : η} {rest : List η} {watcher : Watcher η ω}
    {verdict : Except Failure Unit} {desk : Desk η ω}
    (hrun : (plan.services.handle plan.settings head).run ⟨handler, watcher.state, watcher.world⟩ = (verdict, desk))
    (hverdict : isOverflow verdict = false)
    : runHandlers plan head (handler :: rest) watcher =
        let name := plan.services.handlerName handler
        let (later, handlers, after) :=
          runHandlers plan head rest ({ watcher with state := desk.state, world := desk.world }.note name verdict.isOk)
        (firstFailure (verdict.mapError (handlerFailure name)) later, desk.handler :: handlers, after) := by
  rw [runHandlers, hrun]
  rcases verdict with (_ | _) | _
  . rfl
  . cases hverdict
  . rfl

end Watcher
end Watch
end BeaconSentry
