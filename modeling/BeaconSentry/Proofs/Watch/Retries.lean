import BeaconSentry.Proofs.Watch.Cycle
import BeaconSentry.Proofs.Watch.Due
import Mathlib.Data.List.Forall2

/-!
This module contains the law of heads that are handled again and again until this succeeds: each alert is delivered
once, as if the first attempt had succeeded.
-/

namespace BeaconSentry
namespace Watch

open Beacon Exit

/--
The plan with handlers that send alerts through a courier at some instant, and learn of requests to exit from
unchanging answers.
-/
def Plan.sending (answers : Option ExitAnswers) (now : Instant) (plan : Plan Handler Courier) :
    Plan Handler Courier :=
  { plan with services := { plan.services with
      handlerName := Handler.name
      handle := fun settings head => Handler.handle ⟨answers.map (·.oracle), Courier.sink⟩ settings now head } }

namespace Watcher

/-- Handlers on their way from others, as the drafts tell that have been received from them. -/
abbrev HaveSent (answers : Option ExitAnswers) (settings : Settings) (state : State) (head : Head)
    (origins : List Handler) (received : List Draft) (handlers : List Handler) : Prop :=
  List.Forall₂
    (fun origin handler => Handler.HasSent answers settings state head origin (received.filter origin.sends) handler)
    origins handlers

/-- All drafts are sent by some of the handlers. -/
def AreFrom (handlers : List Handler) (drafts : List Draft) : Prop :=
  ∀ draft ∈ drafts, ∃ handler ∈ handlers, handler.sends draft = true

section

variable {answers : Option ExitAnswers} {settings : Settings} {state : State} {head : Head}

theorem AreFrom.append {handlers : List Handler} {xs ys : List Draft} (hxs : AreFrom handlers xs)
    (hys : AreFrom handlers ys) : AreFrom handlers (xs ++ ys) := by
  intro draft hmem
  rw [List.mem_append] at hmem
  cases hmem with
  | inl hmem => exact hxs draft hmem
  | inr hmem => exact hys draft hmem

theorem AreFrom.mono {handlers others : List Handler} {drafts : List Draft} (h : AreFrom handlers drafts)
    (hsubset : handlers ⊆ others) : AreFrom others drafts := by
  intro draft hmem
  have ⟨handler, hhandler, hsends⟩ := h draft hmem
  exact ⟨handler, hsubset hhandler, hsends⟩

/-- No drafts of handlers are sent by one with another name. -/
theorem AreFrom.filter_sends_eq_nil {handlers : List Handler} {drafts : List Draft} {other : Handler}
    (h : AreFrom handlers drafts) (hname : other.name ∉ handlers.map (·.name)) : drafts.filter other.sends = [] := by
  rw [List.filter_eq_nil_iff]
  intro draft hmem
  have ⟨handler, hhandler, hsends⟩ := h draft hmem
  rw [Bool.not_eq_true]
  refine Handler.sends_eq_false_of_sends ?_ hsends
  intro heq
  rw [heq] at hname
  exact hname (List.mem_map_of_mem hhandler)

theorem HaveSent.append {origins handlers : List Handler} {received taken : List Draft}
    (h : HaveSent answers settings state head origins received handlers)
    (htaken : ∀ origin ∈ origins, taken.filter origin.sends = [])
    : HaveSent answers settings state head origins (received ++ taken) handlers := by
  induction h with
  | nil => exact .nil
  | cons hsent _ ih =>
    rw [List.forall_mem_cons] at htaken
    refine .cons ?_ (ih htaken.2)
    rw [List.filter_append, htaken.1, List.append_nil]
    exact hsent

theorem areFrom_singleton_iff {handler : Handler} {drafts : List Draft} :
    AreFrom [handler] drafts ↔ ∀ draft ∈ drafts, handler.sends draft = true := by
  simp [AreFrom]

theorem areFrom_of_taken {origin : Handler} {sent todo taken : List Draft}
    (htodo : sent ++ todo = origin.due answers settings state head) (htaken : taken <+: todo)
    : AreFrom [origin] taken := by
  rw [areFrom_singleton_iff]
  intro draft hmem
  apply Handler.sends_of_mem_due answers settings state head
  rw [← htodo]
  exact List.mem_append_right _ (htaken.subset hmem)

theorem firstFailure_cases {verdict later : Except Failure Unit} {p q : Prop} (name : String)
    (hverdict : (verdict = .ok () ∧ p) ∨ ∃ report, verdict = .error (.report report))
    (hlater : (later = .ok () ∧ q) ∨ ∃ report, later = .error (.report report))
    : (firstFailure (verdict.mapError (handlerFailure name)) later = .ok () ∧ p ∧ q)
      ∨ ∃ report, firstFailure (verdict.mapError (handlerFailure name)) later = .error (.report report) := by
  rcases hverdict with ⟨rfl, hp⟩ | ⟨report, rfl⟩
  . rcases hlater with ⟨rfl, hq⟩ | ⟨report, rfl⟩
    . exact .inl ⟨rfl, hp, hq⟩
    . exact .inr ⟨report, rfl⟩
  . rcases hlater with ⟨rfl, _⟩ | ⟨_, rfl⟩
    . exact .inr ⟨_, rfl⟩
    . exact .inr ⟨_, rfl⟩

/-- How an attempt at a head can end, of handlers that have already sent what has been received. -/
structure Attempted (answers : Option ExitAnswers) (settings : Settings) (head : Head) (now : Instant)
    (origins : List Handler) (received : List Draft) (watcher : Watcher Handler Courier) (result : Except Failure Unit)
    (handlers : List Handler) (after : Watcher Handler Courier) (taken : List Draft) : Prop where
  haveSent : HaveSent answers settings watcher.state head origins (received ++ taken) handlers
  areFrom : AreFrom origins taken
  state_eq : after.state = watcher.state
  accepted_eq : after.world.accepted = watcher.world.accepted ++ taken.map (·.alert now)
  result_cases : (result = .ok () ∧ ∀ origin ∈ origins,
      (received ++ taken).filter origin.sends = origin.due answers settings watcher.state head)
    ∨ ∃ report, result = .error (.report report)
  fates_le : after.world.fates.length ≤ watcher.world.fates.length
  fates_lt : result ≠ .ok () → after.world.fates.length < watcher.world.fates.length

theorem Attempted.cons {now : Instant} {origin handler : Handler} {origins handlers : List Handler}
    {received todo taken taken' : List Draft} {watcher after : Watcher Handler Courier} {courier : Courier}
    {result later : Except Failure Unit} {succeeded : Bool}
    (htodo : received.filter origin.sends ++ todo = origin.due answers settings watcher.state head)
    (hsent : Handler.HasSent answers settings watcher.state head origin (received.filter origin.sends ++ taken) handler)
    (hresumed : Resumed now watcher.world todo result taken courier)
    (hattempted : Attempted answers settings head now origins (received ++ taken)
      ({ watcher with world := courier }.note origin.name succeeded) later handlers after taken')
    (hnames : origin.name ∉ origins.map (·.name))
    : Attempted answers settings head now (origin :: origins) received watcher
        (firstFailure (result.mapError (handlerFailure origin.name)) later) (handler :: handlers) after
        (taken ++ taken') := by
  have hfrom := areFrom_of_taken htodo hresumed.taken_prefix
  -- Nothing that the other handlers send is of a kind of the first one.
  have hfilter : (received ++ (taken ++ taken')).filter origin.sends = received.filter origin.sends ++ taken := by
    rw [List.filter_append, List.filter_append, hattempted.areFrom.filter_sends_eq_nil hnames, List.append_nil,
      List.filter_eq_self.mpr (areFrom_singleton_iff.mp hfrom)]
  refine ⟨.cons ?_ ?_, ?_, hattempted.state_eq, ?_, ?_, Nat.le_trans hattempted.fates_le hresumed.fates_le, ?_⟩
  . rw [hfilter]
    exact hsent
  . have hrest := hattempted.haveSent
    rw [List.append_assoc] at hrest
    exact hrest
  . exact (hfrom.mono (by simp)).append (hattempted.areFrom.mono (List.subset_cons_self ..))
  . rw [hattempted.accepted_eq, List.map_append, ← List.append_assoc, ← hresumed.accepted_eq]
    rfl
  . refine (firstFailure_cases origin.name hresumed.result_cases hattempted.result_cases).imp_left ?_
    intro ⟨hok, htaken, hdue⟩
    rw [List.append_assoc] at hdue
    refine ⟨hok, List.forall_mem_cons.mpr ⟨?_, hdue⟩⟩
    rw [hfilter, htaken, htodo]
  . intro hfailed
    by_cases hresult : result = .ok ()
    . have hlater : later ≠ .ok () := by
        intro hlater
        rw [hresult, hlater] at hfailed
        exact hfailed rfl
      exact Nat.lt_of_lt_of_le (hattempted.fates_lt hlater) hresumed.fates_le
    . exact Nat.lt_of_le_of_lt hattempted.fates_le (hresumed.fates_lt hresult)

theorem attempted_runHandlers {plan : Plan Handler Courier} {origins handlers : List Handler} {received : List Draft}
    (watcher : Watcher Handler Courier) (now : Instant)
    (h : HaveSent answers plan.settings watcher.state head origins received handlers)
    (hnames : (origins.map (·.name)).Nodup)
    (hready : ∀ origin ∈ origins, origin.IsReady answers plan.settings watcher.state head)
    (hnext : head.HasNext)
    : ∃ result handlers' after taken,
        runHandlers (plan.sending answers now) head handlers watcher = (result, handlers', after)
          ∧ Attempted answers plan.settings head now origins received watcher result handlers' after taken := by
  induction origins generalizing handlers received watcher with
  | nil =>
    cases h with
    | nil =>
      refine ⟨.ok (), [], watcher, [], rfl, ?_⟩
      exact ⟨.nil, nofun, rfl, (List.append_nil _).symm, .inl ⟨rfl, nofun⟩, Nat.le_refl _, fun h => absurd rfl h⟩
  | cons origin origins ih =>
    cases h with
    | @cons _ handler _ handlers hsent hrest =>
      rw [List.map_cons, List.nodup_cons] at hnames
      rw [List.forall_mem_cons] at hready
      have ⟨todo, result, taken, handler', courier, htodo, hrun, hsent', hresumed⟩ :=
        hsent.run_handle hready.1 hnext now watcher.world
      have hrun : ((plan.sending answers now).services.handle (plan.sending answers now).settings head).run
          ⟨handler, watcher.state, watcher.world⟩ = (result, ⟨handler', watcher.state, courier⟩) := hrun
      have hverdict : isOverflow result = false := by
        rcases hresumed.result_cases with ⟨hok, _⟩ | ⟨report, hreport⟩
        . rw [hok]
          rfl
        . rw [hreport]
          rfl
      -- For the others nothing changes, since nothing of what was just taken is of their kinds.
      have hothers : ∀ other ∈ origins, taken.filter other.sends = [] := by
        intro other hmem
        apply (areFrom_of_taken htodo hresumed.taken_prefix).filter_sends_eq_nil
        simp only [List.map_cons, List.map_nil, List.mem_singleton]
        intro heq
        rw [← heq] at hnames
        exact hnames.1 (List.mem_map_of_mem hmem)
      have ⟨later, handlers', after, taken', hlater, hattempted⟩ :=
        ih ({ watcher with world := courier }.note origin.name result.isOk) (HaveSent.append hrest hothers) hnames.2
          hready.2
      refine ⟨_, handler' :: handlers', after, taken ++ taken', ?_,
        .cons htodo hsent' hresumed hattempted hnames.1⟩
      rw [runHandlers_cons hrun hverdict]
      have hname : (plan.sending answers now).services.handlerName handler = origin.name := hsent.name_eq
      rw [hname]
      dsimp only
      rw [hlater]

theorem handleHead_cases {plan : Plan Handler Courier} {origins : List Handler} {received : List Draft}
    (watcher : Watcher Handler Courier) (now : Instant)
    (h : HaveSent answers plan.settings watcher.state head origins received watcher.handlers)
    (hnames : (origins.map (·.name)).Nodup)
    (hready : ∀ origin ∈ origins, origin.IsReady answers plan.settings watcher.state head)
    (hnext : head.HasNext)
    : ∃ result after taken, (handleHead (plan.sending answers now) head).run watcher = (result, after)
        ∧ Attempted answers plan.settings head now origins received watcher result after.handlers
          { after with state := watcher.state } taken
        ∧ after.state = if result.isOk then watcher.state.pushHandled head else watcher.state := by
  have ⟨result, handlers, after, taken, hrun, hattempted⟩ := attempted_runHandlers watcher now h hnames hready hnext
  rw [run_handleHead, consulted, hrun]
  rcases hattempted with ⟨hhaveSent, hareFrom, hstate, haccepted, hcases, hle, hlt⟩
  cases result with
  | ok =>
    refine ⟨.ok (), _, taken, rfl, ⟨hhaveSent, hareFrom, rfl, haccepted, hcases, hle, hlt⟩, ?_⟩
    exact congrArg (·.pushHandled head) hstate
  | error failure =>
    rcases hcases with ⟨hok, _⟩ | ⟨report, hreport⟩
    . cases hok
    . cases hreport
      exact ⟨_, _, taken, rfl, ⟨hhaveSent, hareFrom, rfl, haccepted, .inr ⟨report, rfl⟩, hle, hlt⟩, hstate⟩

/-- Handle a head at one instant after the other until this succeeds. The result says whether it ever does. -/
def handleUntil (answers : Option ExitAnswers) (plan : Plan Handler Courier) (head : Head) :
    List Instant → Watcher Handler Courier → Bool × Watcher Handler Courier
  | [], watcher => (false, watcher)
  | now :: rest, watcher =>
    match (handleHead (plan.sending answers now) head).run watcher with
    | (.ok (), watcher) => (true, watcher)
    | (.error _, watcher) => handleUntil answers plan head rest watcher

theorem handleUntil_cases {plan : Plan Handler Courier} {origins : List Handler} {received : List Draft}
    (nows : List Instant) (watcher : Watcher Handler Courier)
    (h : HaveSent answers plan.settings watcher.state head origins received watcher.handlers)
    (hnames : (origins.map (·.name)).Nodup)
    (hready : ∀ origin ∈ origins, origin.IsReady answers plan.settings watcher.state head)
    (hnext : head.HasNext)
    (hsucceeds : (handleUntil answers plan head nows watcher).1 = true)
    : ∃ alerts, (handleUntil answers plan head nows watcher).2.world.accepted = watcher.world.accepted ++ alerts
        ∧ AreFrom origins (alerts.map Draft.ofAlert)
        ∧ (handleUntil answers plan head nows watcher).2.state = watcher.state.pushHandled head
        ∧ ∀ origin ∈ origins, (received ++ alerts.map Draft.ofAlert).filter origin.sends
          = origin.due answers plan.settings watcher.state head := by
  induction nows generalizing received watcher with
  | nil => cases hsucceeds
  | cons now rest ih =>
    have ⟨result, after, taken, hrun, hattempted, hstate⟩ := handleHead_cases watcher now h hnames hready hnext
    rw [handleUntil, hrun] at hsucceeds ⊢
    rcases hattempted.result_cases with ⟨hok, hdue⟩ | ⟨report, hreport⟩
    . subst hok
      refine ⟨taken.map (·.alert now), hattempted.accepted_eq, ?_, hstate, ?_⟩
      . rw [Draft.map_ofAlert_map_alert]
        exact hattempted.areFrom
      . rw [Draft.map_ofAlert_map_alert]
        exact hdue
    . subst hreport
      -- The handlers go on from what has been received up to now.
      have hstate : after.state = watcher.state := hstate
      have h := hattempted.haveSent
      rw [← hstate] at h hready
      have ⟨alerts, haccepted, hfrom, hpushed, hdue⟩ := ih after h hready hsucceeds
      refine ⟨taken.map (·.alert now) ++ alerts, ?_, ?_, ?_, ?_⟩
      . rw [haccepted, ← List.append_assoc]
        exact congrArg (· ++ alerts) hattempted.accepted_eq
      . rw [List.map_append, Draft.map_ofAlert_map_alert]
        exact hattempted.areFrom.append hfrom
      . rw [← hstate]
        exact hpushed
      . rw [List.map_append, Draft.map_ofAlert_map_alert, ← List.append_assoc, ← hstate]
        exact hdue

/-- Each attempt that fails uses up a failure of the courier. -/
theorem handleUntil_succeeds {plan : Plan Handler Courier} {origins : List Handler} {received : List Draft}
    (nows : List Instant) (watcher : Watcher Handler Courier)
    (h : HaveSent answers plan.settings watcher.state head origins received watcher.handlers)
    (hnames : (origins.map (·.name)).Nodup)
    (hready : ∀ origin ∈ origins, origin.IsReady answers plan.settings watcher.state head)
    (hnext : head.HasNext) (hlength : watcher.world.fates.length < nows.length)
    : (handleUntil answers plan head nows watcher).1 = true := by
  induction nows generalizing received watcher with
  | nil => exact absurd hlength (Nat.not_lt_zero _)
  | cons now rest ih =>
    have ⟨result, after, taken, hrun, hattempted, hstate⟩ := handleHead_cases watcher now h hnames hready hnext
    rw [handleUntil, hrun]
    cases result with
    | ok => rfl
    | error failure =>
      have hstate : after.state = watcher.state := hstate
      have hlt : after.world.fates.length < watcher.world.fates.length := hattempted.fates_lt nofun
      have h := hattempted.haveSent
      rw [← hstate] at h hready
      rw [List.length_cons] at hlength
      exact ih after h hready (by omega)

theorem haveSent_start {handlers : List Handler} (h : ∀ handler ∈ handlers, handler.IsSteady) :
    HaveSent answers settings state head handlers [] handlers := by
  induction handlers with
  | nil => exact .nil
  | cons handler rest ih =>
    rw [List.forall_mem_cons] at h
    exact .cons (.start h.1) (ih h.2)

theorem handleHead_reliable {plan : Plan Handler Courier} (watcher : Watcher Handler Courier) (now : Instant)
    (hfates : watcher.world.fates = []) (hnames : (watcher.handlers.map (·.name)).Nodup)
    (hready : ∀ handler ∈ watcher.handlers, handler.IsReady answers plan.settings watcher.state head)
    (hnext : head.HasNext)
    : ((handleHead (plan.sending answers now) head).run watcher).1 = .ok ()
        ∧ ∃ alerts, ((handleHead (plan.sending answers now) head).run watcher).2.world.accepted
            = watcher.world.accepted ++ alerts
          ∧ ∀ handler ∈ watcher.handlers, (alerts.map Draft.ofAlert).filter handler.sends
            = handler.due answers plan.settings watcher.state head := by
  have hstart : HaveSent answers plan.settings watcher.state head watcher.handlers [] watcher.handlers :=
    haveSent_start fun handler hmem => (hready handler hmem).steady
  have ⟨result, after, taken, hrun, hattempted, _⟩ := handleHead_cases watcher now hstart hnames hready hnext
  have hok : result = .ok () := by
    by_contra hfailed
    have hlt := hattempted.fates_lt hfailed
    rw [hfates] at hlt
    exact Nat.not_lt_zero _ hlt
  rw [hrun]
  refine ⟨hok, taken.map (·.alert now), hattempted.accepted_eq, ?_⟩
  rcases hattempted.result_cases with ⟨_, hdue⟩ | ⟨_, herror⟩
  . intro handler hmem
    rw [Draft.map_ofAlert_map_alert]
    exact hdue handler hmem
  . rw [hok] at herror
    cases herror

/--
However often a courier fails to take alerts, a head that is handled until this succeeds has in the end led to the
alerts that a courier who never fails would have taken at the first attempt, each once and in the order of its handler.
It succeeds after at most one attempt more than the courier fails.
-/
theorem handleUntil_delivers_once (answers : Option ExitAnswers) (plan : Plan Handler Courier)
    (head : Head) (watcher : Watcher Handler Courier) (nows : List Instant) (now : Instant)
    (hnames : (watcher.handlers.map (·.name)).Nodup)
    (hreached : ∀ handler ∈ watcher.handlers, handler.Reached)
    (hfresh : ∀ handler ∈ watcher.handlers, ∀ draft ∈ handler.due answers plan.settings watcher.state head,
      draft.annotations ∉ handler.history.sent)
    (hnext : head.HasNext)
    : let ended := handleUntil answers plan head nows watcher
      let once := (handleHead (plan.sending answers now) head).run { watcher with world := ⟨[], []⟩ }
      once.1 = .ok () ∧ (watcher.world.fates.length < nows.length → ended.1 = true)
        ∧ (ended.1 = true → ended.2.state = watcher.state.pushHandled head
          ∧ ∃ alerts, ended.2.world.accepted = watcher.world.accepted ++ alerts
            ∧ AreFrom watcher.handlers (alerts.map Draft.ofAlert)
            ∧ ∀ handler ∈ watcher.handlers,
              (alerts.map Draft.ofAlert).filter handler.sends
                  = (once.2.world.accepted.map Draft.ofAlert).filter handler.sends
                ∧ (((alerts.map Draft.ofAlert).filter handler.sends).map (·.annotations)).Nodup) := by
  have hready : ∀ handler ∈ watcher.handlers, handler.IsReady answers plan.settings watcher.state head := by
    intro handler hmem
    have ⟨hsteady, hcapacity⟩ := (hreached handler hmem).isSteady
    exact ⟨hsteady, hcapacity, hfresh handler hmem⟩
  have hstart : HaveSent answers plan.settings watcher.state head watcher.handlers [] watcher.handlers :=
    haveSent_start fun handler hmem => (hready handler hmem).steady
  have ⟨honce, expected, hexpected, hdue_once⟩ :=
    handleHead_reliable { watcher with world := ⟨[], []⟩ } now rfl hnames hready hnext
  rw [List.nil_append] at hexpected
  refine ⟨honce, handleUntil_succeeds nows watcher hstart hnames hready hnext, ?_⟩
  intro hsucceeds
  have ⟨alerts, haccepted, hfrom, hpushed, hdue⟩ :=
    handleUntil_cases nows watcher hstart hnames hready hnext hsucceeds
  refine ⟨hpushed, alerts, haccepted, hfrom, ?_⟩
  intro handler hmem
  have hdue := hdue handler hmem
  rw [List.nil_append] at hdue
  rw [hexpected, hdue, hdue_once handler hmem]
  exact ⟨rfl, nodup_annotations_of_pairwise (Handler.pairwise_due ..)⟩

end

namespace Flaky

/-- Validator 7 is ours, and asked to leave under a number that its operator does not have. -/
def answers : ExitAnswers where
  total _ := .ok 1
  requests _ _ := .ok [⟨90, 1, 6, 7⟩]

def plan : Plan Handler Courier where
  services := {
    handlerName := Handler.name
    handle := fun _ _ => pure ()
    header := fun _ _ => .ofExcept (.error (.noHosts "ConsensusClient"))
    block := fun _ => .ofExcept (.error (.noHosts "ConsensusClient"))
    validators := pure []
    reorgs := pure []
    updateKeys := pure none
    clock := fun _ => 0 }
  settings := ⟨⟨"mainnet"⟩, ∅, ["0xee"]⟩
  genesisTime := 0

def head : Head :=
  let slashing (index : ValidatorIndex) : ProposerSlashing := ⟨⟨4, index, "0x02", "0x03"⟩, ⟨4, index, "0x02", "0x04"⟩⟩
  ⟨⟨"0x01", true, ⟨5, 1, "0x02", "0x03"⟩⟩, ⟨5, "0x02",
    ⟨some ⟨100⟩, [⟨7⟩, ⟨9⟩], [slashing 7, slashing 8, slashing 9], [],
      some ⟨[], [⟨"0xee", "0xaa", 0⟩, ⟨"0xdd", "0xaa", 0⟩], [⟨"0xdd", "0xaa", "0xbb"⟩]⟩⟩⟩⟩

/-- A watcher that works through a courier who loses some alerts. -/
def watcher : Watcher Handler Courier :=
  let sent : SentAlerts := .empty SentAlerts.defaultCapacity
  let state : State := { State.empty 96 with
    keys := .ofKeys [⟨"0xaa", "Alpha", 5, 1⟩]
    registry := (∅ : Registry).insert 7 "0xaa" |>.insert 8 "0xbb" }
  let lost : Option Report := some (.plain "lost")
  .start [.slashing sent, .exit (.start 50 []), .withdrawal sent, .consolidation sent] state 0 none
    ⟨[], [none, lost, lost, none, lost, none, none, lost]⟩

theorem reached_watcher : ∀ handler ∈ watcher.handlers, handler.Reached := by
  simp only [watcher, start, List.forall_mem_cons]
  refine ⟨?_, ?_, ?_, ?_, nofun⟩
  . exact @Handler.Reached.start 50 [] "slashing" _ rfl (by decide)
  . exact @Handler.Reached.start 50 [] "exit" _ rfl (by decide)
  . exact @Handler.Reached.start 50 [] "el_withdrawal" _ rfl (by decide)
  . exact @Handler.Reached.start 50 [] "consolidation" _ rfl (by decide)

theorem sent_watcher : ∀ handler ∈ watcher.handlers, handler.history.sent = [] := by
  simp only [watcher, start, List.forall_mem_cons]
  exact ⟨rfl, rfl, rfl, rfl, nofun⟩

theorem delivers_once :
    let ended := handleUntil (some answers) plan head [⟨0, 0⟩, ⟨12, 0⟩, ⟨24, 0⟩] watcher
    let once := (handleHead (plan.sending (some answers) ⟨0, 0⟩) head).run { watcher with world := ⟨[], []⟩ }
    ended.1 = true ∧ ended.2.world.accepted.length = 8 ∧ once.1 = .ok ()
      ∧ ended.2.state = watcher.state.pushHandled head
      ∧ ∀ handler ∈ watcher.handlers,
        (ended.2.world.accepted.map Draft.ofAlert).filter handler.sends
          = (once.2.world.accepted.map Draft.ofAlert).filter handler.sends := by
  have hfresh : ∀ handler ∈ watcher.handlers, ∀ draft ∈ handler.due (some answers) plan.settings watcher.state head,
      draft.annotations ∉ handler.history.sent := by
    intro handler hmem draft _
    rw [sent_watcher handler hmem]
    exact List.not_mem_nil
  have hnext : head.HasNext := by
    intro block h
    cases h
    decide
  have hsucceeds : (handleUntil (some answers) plan head [⟨0, 0⟩, ⟨12, 0⟩, ⟨24, 0⟩] watcher).1 = true := by
    decide +kernel
  have ⟨honce, _, hended⟩ := handleUntil_delivers_once (some answers) plan head watcher
    [⟨0, 0⟩, ⟨12, 0⟩, ⟨24, 0⟩] ⟨0, 0⟩ (by decide +kernel) reached_watcher hfresh hnext
  have ⟨hstate, alerts, haccepted, _, hdelivered⟩ := hended hsucceeds
  refine ⟨hsucceeds, by decide +kernel, honce, hstate, ?_⟩
  intro handler hmem
  dsimp only
  rw [haccepted]
  exact (hdelivered handler hmem).1

end Flaky
end Watcher
end Watch
end BeaconSentry
