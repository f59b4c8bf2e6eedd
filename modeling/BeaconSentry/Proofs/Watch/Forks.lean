import BeaconSentry.Proofs.Alert.Delivery
import BeaconSentry.Watch.Handler

/-!
This module contains what becomes of the alerts about forks if one of them cannot be delivered. The reorganisations that
waited are gone by then, so the next attempt at the same head finds none of them.
-/

namespace BeaconSentry
namespace Watch

open Beacon Exit SentAlerts

namespace Fork

variable {settings : Settings} {state : State} {handled : List Head} {head : Head} {drafts : List Draft}

theorem unlinked_drainReorgs (state : State) (head : Head) : unlinked state.drainReorgs.2 head = [] := rfl

theorem drafts_of_unlinked_eq_nil (h : unlinked state head = []) :
    Fork.drafts settings state head = headDrafts settings state.handled head := by
  unfold Fork.drafts
  rw [h]

theorem drafts_of_unlinked_ne_nil (h : unlinked state head ≠ []) :
    Fork.drafts settings state head = .ok ((unlinked state head).map (reorgDraft settings)) := by
  unfold Fork.drafts
  split
  . next heq => exact absurd heq h
  . rfl

/-- There is nothing to say about the parent of a head, or one thing. -/
theorem headDrafts_cases (h : headDrafts settings handled head = .ok drafts) :
    drafts = [] ∨ ∃ missing, drafts = [headDraft settings head missing] := by
  unfold headDrafts at h
  split at h
  . cases h
    exact .inl rfl
  . next last _ =>
    split at h
    . cases h
      exact .inl rfl
    . generalize missingSlots last.slot head.slot = missing at h
      cases missing with
      | error => cases h
      | ok missing =>
        cases h
        exact .inr ⟨missing, rfl⟩

theorem news_cases (h : headDrafts settings handled head = .ok drafts) (sent : SentAlerts) :
    sent.news (·.annotations) drafts = []
      ∨ ∃ draft, draft.kind = headKind ∧ sent.news (·.annotations) drafts = [draft] := by
  rcases headDrafts_cases h with rfl | ⟨missing, rfl⟩
  . exact .inl rfl
  . unfold news
    split
    . exact .inl rfl
    . exact .inr ⟨headDraft settings head missing, rfl, rfl⟩

/-- How the handler for forks can look at a head if it sends its alerts through a courier. -/
inductive Looked (settings : Settings) (now : Instant) (head : Head) (sent : SentAlerts) (state : State)
    (courier : Courier) : Except Failure Unit → Desk Handler Courier → Prop
  | overflowed {overflow : Overflow} (hdrafts : Fork.drafts settings state head = .error overflow) :
    Looked settings now head sent state courier (.error (.overflow overflow))
      ⟨.fork sent, state.drainReorgs.2, courier⟩
  | sending {drafts taken : List Draft} {result : Except Failure Unit} {courier' : Courier}
      (hdrafts : Fork.drafts settings state head = .ok drafts)
      (hresumed : Resumed now courier (sent.news (·.annotations) drafts) result taken courier') :
    Looked settings now head sent state courier result
      ⟨.fork (sent.pushAll (taken.map (·.annotations))), state.drainReorgs.2, courier'⟩

theorem run_handle {ω : Type} (oracle : Option (ExitOracle ω)) (sink : Sink ω) (settings : Settings) (now : Instant)
    (head : Head) (sent : SentAlerts) (state : State) (world : ω) :
    (Handler.handle ⟨oracle, sink⟩ settings now head).run ⟨.fork sent, state, world⟩ =
      match Fork.drafts settings state head with
      | .error overflow => (.error (.overflow overflow), ⟨.fork sent, state.drainReorgs.2, world⟩)
      | .ok drafts => Handler.deliver ⟨oracle, sink⟩ now drafts .fork sent state.drainReorgs.2 world := rfl

theorem looked_handle (oracle : Option (ExitOracle Courier)) (settings : Settings) (now : Instant) (head : Head)
    (sent : SentAlerts) (state : State) (courier : Courier) :
    ∃ result desk, (Handler.handle ⟨oracle, Courier.sink⟩ settings now head).run ⟨.fork sent, state, courier⟩
        = (result, desk) ∧ Looked settings now head sent state courier result desk := by
  rw [run_handle]
  cases hdrafts : Fork.drafts settings state head with
  | error overflow => exact ⟨_, _, rfl, .overflowed hdrafts⟩
  | ok drafts =>
    have ⟨result, taken, courier', hrun, hresumed⟩ := resumed_news now courier sent drafts
    refine ⟨result, _, ?_, .sending hdrafts hresumed⟩
    simp only [Handler.deliver, hrun]

/-- Whatever comes of an attempt, no reorganisation waits after it. -/
theorem state_handle (oracle : Option (ExitOracle Courier)) (settings : Settings) (now : Instant) (head : Head)
    (sent : SentAlerts) (state : State) (courier : Courier) :
    ((Handler.handle ⟨oracle, Courier.sink⟩ settings now head).run ⟨.fork sent, state, courier⟩).2.state
      = state.drainReorgs.2 := by
  have ⟨result, desk, hrun, hlooked⟩ := looked_handle oracle settings now head sent state courier
  rw [hrun]
  cases hlooked with
  | overflowed => rfl
  | sending => rfl

end Fork

/--
Let a handler look at a head at one instant after the other until it succeeds. The result says whether it ever does; a
number out of range ends everything.
-/
def Handler.handleUntil {ω : Type} (outlets : Outlets ω) (settings : Settings) (head : Head) :
    List Instant → Desk Handler ω → Bool × Desk Handler ω
  | [], desk => (false, desk)
  | now :: rest, desk =>
    match (handle outlets settings now head).run desk with
    | (.ok (), desk) => (true, desk)
    | (.error (.report _), desk) => handleUntil outlets settings head rest desk
    | (.error (.overflow _), desk) => (false, desk)

section

variable {ω : Type} {outlets : Outlets ω} {settings : Settings} {head : Head} {now : Instant}
  {desk desk' : Desk Handler ω}

theorem Handler.handleUntil_of_ok (rest : List Instant)
    (h : (handle outlets settings now head).run desk = (.ok (), desk'))
    : handleUntil outlets settings head (now :: rest) desk = (true, desk') := by
  rw [handleUntil, h]

theorem Handler.handleUntil_of_report {report : Report} (rest : List Instant)
    (h : (handle outlets settings now head).run desk = (.error (.report report), desk'))
    : handleUntil outlets settings head (now :: rest) desk = handleUntil outlets settings head rest desk' := by
  rw [handleUntil, h]

end

namespace Fork

variable {settings : Settings} {state : State} {head : Head}

/-- Once no reorganisation waits, the attempts add up to what one attempt has to send. -/
theorem handleUntil_of_linked (oracle : Option (ExitOracle Courier)) {heads : List Draft} (sent : SentAlerts)
    (courier : Courier) (nows : List Instant) (hlinked : unlinked state head = [])
    (hheads : headDrafts settings state.handled head = .ok heads)
    : let ended := Handler.handleUntil ⟨oracle, Courier.sink⟩ settings head nows ⟨.fork sent, state, courier⟩
      (courier.fates.length < nows.length → ended.1 = true)
        ∧ (ended.1 = true → ended.2.state = state.drainReorgs.2
          ∧ ∃ now, ended.2.world.accepted
            = courier.accepted ++ (sent.news (·.annotations) heads).map (·.alert now)) := by
  induction nows generalizing state courier with
  | nil => exact ⟨fun h => absurd h (Nat.not_lt_zero _), nofun⟩
  | cons now rest ih =>
    have ⟨result, desk, hrun, hlooked⟩ := looked_handle oracle settings now head sent state courier
    cases hlooked with
    | overflowed hdrafts =>
      rw [drafts_of_unlinked_eq_nil hlinked, hheads] at hdrafts
      cases hdrafts
    | @sending drafts taken _ courier' hdrafts hresumed =>
      rw [drafts_of_unlinked_eq_nil hlinked, hheads] at hdrafts
      cases hdrafts
      rcases hresumed.result_cases with ⟨rfl, htaken⟩ | ⟨report, rfl⟩
      . subst htaken
        rw [Handler.handleUntil_of_ok rest hrun]
        exact ⟨fun _ => rfl, fun _ => ⟨rfl, now, hresumed.accepted_eq⟩⟩
      . -- At most one alert is due, so an attempt that failed has sent none.
        have htaken : taken = [] := by
          have hne : taken ≠ sent.news (·.annotations) heads := fun heq => nomatch hresumed.ok_iff.mpr heq
          rcases news_cases hheads sent with hnews | ⟨draft, _, hnews⟩
          . rw [hnews] at hresumed hne
            exact absurd (List.prefix_nil.mp hresumed.taken_prefix) hne
          . rw [hnews] at hresumed hne
            rcases List.prefix_cons_iff.mp hresumed.taken_prefix with hnil | ⟨later, rfl, hlater⟩
            . exact hnil
            . exact absurd (congrArg _ (List.prefix_nil.mp hlater)) hne
        subst htaken
        have haccepted : courier'.accepted = courier.accepted := by
          rw [hresumed.accepted_eq]
          exact List.append_nil _
        have hfates := hresumed.fates_lt nofun
        have ⟨hsucceeds, hended⟩ := ih courier' (unlinked_drainReorgs state head) hheads
        rw [haccepted] at hended
        rw [Handler.handleUntil_of_report rest hrun]
        exact ⟨fun hlt => hsucceeds (by rw [List.length_cons] at hlt; omega), hended⟩

theorem handleUntil_of_overflow (oracle : Option (ExitOracle Courier)) {overflow : Overflow} (sent : SentAlerts)
    (courier : Courier) (nows : List Instant) (hlinked : unlinked state head = [])
    (hheads : headDrafts settings state.handled head = .error overflow)
    : (Handler.handleUntil ⟨oracle, Courier.sink⟩ settings head nows ⟨.fork sent, state, courier⟩).1 = false := by
  cases nows with
  | nil => rfl
  | cons now rest =>
    rw [Handler.handleUntil, run_handle, drafts_of_unlinked_eq_nil hlinked, hheads]

/-- After an attempt that lost an alert, what is sent is only about the head. -/
theorem handleUntil_of_lost (oracle : Option (ExitOracle Courier)) {heads todo taken : List Draft} {first : Instant}
    {report : Report} {courier courier' : Courier} (sent : SentAlerts) (nows : List Instant)
    (hheads : headDrafts settings state.handled head = .ok heads)
    (hresumed : Resumed first courier todo (.error (.report report)) taken courier')
    : let sent' := sent.pushAll (taken.map (·.annotations))
      let ended := Handler.handleUntil ⟨oracle, Courier.sink⟩ settings head nows
        ⟨.fork sent', state.drainReorgs.2, courier'⟩
      (courier.fates.length ≤ nows.length → ended.1 = true)
        ∧ (ended.1 = true → ended.2.state = state.drainReorgs.2
          ∧ ∃ alerts, ended.2.world.accepted = courier.accepted ++ alerts
            ∧ alerts.map Draft.ofAlert = taken ++ sent'.news (·.annotations) heads) := by
  intro sent' ended
  have ⟨hsucceeds, hended⟩ :=
    handleUntil_of_linked oracle sent' courier' nows (unlinked_drainReorgs state head) hheads
  refine ⟨fun hle => hsucceeds (Nat.lt_of_lt_of_le (hresumed.fates_lt nofun) hle), fun htrue => ?_⟩
  have ⟨hstate, later, haccepted⟩ := hended htrue
  rw [hresumed.accepted_eq, List.append_assoc] at haccepted
  refine ⟨hstate, _, haccepted, ?_⟩
  rw [List.map_append, Draft.map_ofAlert_map_alert, Draft.map_ofAlert_map_alert]

/-- A courier that never fails takes all news. -/
theorem handle_reliable (oracle : Option (ExitOracle Courier)) {drafts : List Draft} (now : Instant) (sent : SentAlerts)
    (hdrafts : Fork.drafts settings state head = .ok drafts)
    : let once := (Handler.handle ⟨oracle, Courier.sink⟩ settings now head).run ⟨.fork sent, state, ⟨[], []⟩⟩
      once.1 = .ok () ∧ once.2.world.accepted.map Draft.ofAlert = sent.news (·.annotations) drafts := by
  have ⟨result, desk, hrun, hlooked⟩ := looked_handle oracle settings now head sent state ⟨[], []⟩
  rw [hrun]
  cases hlooked with
  | overflowed hoverflow => cases hdrafts.symm.trans hoverflow
  | @sending _ taken _ courier' hdrafts' hresumed =>
    cases hdrafts.symm.trans hdrafts'
    rcases hresumed.result_cases with ⟨rfl, htaken⟩ | ⟨report, rfl⟩
    . refine ⟨rfl, ?_⟩
      dsimp only
      rw [hresumed.accepted_eq, List.nil_append, Draft.map_ofAlert_map_alert, htaken]
    . exact absurd (hresumed.fates_lt nofun) (Nat.not_lt_zero _)

/-- Nothing that is said about a head makes up for what was not said about reorganisations. -/
theorem append_news_ne {reorgs heads reported : List Draft} {sent sent' : SentAlerts}
    (hkind : ∀ draft ∈ reorgs, draft.kind = reorgKind) (hheads : headDrafts settings state.handled head = .ok heads)
    (hreported : reported ≠ sent.news (·.annotations) reorgs)
    : reported ++ sent'.news (·.annotations) heads ≠ sent.news (·.annotations) reorgs := by
  intro heq
  rcases news_cases hheads sent' with hnews | ⟨draft, hdraft, hnews⟩
  . rw [hnews, List.append_nil] at heq
    exact hreported heq
  . rw [hnews] at heq
    have hmem : draft ∈ sent.news (·.annotations) reorgs := by
      rw [← heq]
      exact List.mem_append_right _ (List.mem_singleton_self _)
    have hreorg := hkind draft ((sent.news_sublist reorgs).subset hmem)
    rw [hdraft] at hreorg
    exact absurd hreorg (by decide)

end Fork

section

variable (oracle : Option (ExitOracle Courier)) (settings : Settings) (head : Head) (sent : SentAlerts) (state : State)
  (courier : Courier) (first now : Instant) (rest : List Instant)

/--
An attempt takes away the reorganisations that wait, whatever comes of it. If one of them is not linked, and the first
attempt fails to send an alert, then this alert and those after it are lost. The attempts add up to the alerts before it
and, as nothing waits any more, to what is to be said about the parent of the head. In all other cases they add up to
what a courier that never fails would have taken at the first attempt.
-/
theorem handleUntil_forgets_reorgs :
    let desk : Desk Handler Courier := ⟨.fork sent, state, courier⟩
    let attempt := (Handler.handle ⟨oracle, Courier.sink⟩ settings first head).run desk
    let ended := Handler.handleUntil ⟨oracle, Courier.sink⟩ settings head (first :: rest) desk
    let once := (Handler.handle ⟨oracle, Courier.sink⟩ settings now head).run { desk with world := ⟨[], []⟩ }
    let expected := once.2.world.accepted.map Draft.ofAlert
    attempt.2.state = state.drainReorgs.2
      ∧ ((∃ heads, Fork.headDrafts settings state.handled head = .ok heads) → courier.fates.length ≤ rest.length
        → ended.1 = true)
      ∧ (ended.1 = true → once.1 = .ok () ∧ ended.2.state = state.drainReorgs.2
        ∧ ∃ alerts, ended.2.world.accepted = courier.accepted ++ alerts
          ∧ (alerts.map Draft.ofAlert = expected ↔ Fork.unlinked state head = [] ∨ attempt.1 = .ok ())
          ∧ (alerts.map Draft.ofAlert ≠ expected → ∃ reported heads,
            attempt.2.world.accepted = courier.accepted ++ reported.map (·.alert first)
              ∧ reported <+: expected ∧ reported ≠ expected
              ∧ Fork.headDrafts settings state.handled head = .ok heads
              ∧ alerts.map Draft.ofAlert
                = reported ++ (sent.pushAll (reported.map (·.annotations))).news (·.annotations) heads)) := by
  intro desk attempt ended once expected
  refine ⟨Fork.state_handle oracle settings first head sent state courier, ?_⟩
  by_cases hlinked : Fork.unlinked state head = []
  . cases hheads : Fork.headDrafts settings state.handled head with
    | error overflow =>
      have hended : ended.1 = false := Fork.handleUntil_of_overflow oracle sent courier (first :: rest) hlinked hheads
      rw [hended]
      exact ⟨nofun, nofun⟩
    | ok heads =>
      have ⟨hsucceeds, hended⟩ :=
        Fork.handleUntil_of_linked oracle sent courier (first :: rest) hlinked hheads
      have ⟨honce, hexpected⟩ := Fork.handle_reliable oracle now sent
        ((Fork.drafts_of_unlinked_eq_nil hlinked).trans hheads)
      refine ⟨fun _ hle => hsucceeds (Nat.lt_succ_of_le hle), fun htrue => ?_⟩
      have ⟨hstate, later, haccepted⟩ := hended htrue
      have heq : ((sent.news (·.annotations) heads).map (·.alert later)).map Draft.ofAlert = expected := by
        rw [Draft.map_ofAlert_map_alert]
        exact hexpected.symm
      exact ⟨honce, hstate, _, haccepted, iff_of_true heq (.inl hlinked), fun hne => absurd heq hne⟩
  . have hdrafts := @Fork.drafts_of_unlinked_ne_nil settings _ _ hlinked
    have ⟨honce, hexpected⟩ := Fork.handle_reliable oracle now sent hdrafts
    have hexpected : expected = sent.news (·.annotations) _ := hexpected
    have ⟨result, desk', hrun, hlooked⟩ := Fork.looked_handle oracle settings first head sent state courier
    have hattempt : attempt = (result, desk') := hrun
    cases hlooked with
    | overflowed hoverflow => cases hdrafts.symm.trans hoverflow
    | @sending _ taken _ courier' hdrafts' hresumed =>
      cases hdrafts.symm.trans hdrafts'
      rcases hresumed.result_cases with ⟨rfl, htaken⟩ | ⟨report, rfl⟩
      . have hended : ended = (true, _) := Handler.handleUntil_of_ok rest hrun
        have heq : (taken.map (·.alert first)).map Draft.ofAlert = expected := by
          rw [Draft.map_ofAlert_map_alert, htaken, hexpected]
        rw [hattempt, hended]
        exact ⟨fun _ _ => rfl, fun _ => ⟨honce, rfl, _, hresumed.accepted_eq, iff_of_true heq (.inr rfl),
          fun hne => absurd heq hne⟩⟩
      . have hended : ended = Handler.handleUntil _ settings head rest _ := Handler.handleUntil_of_report rest hrun
        have hne : taken ≠ sent.news (·.annotations) _ := fun heq => nomatch hresumed.ok_iff.mpr heq
        rw [hattempt, hended, hexpected]
        cases hheads : Fork.headDrafts settings state.handled head with
        | error overflow =>
          rw [Fork.handleUntil_of_overflow oracle _ courier' rest (Fork.unlinked_drainReorgs state head) hheads]
          exact ⟨nofun, nofun⟩
        | ok heads =>
          have ⟨hsucceeds, hrest⟩ := Fork.handleUntil_of_lost oracle sent rest hheads hresumed
          refine ⟨fun _ => hsucceeds, fun htrue => ?_⟩
          have ⟨hstate, alerts, haccepted, hsent⟩ := hrest htrue
          refine ⟨honce, hstate, alerts, haccepted, ?_, fun _ => ?_⟩
          . rw [hsent]
            refine iff_of_false (Fork.append_news_ne ?_ hheads hne) ?_
            . intro draft hdraft
              obtain ⟨reorg, -, rfl⟩ := List.mem_map.mp hdraft
              rfl
            . rintro (hnil | hok)
              . exact hlinked hnil
              . cases hok
          . exact ⟨taken, heads, hresumed.accepted_eq, hresumed.taken_prefix, hne, rfl, hsent⟩

end

namespace Forgotten

def settings : Settings := ⟨⟨"mainnet"⟩, ∅, []⟩

def last : Head := ⟨⟨"0x0a", true, ⟨10, 1, "0x09", "0x03"⟩⟩, ⟨10, "0x09", ⟨none, [], [], [], none⟩⟩⟩

/-- A head whose parent is not `last`. -/
def head : Head := ⟨⟨"0x0e", true, ⟨14, 1, "0x0d", "0x03"⟩⟩, ⟨14, "0x0d", ⟨none, [], [], [], none⟩⟩⟩

/-- The handler for forks, and two reorganisations that lead to heads it does not know. -/
def desk (fates : List (Option Report)) : Desk Handler Courier where
  handler := .fork (.empty SentAlerts.defaultCapacity)
  state := (State.empty 96).pushHandled last |>.insertReorg ⟨12, 1, "0x11", "0x12"⟩
    |>.insertReorg ⟨13, 1, "0x11", "0x13"⟩
  world := ⟨[], fates⟩

def outlets : Outlets Courier := ⟨none, Courier.sink⟩

def lost : Option Report := some (.plain "lost")

/-- The alert about the second reorganisation is lost for good, and one about the head takes its place. -/
theorem handleUntil_ne_handle :
    let once := (Handler.handle outlets settings ⟨0, 0⟩ head).run (desk [])
    let ended := Handler.handleUntil outlets settings head [⟨0, 0⟩, ⟨12, 0⟩] (desk [none, lost])
    once.1 = .ok () ∧ ended.1 = true
      ∧ once.2.world.accepted.map (·.kindName) = ["UnhandledChainReorg", "UnhandledChainReorg"]
      ∧ ended.2.world.accepted.map (·.kindName) = ["UnhandledChainReorg", "UnhandledHead"]
      ∧ ended.2.world.accepted.map Draft.ofAlert ≠ once.2.world.accepted.map Draft.ofAlert := by
  have honce : ((Handler.handle outlets settings ⟨0, 0⟩ head).run (desk [])).2.world.accepted.map (·.kindName)
      = ["UnhandledChainReorg", "UnhandledChainReorg"] := by
    decide +kernel
  have hended : (Handler.handleUntil outlets settings head [⟨0, 0⟩, ⟨12, 0⟩]
      (desk [none, lost])).2.world.accepted.map (·.kindName) = ["UnhandledChainReorg", "UnhandledHead"] := by
    decide +kernel
  refine ⟨by decide +kernel, by decide +kernel, honce, hended, ?_⟩
  intro heq
  have hnames := congrArg (List.map fun draft : Draft => draft.kind.name) heq
  rw [List.map_map, List.map_map] at hnames
  have hnames := hended.symm.trans (hnames.trans honce)
  exact absurd hnames (by decide)

/-- What the first attempt sent is all that is ever said of the reorganisations, for none of them waits after it. -/
theorem handleUntil_forgets :
    let once := (Handler.handle outlets settings ⟨0, 0⟩ head).run (desk [])
    let attempt := (Handler.handle outlets settings ⟨0, 0⟩ head).run (desk [none, lost])
    let ended := Handler.handleUntil outlets settings head [⟨0, 0⟩, ⟨12, 0⟩, ⟨24, 0⟩] (desk [none, lost])
    attempt.2.state.reorgs.isEmpty = true
      ∧ ended.1 = true ∧ once.1 = .ok () ∧ ended.2.state.reorgs.isEmpty = true ∧ ∃ reported,
      attempt.2.world.accepted.map Draft.ofAlert = reported
        ∧ reported <+: once.2.world.accepted.map Draft.ofAlert
        ∧ reported ≠ once.2.world.accepted.map Draft.ofAlert := by
  have hheads : Fork.headDrafts settings [last] head = .ok [Fork.headDraft settings head 3] := rfl
  have hunlinked : ¬(Fork.unlinked (desk []).state head = []
      ∨ ((Handler.handle outlets settings ⟨0, 0⟩ head).run (desk [none, lost])).1 = .ok ()) := by
    decide +kernel
  have ⟨hdrained, hsucceeds, hended⟩ := handleUntil_forgets_reorgs none settings head
    (.empty SentAlerts.defaultCapacity) (desk []).state ⟨[], [none, lost]⟩ ⟨0, 0⟩ ⟨0, 0⟩ [⟨12, 0⟩, ⟨24, 0⟩]
  have hsucceeds := hsucceeds ⟨_, hheads⟩ (Nat.le_refl _)
  have ⟨honce, hstate, alerts, haccepted, hsame, hreported⟩ := hended hsucceeds
  have ⟨reported, heads, hattempt, hprefix, hne, _⟩ := hreported fun heq => hunlinked (hsame.mp heq)
  refine ⟨?_, hsucceeds, honce, ?_, reported, ?_, hprefix, hne⟩
  . exact congrArg (fun state : State => state.reorgs.isEmpty) hdrained
  . exact congrArg (fun state : State => state.reorgs.isEmpty) hstate
  . exact (congrArg (List.map Draft.ofAlert) hattempt).trans (Draft.map_ofAlert_map_alert _ reported)

end Forgotten
end Watch
end BeaconSentry
