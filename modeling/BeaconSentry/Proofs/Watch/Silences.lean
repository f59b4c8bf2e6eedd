import BeaconSentry.Proofs.Alert.Judged
import BeaconSentry.Proofs.Watch.Lineage

/-!
This module contains when the handler for forks passes over a head with an unknown parent without a word. It does not
look at the parent as soon as a reorganisation is not linked, even if nothing is sent about the reorganisation because it
repeats what was sent before.
-/

namespace BeaconSentry

variable {ω : Type}

namespace SentAlerts

theorem news_eq_nil_iff {α : Type} {annotations : α → Annotations} {history : SentAlerts} {xs : List α}
    : history.news annotations xs = [] ↔ ∀ x ∈ xs, annotations x ∈ history.sent := by
  induction xs with
  | nil => exact iff_of_true rfl (List.forall_mem_nil _)
  | cons first rest ih =>
    rw [List.forall_mem_cons]
    by_cases hmem : annotations first ∈ history.sent
    . rw [news_cons_of_mem hmem, ih, and_iff_right hmem]
    . rw [news_cons_of_not_mem hmem]
      exact iff_of_false (List.cons_ne_nil _ _) fun h => hmem h.1

/-- A sink that refuses none of the alerts that get to it has taken all news in the end. -/
theorem accepted_of_sendEach_eq_ok {sink : Sink ω} (now : Instant) {drafts : List Watch.Draft}
    {history history' : SentAlerts} {log log' : SinkLog} {world world' : ω}
    (h : (sendEach sink.logged (drafts.map (·.alert now))).run (history, log, world)
      = (.ok (), history', log', world'))
    : log'.accepted = log.accepted ++ (history.news (·.annotations) drafts).map (·.alert now) := by
  induction drafts generalizing history log world with
  | nil =>
    cases h
    exact (List.append_nil _).symm
  | cons draft rest ih =>
    obtain ⟨result, history₁, log₁, world₁, hrun, hlogged⟩ :=
      loggedOnce_sendOnce sink (draft.alert now) history log world
    rw [List.map_cons, sendEach, Action.run_bind, hrun] at h
    cases hlogged with
    | repeated hmem =>
      have hmem : draft.annotations ∈ history.sent := hmem
      rw [news_cons_of_mem hmem]
      exact ih h
    | taken hmem _ =>
      have hmem : draft.annotations ∉ history.sent := hmem
      rw [news_cons_of_not_mem hmem, ih h, SinkLog.accepted_append_true, List.append_assoc]
      rfl
    | refused => cases h

theorem sendEach_of_repeated {sink : Sink ω} {alerts : List Alert} {history : SentAlerts} (world : ω)
    (h : ∀ alert ∈ alerts, alert.annotations ∈ history.sent)
    : (sendEach sink alerts).run (history, world) = (.ok (), history, world) := by
  induction alerts with
  | nil => rfl
  | cons alert rest ih =>
    rw [List.forall_mem_cons] at h
    have hsent : (sendOnce sink alert).run (history, world) = (.ok false, history, world) :=
      if_pos ((history.isSent_iff alert).mpr h.1)
    rw [sendEach, Action.run_bind_of_ok hsent]
    exact ih h.2

end SentAlerts

namespace Watch

open Beacon Exit SentAlerts

namespace Fork

/--
An alert about a reorganisation went out, or the alert about the head did, or the latter repeats one that was sent
before. The log is what the sink was given since the handler began to look at the head.
-/
inductive Heard (settings : Settings) (now : Instant) (last head : Head) (sent : SentAlerts) (log : SinkLog) : Prop
  | reorg {alert : Alert} (haccepted : alert ∈ log.accepted) (hkind : alert.kindName = reorgKind.name)
  | head {missing : UInt64} (hmissing : missingSlots last.slot head.slot = .ok missing)
      (haccepted : (headDraft settings head missing).alert now ∈ log.accepted)
  | repeated {missing : UInt64} (hmissing : missingSlots last.slot head.slot = .ok missing)
      (hsent : (headDraft settings head missing).annotations ∈ sent.sent)

/--
A reorganisation waits that is not linked, and all alerts about such reorganisations repeat what was sent before. The
alert about the head would not.
-/
structure Masked (settings : Settings) (state : State) (last head : Head) (sent : SentAlerts) : Prop where
  waiting : ∃ reorg ∈ state.reorgs.values, Unlinked (state.handled ++ [head]) reorg
  repeated : ∀ reorg ∈ state.reorgs.values, Unlinked (state.handled ++ [head]) reorg →
    (reorgDraft settings reorg).annotations ∈ sent.sent
  fresh : ∀ missing, missingSlots last.slot head.slot = .ok missing →
    (headDraft settings head missing).annotations ∉ sent.sent

section

variable {settings : Settings} {now : Instant} {state : State} {last head : Head} {sent : SentAlerts} {log : SinkLog}

theorem mem_unlinked_iff {reorg : Reorg}
    : reorg ∈ unlinked state head ↔ reorg ∈ state.reorgs.values ∧ Unlinked (state.handled ++ [head]) reorg := by
  rw [unlinked, List.mem_filter, unlinked_iff, Bool.not_eq_true']
  rfl

theorem masked_iff
    : Masked settings state last head sent
        ↔ unlinked state head ≠ []
          ∧ (∀ draft ∈ (unlinked state head).map (reorgDraft settings), draft.annotations ∈ sent.sent)
          ∧ ∀ missing, missingSlots last.slot head.slot = .ok missing →
            (headDraft settings head missing).annotations ∉ sent.sent := by
  have hwaiting : unlinked state head ≠ [] ↔ ∃ reorg, reorg ∈ unlinked state head :=
    ⟨List.exists_mem_of_ne_nil _, fun ⟨_, hmem⟩ => List.ne_nil_of_mem hmem⟩
  rw [List.forall_mem_map, hwaiting]
  simp only [mem_unlinked_iff, and_imp]
  exact ⟨fun h => ⟨h.waiting, h.repeated, h.fresh⟩, fun h => ⟨h.1, h.2.1, h.2.2⟩⟩

/-- The parent is known neither from the handled heads nor is it the head itself, so there is something to say of it. -/
theorem headDrafts_of_unknown (hlast : state.handled.getLast? = some last)
    (hparent : Unknown (state.handled ++ [head]) head.parentRoot)
    : headDrafts settings state.handled head
        = (missingSlots last.slot head.slot).map fun missing => [headDraft settings head missing] := by
  unfold headDrafts
  rw [hlast, known?_eq_none_iff.mpr hparent]
  rfl

theorem not_heard_of_masked (h : Masked settings state last head sent) (hlog : log.accepted = [])
    : ¬Heard settings now last head sent log := by
  intro hheard
  cases hheard with
  | reorg haccepted =>
    rw [hlog] at haccepted
    cases haccepted
  | head _ haccepted =>
    rw [hlog] at haccepted
    cases haccepted
  | repeated hmissing hsent => exact h.fresh _ hmissing hsent

/-- The news about reorganisations are heard if there are any. -/
theorem heard_of_news (haccepted : log.accepted
      = (sent.news (·.annotations) ((unlinked state head).map (reorgDraft settings))).map (·.alert now))
    (hnews : sent.news (·.annotations) ((unlinked state head).map (reorgDraft settings)) ≠ [])
    : Heard settings now last head sent log := by
  obtain ⟨draft, hdraft⟩ := List.exists_mem_of_ne_nil _ hnews
  obtain ⟨reorg, -, rfl⟩ := List.mem_map.mp ((sent.news_sublist _).subset hdraft)
  have hmem : (reorgDraft settings reorg).alert now ∈ log.accepted := by
    rw [haccepted]
    exact List.mem_map_of_mem hdraft
  exact .reorg hmem (AlertKind.kindName_alert ..)

theorem heard_of_head {missing : UInt64} (hmissing : missingSlots last.slot head.slot = .ok missing)
    (haccepted : log.accepted = (sent.news (·.annotations) [headDraft settings head missing]).map (·.alert now))
    : Heard settings now last head sent log := by
  by_cases hmem : (headDraft settings head missing).annotations ∈ sent.sent
  . exact .repeated hmissing hmem
  . rw [news_cons_of_not_mem hmem] at haccepted
    refine .head hmissing ?_
    rw [haccepted]
    exact List.mem_cons_self

/-- What is not masked is heard, once the sink has taken the news. -/
theorem heard_of_not_masked {drafts : List Draft} (hlast : state.handled.getLast? = some last)
    (hparent : Unknown (state.handled ++ [head]) head.parentRoot)
    (hdrafts : Fork.drafts settings state head = .ok drafts)
    (haccepted : log.accepted = (sent.news (·.annotations) drafts).map (·.alert now))
    (hmasked : ¬Masked settings state last head sent)
    : Heard settings now last head sent log := by
  by_cases hlinked : unlinked state head = []
  . rw [drafts_of_unlinked_eq_nil hlinked, headDrafts_of_unknown hlast hparent] at hdrafts
    cases hmissing : missingSlots last.slot head.slot with
    | error overflow =>
      rw [hmissing] at hdrafts
      cases hdrafts
    | ok missing =>
      rw [hmissing] at hdrafts
      cases hdrafts
      exact heard_of_head hmissing haccepted
  . cases (drafts_of_unlinked_ne_nil hlinked).symm.trans hdrafts
    by_cases hnews : sent.news (·.annotations) ((unlinked state head).map (reorgDraft settings)) = []
    . -- All about the reorganisations is repeated, so it can only be the alert about the head that is, too.
      have hsent : ∃ missing, missingSlots last.slot head.slot = .ok missing
          ∧ (headDraft settings head missing).annotations ∈ sent.sent := by
        by_contra hfresh
        push Not at hfresh
        exact hmasked (masked_iff.mpr ⟨hlinked, news_eq_nil_iff.mp hnews, hfresh⟩)
      obtain ⟨missing, hmissing, hmem⟩ := hsent
      exact .repeated hmissing hmem
    . exact heard_of_news haccepted hnews

theorem run_handle_of_masked (outlets : Outlets ω) (now : Instant) (world : ω)
    (h : Masked settings state last head sent)
    : (Handler.handle outlets settings now head).run ⟨.fork sent, state, world⟩
        = (.ok (), ⟨.fork sent, state.drainReorgs.2, world⟩) := by
  obtain ⟨hne, hrepeated, -⟩ := masked_iff.mp h
  have hsend : (sendEach outlets.sink (((unlinked state head).map (reorgDraft settings)).map (·.alert now))).run
      (sent, world) = (.ok (), sent, world) :=
    sendEach_of_repeated _ (List.forall_mem_map.mpr hrepeated)
  rw [run_handle, drafts_of_unlinked_ne_nil hne]
  dsimp only
  unfold Handler.deliver deliverDrafts
  rw [Action.run_mapError, hsend]
  rfl

end

section

variable (oracle : Option (ExitOracle (SinkLog × ω))) (sink : Sink ω) (settings : Settings) (now : Instant)
  {state : State} {last head : Head} (sent : SentAlerts) (world : ω)

/-- If a look succeeds, the drafts could be made, and the sink took those that are no repeats. -/
theorem accepted_of_handle_eq_ok {desk : Desk Handler (SinkLog × ω)}
    (h : (Handler.handle ⟨oracle, sink.logged⟩ settings now head).run ⟨.fork sent, state, [], world⟩ = (.ok (), desk))
    : ∃ drafts, Fork.drafts settings state head = .ok drafts
        ∧ desk.world.1.accepted = (sent.news (·.annotations) drafts).map (·.alert now) := by
  rw [run_handle] at h
  cases hdrafts : Fork.drafts settings state head with
  | error overflow =>
    rw [hdrafts] at h
    cases h
  | ok drafts =>
    rw [hdrafts] at h
    dsimp only at h
    unfold Handler.deliver deliverDrafts at h
    rw [Action.run_mapError] at h
    generalize hsend : (sendEach sink.logged (drafts.map (·.alert now))).run (sent, [], world) = answer at h
    rcases answer with ⟨_ | _, history, log, after⟩
    . cases h
    . cases h
      exact ⟨drafts, rfl, accepted_of_sendEach_eq_ok now hsend⟩

/--
After a successful look at a head with an unknown parent, something was heard of a reorganisation or of the head, unless
it was masked by reorganisations about which nothing new can be said. Such a look always succeeds, and the sink is given
nothing.
-/
theorem handle_heard_iff (hlast : state.handled.getLast? = some last)
    (hparent : Unknown (state.handled ++ [head]) head.parentRoot)
    : let look := (Handler.handle ⟨oracle, sink.logged⟩ settings now head).run ⟨.fork sent, state, [], world⟩
      (look.1 = .ok () → (Heard settings now last head sent look.2.world.1 ↔ ¬Masked settings state last head sent))
        ∧ (Masked settings state last head sent → look = (.ok (), ⟨.fork sent, state.drainReorgs.2, [], world⟩)) := by
  intro look
  have hsilent (hmasked : Masked settings state last head sent) :
      look = (.ok (), ⟨.fork sent, state.drainReorgs.2, [], world⟩) :=
    run_handle_of_masked _ now ([], world) hmasked
  refine ⟨fun hok => ⟨fun hheard hmasked => ?_, fun hmasked => ?_⟩, hsilent⟩
  . rw [hsilent hmasked] at hheard
    exact not_heard_of_masked hmasked rfl hheard
  . obtain ⟨drafts, hdrafts, haccepted⟩ :=
      accepted_of_handle_eq_ok oracle sink settings now sent world (Prod.ext hok rfl)
    exact heard_of_not_masked hlast hparent hdrafts haccepted hmasked

end

namespace Reannounced

def settings : Settings := ⟨⟨"mainnet"⟩, ∅, []⟩

def outlets : Outlets (SinkLog × Unit) := ⟨none, Sink.logged ⟨fun _ => pure ()⟩⟩

def head (slot : Slot) (root parentRoot : String) : Head :=
  ⟨⟨root, true, ⟨slot, 1, parentRoot, "0x03"⟩⟩, ⟨slot, parentRoot, ⟨none, [], [], [], none⟩⟩⟩

/-- The slot of the second head is reorganised before the look at it and once more after that. -/
def steps : List (Step (SinkLog × Unit)) := [
  .push (head 10 "0x0a" "0x09"), .announce ⟨12, 1, "0x10", "0x20"⟩, .look ⟨0, 0⟩ (head 12 "0x0c" "0x0a"),
  .push (head 12 "0x0c" "0x0a"), .announce ⟨12, 1, "0x20", "0x30"⟩]

def desk : Desk Handler (SinkLog × Unit) := Step.run outlets settings steps ⟨.fork (.empty 10), .empty 96, [], ()⟩

/-- What the handler remembers of the alert about the first one. -/
def sent : SentAlerts := ⟨10, [(reorgDraft settings ⟨12, 1, "0x10", "0x20"⟩).annotations]⟩

/-- A head whose parent, of slot 13, was never seen. -/
def unheard : Head := head 14 "0x0e" "0x0d"

theorem masked_unheard : Masked settings desk.state (head 12 "0x0c" "0x0a") unheard sent where
  waiting := by decide +kernel
  repeated := by decide +kernel
  fresh := by
    intro missing hmissing
    cases hmissing
    decide +kernel

/-- Only the first reorganisation was told of. The second one repeats it, and nothing is said about the head. -/
theorem handle_says_nothing :
    let look := (Handler.handle outlets settings ⟨24, 0⟩ unheard).run { desk with world := ([], ()) }
    desk.handler = .fork sent ∧ desk.world.1.accepted.map (·.kindName) = ["UnhandledChainReorg"]
      ∧ desk.state.handled.map (·.root) = ["0x0a", "0x0c"]
      ∧ Unknown (desk.state.handled ++ [unheard]) unheard.parentRoot
      ∧ look.1 = .ok ()
      ∧ ¬Heard settings ⟨24, 0⟩ (head 12 "0x0c" "0x0a") unheard sent look.2.world.1 := by
  intro look
  have hlog : look.2.world.1.accepted = [] := by
    rw [← List.length_eq_zero_iff]
    decide +kernel
  exact ⟨rfl, by decide +kernel, by decide +kernel, by decide +kernel, by decide +kernel,
    not_heard_of_masked masked_unheard hlog⟩

theorem handle_heard_reannounced :
    let look := (Handler.handle outlets settings ⟨24, 0⟩ unheard).run ⟨.fork sent, desk.state, [], ()⟩
    look = (.ok (), ⟨.fork sent, desk.state.drainReorgs.2, [], ()⟩)
      ∧ ¬Heard settings ⟨24, 0⟩ (head 12 "0x0c" "0x0a") unheard sent look.2.world.1 := by
  intro look
  have hlast : desk.state.handled.getLast? = some (head 12 "0x0c" "0x0a") := by decide +kernel
  have hparent : Unknown (desk.state.handled ++ [unheard]) unheard.parentRoot := by decide +kernel
  have ⟨hheard, hsilent⟩ := handle_heard_iff none ⟨fun _ => pure ()⟩ settings ⟨24, 0⟩ sent () hlast hparent
  have hlook : look = _ := hsilent masked_unheard
  exact ⟨hlook, fun h => (hheard (congrArg Prod.fst hlook)).mp h masked_unheard⟩

end Reannounced
end Fork
end Watch
end BeaconSentry
