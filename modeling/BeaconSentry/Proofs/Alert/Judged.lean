import BeaconSentry.Proofs.Alert.Recent

/-!
This module contains the delivery of drafts through a sink that takes or refuses an alert by what it says, and not by
when it is fired or what else the sink was given.
-/

namespace BeaconSentry

open Watch

variable {ω : Type}

/-- The alerts that a sink took. -/
def SinkLog.accepted (log : SinkLog) : List Alert := (log.filter (·.2)).flatMap (·.1)

@[simp]
theorem SinkLog.accepted_append_true (log : SinkLog) (alert : Alert) :
    accepted (log ++ [([alert], true)]) = log.accepted ++ [alert] := by
  simp [accepted]

@[simp]
theorem SinkLog.accepted_append_false (log : SinkLog) (alerts : List Alert) :
    accepted (log ++ [(alerts, false)]) = log.accepted := by
  simp [accepted]

/-- A sink that decides by drafts alone whether it takes the alerts made of them. -/
def Sink.DecidesBy (sink : Sink ω) (takes : Draft → Bool) : Prop :=
  ∀ (draft : Draft) (now : Instant) (world : ω), ((sink.deliver [draft.alert now]).run world).1.isOk = takes draft

namespace SentAlerts

/-- Those of some drafts that get to a sink and are taken there: no repeats, and none after one that is refused. -/
def taken (takes : Draft → Bool) (history : SentAlerts) (drafts : List Draft) : List Draft :=
  (history.news (·.annotations) drafts).takeWhile takes

/-- Whether no draft that gets to a sink is refused there. -/
def allTaken (takes : Draft → Bool) (history : SentAlerts) (drafts : List Draft) : Bool :=
  (history.news (·.annotations) drafts).all takes

theorem sendEach_logged {sink : Sink ω} {takes : Draft → Bool} (hsink : sink.DecidesBy takes) (now : Instant)
    (drafts : List Draft) (history : SentAlerts) (log : SinkLog) (world : ω)
    : ∃ result log' world',
        (sendEach sink.logged (drafts.map (·.alert now))).run (history, log, world)
            = (result, history.pushAll ((history.taken takes drafts).map (·.annotations)), log', world')
          ∧ result.isOk = history.allTaken takes drafts
          ∧ log'.accepted = log.accepted ++ (history.taken takes drafts).map (·.alert now) := by
  unfold taken allTaken
  induction drafts generalizing history log world with
  | nil => exact ⟨.ok (), log, world, rfl, rfl, (List.append_nil _).symm⟩
  | cons draft rest ih =>
    obtain ⟨result, history', log', world', hrun, hlogged⟩ :=
      loggedOnce_sendOnce sink (draft.alert now) history log world
    rw [List.map_cons, sendEach, Action.run_bind, hrun]
    have hdecides := hsink draft now world
    cases hlogged with
    | repeated hmem =>
      have hmem : draft.annotations ∈ history.sent := hmem
      rw [news_cons_of_mem hmem]
      exact ih history log world'
    | taken hmem hanswer =>
      have hmem : draft.annotations ∉ history.sent := hmem
      rw [hanswer] at hdecides
      obtain ⟨result, log', world', hrest, hok, haccepted⟩ :=
        ih (history.push draft.annotations) (log ++ [([draft.alert now], true)]) world'
      rw [news_cons_of_not_mem hmem, List.takeWhile_cons_of_pos hdecides.symm, List.all_cons, ← hdecides]
      refine ⟨result, log', world', hrest, hok, ?_⟩
      rw [haccepted, SinkLog.accepted_append_true, List.append_assoc]
      rfl
    | @refused report hmem hanswer =>
      have hmem : draft.annotations ∉ history.sent := hmem
      rw [hanswer] at hdecides
      have hrefused : ¬takes draft = true := by
        rw [← hdecides]
        exact Bool.false_ne_true
      rw [news_cons_of_not_mem hmem, List.takeWhile_cons_of_neg hrefused, List.all_cons, ← hdecides]
      refine ⟨.error report, log ++ [([draft.alert now], false)], world', rfl, rfl, ?_⟩
      rw [SinkLog.accepted_append_false]
      exact (List.append_nil _).symm

end SentAlerts

/-- How drafts fare at such a sink is up to what they say and what is remembered of those sent before. -/
theorem Watch.deliverDrafts_logged {sink : Sink ω} {takes : Draft → Bool} (hsink : sink.DecidesBy takes)
    (now : Instant) (drafts : List Draft) (history : SentAlerts) (log : SinkLog) (world : ω)
    : ∃ (result : Except Report Unit) (log' : SinkLog) (world' : ω),
        (deliverDrafts sink.logged now drafts).run (history, log, world)
            = (result.mapError .report, history.pushAll ((history.taken takes drafts).map (·.annotations)),
                log', world')
          ∧ result.isOk = history.allTaken takes drafts
          ∧ log'.accepted = log.accepted ++ (history.taken takes drafts).map (·.alert now) := by
  obtain ⟨result, log', world', hrun, hended⟩ := history.sendEach_logged hsink now drafts log world
  refine ⟨result, log', world', ?_, hended⟩
  rw [deliverDrafts, Action.run_mapError, hrun]

end BeaconSentry
