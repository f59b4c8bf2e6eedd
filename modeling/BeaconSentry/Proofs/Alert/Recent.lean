import BeaconSentry.Proofs.Alert.Delivery

/-!
This module contains what the memory of sent alerts knows about a sink: the last alerts that the sink took, so that no
alert is taken twice within as many as the memory holds.
-/

namespace BeaconSentry

variable {ω : Type}

/-- The alerts that a sink was given at one time after the other, and whether it took them. -/
abbrev SinkLog := List (List Alert × Bool)

/-- The annotations of the alerts that a sink took. -/
def SinkLog.taken (log : SinkLog) : List Annotations :=
  (log.filter (·.2)).flatMap (·.1.map (·.annotations))

@[simp]
theorem SinkLog.taken_append_true (log : SinkLog) (alert : Alert) :
    taken (log ++ [([alert], true)]) = log.taken ++ [alert.annotations] := by
  simp [taken]

@[simp]
theorem SinkLog.taken_append_false (log : SinkLog) (alerts : List Alert) :
    taken (log ++ [(alerts, false)]) = log.taken := by
  simp [taken]

/-- A sink that keeps a log. -/
def Sink.logged (sink : Sink ω) : Sink (SinkLog × ω) where
  deliver alerts := {
    run := fun (log, world) =>
      let (result, world) := (sink.deliver alerts).run world
      (result, log ++ [(alerts, result.isOk)], world) }

theorem Sink.run_deliver_logged (sink : Sink ω) (alerts : List Alert) (log : SinkLog) (world : ω) :
    (sink.logged.deliver alerts).run (log, world)
      = (((sink.deliver alerts).run world).1, log ++ [(alerts, ((sink.deliver alerts).run world).1.isOk)],
          ((sink.deliver alerts).run world).2) := rfl

namespace SentAlerts

/-- A memory that holds the last of the annotations that were taken, and those that were taken so far. -/
structure Recalls (history : SentAlerts) (taken : List Annotations) : Prop where
  sent_eq : history.sent = taken.drop (taken.length - history.capacity)
  nodup : ∀ window, window <:+: taken → window.length ≤ history.capacity + 1 → window.Nodup

theorem drop_append_singleton {α : Type} (xs : List α) (x : α) (n : Nat) :
    (xs.drop (xs.length - n) ++ [x]).drop ((xs.drop (xs.length - n) ++ [x]).length - n)
      = (xs ++ [x]).drop ((xs ++ [x]).length - n) := by
  have hcut : xs.drop (xs.length - n) ++ [x] = (xs ++ [x]).drop (xs.length - n) :=
    (List.drop_append_of_le_length (Nat.sub_le ..)).symm
  rw [hcut, List.drop_drop]
  congr 1
  simp only [List.length_drop, List.length_append, List.length_singleton]
  omega

/-- A suffix that is no longer than what the memory holds is in memory. -/
theorem Recalls.suffix_sent {history : SentAlerts} {taken window : List Annotations} (h : history.Recalls taken)
    (hsuffix : window <:+ taken) (hlength : window.length ≤ history.capacity) : window <:+ history.sent := by
  rw [h.sent_eq]
  apply List.suffix_of_suffix_length_le hsuffix (List.drop_suffix ..)
  have := hsuffix.length_le
  rw [List.length_drop]
  omega

theorem Recalls.push {history : SentAlerts} {taken : List Annotations} {annotations : Annotations}
    (h : history.Recalls taken) (hnew : annotations ∉ history.sent)
    : (history.push annotations).Recalls (taken ++ [annotations]) := by
  constructor
  . unfold SentAlerts.push
    dsimp only
    rw [h.sent_eq, drop_append_singleton]
  . intro window hinfix hlength
    have hlength : window.length ≤ history.capacity + 1 := hlength
    rcases List.infix_concat_iff.mp hinfix with hsuffix | hinfix
    . -- A window that ends with the new annotations has only remembered ones before them.
      rcases List.suffix_concat_iff.mp hsuffix with rfl | ⟨older, rfl, holder⟩
      . exact List.nodup_nil
      . rw [List.length_append, List.length_singleton] at hlength
        rw [List.nodup_append]
        refine ⟨h.nodup older holder.isInfix (by omega), by simp, ?_⟩
        intro other hother annotations' hmem heq
        rw [List.mem_singleton] at hmem
        rw [heq, hmem] at hother
        exact hnew ((h.suffix_sent holder (by omega)).subset hother)
    . exact h.nodup window hinfix hlength

/-- Send alerts one after the other, each whatever became of those before. -/
def sendOnceAll (sink : Sink ω) (alerts : List Alert) (start : SentAlerts × ω) : SentAlerts × ω :=
  alerts.foldl (fun state alert => ((sendOnce sink alert).run state).2) start

/-- What the sending of one alert does to a sink that keeps a log, and how it ends. -/
inductive LoggedOnce (sink : Sink ω) (alert : Alert) (history : SentAlerts) (log : SinkLog) (world : ω) :
    Except Report Bool → SentAlerts → SinkLog → Prop
  | repeated (hmem : alert.annotations ∈ history.sent) :
    LoggedOnce sink alert history log world (.ok false) history log
  | taken (hmem : alert.annotations ∉ history.sent) (hanswer : ((sink.deliver [alert]).run world).1 = .ok ()) :
    LoggedOnce sink alert history log world (.ok true) (history.push alert.annotations) (log ++ [([alert], true)])
  | refused {report : Report} (hmem : alert.annotations ∉ history.sent)
      (hanswer : ((sink.deliver [alert]).run world).1 = .error report) :
    LoggedOnce sink alert history log world (.error report) history (log ++ [([alert], false)])

theorem loggedOnce_sendOnce (sink : Sink ω) (alert : Alert) (history : SentAlerts) (log : SinkLog) (world : ω) :
    ∃ result history' log' world', (sendOnce sink.logged alert).run (history, log, world)
        = (result, history', log', world') ∧ LoggedOnce sink alert history log world result history' log' := by
  have ⟨result, history', ⟨log', world'⟩, hrun, hsent⟩ := sentOnce_sendOnce sink.logged alert history (log, world)
  refine ⟨result, history', log', world', hrun, ?_⟩
  cases hsent with
  | repeated hmem => exact .repeated hmem
  | taken hmem hdeliver =>
    rw [Sink.run_deliver_logged, Prod.mk.injEq, Prod.mk.injEq] at hdeliver
    rw [← hdeliver.2.1, hdeliver.1]
    exact .taken hmem hdeliver.1
  | refused hmem hdeliver =>
    rw [Sink.run_deliver_logged, Prod.mk.injEq, Prod.mk.injEq] at hdeliver
    rw [← hdeliver.2.1, hdeliver.1]
    exact .refused hmem hdeliver.1

theorem Recalls.loggedOnce {sink : Sink ω} {alert : Alert} {history history' : SentAlerts} {log log' : SinkLog}
    {world : ω} {result : Except Report Bool} (h : history.Recalls log.taken)
    (hlogged : LoggedOnce sink alert history log world result history' log')
    : history'.Recalls log'.taken ∧ history'.capacity = history.capacity := by
  cases hlogged with
  | repeated => exact ⟨h, rfl⟩
  | taken hmem =>
    rw [SinkLog.taken_append_true]
    exact ⟨h.push hmem, rfl⟩
  | refused =>
    rw [SinkLog.taken_append_false]
    exact ⟨h, rfl⟩

theorem recalls_sendOnceAll {sink : Sink ω} {history : SentAlerts} {log : SinkLog} (alerts : List Alert) (world : ω)
    (h : history.Recalls log.taken)
    : let ended := sendOnceAll sink.logged alerts (history, log, world)
      ended.1.Recalls ended.2.1.taken ∧ ended.1.capacity = history.capacity := by
  induction alerts generalizing history log world with
  | nil => exact ⟨h, rfl⟩
  | cons alert rest ih =>
    have ⟨result, history', log', world', hrun, hlogged⟩ := loggedOnce_sendOnce sink alert history log world
    have ⟨hrecalls, hcapacity⟩ := h.loggedOnce hlogged
    rw [sendOnceAll, List.foldl_cons, hrun, ← hcapacity]
    exact ih world' hrecalls

theorem recalls_empty (capacity : Nat) : (empty capacity).Recalls [] := by
  refine ⟨List.drop_nil.symm, ?_⟩
  intro window hinfix _
  rw [List.eq_nil_of_infix_nil hinfix]
  exact List.nodup_nil

/--
However often a sink fails, the memory holds the annotations of the last alerts that the sink took, as many as it has
room for. An alert that repeats one of these is not given to the sink, and each other one is, and is remembered if the
sink takes it. So among the alerts that the sink took one after the other no two are the same, up to one more than the
memory has room for.
-/
theorem sendOnce_recalls (sink : Sink ω) (capacity : Nat) (earlier : List Alert) (world : ω) (alert : Alert) :
    let before := sendOnceAll sink.logged earlier (.empty capacity, [], world)
    let taken := before.2.1.taken
    let recent := taken.drop (taken.length - capacity)
    let answer := ((sink.deliver [alert]).run before.2.2).1
    let sent := (sendOnce sink.logged alert).run before
    before.1 = ⟨capacity, recent⟩
      ∧ (sent.1 = .ok false ↔ alert.annotations ∈ recent) ∧ (sent.2.2.1 = before.2.1 ↔ alert.annotations ∈ recent)
      ∧ (sent.1 = .ok true ↔ alert.annotations ∉ recent ∧ answer = .ok ())
      ∧ (∀ report, sent.1 = .error report ∧ sent.2.1 = before.1
        ↔ alert.annotations ∉ recent ∧ answer = .error report)
      ∧ ∀ window, window <:+: taken → window.length ≤ capacity + 1 → window.Nodup := by
  have ⟨hrecalls, hcapacity⟩ := @recalls_sendOnceAll ω sink (.empty capacity) [] earlier world (recalls_empty capacity)
  generalize sendOnceAll sink.logged earlier (.empty capacity, [], world) = before at hrecalls hcapacity
  rcases before with ⟨⟨_, recent⟩, log, world⟩
  cases hcapacity
  have hrecent : recent = log.taken.drop (log.taken.length - capacity) := hrecalls.sent_eq
  dsimp only
  rw [← hrecent]
  refine ⟨rfl, ?_⟩
  have ⟨result, history', log', world', hrun, hlogged⟩ := loggedOnce_sendOnce sink alert ⟨capacity, recent⟩ log world
  rw [hrun]
  have hlog (entry : List Alert × Bool) : log ++ [entry] ≠ log := by simp
  cases hlogged with
  | repeated hmem =>
    refine ⟨iff_of_true rfl hmem, iff_of_true rfl hmem, iff_of_false nofun ?_, ?_, hrecalls.nodup⟩
    . exact fun h => h.1 hmem
    . exact fun report => iff_of_false nofun fun h => h.1 hmem
  | taken hmem hanswer =>
    rw [hanswer]
    exact ⟨iff_of_false nofun hmem, iff_of_false (hlog _) hmem, iff_of_true rfl ⟨hmem, rfl⟩,
      fun report => iff_of_false nofun nofun, hrecalls.nodup⟩
  | @refused report hmem hanswer =>
    rw [hanswer]
    refine ⟨iff_of_false nofun hmem, iff_of_false (hlog _) hmem, iff_of_false nofun nofun, ?_, hrecalls.nodup⟩
    exact fun report => ⟨fun h => ⟨hmem, by simpa using h.1⟩, fun h => ⟨by simpa using h.2, rfl⟩⟩

end SentAlerts
end BeaconSentry
