import BeaconSentry.Watch.Settings

/-!
This module contains the delivery of alerts through a courier that may fail to take any of them. A delivery that is
tried again goes on where the last one failed.
-/

namespace BeaconSentry

/-- The alerts that a courier has taken, and which of the next ones it fails to take. It takes all after those. -/
structure Courier where
  accepted : List Alert
  fates : List (Option Report)

/-- Deliver alerts through a courier. -/
def Courier.sink : Sink Courier where
  deliver alerts := {
    run := fun courier =>
      match courier.fates with
      | some report :: fates => (.error report, { courier with fates })
      | none :: fates => (.ok (), ⟨courier.accepted ++ alerts, fates⟩)
      | [] => (.ok (), ⟨courier.accepted ++ alerts, []⟩) }

theorem Courier.eq_of_deliver_ok {courier after : Courier} {alerts : List Alert}
    (h : (sink.deliver alerts).run courier = (.ok (), after))
    : ∃ fates, after = ⟨courier.accepted ++ alerts, fates⟩ ∧ fates.length ≤ courier.fates.length := by
  rcases courier with ⟨accepted, _ | ⟨_ | report, fates⟩⟩
  . cases h
    exact ⟨[], rfl, Nat.le_refl _⟩
  . cases h
    exact ⟨fates, rfl, Nat.le_succ _⟩
  . cases h

theorem Courier.eq_of_deliver_error {courier after : Courier} {alerts : List Alert} {report : Report}
    (h : (sink.deliver alerts).run courier = (.error report, after))
    : ∃ fates, after = ⟨courier.accepted, fates⟩ ∧ fates.length < courier.fates.length := by
  rcases courier with ⟨accepted, _ | ⟨_ | _, fates⟩⟩
  . cases h
  . cases h
  . cases h
    exact ⟨fates, rfl, Nat.lt_succ_self _⟩

namespace SentAlerts

variable {ω : Type}

/-- Add annotations and forget the oldest ones beyond the capacity. -/
def push (history : SentAlerts) (annotations : Annotations) : SentAlerts :=
  let sent := history.sent ++ [annotations]
  { history with sent := sent.drop (sent.length - history.capacity) }

/-- Add annotations in order. -/
def pushAll (history : SentAlerts) (news : List Annotations) : SentAlerts := news.foldl push history

theorem isSent_iff (history : SentAlerts) (alert : Alert) :
    history.isSent alert = true ↔ alert.annotations ∈ history.sent := by
  simp [isSent]

theorem pushAll_append (history : SentAlerts) (xs ys : List Annotations) :
    history.pushAll (xs ++ ys) = (history.pushAll xs).pushAll ys :=
  List.foldl_append ..

theorem mem_or_mem_of_mem_pushAll {history : SentAlerts} {news : List Annotations} {annotations : Annotations}
    (h : annotations ∈ (history.pushAll news).sent) : annotations ∈ history.sent ∨ annotations ∈ news := by
  induction news generalizing history with
  | nil => exact .inl h
  | cons first rest ih =>
    cases ih h with
    | inl hmem =>
      have hmem := List.mem_of_mem_drop hmem
      rw [List.mem_append, List.mem_singleton] at hmem
      rcases hmem with hmem | rfl
      . exact .inl hmem
      . exact .inr (List.mem_cons_self ..)
    | inr hmem => exact .inr (List.mem_cons_of_mem _ hmem)

theorem pushAll.go_sent {history : SentAlerts} {older done news : List Annotations}
    (hsent : history.sent = older ++ done) (hcapacity : done.length + news.length ≤ history.capacity)
    : ∃ older, (history.pushAll news).sent = older ++ (done ++ news) := by
  induction news generalizing history older done with
  | nil => exact ⟨older, by rw [List.append_nil]; exact hsent⟩
  | cons annotations rest ih =>
    rw [List.length_cons] at hcapacity
    -- The oldest entries are dropped first, and there are older ones as long as the news fit in.
    have hpush : (history.push annotations).sent
        = older.drop ((history.sent ++ [annotations]).length - history.capacity) ++ (done ++ [annotations]) := by
      unfold push
      dsimp only
      rw [hsent, List.append_assoc, List.drop_append_of_le_length]
      simp only [List.length_append, List.length_singleton]
      omega
    have ⟨older', hrest⟩ := ih hpush (by
      rw [List.length_append, List.length_singleton]
      exact Nat.le_trans (by omega) hcapacity)
    refine ⟨older', ?_⟩
    rw [List.append_assoc] at hrest
    exact hrest

theorem mem_pushAll {history : SentAlerts} {news : List Annotations} {annotations : Annotations}
    (hcapacity : news.length ≤ history.capacity) (hmem : annotations ∈ news)
    : annotations ∈ (history.pushAll news).sent := by
  have ⟨older, hsent⟩ : ∃ older, (history.pushAll news).sent = older ++ ([] ++ news) :=
    pushAll.go_sent (List.append_nil history.sent).symm (by simpa using hcapacity)
  rw [hsent]
  exact List.mem_append_right _ hmem

/-- How the sending of one alert can end. -/
inductive SentOnce (sink : Sink ω) (alert : Alert) (history : SentAlerts) (world : ω) :
    Except Report Bool → SentAlerts → ω → Prop
  | repeated (hmem : alert.annotations ∈ history.sent) : SentOnce sink alert history world (.ok false) history world
  | taken {after : ω} (hmem : alert.annotations ∉ history.sent)
      (hdeliver : (sink.deliver [alert]).run world = (.ok (), after)) :
    SentOnce sink alert history world (.ok true) (history.push alert.annotations) after
  | refused {report : Report} {after : ω} (hmem : alert.annotations ∉ history.sent)
      (hdeliver : (sink.deliver [alert]).run world = (.error report, after)) :
    SentOnce sink alert history world (.error report) history after

theorem sentOnce_sendOnce (sink : Sink ω) (alert : Alert) (history : SentAlerts) (world : ω) :
    ∃ result history' after, (sendOnce sink alert).run (history, world) = (result, history', after)
      ∧ SentOnce sink alert history world result history' after := by
  unfold sendOnce
  dsimp only
  split
  . next hsent => exact ⟨.ok false, history, world, rfl, .repeated ((history.isSent_iff alert).mp hsent)⟩
  . next hsent =>
    rw [isSent_iff] at hsent
    generalize hdeliver : (sink.deliver [alert]).run world = answer
    rcases answer with ⟨report | ⟨⟨⟩⟩, after⟩
    . exact ⟨.error report, history, after, rfl, .refused hsent hdeliver⟩
    . exact ⟨.ok true, _, after, rfl, .taken hsent hdeliver⟩

theorem capacity_sendEach (sink : Sink ω) (alerts : List Alert) (history : SentAlerts) (world : ω) :
    ((sendEach sink alerts).run (history, world)).2.1.capacity = history.capacity := by
  induction alerts generalizing history world with
  | nil => rfl
  | cons alert rest ih =>
    have ⟨result, history', after, hrun, hsent⟩ := sentOnce_sendOnce sink alert history world
    rw [sendEach, Action.run_bind, hrun]
    cases hsent with
    | repeated => exact ih history world
    | taken => exact ih (history.push alert.annotations) after
    | refused => rfl

/-- Those that are no repeats, if each one that is none is sent and then remembered by its annotations. -/
def news {α : Type} (annotations : α → Annotations) (history : SentAlerts) : List α → List α
  | [] => []
  | first :: rest =>
    if annotations first ∈ history.sent then news annotations history rest
    else first :: news annotations (history.push (annotations first)) rest

section

variable {α β : Type} {annotations : β → Annotations}

theorem news_cons_of_mem {history : SentAlerts} {first : β} {rest : List β} (h : annotations first ∈ history.sent) :
    history.news annotations (first :: rest) = history.news annotations rest :=
  if_pos h

theorem news_cons_of_not_mem {history : SentAlerts} {first : β} {rest : List β} (h : annotations first ∉ history.sent) :
    history.news annotations (first :: rest) = first :: (history.push (annotations first)).news annotations rest :=
  if_neg h

theorem news_map (f : α → β) (history : SentAlerts) (xs : List α) :
    history.news annotations (xs.map f) = (history.news (annotations ∘ f) xs).map f := by
  induction xs generalizing history with
  | nil => rfl
  | cons first rest ih =>
    rw [List.map_cons]
    by_cases hmem : annotations (f first) ∈ history.sent
    . have hmem' : (annotations ∘ f) first ∈ history.sent := hmem
      rw [news_cons_of_mem hmem, news_cons_of_mem hmem', ih]
    . have hmem' : (annotations ∘ f) first ∉ history.sent := hmem
      rw [news_cons_of_not_mem hmem, news_cons_of_not_mem hmem', List.map_cons, ih]
      rfl

theorem news_sublist (history : SentAlerts) (xs : List β) : (history.news annotations xs).Sublist xs := by
  induction xs generalizing history with
  | nil => exact .slnil
  | cons first rest ih =>
    by_cases hmem : annotations first ∈ history.sent
    . rw [news_cons_of_mem hmem]
      exact (ih history).cons first
    . rw [news_cons_of_not_mem hmem]
      exact (ih _).cons_cons first

/-- What is remembered is passed over. -/
theorem news_append_of_mem {history : SentAlerts} {xs : List β} (ys : List β)
    (h : ∀ x ∈ xs, annotations x ∈ history.sent)
    : history.news annotations (xs ++ ys) = history.news annotations ys := by
  induction xs with
  | nil => rfl
  | cons first rest ih =>
    rw [List.forall_mem_cons] at h
    rw [List.cons_append, news_cons_of_mem h.1, ih h.2]

end

/-- How a delivery through a courier can end that has some alerts to send, none of which is passed over. -/
structure Delivered (history : SentAlerts) (courier : Courier) (alerts : List Alert) (result : Except Report Unit)
    (taken : List Alert) (history' : SentAlerts) (courier' : Courier) : Prop where
  taken_prefix : taken <+: alerts
  history_eq : history' = history.pushAll (taken.map (·.annotations))
  accepted_eq : courier'.accepted = courier.accepted ++ taken
  ok_iff : result = .ok () ↔ taken = alerts
  fates_le : courier'.fates.length ≤ courier.fates.length
  fates_lt : result ≠ .ok () → courier'.fates.length < courier.fates.length

theorem Delivered.cons {history history' : SentAlerts} {courier courier' : Courier} {alert : Alert}
    {rest taken : List Alert} {result : Except Report Unit} {fates : List (Option Report)}
    (h : Delivered (history.push alert.annotations) ⟨courier.accepted ++ [alert], fates⟩ rest result taken
      history' courier')
    (hfates : fates.length ≤ courier.fates.length)
    : Delivered history courier (alert :: rest) result (alert :: taken) history' courier' where
  taken_prefix := List.cons_prefix_cons.mpr ⟨rfl, h.taken_prefix⟩
  history_eq := h.history_eq
  accepted_eq := by rw [h.accepted_eq, List.append_assoc, List.singleton_append]
  ok_iff := by rw [h.ok_iff, List.cons_inj_right]
  fates_le := Nat.le_trans h.fates_le hfates
  fates_lt hresult := Nat.lt_of_lt_of_le (h.fates_lt hresult) hfates

theorem not_mem_push {history : SentAlerts} {annotations news : Annotations} (hold : annotations ∉ history.sent)
    (hnew : annotations ≠ news) : annotations ∉ (history.push news).sent := by
  intro hmem
  have : annotations ∈ history.sent ∨ annotations ∈ [news] := mem_or_mem_of_mem_pushAll hmem
  cases this with
  | inl hmem => exact hold hmem
  | inr hmem => exact hnew (List.mem_singleton.mp hmem)

theorem news_eq_self {α : Type} {annotations : α → Annotations} {history : SentAlerts} {xs : List α}
    (hnodup : (xs.map annotations).Nodup) (hfresh : ∀ x ∈ xs, annotations x ∉ history.sent)
    : history.news annotations xs = xs := by
  induction xs generalizing history with
  | nil => rfl
  | cons first rest ih =>
    rw [List.map_cons, List.nodup_cons] at hnodup
    rw [List.forall_mem_cons] at hfresh
    rw [news_cons_of_not_mem hfresh.1, ih hnodup.2]
    intro other hmem
    apply not_mem_push (hfresh.2 other hmem)
    intro heq
    rw [← heq] at hnodup
    exact hnodup.1 (List.mem_map_of_mem hmem)

theorem delivered_sendEach (alerts : List Alert) (history : SentAlerts) (courier : Courier) :
    ∃ result taken history' courier',
      (sendEach Courier.sink alerts).run (history, courier) = (result, history', courier')
        ∧ Delivered history courier (history.news (·.annotations) alerts) result taken history' courier' := by
  induction alerts generalizing history courier with
  | nil =>
    refine ⟨.ok (), [], history, courier, rfl, ?_⟩
    exact ⟨List.prefix_refl _, rfl, (List.append_nil _).symm, iff_of_true rfl rfl, Nat.le_refl _,
      fun h => absurd rfl h⟩
  | cons alert rest ih =>
    have ⟨result, history', courier', hrun, hsent⟩ := sentOnce_sendOnce Courier.sink alert history courier
    rw [sendEach, Action.run_bind, hrun]
    cases hsent with
    | repeated hmem =>
      rw [news_cons_of_mem hmem]
      exact ih history courier
    | taken hmem hdeliver =>
      obtain ⟨fates, rfl, hfates⟩ := Courier.eq_of_deliver_ok hdeliver
      have ⟨result, taken, history', courier', hrun, hdelivered⟩ :=
        ih (history.push alert.annotations) ⟨courier.accepted ++ [alert], fates⟩
      rw [news_cons_of_not_mem hmem]
      exact ⟨result, alert :: taken, history', courier', hrun, hdelivered.cons hfates⟩
    | @refused report _ hmem hdeliver =>
      obtain ⟨fates, rfl, hfewer⟩ := Courier.eq_of_deliver_error hdeliver
      rw [news_cons_of_not_mem hmem]
      refine ⟨.error report, [], history, ⟨courier.accepted, fates⟩, rfl, ?_⟩
      exact ⟨List.nil_prefix, rfl, (List.append_nil _).symm, iff_of_false nofun nofun, Nat.le_of_lt hfewer,
        fun _ => hfewer⟩

end SentAlerts

theorem AlertKind.kindName_alert (kind : AlertKind) (now : Instant) (annotations : Annotations) (extra : Labels) :
    (kind.alert now annotations extra).kindName = kind.name := by
  unfold alert Alert.kindName
  rw [String.length_append, Nat.add_sub_cancel, String.toList_append, ← String.length_toList, List.take_left,
    String.ofList_toList]

namespace Watch

open SentAlerts

/-- The draft that an alert was made of. -/
def Draft.ofAlert (alert : Alert) : Draft := ⟨⟨alert.kindName, alert.severity⟩, alert.annotations, alert.extra⟩

@[simp]
theorem Draft.ofAlert_alert (now : Instant) (draft : Draft) : ofAlert (draft.alert now) = draft := by
  unfold ofAlert alert
  rw [AlertKind.kindName_alert]
  rfl

theorem Draft.map_ofAlert_map_alert (now : Instant) (drafts : List Draft) :
    (drafts.map (·.alert now)).map ofAlert = drafts := by
  simp [Function.comp_def]

theorem Draft.map_annotations_map_alert (now : Instant) (drafts : List Draft) :
    (drafts.map (·.alert now)).map (·.annotations) = drafts.map (·.annotations) := by
  rw [List.map_map]
  rfl

/-- How a delivery of drafts through a courier can end that has some of them still to send. -/
structure Resumed (now : Instant) (courier : Courier) (todo : List Draft) (result : Except Failure Unit)
    (taken : List Draft) (courier' : Courier) : Prop where
  taken_prefix : taken <+: todo
  accepted_eq : courier'.accepted = courier.accepted ++ taken.map (·.alert now)
  ok_iff : result = .ok () ↔ taken = todo
  result_cases : result = .ok () ∧ taken = todo ∨ ∃ report, result = .error (.report report)
  fates_le : courier'.fates.length ≤ courier.fates.length
  fates_lt : result ≠ .ok () → courier'.fates.length < courier.fates.length

theorem Resumed.of_delivered {now : Instant} {history history' : SentAlerts} {courier courier' : Courier}
    {todo taken : List Draft} {result : Except Report Unit}
    (h : Delivered history courier (todo.map (·.alert now)) result (taken.map (·.alert now)) history' courier')
    (htaken : taken <+: todo)
    : Resumed now courier todo (result.mapError .report) taken courier' := by
  have hok : result.mapError Failure.report = .ok () ↔ taken = todo := by
    rw [mapError_eq_ok_iff, h.ok_iff]
    refine ⟨fun heq => htaken.eq_of_length ?_, congrArg _⟩
    simpa using congrArg List.length heq
  refine ⟨htaken, h.accepted_eq, hok, ?_, h.fates_le, ?_⟩
  . cases result with
    | ok => exact .inl ⟨rfl, hok.mp rfl⟩
    | error report => exact .inr ⟨report, rfl⟩
  . rw [Ne, mapError_eq_ok_iff]
    exact h.fates_lt

theorem resumed_news (now : Instant) (courier : Courier) (history : SentAlerts) (drafts : List Draft) :
    ∃ result taken courier',
      (deliverDrafts Courier.sink now drafts).run (history, courier)
          = (result, history.pushAll (taken.map (·.annotations)), courier')
        ∧ Resumed now courier (history.news (·.annotations) drafts) result taken courier' := by
  have ⟨result, taken, history', courier', hrun, hdelivered⟩ :=
    delivered_sendEach (drafts.map (·.alert now)) history courier
  have hnews : history.news (·.annotations) (drafts.map (·.alert now))
      = (history.news (·.annotations) drafts).map (·.alert now) :=
    news_map (·.alert now) history drafts
  rw [hnews] at hdelivered
  obtain ⟨taken, htaken, rfl⟩ := List.prefix_map_iff.mp hdelivered.taken_prefix
  refine ⟨result.mapError .report, taken, courier', ?_, .of_delivered hdelivered htaken⟩
  rw [deliverDrafts, Action.run_mapError, hrun, hdelivered.history_eq, Draft.map_annotations_map_alert]

theorem mem_pushAll_of_mem_done {done : List Draft} {history : SentAlerts}
    (hcapacity : done.length ≤ history.capacity)
    : ∀ draft ∈ done, draft.annotations ∈ (history.pushAll (done.map (·.annotations))).sent := by
  intro draft hdraft
  apply mem_pushAll
  . rw [List.length_map]
    exact hcapacity
  . exact List.mem_map_of_mem hdraft

theorem not_mem_of_mem_todo {done todo : List Draft} {history : SentAlerts}
    (hnodup : ((done ++ todo).map (·.annotations)).Nodup)
    (hfresh : ∀ draft ∈ done ++ todo, draft.annotations ∉ history.sent)
    : ∀ draft ∈ todo, draft.annotations ∉ (history.pushAll (done.map (·.annotations))).sent := by
  intro draft hdraft hsent
  rw [List.map_append, List.nodup_append] at hnodup
  cases mem_or_mem_of_mem_pushAll hsent with
  | inl hold => exact hfresh draft (List.mem_append_right _ hdraft) hold
  | inr hnew => exact hnodup.2.2 _ hnew _ (List.mem_map_of_mem hdraft) rfl

theorem resumed_deliverDrafts {done todo : List Draft} {history : SentAlerts} (now : Instant) (courier : Courier)
    (hnodup : ((done ++ todo).map (·.annotations)).Nodup)
    (hfresh : ∀ draft ∈ done ++ todo, draft.annotations ∉ history.sent)
    (hcapacity : done.length ≤ history.capacity)
    : ∃ result taken courier',
        (deliverDrafts Courier.sink now (done ++ todo)).run (history.pushAll (done.map (·.annotations)), courier)
            = (result, history.pushAll ((done ++ taken).map (·.annotations)), courier')
          ∧ Resumed now courier todo result taken courier' := by
  -- Those that were taken before are passed over, since all of them are still in memory.
  have hnews : (history.pushAll (done.map (·.annotations))).news (·.annotations) (done ++ todo) = todo := by
    rw [news_append_of_mem todo (mem_pushAll_of_mem_done hcapacity)]
    refine news_eq_self ?_ (not_mem_of_mem_todo hnodup hfresh)
    rw [List.map_append, List.nodup_append] at hnodup
    exact hnodup.2.1
  have ⟨result, taken, courier', hrun, hresumed⟩ :=
    resumed_news now courier (history.pushAll (done.map (·.annotations))) (done ++ todo)
  rw [hnews] at hresumed
  refine ⟨result, taken, courier', ?_, hresumed⟩
  rw [hrun, ← pushAll_append, List.map_append]

end Watch
end BeaconSentry
