import BeaconSentry.Proofs.Alert.Delivery
import BeaconSentry.Proofs.Exit.Repeat
import BeaconSentry.Proofs.Watch.Drafts
import BeaconSentry.Watch.Handler

/-!
This module contains the drafts that a handler owes for a head, which do not depend on the alerts it has sent.
-/

namespace BeaconSentry

/-- The block after that of a head has a number. -/
def Beacon.Head.HasNext (head : Head) : Prop :=
  ∀ block, head.blockNumber = some block → block.toNat + 1 < UInt64.size

namespace Watch

open Beacon Exit

variable {ω : Type}

namespace ExitWatch

/-- The watch over exits once it has learned of the requests to exit for a head, from unchanging answers. -/
def learned (answers : Option ExitAnswers) (state : State) (head : Head) (watch : ExitWatch) : ExitWatch :=
  match answers, head.blockNumber, owned watch.disabledModules state head with
  | some answers, some block, _ :: _ => { watch with requests := (watch.requests.refreshed answers block).2 }
  | _, _, _ => watch

theorem run_learn {answers : Option ExitAnswers} {state : State} {head : Head} {watch : ExitWatch} (world : ω)
    (hscan : watch.requests.CanScan)
    (hnext : head.HasNext)
    : (learn (answers.map (·.oracle)) state head).run (watch, world)
        = (.ok (), watch.learned answers state head, world) := by
  simp only [learn, learned]
  cases answers with
  | none => rfl
  | some answers =>
    cases hnumber : head.blockNumber with
    | none => rfl
    | some block =>
      cases owned watch.disabledModules state head with
      | nil => rfl
      | cons =>
        simp only [Option.map_some, ExitCache.run_refresh_eq]
        have hrange := (hscan.refreshed (ExitCache.refreshed_of_answers answers block watch.requests)
          (hnext block hnumber)).1
        generalize watch.requests.refreshed answers block = outcome at hrange ⊢
        rcases outcome with ⟨(_ | overflow) | _, cache⟩
        . rfl
        . exact absurd rfl (hrange overflow)
        . rfl

theorem learned_learned (answers : Option ExitAnswers) (state : State) (head : Head) (watch : ExitWatch) :
    (watch.learned answers state head).learned answers state head = watch.learned answers state head := by
  unfold learned
  cases answers with
  | none => rfl
  | some answers =>
    cases head.blockNumber with
    | none => rfl
    | some block =>
      cases howned : owned watch.disabledModules state head with
      | nil =>
        dsimp only
        rw [howned]
      | cons =>
        dsimp only
        rw [howned]
        dsimp only
        rw [ExitCache.refreshed_refreshed]

theorem learned_withSent (answers : Option ExitAnswers) (state : State) (head : Head) (watch : ExitWatch)
    (sent : SentAlerts) :
    ({ watch with sent } : ExitWatch).learned answers state head = { watch.learned answers state head with sent } := by
  unfold learned
  cases answers with
  | none => rfl
  | some answers =>
    cases head.blockNumber with
    | none => rfl
    | some block => cases owned watch.disabledModules state head <;> rfl

theorem sent_learned (answers : Option ExitAnswers) (state : State) (head : Head) (watch : ExitWatch) :
    (watch.learned answers state head).sent = watch.sent := by
  unfold learned
  split <;> rfl

theorem canScan_learned {answers : Option ExitAnswers} {state : State} {head : Head} {watch : ExitWatch}
    (hscan : watch.requests.CanScan) (hnext : head.HasNext)
    : (watch.learned answers state head).requests.CanScan := by
  unfold learned
  split
  . next hnumber _ => exact (hscan.refreshed (ExitCache.refreshed_of_answers ..) (hnext _ hnumber)).2
  . exact hscan

theorem canScan_learn (oracle : Option (ExitOracle ω)) (state : State) {head : Head} {watch : ExitWatch} (world : ω)
    (hscan : watch.requests.CanScan) (hnext : head.HasNext)
    : ((learn oracle state head).run (watch, world)).2.1.requests.CanScan
        ∧ ((learn oracle state head).run (watch, world)).2.1.sent = watch.sent := by
  simp only [learn]
  cases oracle with
  | none => exact ⟨hscan, rfl⟩
  | some oracle =>
    cases hnumber : head.blockNumber with
    | none => exact ⟨hscan, rfl⟩
    | some block =>
      cases owned watch.disabledModules state head with
      | nil => exact ⟨hscan, rfl⟩
      | cons =>
        have hrefreshed : ExitCache.Refreshed oracle block watch.requests _ _ :=
          ExitCache.refreshed_of_run (rfl : (ExitCache.refresh oracle block).run (watch.requests, world) = (_, _, _))
        have hscan' := (hscan.refreshed hrefreshed (hnext block hnumber)).2
        dsimp only
        split <;> exact ⟨hscan', rfl⟩

end ExitWatch

namespace Handler

/-- What a handler remembers of its alerts. -/
def history : Handler → SentAlerts
  | slashing sent => sent
  | fork sent => sent
  | exit watch => watch.sent
  | withdrawal sent => sent
  | consolidation sent => sent

/-- The handler with another memory of its alerts. -/
def withHistory (sent : SentAlerts) : Handler → Handler
  | slashing _ => slashing sent
  | fork _ => fork sent
  | exit watch => exit { watch with sent }
  | withdrawal _ => withdrawal sent
  | consolidation _ => consolidation sent

/-- The handler once it has learned what it can for a head. -/
def learned (answers : Option ExitAnswers) (state : State) (head : Head) : Handler → Handler
  | exit watch => exit (watch.learned answers state head)
  | handler => handler

/-- The drafts that a handler owes for a head, unless it is the one for forks, which takes what waits. -/
def due (answers : Option ExitAnswers) (settings : Settings) (state : State) (head : Head) : Handler → List Draft
  | slashing _ => Slashing.drafts settings state head
  | fork _ => []
  | exit watch =>
    let watch := watch.learned answers state head
    ExitWatch.drafts settings state head watch.disabledModules watch.requests
  | withdrawal _ => WithdrawalCategory.drafts settings state head
  | consolidation _ => ConsolidationCategory.drafts settings state head

/-- The kinds of the alerts of a handler. -/
def kinds : Handler → List AlertKind
  | slashing _ => [Slashing.ownedKind, Slashing.unknownKind, Slashing.otherKind]
  | fork _ => [Fork.reorgKind, Fork.headKind]
  | exit _ => [ExitWatch.unexpectedKind, ExitWatch.unknownKind]
  | withdrawal _ =>
    [WithdrawalCategory.full, .partialAmount, .fromValidAddress, .ownedFromUnknownSource].map (·.kind)
  | consolidation _ => [ConsolidationCategory.sourceAddress, .ownedSource, .ownedTarget].map (·.kind)

/-- A handler whose alerts depend only on the head, and which can learn of the requests to exit. -/
def IsSteady : Handler → Prop
  | fork _ => False
  | exit watch => watch.requests.CanScan
  | _ => True

variable (answers : Option ExitAnswers) (settings : Settings) (state : State) (head : Head) (handler : Handler)
  (sent : SentAlerts)

@[simp]
theorem history_withHistory : (handler.withHistory sent).history = sent := by
  cases handler <;> rfl

@[simp]
theorem withHistory_history : handler.withHistory handler.history = handler := by
  cases handler <;> rfl

@[simp]
theorem withHistory_withHistory (sent' : SentAlerts) :
    (handler.withHistory sent).withHistory sent' = handler.withHistory sent' := by
  cases handler <;> rfl

@[simp]
theorem name_withHistory : (handler.withHistory sent).name = handler.name := by
  cases handler <;> rfl

@[simp]
theorem name_learned : (handler.learned answers state head).name = handler.name := by
  cases handler <;> rfl

@[simp]
theorem history_learned : (handler.learned answers state head).history = handler.history := by
  cases handler with
  | exit watch => exact watch.sent_learned answers state head
  | _ => rfl

@[simp]
theorem learned_withHistory :
    (handler.withHistory sent).learned answers state head = (handler.learned answers state head).withHistory sent := by
  cases handler with
  | exit watch => exact congrArg exit (watch.learned_withSent answers state head sent)
  | _ => rfl

@[simp]
theorem learned_learned :
    (handler.learned answers state head).learned answers state head = handler.learned answers state head := by
  cases handler with
  | exit watch => exact congrArg exit (watch.learned_learned answers state head)
  | _ => rfl

@[simp]
theorem due_withHistory :
    (handler.withHistory sent).due answers settings state head = handler.due answers settings state head := by
  cases handler with
  | exit watch => simp only [withHistory, due, ExitWatch.learned_withSent]
  | _ => rfl

@[simp]
theorem due_learned :
    (handler.learned answers state head).due answers settings state head = handler.due answers settings state head := by
  cases handler with
  | exit watch => simp only [learned, due, ExitWatch.learned_learned]
  | _ => rfl

theorem IsSteady.withHistory {handler : Handler} (h : handler.IsSteady) (sent : SentAlerts) :
    (handler.withHistory sent).IsSteady := by
  cases handler <;> exact h

theorem IsSteady.learned {answers : Option ExitAnswers} {state : State} {head : Head} {handler : Handler}
    (h : handler.IsSteady) (hnext : head.HasNext)
    : (handler.learned answers state head).IsSteady := by
  cases handler with
  | exit watch => exact ExitWatch.canScan_learned h hnext
  | _ => exact h

theorem run_handle {answers : Option ExitAnswers} {head : Head} {handler : Handler} (sink : Sink ω) (now : Instant)
    (settings : Settings) (state : State) (world : ω) (h : handler.IsSteady)
    (hnext : head.HasNext)
    : (handle ⟨answers.map (·.oracle), sink⟩ settings now head).run ⟨handler, state, world⟩ =
        let (result, sent, world) :=
          (deliverDrafts sink now (handler.due answers settings state head)).run (handler.history, world)
        (result, ⟨(handler.learned answers state head).withHistory sent, state, world⟩) := by
  cases handler with
  | fork => cases h
  | exit watch =>
    simp only [handle, ExitWatch.handle, Action.run_bind, ExitWatch.run_learn _ h hnext, ExitWatch.report,
      ExitWatch.sent_learned]
    rfl
  | _ => rfl

theorem IsSteady.handle {head : Head} {handler : Handler} (outlets : Outlets ω) (settings : Settings) (now : Instant)
    (state : State) (world : ω) (h : handler.IsSteady)
    (hnext : head.HasNext)
    : let after := ((Handler.handle outlets settings now head).run ⟨handler, state, world⟩).2.handler
      after.IsSteady ∧ after.history.capacity = handler.history.capacity := by
  cases handler with
  | fork => cases h
  | exit watch =>
    have ⟨hscan, hsent⟩ := ExitWatch.canScan_learn outlets.oracle state world h hnext
    simp only [Handler.handle, ExitWatch.handle, Action.run_bind]
    generalize (ExitWatch.learn outlets.oracle state head).run (watch, world) = learned at hscan hsent
    rcases learned with ⟨_ | _, watch', world'⟩
    . exact ⟨hscan, congrArg (·.capacity) hsent⟩
    . refine ⟨hscan, ?_⟩
      exact (SentAlerts.capacity_sendEach ..).trans (congrArg (·.capacity) hsent)
  | _ => exact ⟨trivial, SentAlerts.capacity_sendEach ..⟩

theorem pairwise_due : (handler.due answers settings state head).Pairwise Draft.Apart := by
  cases handler with
  | slashing => exact Slashing.pairwise_drafts ..
  | fork => exact .nil
  | exit => exact ExitWatch.pairwise_drafts ..
  | withdrawal => exact WithdrawalCategory.pairwise_drafts ..
  | consolidation => exact ConsolidationCategory.pairwise_drafts ..

theorem kind_mem_kinds : ∀ draft ∈ handler.due answers settings state head, draft.kind ∈ handler.kinds := by
  intro draft hmem
  cases handler with
  | slashing =>
    have ⟨owned, unknown, other, heq, howned, hunknown, hother⟩ := Slashing.exists_drafts_eq settings state head
    unfold due at hmem
    rw [heq, List.mem_append, List.mem_append] at hmem
    rcases hmem with (hmem | hmem) | hmem
    . rw [howned.kind_eq draft hmem]
      exact List.mem_cons_self ..
    . rw [hunknown.kind_eq draft hmem]
      exact List.mem_cons_of_mem _ (List.mem_cons_self ..)
    . rw [hother.kind_eq draft hmem]
      exact List.mem_cons_of_mem _ (List.mem_cons_of_mem _ (List.mem_cons_self ..))
  | fork => cases hmem
  | exit =>
    unfold due ExitWatch.drafts at hmem
    rw [List.mem_append] at hmem
    rcases hmem with hmem | hmem
    . rw [(ExitWatch.atMostOne_unexpectedDraft ..).kind_eq draft hmem]
      exact List.mem_cons_self ..
    . rw [(ExitWatch.atMostOne_unknownDraft ..).kind_eq draft hmem]
      exact List.mem_cons_of_mem _ (List.mem_cons_self ..)
  | withdrawal =>
    obtain ⟨⟨category, requests⟩, _, rfl⟩ := List.mem_map.mp hmem
    apply List.mem_map_of_mem
    cases category <;> decide
  | consolidation =>
    obtain ⟨⟨category, requests⟩, _, rfl⟩ := List.mem_map.mp hmem
    apply List.mem_map_of_mem
    cases category <;> decide

theorem length_due_le : (handler.due answers settings state head).length ≤ 4 := by
  have hle := length_le_of_pairwise (pairwise_due answers settings state head handler)
    (kind_mem_kinds answers settings state head handler)
  have : handler.kinds.length ≤ 4 := by cases handler <;> simp [kinds]
  omega

theorem kindName_ne {handler other : Handler} (h : handler.name ≠ other.name) :
    ∀ kind ∈ handler.kinds, ∀ kind' ∈ other.kinds, kind.name ≠ kind'.name := by
  cases handler <;> cases other <;> first
    | exact absurd rfl h
    | (dsimp only [kinds]; decide)

/-- Whether a draft is of a kind whose name a handler gives to its alerts. -/
def sends (handler : Handler) (draft : Draft) : Bool := (handler.kinds.map (·.name)).contains draft.kind.name

theorem sends_of_mem_due {draft : Draft} (h : draft ∈ handler.due answers settings state head) :
    handler.sends draft = true := by
  unfold sends
  rw [List.contains_iff_mem]
  exact List.mem_map_of_mem (kind_mem_kinds answers settings state head handler draft h)

theorem sends_eq_false_of_sends {handler other : Handler} {draft : Draft} (hname : handler.name ≠ other.name)
    (h : other.sends draft = true) : handler.sends draft = false := by
  unfold sends at h ⊢
  rw [List.contains_iff_mem, List.mem_map] at h
  rw [← Bool.not_eq_true, List.contains_iff_mem, List.mem_map]
  intro ⟨kind, hkind, heq⟩
  have ⟨kind', hkind', heq'⟩ := h
  exact kindName_ne hname kind hkind kind' hkind' (heq.trans heq'.symm)

/-- A handler other than the one for forks, after any heads whose blocks have next ones. -/
inductive Reached : Handler → Prop
  | start {lookback : UInt64} {disabledModules : List UInt64} {name : String} {handler : Handler}
      (hnamed : named? lookback disabledModules name = some handler) (hname : name ≠ "fork") : Reached handler
  | handled {handler : Handler} {ω : Type} {head : Head} (outlets : Outlets ω) (settings : Settings) (now : Instant)
      (state : State) (world : ω) (hreached : Reached handler) (hnext : head.HasNext) :
    Reached ((handle outlets settings now head).run ⟨handler, state, world⟩).2.handler

theorem isSteady_of_named {lookback : UInt64} {disabledModules : List UInt64} {name : String} {handler : Handler}
    (hnamed : named? lookback disabledModules name = some handler) (hname : name ≠ "fork")
    : handler.IsSteady ∧ handler.history.capacity = SentAlerts.defaultCapacity := by
  have hmem := List.mem_of_find?_eq_some hnamed
  have hfound := List.find?_some hnamed
  rw [beq_iff_eq] at hfound
  simp only [List.mem_cons, List.not_mem_nil, or_false] at hmem
  rcases hmem with rfl | rfl | rfl | rfl | rfl
  . exact ⟨trivial, rfl⟩
  . exact absurd hfound.symm hname
  . exact ⟨nofun, rfl⟩
  . exact ⟨trivial, rfl⟩
  . exact ⟨trivial, rfl⟩

theorem Reached.isSteady {handler : Handler} (h : handler.Reached) :
    handler.IsSteady ∧ handler.history.capacity = SentAlerts.defaultCapacity := by
  induction h with
  | start hnamed hname => exact isSteady_of_named hnamed hname
  | handled outlets settings now state world _ hnext ih =>
    have ⟨hsteady, hcapacity⟩ := ih.1.handle outlets settings now state world hnext
    exact ⟨hsteady, hcapacity.trans ih.2⟩

/-- A handler that can send all drafts that it owes for a head, since it has not sent any of them lately. -/
structure IsReady (answers : Option ExitAnswers) (settings : Settings) (state : State) (head : Head)
    (handler : Handler) : Prop where
  steady : handler.IsSteady
  capacity_eq : handler.history.capacity = SentAlerts.defaultCapacity
  fresh : ∀ draft ∈ handler.due answers settings state head, draft.annotations ∉ handler.history.sent

/-- What becomes of a handler that has sent some of the drafts that it owed for a head. -/
structure HasSent (answers : Option ExitAnswers) (settings : Settings) (state : State) (head : Head)
    (origin : Handler) (sent : List Draft) (handler : Handler) : Prop where
  sent_prefix : sent <+: origin.due answers settings state head
  steady : handler.IsSteady
  learned_eq : handler.learned answers state head
    = (origin.learned answers state head).withHistory (origin.history.pushAll (sent.map (·.annotations)))

namespace HasSent

variable {answers settings state head} {origin handler : Handler} {sent : List Draft}

theorem start (h : handler.IsSteady) : HasSent answers settings state head handler [] handler := by
  refine ⟨List.nil_prefix, h, ?_⟩
  rw [← handler.history_learned answers state head]
  exact (withHistory_history _).symm

theorem name_eq (h : HasSent answers settings state head origin sent handler) : handler.name = origin.name := by
  have heq := congrArg name h.learned_eq
  simpa using heq

theorem due_eq (h : HasSent answers settings state head origin sent handler) :
    handler.due answers settings state head = origin.due answers settings state head := by
  rw [← due_learned, h.learned_eq, due_withHistory, due_learned]

theorem history_eq (h : HasSent answers settings state head origin sent handler) :
    handler.history = origin.history.pushAll (sent.map (·.annotations)) := by
  have heq := congrArg history h.learned_eq
  simpa using heq

/-- A handler goes on with the drafts that it still owes. -/
theorem run_handle (h : HasSent answers settings state head origin sent handler)
    (hready : origin.IsReady answers settings state head)
    (hnext : head.HasNext) (now : Instant)
    (courier : Courier)
    : ∃ todo result taken handler' courier', sent ++ todo = origin.due answers settings state head
        ∧ (handle ⟨answers.map (·.oracle), Courier.sink⟩ settings now head).run ⟨handler, state, courier⟩
            = (result, ⟨handler', state, courier'⟩)
        ∧ HasSent answers settings state head origin (sent ++ taken) handler'
        ∧ Resumed now courier todo result taken courier' := by
  have ⟨todo, htodo⟩ := h.sent_prefix
  have hle := length_due_le answers settings state head origin
  have hnodup := nodup_annotations_of_pairwise (pairwise_due answers settings state head origin)
  have hfresh := hready.fresh
  -- A head calls for fewer alerts than the memory holds, so none that was sent is forgotten.
  have hcapacity : sent.length ≤ origin.history.capacity := by
    rw [hready.capacity_eq, SentAlerts.defaultCapacity]
    rw [← htodo, List.length_append] at hle
    omega
  rw [← htodo] at hnodup hfresh
  have ⟨result, taken, courier', hrun, hresumed⟩ := resumed_deliverDrafts now courier hnodup hfresh hcapacity
  refine ⟨todo, result, taken, (handler.learned answers state head).withHistory
    (origin.history.pushAll ((sent ++ taken).map (·.annotations))), courier', htodo, ?_, ?_, hresumed⟩
  . rw [Handler.run_handle _ _ _ _ _ h.steady hnext, h.due_eq, h.history_eq, ← htodo, hrun]
  . refine ⟨?_, ?_, ?_⟩
    . rw [← htodo]
      exact (List.prefix_append_right_inj _).mpr hresumed.taken_prefix
    . exact (h.steady.learned hnext).withHistory _
    . rw [learned_withHistory, learned_learned, h.learned_eq, withHistory_withHistory]

end HasSent

end Handler
end Watch
end BeaconSentry
