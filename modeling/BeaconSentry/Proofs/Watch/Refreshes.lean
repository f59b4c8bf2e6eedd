import BeaconSentry.Watch.Refresh

/-!
This module contains the refreshes of one kind as tasks that run beside the watcher. Any number of them could be
under way at once. That one is started only once the last one has ended is what makes them go in turn.
-/

namespace BeaconSentry
namespace Watch

/-- A refresh that is under way: how far it is, and what it was told, if it has asked already. -/
structure Refresh (σ α : Type) where
  number : Nat
  stage : σ
  answer : Option α

/-- The refreshes of one kind, which are numbered as they are started. -/
structure Refreshes (σ α : Type) where
  started : Nat
  running : List (Refresh σ α)
  /-- The refresh that the watcher started last, unless it has let go of it to wait for it. -/
  held : Option Nat
  /-- The refresh that the watcher waits for. -/
  awaited : Option Nat
  /-- The refreshes that have ended, in the order in which they did, and what each of them was told. -/
  ended : List (Nat × Option α)
  /-- What the refreshes were told, in the order in which it was said. -/
  told : List (Nat × α)

namespace Refreshes

variable {σ α : Type}

def idle : Refreshes σ α := ⟨0, [], none, none, [], []⟩

/-- How far the refresh is that is under way. -/
def stage? (refreshes : Refreshes σ α) : Option σ := refreshes.running.head?.map (·.stage)

def isRunning (refreshes : Refreshes σ α) (number : Nat) : Bool := refreshes.running.any (·.number == number)

/-- Whether a new refresh may be started. -/
def isIdle (refreshes : Refreshes σ α) : Bool := refreshes.held.all fun number => !refreshes.isRunning number

def kick (stage : σ) (refreshes : Refreshes σ α) : Refreshes σ α :=
  if refreshes.isIdle then
    { refreshes with
      started := refreshes.started + 1
      running := refreshes.running ++ [⟨refreshes.started, stage, none⟩]
      held := some refreshes.started }
  else
    refreshes

def find? (refreshes : Refreshes σ α) (number : Nat) : Option (Refresh σ α) :=
  refreshes.running.find? (·.number == number)

/-- Let a refresh do a step, in which it may be told something. It is at another stage then, or at its end. -/
def proceed (refresh : Refresh σ α) (answer : Option α) (stage : Option σ) (refreshes : Refreshes σ α) :
    Refreshes σ α :=
  let told := refreshes.told ++ answer.toList.map (refresh.number, ·)
  let answer := answer <|> refresh.answer
  match stage with
  | some stage =>
    let running := refreshes.running.map fun other =>
      if other.number == refresh.number then ⟨refresh.number, stage, answer⟩ else other
    { refreshes with running, told }
  | none =>
    let running := refreshes.running.filter (·.number != refresh.number)
    { refreshes with running, told, ended := refreshes.ended ++ [(refresh.number, answer)] }

/-- Let go of the last refresh to wait for it. -/
def await (refreshes : Refreshes σ α) : Refreshes σ α := { refreshes with held := none, awaited := refreshes.held }

/-- Whether the refresh that is waited for has ended. -/
def isAwaitedOver (refreshes : Refreshes σ α) : Bool :=
  refreshes.awaited.all fun number => !refreshes.isRunning number

/-- Stop waiting. -/
def resume (refreshes : Refreshes σ α) : Refreshes σ α := { refreshes with awaited := none }

/-- What the refreshes that have ended were told, in the order of their ends. -/
def finished (refreshes : Refreshes σ α) : List (Nat × α) :=
  refreshes.ended.filterMap fun (number, answer) => answer.map (number, ·)

def outcomes (refreshes : Refreshes σ α) : List α := refreshes.finished.map Prod.snd

/-- The answer of a refresh under way is the last one given. -/
def pending (refreshes : Refreshes σ α) : List (Nat × α) :=
  refreshes.running.filterMap fun refresh => refresh.answer.map (refresh.number, ·)

theorem isAwaitedOver_of_stage?_eq_none {refreshes : Refreshes σ α} (h : refreshes.stage? = none)
    : refreshes.isAwaitedOver = true := by
  have hrunning : refreshes.running = [] := List.head?_eq_none_iff.mp (Option.map_eq_none_iff.mp h)
  unfold isAwaitedOver isRunning
  rw [hrunning]
  cases refreshes.awaited <;> rfl

theorem finished_kick (stage : σ) (refreshes : Refreshes σ α) :
    (refreshes.kick stage).finished = refreshes.finished := by
  unfold kick
  split <;> rfl

theorem awaited_kick (stage : σ) (refreshes : Refreshes σ α) :
    (refreshes.kick stage).awaited = refreshes.awaited := by
  unfold kick
  split <;> rfl

theorem outcomes_kick (stage : σ) (refreshes : Refreshes σ α) :
    (refreshes.kick stage).outcomes = refreshes.outcomes :=
  congrArg (List.map Prod.snd) (finished_kick stage refreshes)

theorem finished_proceed_some (refresh : Refresh σ α) (answer : Option α) (stage : σ) (refreshes : Refreshes σ α) :
    (refreshes.proceed refresh answer (some stage)).finished = refreshes.finished := rfl

theorem finished_proceed_none (refresh : Refresh σ α) (answer : Option α) (refreshes : Refreshes σ α) :
    (refreshes.proceed refresh answer none).finished
      = refreshes.finished ++ ((answer <|> refresh.answer).map (refresh.number, ·)).toList := by
  unfold proceed finished
  dsimp only
  rw [List.filterMap_append]
  cases answer <|> refresh.answer <;> rfl

theorem outcomes_proceed_none (refresh : Refresh σ α) (answer : Option α) (refreshes : Refreshes σ α) :
    (refreshes.proceed refresh answer none).outcomes
      = refreshes.outcomes ++ (answer <|> refresh.answer).toList := by
  unfold outcomes
  rw [finished_proceed_none, List.map_append]
  cases answer <|> refresh.answer <;> rfl

theorem awaited_proceed (refresh : Refresh σ α) (answer : Option α) (stage : Option σ) (refreshes : Refreshes σ α) :
    (refreshes.proceed refresh answer stage).awaited = refreshes.awaited := by
  cases stage <;> rfl

/-- What has finished stays so. -/
theorem prefix_finished_proceed (refresh : Refresh σ α) (answer : Option α) (stage : Option σ)
    (refreshes : Refreshes σ α) :
    refreshes.finished <+: (refreshes.proceed refresh answer stage).finished := by
  cases stage with
  | some stage => exact List.prefix_rfl
  | none =>
    rw [finished_proceed_none]
    exact List.prefix_append ..

/--
The refreshes go in turn: they end in the order in which they are started, at most one is under way, and the
watcher knows of it.
-/
structure InTurn (refreshes : Refreshes σ α) : Prop where
  numbers : refreshes.ended.map Prod.fst ++ refreshes.running.map (·.number) = List.range refreshes.started
  length_running_le : refreshes.running.length ≤ 1
  known : ∀ refresh ∈ refreshes.running,
    refreshes.held = some refresh.number ∨ refreshes.awaited = some refresh.number
  told_eq : refreshes.told = refreshes.finished ++ refreshes.pending

namespace InTurn

variable {refreshes : Refreshes σ α}

theorem idle : (Refreshes.idle : Refreshes σ α).InTurn :=
  ⟨rfl, Nat.zero_le 1, List.forall_mem_nil _, rfl⟩

theorem running_eq_of_mem (h : refreshes.InTurn) {refresh : Refresh σ α} (hrunning : refresh ∈ refreshes.running)
    : refreshes.running = [refresh] := by
  have hlength := h.length_running_le
  match hrefreshes : refreshes.running with
  | [] =>
    rw [hrefreshes] at hrunning
    cases hrunning
  | [other] =>
    rw [hrefreshes, List.mem_singleton] at hrunning
    rw [hrunning]
  | _ :: _ :: _ =>
    rw [hrefreshes, List.length_cons, List.length_cons] at hlength
    omega

theorem exists_of_stage?_eq_some (h : refreshes.InTurn) {stage : σ} (hstage : refreshes.stage? = some stage)
    : ∃ refresh ∈ refreshes.running, refresh.stage = stage ∧ refreshes.find? refresh.number = some refresh := by
  obtain ⟨refresh, hhead, hstage⟩ := Option.map_eq_some_iff.mp hstage
  have hrunning := List.mem_of_head? hhead
  refine ⟨refresh, hrunning, hstage, ?_⟩
  unfold find?
  rw [h.running_eq_of_mem hrunning, List.find?_singleton]
  exact if_pos (beq_self_eq_true _)

/-- A watcher that does not wait starts no refresh before the last one has ended. -/
theorem isIdle_eq_isEmpty (h : refreshes.InTurn) (hawaited : refreshes.awaited = none)
    : refreshes.isIdle = refreshes.running.isEmpty := by
  unfold isIdle isRunning
  match hrunning : refreshes.running with
  | [] => simp
  | refresh :: _ =>
    have hheld : refreshes.held = some refresh.number := by
      have hknown := h.known refresh (by rw [hrunning]; exact List.mem_cons_self)
      rw [hawaited] at hknown
      exact hknown.resolve_right nofun
    simp [hheld]

theorem stage?_kick (h : refreshes.InTurn) (hawaited : refreshes.awaited = none) (stage : σ)
    : (refreshes.kick stage).stage? = (refreshes.stage? <|> some stage) := by
  unfold Refreshes.kick stage?
  rw [h.isIdle_eq_isEmpty hawaited]
  cases hrunning : refreshes.running <;> simp [hrunning]

theorem kick (h : refreshes.InTurn) (hawaited : refreshes.awaited = none) (stage : σ)
    : (refreshes.kick stage).InTurn := by
  have hidle := h.isIdle_eq_isEmpty hawaited
  unfold Refreshes.kick
  split
  . next hstart =>
    rw [hidle, List.isEmpty_iff] at hstart
    have hnumbers := h.numbers
    have htold := h.told_eq
    unfold pending at htold
    rw [hstart, List.map_nil, List.append_nil] at hnumbers
    rw [hstart, List.filterMap_nil, List.append_nil] at htold
    constructor
    . dsimp only
      rw [hstart, hnumbers, List.range_succ]
      rfl
    . rw [hstart]
      exact Nat.le_refl 1
    . dsimp only
      rw [hstart, List.nil_append, List.forall_mem_singleton]
      exact .inl rfl
    . unfold pending
      dsimp only
      rw [hstart, htold]
      exact (List.append_nil _).symm
  . exact h

theorem running_proceed (h : refreshes.InTurn) {refresh : Refresh σ α} (hrunning : refresh ∈ refreshes.running)
    (answer : Option α) (stage : Option σ)
    : (refreshes.proceed refresh answer stage).running
      = (stage.map fun stage => ⟨refresh.number, stage, answer <|> refresh.answer⟩).toList := by
  have hone := h.running_eq_of_mem hrunning
  unfold Refreshes.proceed
  cases stage <;> simp [hone]

theorem stage?_proceed (h : refreshes.InTurn) {refresh : Refresh σ α} (hrunning : refresh ∈ refreshes.running)
    (answer : Option α) (stage : Option σ) : (refreshes.proceed refresh answer stage).stage? = stage := by
  unfold stage?
  rw [h.running_proceed hrunning]
  cases stage <;> rfl

/-- Who asks only once was told nothing before it was told something. -/
theorem told_proceed (h : refreshes.InTurn) {refresh : Refresh σ α} (hrunning : refresh ∈ refreshes.running)
    {answer : Option α} (stage : Option σ) (honce : refresh.answer = none ∨ answer = none)
    : (refreshes.proceed refresh answer stage).told
      = refreshes.finished ++ ((answer <|> refresh.answer).map (refresh.number, ·)).toList := by
  have hpending : refreshes.pending = (refresh.answer.map (refresh.number, ·)).toList := by
    unfold pending
    rw [h.running_eq_of_mem hrunning]
    cases hanswer : refresh.answer <;> simp [hanswer]
  have htold : (refreshes.proceed refresh answer stage).told
      = refreshes.told ++ answer.toList.map (refresh.number, ·) := by
    cases stage <;> rfl
  rw [htold, h.told_eq, hpending, List.append_assoc]
  congr 1
  rcases honce with hnone | hnone
  . rw [hnone]
    cases answer <;> rfl
  . rw [hnone]
    cases refresh.answer <;> rfl

theorem proceed (h : refreshes.InTurn) {refresh : Refresh σ α} (hrunning : refresh ∈ refreshes.running)
    {answer : Option α} (stage : Option σ) (honce : refresh.answer = none ∨ answer = none)
    : (refreshes.proceed refresh answer stage).InTurn := by
  have hnumbers := h.numbers
  have hrunning' := h.running_proceed hrunning answer stage
  have htold := h.told_proceed hrunning stage honce
  rw [h.running_eq_of_mem hrunning] at hnumbers
  cases stage with
  | some stage =>
    constructor
    . rw [hrunning']
      exact hnumbers
    . rw [hrunning']
      exact Nat.le_refl 1
    . rw [hrunning']
      exact List.forall_mem_singleton.mpr (h.known refresh hrunning)
    . rw [htold, finished_proceed_some, pending, hrunning']
      cases answer <|> refresh.answer <;> rfl
  | none =>
    constructor
    . rw [hrunning']
      unfold Refreshes.proceed
      simpa using hnumbers
    . rw [hrunning']
      exact Nat.zero_le 1
    . rw [hrunning']
      exact List.forall_mem_nil _
    . rw [htold, finished_proceed_none, pending, hrunning']
      exact (List.append_nil _).symm

theorem await (h : refreshes.InTurn) (hawaited : refreshes.awaited = none) : refreshes.await.InTurn where
  numbers := h.numbers
  length_running_le := h.length_running_le
  known refresh hrunning := by
    have hknown := h.known refresh hrunning
    rw [hawaited] at hknown
    exact .inr (hknown.resolve_right nofun)
  told_eq := h.told_eq

theorem resume (h : refreshes.InTurn) (hover : refreshes.isAwaitedOver) : refreshes.resume.InTurn where
  numbers := h.numbers
  length_running_le := h.length_running_le
  known refresh hrunning := by
    refine (h.known refresh hrunning).imp_right fun hawaited => ?_
    unfold isAwaitedOver isRunning at hover
    rw [hawaited] at hover
    simp only [Option.all_some, Bool.not_eq_true', List.any_eq_false] at hover
    exact absurd (beq_self_eq_true _) (hover refresh hrunning)
  told_eq := h.told_eq

end InTurn

/--
The refreshes keep up with what they are told: those under way are in order, by some notion of that, and what is known
shows the answers of those that have ended.
-/
structure KeepsUp (isOrderly : κ → Refresh σ α → Prop) (shows : κ → List α → Prop) (refreshes : Refreshes σ α)
    (known : κ) : Prop where
  inTurn : refreshes.InTurn
  orderly : ∀ refresh ∈ refreshes.running, isOrderly known refresh
  shown : shows known refreshes.outcomes

namespace KeepsUp

variable {κ : Type} {isOrderly : κ → Refresh σ α → Prop} {shows : κ → List α → Prop} {refreshes : Refreshes σ α}
  {known : κ}

theorem kick (h : refreshes.KeepsUp isOrderly shows known) (hawaited : refreshes.awaited = none) {stage : σ}
    (horderly : ∀ number, isOrderly known ⟨number, stage, none⟩)
    : (refreshes.kick stage).KeepsUp isOrderly shows known where
  inTurn := h.inTurn.kick hawaited stage
  orderly := by
    unfold Refreshes.kick
    split
    . exact List.forall_mem_append.mpr ⟨h.orderly, List.forall_mem_singleton.mpr (horderly _)⟩
    . exact h.orderly
  shown := by
    rw [outcomes_kick]
    exact h.shown

theorem await (h : refreshes.KeepsUp isOrderly shows known) (hawaited : refreshes.awaited = none)
    : refreshes.await.KeepsUp isOrderly shows known :=
  ⟨h.inTurn.await hawaited, h.orderly, h.shown⟩

theorem resume (h : refreshes.KeepsUp isOrderly shows known) (hover : refreshes.isAwaitedOver)
    : refreshes.resume.KeepsUp isOrderly shows known :=
  ⟨h.inTurn.resume hover, h.orderly, h.shown⟩

theorem goOn (h : refreshes.KeepsUp isOrderly shows known) {refresh : Refresh σ α}
    (hrunning : refresh ∈ refreshes.running) {answer : Option α} {stage : σ}
    (honce : refresh.answer = none ∨ answer = none)
    (horderly : isOrderly known ⟨refresh.number, stage, answer <|> refresh.answer⟩)
    : (refreshes.proceed refresh answer (some stage)).KeepsUp isOrderly shows known where
  inTurn := h.inTurn.proceed hrunning (some stage) honce
  orderly := by
    rw [h.inTurn.running_proceed hrunning]
    exact List.forall_mem_singleton.mpr horderly
  shown := h.shown

/-- The end of a refresh is where something else may become known. -/
theorem finish (h : refreshes.KeepsUp isOrderly shows known) {refresh : Refresh σ α}
    (hrunning : refresh ∈ refreshes.running) {answer : Option α} (honce : refresh.answer = none ∨ answer = none)
    {known' : κ} (hshown : shows known' (refreshes.outcomes ++ (answer <|> refresh.answer).toList))
    : (refreshes.proceed refresh answer none).KeepsUp isOrderly shows known' where
  inTurn := h.inTurn.proceed hrunning none honce
  orderly := by
    rw [h.inTurn.running_proceed hrunning]
    exact List.forall_mem_nil _
  shown := by
    rw [outcomes_proceed_none]
    exact hshown

end KeepsUp
end Refreshes
end Watch
end BeaconSentry
