import BeaconSentry.Proofs.Watch.Refreshes
import BeaconSentry.Watch.Cycle

/-!
This module contains the watcher with all the tasks it starts to refresh what it knows, in any order in which their
steps can come. The owned keys are those that the source gave last, and the registry only grows.
-/

namespace BeaconSentry
namespace Watch

open Beacon Net

/-- What the source answers: the owned keys, if they may have changed. -/
abbrev KeysAnswer := Except Failure (Option OwnedKeys)

abbrev RegistryAnswer := Except ProviderError (List ValidatorEntry)

def givenKeys : KeysAnswer → Option OwnedKeys
  | .ok keys => keys
  | .error _ => none

/-- The keys that the source gave last, or none at all. -/
def lastGiven (answers : List KeysAnswer) : OwnedKeys :=
  (answers.filterMap givenKeys).getLast?.getD ∅

/-- The public key of the first entry of a validator. -/
def entryKey (index : UInt64) (entries : List ValidatorEntry) : Option String :=
  (entries.find? (·.index == index)).map (·.pubkey)

/-- The public key that an answer of the nodes gives a validator. -/
def givenKey (index : UInt64) : RegistryAnswer → Option String
  | .ok entries => entryKey index entries
  | .error _ => none

/-- The public key of a validator in the first answer that has an entry of it. -/
def introduced (index : UInt64) (answers : List RegistryAnswer) : Option String :=
  answers.findSome? (givenKey index)

theorem lastGiven_concat (answers : List KeysAnswer) (answer : KeysAnswer) :
    lastGiven (answers ++ [answer]) = (givenKeys answer).getD (lastGiven answers) := by
  unfold lastGiven
  rw [List.filterMap_append]
  cases hgiven : givenKeys answer <;> simp [hgiven]

theorem introduced_concat (index : UInt64) (answers : List RegistryAnswer)
    (answer : RegistryAnswer) :
    introduced index (answers ++ [answer]) = (introduced index answers).or (givenKey index answer) := by
  unfold introduced
  rw [List.findSome?_append]
  cases hgiven : givenKey index answer <;> simp [hgiven]

theorem introduced_of_prefix {index : UInt64} {answers later : List RegistryAnswer} {key : String}
    (h : answers <+: later) (hkey : introduced index answers = some key)
    : introduced index later = some key := by
  obtain ⟨rest, rfl⟩ := h
  unfold introduced at *
  rw [List.findSome?_append, hkey]
  rfl

theorem getElem?_mergeEntries (known : Registry) (entries : List ValidatorEntry) (index : UInt64) :
    (mergeEntries known entries)[index]? = known[index]?.or (entryKey index entries) := by
  unfold mergeEntries entryKey
  induction entries generalizing known with
  | nil => exact (Option.or_none ..).symm
  | cons entry rest ih =>
    rw [List.foldl_cons, ih, Std.TreeMap.getElem?_insertIfNew, List.find?_cons]
    by_cases hindex : entry.index = index
    . subst hindex
      by_cases hmem : entry.index ∈ known
      . rw [Std.TreeMap.getElem?_eq_some_getElem hmem]
        simp [hmem]
      . rw [Std.TreeMap.getElem?_eq_none hmem]
        simp [hmem]
    . simp [beq_false_of_ne hindex, hindex]

/-- What a step of a refresh of the keys can do: what it is told, how far it is then, and what is known then. -/
inductive KeysStep (state : State) :
    KeysStage → Option KeysAnswer → Option KeysStage → State → Prop
  | told {slot : Slot} {keys : OwnedKeys} :
    KeysStep state (.asking slot) (some (.ok (some keys))) (some (.publishing slot keys)) state
  | dismissed {slot : Slot} {answer : KeysAnswer} (hgiven : givenKeys answer = none) :
    KeysStep state (.asking slot) (some answer) none state
  | published {slot : Slot} {keys : OwnedKeys} :
    KeysStep state (.publishing slot keys) none none { state with keys }

/-- The same for a refresh of the registry. -/
inductive RegistryStep (state : State) :
    RegistryStage → Option RegistryAnswer → Option RegistryStage → State → Prop
  | begun {slot : Slot} : RegistryStep state .reading none (some (.asking slot state.registry)) state
  | spared : RegistryStep state .reading none none state
  | told {slot : Slot} {known : Registry} {entries : List ValidatorEntry} :
    RegistryStep state (.asking slot known) (some (.ok entries))
      (some (.publishing slot (mergeEntries known entries))) state
  | failed {slot : Slot} {known : Registry} {error : ProviderError} :
    RegistryStep state (.asking slot known) (some (.error error)) none state
  | published {slot : Slot} {merged : Registry} :
    RegistryStep state (.publishing slot merged) none none { state with registry := merged }

section

variable {η ω : Type}

/-- What the source says to a refresh that asks it. -/
def keysAnswer (plan : Plan η ω) (world : ω) : KeysStage → Option KeysAnswer
  | .asking _ => some (plan.services.updateKeys.run world).1
  | .publishing _ _ => none

/-- What the nodes say to a refresh that asks them. -/
def registryAnswer (plan : Plan η ω) (world : ω) :
    RegistryStage → Option RegistryAnswer
  | .asking _ _ => some (plan.services.validators.run world).1
  | .reading | .publishing _ _ => none

theorem keysStep_stepKeys (plan : Plan η ω) (watcher : Watcher η ω) {stage : KeysStage}
    (hstage : watcher.keysRefresh = some stage)
    : KeysStep watcher.state stage (keysAnswer plan watcher.world stage) (watcher.stepKeys plan).keysRefresh
        (watcher.stepKeys plan).state := by
  unfold Watcher.stepKeys
  rw [hstage]
  cases stage with
  | publishing slot keys => exact .published
  | asking slot =>
    unfold keysAnswer Watcher.answeredKeys
    dsimp only
    split
    . next keys heq =>
      rw [heq]
      exact .told
    . next heq =>
      rw [heq]
      exact .dismissed rfl
    . next heq =>
      rw [heq]
      exact .dismissed rfl
    . next heq =>
      rw [heq]
      exact .dismissed rfl

theorem registryStep_stepRegistry (plan : Plan η ω) (watcher : Watcher η ω) {stage : RegistryStage}
    (hstage : watcher.registryRefresh = some stage)
    : RegistryStep watcher.state stage (registryAnswer plan watcher.world stage)
        (watcher.stepRegistry plan).registryRefresh (watcher.stepRegistry plan).state := by
  unfold Watcher.stepRegistry
  rw [hstage]
  cases stage with
  | publishing slot merged => exact .published
  | reading =>
    unfold Watcher.readRegistry
    dsimp only
    split
    . exact .begun
    . exact .spared
  | asking slot known =>
    unfold registryAnswer
    dsimp only
    split
    . next heq =>
      rw [heq]
      exact .told
    . next heq =>
      rw [heq]
      exact .failed

end

/-- A refresh of the keys that has asked is about to publish what it was told. -/
def isOrderlyForKeys (_ : OwnedKeys) : Refresh KeysStage KeysAnswer → Prop
  | ⟨_, .asking _, answer⟩ => answer = none
  | ⟨_, .publishing _ keys, answer⟩ => answer = some (.ok (some keys))

/-- What a refresh of the registry took for known still is, and what it was told is merged into that. -/
def isOrderlyForRegistry (registry : Registry) :
    Refresh RegistryStage RegistryAnswer → Prop
  | ⟨_, .reading, answer⟩ => answer = none
  | ⟨_, .asking _ known, answer⟩ => answer = none ∧ known = registry
  | ⟨_, .publishing _ merged, answer⟩ => ∃ entries, answer = some (.ok entries) ∧ merged = mergeEntries registry entries

/-- The keys that are known are those given last. -/
def AreLastGiven (keys : OwnedKeys) (answers : List KeysAnswer) : Prop :=
  keys = lastGiven answers

/-- The registry that is known is what the answers have introduced. -/
def IsIntroduced (registry : Registry) (answers : List RegistryAnswer) : Prop :=
  ∀ index : UInt64, registry[index]? = introduced index answers

theorem keepsUp_keysStep {refreshes : Refreshes KeysStage KeysAnswer} {state : State}
    (h : refreshes.KeepsUp isOrderlyForKeys AreLastGiven state.keys)
    {refresh : Refresh KeysStage KeysAnswer} (hrunning : refresh ∈ refreshes.running)
    {answer : Option KeysAnswer} {stage : Option KeysStage} {after : State}
    (hstep : KeysStep state refresh.stage answer stage after)
    : (refreshes.proceed refresh answer stage).KeepsUp isOrderlyForKeys AreLastGiven after.keys
      ∧ after.registry = state.registry := by
  have horderly := h.orderly refresh hrunning
  have hshown := h.shown
  obtain ⟨number, start, told⟩ := refresh
  cases hstep with
  | told =>
    have htold : told = none := horderly
    exact ⟨h.goOn hrunning (.inl htold) rfl, rfl⟩
  | @dismissed slot answer hgiven =>
    have htold : told = none := horderly
    refine ⟨h.finish hrunning (.inl htold) ?_, rfl⟩
    have hlast := lastGiven_concat refreshes.outcomes answer
    rw [hgiven] at hlast
    exact hshown.trans hlast.symm
  | @published slot keys =>
    have htold : told = some (.ok (some keys)) := horderly
    refine ⟨h.finish hrunning (.inr rfl) ?_, rfl⟩
    rw [htold]
    exact (lastGiven_concat refreshes.outcomes (.ok (some keys))).symm

theorem keepsUp_registryStep {refreshes : Refreshes RegistryStage RegistryAnswer}
    {state : State} (h : refreshes.KeepsUp isOrderlyForRegistry IsIntroduced state.registry)
    {refresh : Refresh RegistryStage RegistryAnswer}
    (hrunning : refresh ∈ refreshes.running) {answer : Option RegistryAnswer}
    {stage : Option RegistryStage} {after : State} (hstep : RegistryStep state refresh.stage answer stage after)
    : (refreshes.proceed refresh answer stage).KeepsUp isOrderlyForRegistry IsIntroduced after.registry
      ∧ after.keys = state.keys := by
  have horderly := h.orderly refresh hrunning
  have hshown := h.shown
  obtain ⟨number, start, told⟩ := refresh
  cases hstep with
  | begun =>
    have htold : told = none := horderly
    exact ⟨h.goOn hrunning (.inr rfl) ⟨htold, rfl⟩, rfl⟩
  | spared =>
    have htold : told = none := horderly
    refine ⟨h.finish hrunning (.inr rfl) ?_, rfl⟩
    rw [htold]
    exact (List.append_nil _).symm ▸ hshown
  | told =>
    obtain ⟨htold, hknown⟩ := horderly
    exact ⟨h.goOn hrunning (.inl htold) ⟨_, rfl, by rw [hknown]⟩, rfl⟩
  | @failed slot known error =>
    obtain ⟨htold, -⟩ := horderly
    refine ⟨h.finish hrunning (.inl htold) fun index => ?_, rfl⟩
    exact (hshown index).trans ((introduced_concat index refreshes.outcomes (.error error)).trans Option.or_none).symm
  | published =>
    obtain ⟨entries, htold, hmerged⟩ := horderly
    refine ⟨h.finish hrunning (.inr rfl) fun index => ?_, rfl⟩
    have hfirst := introduced_concat index refreshes.outcomes (.ok entries)
    rw [htold]
    refine Eq.trans ?_ hfirst.symm
    rw [hmerged, getElem?_mergeEntries, hshown index]
    rfl

theorem KeysStep.keys_eq_or {state after : State} {refresh : Refresh KeysStage KeysAnswer} {answer : Option KeysAnswer}
    {stage : Option KeysStage} (h : KeysStep state refresh.stage answer stage after)
    (refreshes : Refreshes KeysStage KeysAnswer) (horderly : isOrderlyForKeys state.keys refresh)
    : after.keys = state.keys ∨ ∃ number keys, (refreshes.proceed refresh answer stage).finished
      = refreshes.finished ++ [(number, .ok (some keys))] := by
  obtain ⟨number, start, told⟩ := refresh
  cases h with
  | told | dismissed => exact .inl rfl
  | @published slot keys =>
    refine .inr ⟨number, keys, ?_⟩
    have htold : told = some (.ok (some keys)) := horderly
    rw [Refreshes.finished_proceed_none, htold]
    rfl

theorem RegistryStep.registry_eq_or {state after : State} {refresh : Refresh RegistryStage RegistryAnswer}
    {answer : Option RegistryAnswer} {stage : Option RegistryStage}
    (h : RegistryStep state refresh.stage answer stage after) (refreshes : Refreshes RegistryStage RegistryAnswer)
    (horderly : isOrderlyForRegistry state.registry refresh)
    : after.registry = state.registry ∨ ∃ number entries, (refreshes.proceed refresh answer stage).finished
      = refreshes.finished ++ [(number, .ok entries)] := by
  obtain ⟨number, start, told⟩ := refresh
  cases h with
  | begun | spared | told | failed => exact .inl rfl
  | published =>
    obtain ⟨entries, htold, -⟩ := horderly
    refine .inr ⟨number, entries, ?_⟩
    rw [Refreshes.finished_proceed_none, htold]
    rfl

/-- The watcher, all its refreshes, and whether it waits for them. -/
structure Crew (ω : Type) where
  watcher : Watcher Handler ω
  keys : Refreshes KeysStage KeysAnswer
  registry : Refreshes RegistryStage RegistryAnswer
  waiting : Bool

namespace Crew

variable {ω : Type}

/-- What happens next. -/
inductive Event (ω : Type) where
  /-- There is a new head. -/
  | kick (slot : Slot)
  | stepKeys (number : Nat)
  | stepRegistry (number : Nat)
  /-- The watcher begins to wait for the refreshes. -/
  | wait
  /-- The watcher goes on, if the refreshes that it waits for have ended. -/
  | resume
  /-- A handler looks at a head. -/
  | look (now : Instant) (handler : Handler) (head : Head)
  | announce (reorg : Reorg)
  | remember (head : Head)
  /-- Anything else that the watcher does, or the world outside. -/
  | elsewhere (watcher : Watcher Handler ω)

def start (watcher : Watcher Handler ω) : Crew ω := ⟨watcher, .idle, .idle, false⟩

def stepKeys (plan : Plan Handler ω) (number : Nat) (crew : Crew ω) : Crew ω :=
  match crew.keys.find? number with
  | none => crew
  | some refresh =>
    let watcher := { crew.watcher with keysRefresh := some refresh.stage }.stepKeys plan
    let answer := keysAnswer plan crew.watcher.world refresh.stage
    { crew with watcher, keys := crew.keys.proceed refresh answer watcher.keysRefresh }

def stepRegistry (plan : Plan Handler ω) (number : Nat) (crew : Crew ω) : Crew ω :=
  match crew.registry.find? number with
  | none => crew
  | some refresh =>
    let watcher := { crew.watcher with registryRefresh := some refresh.stage }.stepRegistry plan
    let answer := registryAnswer plan crew.watcher.world refresh.stage
    { crew with watcher, registry := crew.registry.proceed refresh answer watcher.registryRefresh }

/-- Change what the watcher knows. -/
def learn (change : State → State) (crew : Crew ω) : Crew ω :=
  { crew with watcher := { crew.watcher with state := change crew.watcher.state } }

def take (plan : Plan Handler ω) (outlets : Outlets ω) (crew : Crew ω) : Event ω → Crew ω
  | .kick slot =>
    if crew.waiting then crew
    else { crew with keys := crew.keys.kick (.asking slot), registry := crew.registry.kick .reading }
  | .stepKeys number => crew.stepKeys plan number
  | .stepRegistry number => crew.stepRegistry plan number
  | .wait =>
    if crew.waiting then crew
    else { crew with keys := crew.keys.await, registry := crew.registry.await, waiting := true }
  | .resume =>
    if crew.keys.isAwaitedOver && crew.registry.isAwaitedOver then
      { crew with keys := crew.keys.resume, registry := crew.registry.resume, waiting := false }
    else
      crew
  | .look now handler head =>
    let desk := ⟨handler, crew.watcher.state, crew.watcher.world⟩
    let desk := ((Handler.handle outlets plan.settings now head).run desk).2
    { crew with watcher := { crew.watcher with state := desk.state, world := desk.world } }
  | .announce reorg => crew.learn (·.insertReorg reorg)
  | .remember head => crew.learn (·.pushHandled head)
  | .elsewhere watcher => { crew with watcher := { watcher with state := crew.watcher.state } }

def run (plan : Plan Handler ω) (outlets : Outlets ω) (events : List (Event ω)) (crew : Crew ω) : Crew ω :=
  events.foldl (take plan outlets) crew

/-- What holds of a crew from its start on. -/
structure Sound (crew : Crew ω) : Prop where
  keys : crew.keys.KeepsUp isOrderlyForKeys AreLastGiven crew.watcher.state.keys
  registry : crew.registry.KeepsUp isOrderlyForRegistry IsIntroduced crew.watcher.state.registry
  awaited_eq : crew.waiting = false → crew.keys.awaited = none ∧ crew.registry.awaited = none

theorem sound_start {watcher : Watcher Handler ω} {capacity : Nat} (hstate : watcher.state = .empty capacity)
    : (start watcher).Sound where
  keys := ⟨.idle, List.forall_mem_nil _, congrArg State.keys hstate⟩
  registry := ⟨.idle, List.forall_mem_nil _, fun index => by
    unfold start
    rw [hstate]
    exact Std.TreeMap.getElem?_emptyc⟩
  awaited_eq := fun _ => ⟨rfl, rfl⟩

/-- No handler touches what the refreshers keep up to date. -/
theorem caches_handle (outlets : Outlets ω) (settings : Settings) (now : Instant) (head : Head)
    (desk : Desk Handler ω) :
    ((Handler.handle outlets settings now head).run desk).2.state.keys = desk.state.keys
      ∧ ((Handler.handle outlets settings now head).run desk).2.state.registry = desk.state.registry := by
  rcases desk with ⟨handler, state, world⟩
  cases handler with
  | slashing | exit | withdrawal | consolidation => exact ⟨rfl, rfl⟩
  | fork sent =>
    unfold Handler.handle
    dsimp only
    split <;> exact ⟨rfl, rfl⟩

/-- What is known of the owned keys and of the registry is the same in both. -/
def SameCaches (crew after : Crew ω) : Prop :=
  after.watcher.state.keys = crew.watcher.state.keys ∧ after.watcher.state.registry = crew.watcher.state.registry

/-- What one event can do to the refreshes and to what they keep up to date. -/
inductive Moves (crew : Crew ω) : Crew ω → Prop
  | stays {after : Crew ω} (hcaches : SameCaches crew after) (hkeys : after.keys = crew.keys)
      (hregistry : after.registry = crew.registry) (hwaiting : after.waiting = crew.waiting) :
    Moves crew after
  | kicked {slot : Slot} (hwaiting : crew.waiting = false) :
    Moves crew { crew with keys := crew.keys.kick (.asking slot), registry := crew.registry.kick .reading }
  | waits (hwaiting : crew.waiting = false) :
    Moves crew { crew with keys := crew.keys.await, registry := crew.registry.await, waiting := true }
  | resumed (hkeys : crew.keys.isAwaitedOver) (hregistry : crew.registry.isAwaitedOver) :
    Moves crew { crew with keys := crew.keys.resume, registry := crew.registry.resume, waiting := false }
  | keys {refresh : Refresh KeysStage KeysAnswer} (hrunning : refresh ∈ crew.keys.running)
      {answer : Option KeysAnswer} {stage : Option KeysStage} {watcher : Watcher Handler ω}
      (hstep : KeysStep crew.watcher.state refresh.stage answer stage watcher.state) :
    Moves crew { crew with watcher, keys := crew.keys.proceed refresh answer stage }
  | registry {refresh : Refresh RegistryStage RegistryAnswer} (hrunning : refresh ∈ crew.registry.running)
      {answer : Option RegistryAnswer} {stage : Option RegistryStage} {watcher : Watcher Handler ω}
      (hstep : RegistryStep crew.watcher.state refresh.stage answer stage watcher.state) :
    Moves crew { crew with watcher, registry := crew.registry.proceed refresh answer stage }

theorem moves_take (plan : Plan Handler ω) (outlets : Outlets ω) (crew : Crew ω) (event : Event ω) :
    Moves crew (crew.take plan outlets event) := by
  have hstays : Moves crew crew := .stays ⟨rfl, rfl⟩ rfl rfl rfl
  unfold take
  cases event with
  | announce | remember | elsewhere => exact .stays ⟨rfl, rfl⟩ rfl rfl rfl
  | look => exact .stays (caches_handle ..) rfl rfl rfl
  | kick =>
    dsimp only
    split
    . exact hstays
    . next hwaiting => exact .kicked (eq_false_of_ne_true hwaiting)
  | wait =>
    dsimp only
    split
    . exact hstays
    . next hwaiting => exact .waits (eq_false_of_ne_true hwaiting)
  | resume =>
    dsimp only
    split
    . next hover =>
      rw [Bool.and_eq_true] at hover
      exact .resumed hover.1 hover.2
    . exact hstays
  | stepKeys =>
    dsimp only [stepKeys]
    split
    . exact hstays
    . next refresh hfind =>
      have hstep := keysStep_stepKeys plan { crew.watcher with keysRefresh := some refresh.stage } rfl
      exact .keys (List.mem_of_find?_eq_some hfind) hstep
  | stepRegistry =>
    dsimp only [stepRegistry]
    split
    . exact hstays
    . next refresh hfind =>
      have hstep := registryStep_stepRegistry plan { crew.watcher with registryRefresh := some refresh.stage } rfl
      exact .registry (List.mem_of_find?_eq_some hfind) hstep

section

variable {crew after : Crew ω}

theorem Sound.of_moves (h : crew.Sound) (hmoves : Moves crew after) : after.Sound := by
  cases hmoves with
  | stays hcaches hkeys hregistry hwaiting =>
    exact ⟨hkeys ▸ hcaches.1 ▸ h.keys, hregistry ▸ hcaches.2 ▸ h.registry, hkeys ▸ hregistry ▸ hwaiting ▸ h.awaited_eq⟩
  | kicked hwaiting =>
    obtain ⟨hkeys, hregistry⟩ := h.awaited_eq hwaiting
    refine ⟨h.keys.kick hkeys fun _ => rfl, h.registry.kick hregistry fun _ => rfl, fun _ => ?_⟩
    rw [Refreshes.awaited_kick, Refreshes.awaited_kick]
    exact ⟨hkeys, hregistry⟩
  | waits hwaiting =>
    obtain ⟨hkeys, hregistry⟩ := h.awaited_eq hwaiting
    exact ⟨h.keys.await hkeys, h.registry.await hregistry, nofun⟩
  | resumed hkeys hregistry => exact ⟨h.keys.resume hkeys, h.registry.resume hregistry, fun _ => ⟨rfl, rfl⟩⟩
  | keys hrunning hstep =>
    obtain ⟨hkeys, hregistry⟩ := keepsUp_keysStep h.keys hrunning hstep
    refine ⟨hkeys, hregistry ▸ h.registry, fun hwaiting => ?_⟩
    rw [Refreshes.awaited_proceed]
    exact h.awaited_eq hwaiting
  | registry hrunning hstep =>
    obtain ⟨hregistry, hkeys⟩ := keepsUp_registryStep h.registry hrunning hstep
    refine ⟨hkeys ▸ h.keys, hregistry, fun hwaiting => ?_⟩
    rw [Refreshes.awaited_proceed]
    exact h.awaited_eq hwaiting

/-- What a refresh was told that has ended is not forgotten. -/
theorem Moves.prefix_finished (h : Moves crew after)
    : crew.keys.finished <+: after.keys.finished ∧ crew.registry.finished <+: after.registry.finished := by
  cases h with
  | stays _ hkeys hregistry => exact ⟨hkeys ▸ List.prefix_rfl, hregistry ▸ List.prefix_rfl⟩
  | kicked =>
    rw [Refreshes.finished_kick, Refreshes.finished_kick]
    exact ⟨List.prefix_rfl, List.prefix_rfl⟩
  | waits | resumed => exact ⟨List.prefix_rfl, List.prefix_rfl⟩
  | keys => exact ⟨Refreshes.prefix_finished_proceed .., List.prefix_rfl⟩
  | registry => exact ⟨List.prefix_rfl, Refreshes.prefix_finished_proceed ..⟩

/-- The owned keys change only when a refresh ends that was told of other ones. -/
theorem Moves.keys_eq_or (h : Moves crew after) (hsound : crew.Sound)
    : after.watcher.state.keys = crew.watcher.state.keys
      ∨ ∃ number keys, after.keys.finished = crew.keys.finished ++ [(number, .ok (some keys))] := by
  cases h with
  | stays hcaches => exact .inl hcaches.1
  | kicked | waits | resumed => exact .inl rfl
  | registry hrunning hstep => exact .inl (keepsUp_registryStep hsound.registry hrunning hstep).2
  | keys hrunning hstep => exact hstep.keys_eq_or _ (hsound.keys.orderly _ hrunning)

/-- The registry changes only when a refresh ends that was told of entries. -/
theorem Moves.registry_eq_or (h : Moves crew after) (hsound : crew.Sound)
    : after.watcher.state.registry = crew.watcher.state.registry
      ∨ ∃ number entries, after.registry.finished = crew.registry.finished ++ [(number, .ok entries)] := by
  cases h with
  | stays hcaches => exact .inl hcaches.2
  | kicked | waits | resumed => exact .inl rfl
  | keys hrunning hstep => exact .inl (keepsUp_keysStep hsound.keys hrunning hstep).2
  | registry hrunning hstep => exact hstep.registry_eq_or _ (hsound.registry.orderly _ hrunning)

variable (plan : Plan Handler ω) (outlets : Outlets ω)

theorem Sound.run (h : crew.Sound) (events : List (Event ω)) : (Crew.run plan outlets events crew).Sound := by
  induction events generalizing crew with
  | nil => exact h
  | cons event rest ih => exact ih (h.of_moves (moves_take plan outlets crew event))

theorem prefix_finished_run (events : List (Event ω)) (crew : Crew ω)
    : crew.keys.finished <+: (Crew.run plan outlets events crew).keys.finished
      ∧ crew.registry.finished <+: (Crew.run plan outlets events crew).registry.finished := by
  induction events generalizing crew with
  | nil => exact ⟨List.prefix_rfl, List.prefix_rfl⟩
  | cons event rest ih =>
    obtain ⟨hkeys, hregistry⟩ := (moves_take plan outlets crew event).prefix_finished
    obtain ⟨hkeys', hregistry'⟩ := ih (crew.take plan outlets event)
    exact ⟨hkeys.trans hkeys', hregistry.trans hregistry'⟩

/--
The tasks that keep the owned keys and the registry up to date never undo each other's work, in whichever order the
steps of all of them come. At most one of each kind is under way, and they end in the order in which they are answered.
The owned keys are those that the source gave last to a refresh that has ended. A validator has the public key of its
first entry in the first answer that had one, of all those given to refreshes that have ended, and keeps it. Only the
end of a refresh that was told of keys or entries changes what is known.
-/
theorem refreshers_keep_caches (handlers : List Handler) (capacity : Nat) (genesisTime : UInt64) (beats : Option Nat)
    (world : ω) (events later : List (Event ω))
    : let crew := Crew.run plan outlets events (start (.start handlers (.empty capacity) genesisTime beats world))
      let after := Crew.run plan outlets later crew
      (crew.keys.running.length ≤ 1 ∧ crew.registry.running.length ≤ 1)
        ∧ (crew.keys.told = crew.keys.finished ++ crew.keys.pending
          ∧ crew.registry.told = crew.registry.finished ++ crew.registry.pending)
        ∧ crew.watcher.state.keys = lastGiven crew.keys.outcomes
        ∧ (∀ index : UInt64, crew.watcher.state.registry[index]? = introduced index crew.registry.outcomes)
        ∧ (crew.keys.finished <+: after.keys.finished ∧ crew.registry.finished <+: after.registry.finished)
        ∧ (∀ (index : UInt64) (key : String), crew.watcher.state.registry[index]? = some key
          → after.watcher.state.registry[index]? = some key)
        ∧ ∀ event, (
          let next := crew.take plan outlets event
          (next.watcher.state.keys = crew.watcher.state.keys
              ∨ ∃ number keys, next.keys.finished = crew.keys.finished ++ [(number, .ok (some keys))])
            ∧ (next.watcher.state.registry = crew.watcher.state.registry
              ∨ ∃ number entries, next.registry.finished = crew.registry.finished ++ [(number, .ok entries)])) := by
  intro crew after
  have hsound : crew.Sound := (sound_start rfl).run plan outlets events
  have hafter : after.Sound := hsound.run plan outlets later
  have hfinished := prefix_finished_run plan outlets later crew
  refine ⟨⟨hsound.keys.inTurn.length_running_le, hsound.registry.inTurn.length_running_le⟩,
    ⟨hsound.keys.inTurn.told_eq, hsound.registry.inTurn.told_eq⟩, hsound.keys.shown, hsound.registry.shown, hfinished,
    fun index key hkey => ?_, fun event => ?_⟩
  . rw [hsound.registry.shown] at hkey
    rw [hafter.registry.shown]
    exact introduced_of_prefix (hfinished.2.map Prod.snd) hkey
  . have hmoves := moves_take plan outlets crew event
    exact ⟨hmoves.keys_eq_or hsound, hmoves.registry_eq_or hsound⟩

end

namespace Overtaken

def outlets : Outlets Nat := ⟨none, ⟨fun _ => pure ()⟩⟩

/-- The nodes give another public key of the first validator when they are asked again. -/
def plan : Plan Handler Nat where
  services := {
    handlerName := Handler.name
    handle settings head := Handler.handle outlets settings ⟨0, 0⟩ head
    header _ _ := ⟨fun asked => (.error (.rejected "header"), asked)⟩
    block _ := ⟨fun asked => (.error (.rejected "block"), asked)⟩
    validators := ⟨fun asked => (.ok (if asked = 0 then [⟨7, "0xaa"⟩] else [⟨7, "0xbb"⟩, ⟨8, "0xcc"⟩]), asked + 1)⟩
    reorgs := pure []
    updateKeys := pure none
    clock _ := 0 }
  settings := ⟨⟨"mainnet"⟩, ∅, []⟩
  genesisTime := 0

/-- The second head comes while the refresh for the first one is under way, and the third one after its end. -/
def events : List (Event Nat) :=
  [.kick 1, .stepRegistry 0, .stepRegistry 0, .kick 2, .stepRegistry 1, .stepRegistry 0, .kick 3, .stepRegistry 1,
    .stepRegistry 1, .stepRegistry 1]

def last : Crew Nat := Crew.run plan outlets events (start (.start [] (.empty 96) 0 none 0))

theorem outcomes_last : last.registry.outcomes = [.ok [⟨7, "0xaa"⟩], .ok [⟨7, "0xbb"⟩, ⟨8, "0xcc"⟩]] := by
  rfl

theorem refreshers_keep_overtaken :
    last.registry.running.length ≤ 1
      ∧ last.watcher.state.registry[(7 : UInt64)]? = some "0xaa"
      ∧ last.watcher.state.registry[(8 : UInt64)]? = some "0xcc" := by
  have ⟨hrunning, _, _, hregistry, _⟩ := refreshers_keep_caches plan outlets [] 96 0 none 0 events []
  have hintroduced (index : UInt64) : last.watcher.state.registry[index]?
      = introduced index [.ok [⟨7, "0xaa"⟩], .ok [⟨7, "0xbb"⟩, ⟨8, "0xcc"⟩]] := by
    rw [← outcomes_last]
    exact hregistry index
  exact ⟨hrunning.2, hintroduced 7, hintroduced 8⟩

end Overtaken

/-- The watcher as it is told of without its tasks, of which it has at most one of each kind. -/
def shown (crew : Crew ω) : Watcher Handler ω :=
  { crew.watcher with keysRefresh := crew.keys.stage?, registryRefresh := crew.registry.stage? }

end Crew
end Watch
end BeaconSentry
