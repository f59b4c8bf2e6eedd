import BeaconSentry.Proofs.Exit.Repeat
import BeaconSentry.Proofs.Watch.Outlets

/-!
This module contains what is told about the exits of a block: those of validators of ours that nobody has asked for, as
far as the oracle tells, and those of validators that are not in the registry.
-/

namespace BeaconSentry
namespace Watch

open Beacon Exit

variable {ω : Type}

namespace ExitWatch

/-- What an oracle is asked in one refresh at a block: the total, and then the requests since some block, if it must. -/
inductive AsksAt (block : BlockNumber) : List OutletEvent → Prop
  | total : AsksAt block [.askedTotal block]
  | requests (first : BlockNumber) : AsksAt block [.askedTotal block, .askedRequests first block]

/-- A validator is ours, under a key whose module is not disabled. -/
def IsWatched (disabledModules : List UInt64) (state : State) (index : ValidatorIndex) (key : NamedKey) : Prop :=
  Owner.of index state.registry state.keys = .owned key ∧ key.moduleIndex ∉ disabledModules

def AnyWatched (disabledModules : List UInt64) (state : State) (head : Head) : Prop :=
  ∃ index ∈ exiting head, ∃ key, IsWatched disabledModules state index key

/-- The exit of a validator was asked for under a key. -/
def IsRequested (cache : ExitCache) (index : ValidatorIndex) (key : NamedKey) : Prop :=
  ∃ request ∈ cache.requests, request.moduleIndex = key.moduleIndex ∧ request.operatorIndex = key.operatorIndex
    ∧ request.validator = index

def IsUnexpected (disabledModules : List UInt64) (state : State) (cache : ExitCache) (index : ValidatorIndex)
    (operator : String) : Prop :=
  ∃ key, IsWatched disabledModules state index key ∧ ¬IsRequested cache index key ∧ key.operatorName = operator

/--
What is asked for a block in which watched validators exit or do not, and the cache after it. Without an oracle, a
number of the block or a watched validator nothing is asked, and an oracle that fails changes nothing.
-/
inductive Looked (anyWatched : Prop) (cache : ExitCache) (world : ω) :
    Option (ExitOracle ω) → Option BlockNumber → List OutletEvent → ExitCache → ω → Prop
  | skipped {oracle? : Option (ExitOracle ω)} {block? : Option BlockNumber}
      (h : oracle? = none ∨ block? = none ∨ ¬anyWatched) :
    Looked anyWatched cache world oracle? block? [] cache world
  | failed {oracle : ExitOracle ω} {block : BlockNumber} {asked : List OutletEvent} {report : Report} {after : ω}
      (hany : anyWatched) (hasked : AsksAt block asked)
      (hrun : (ExitCache.refresh oracle block).run (cache, world) = (.error (.report report), cache, after)) :
    Looked anyWatched cache world (some oracle) (some block) asked cache after
  | refreshed {oracle : ExitOracle ω} {block : BlockNumber} {asked : List OutletEvent} {cache' : ExitCache} {after : ω}
      (hany : anyWatched) (hasked : AsksAt block asked)
      (hrun : (ExitCache.refresh oracle block).run (cache, world) = (.ok (), cache', after)) :
    Looked anyWatched cache world (some oracle) (some block) asked cache' after

structure TellsUnexpected (settings : Settings) (slot : Slot) (unexpected : List (String × ValidatorIndex))
    (draft : Draft) : Prop where
  kind_eq : draft.kind = ⟨"HeadWatcherUserUnexpectedExit", .critical⟩
  summary_eq :
    draft.annotations.summary = s!"🚨🚨🚨 {unexpected.length} Our validators were unexpected exited! 🚨🚨🚨"
  description_eq : ∃ operators, Grouped unexpected operators
    ∧ draft.annotations.description = String.join (operators.map fun (operator, indices) =>
        s!"\n{operator} -{settings.links.validators indices}") ++ settings.links.slotLine slot
  labels_eq : draft.labels = settings.labels

structure TellsUnknown (settings : Settings) (slot : Slot) (unknown : List ValidatorIndex) (draft : Draft) :
    Prop where
  kind_eq : draft.kind = ⟨"HeadWatcherUnknownExit", .critical⟩
  summary_eq : draft.annotations.summary = s!"🚨 {unknown.length} unknown validators were exited!"
  description_eq :
    draft.annotations.description = settings.links.validators unknown ++ settings.links.slotLine slot
  labels_eq : draft.labels = ∅

theorem exists_run_refresh_oracle (oracle : ExitOracle ω) (block : BlockNumber) (cache : ExitCache)
    (events : List OutletEvent) (world : ω)
    : ∃ result cache' asked after, (ExitCache.refresh oracle block).run (cache, world) = (result, cache', after)
        ∧ (ExitCache.refresh (OutletEvent.oracle oracle) block).run (cache, events, world)
          = (result, cache', events ++ asked, after)
        ∧ AsksAt block asked := by
  unfold ExitCache.refresh ExitCache.ask
  simp only [Action.run_bind, Action.run_beside, Action.run_mapError, OutletEvent.run_total_oracle]
  generalize (oracle.total block).run world = answer
  rcases answer with ⟨report | total, after⟩
  . exact ⟨_, _, _, _, rfl, rfl, .total⟩
  . simp only [mapError_ok, Action.run_inspect]
    split
    . exact ⟨_, _, _, _, rfl, rfl, .total⟩
    . cases cache.scanStart (Word.monus block cache.lookback) with
      | error overflow => exact ⟨_, _, _, _, rfl, rfl, .total⟩
      | ok first =>
        simp only [Action.run_bind, Action.run_ofExcept, mapError_ok]
        split
        . simp only [Action.run_bind, Action.run_beside, Action.run_mapError, OutletEvent.run_requests_oracle,
            List.append_assoc, List.cons_append, List.nil_append]
          generalize (oracle.requests first block).run after = answer
          rcases answer with ⟨report | requests, after⟩
          . exact ⟨_, _, _, _, rfl, rfl, .requests first⟩
          . exact ⟨_, _, _, _, rfl, rfl, .requests first⟩
        . exact ⟨_, _, _, _, rfl, rfl, .total⟩

theorem ownedKey?_eq_some_iff {disabledModules : List UInt64} {state : State} {index : ValidatorIndex}
    {entry : ValidatorIndex × NamedKey}
    : ownedKey? disabledModules state index = some entry
        ↔ entry.1 = index ∧ IsWatched disabledModules state index entry.2 := by
  rcases entry with ⟨index', key⟩
  unfold ownedKey? IsWatched
  cases Owner.of index state.registry state.keys with
  | owned key' =>
    dsimp only
    split <;> simp_all [eq_comm]
  | other => simp
  | unknown => simp

theorem ownedKey?_eq_none_iff {disabledModules : List UInt64} {state : State} {index : ValidatorIndex} :
    ownedKey? disabledModules state index = none ↔ ∀ key, ¬IsWatched disabledModules state index key := by
  simp only [Option.eq_none_iff_forall_ne_some, Ne, ownedKey?_eq_some_iff, not_and]
  exact ⟨fun h key => h (index, key) rfl, fun h entry _ => h entry.2⟩

theorem owned_eq_nil_iff {disabledModules : List UInt64} {state : State} {head : Head} :
    owned disabledModules state head = [] ↔ ¬AnyWatched disabledModules state head := by
  simp [owned, AnyWatched, ownedKey?_eq_none_iff]

theorem looked_learn (outlets : Outlets ω) (watch : ExitWatch) (hscan : watch.requests.CanScan) (state : State)
    (head : Head) (events : List OutletEvent) (world : ω)
    : ∃ asked requests after,
        (learn outlets.logged.oracle state head).run (watch, events, world)
            = (.ok (), { watch with requests }, events ++ asked, after)
          ∧ Looked (AnyWatched watch.disabledModules state head) watch.requests world outlets.oracle head.blockNumber
              asked requests after := by
  simp only [learn, Outlets.logged]
  cases outlets.oracle with
  | none => exact ⟨[], watch.requests, world, by simp, .skipped (.inl rfl)⟩
  | some oracle =>
    cases head.blockNumber with
    | none => exact ⟨[], watch.requests, world, by simp, .skipped (.inr (.inl rfl))⟩
    | some block =>
      cases howned : owned watch.disabledModules state head with
      | nil =>
        refine ⟨[], watch.requests, world, ?_, .skipped (.inr (.inr (owned_eq_nil_iff.mp howned)))⟩
        rw [List.append_nil]
        rfl
      | cons entry rest =>
        have hany : AnyWatched watch.disabledModules state head := by
          by_contra hnone
          rw [← owned_eq_nil_iff, howned] at hnone
          cases hnone
        have ⟨result, requests, asked, after, hrun, hlogged, hasked⟩ :=
          exists_run_refresh_oracle oracle block watch.requests events world
        refine ⟨asked, requests, after, ?_⟩
        simp only [Option.map_some, hlogged]
        match result with
        | .ok () => exact ⟨rfl, .refreshed hany hasked hrun⟩
        | .error (.report report) =>
          obtain rfl := ExitCache.eq_of_run_eq_error hrun
          exact ⟨rfl, .failed hany hasked hrun⟩
        | .error (.overflow overflow) =>
          -- The only failure that a watch passes on, but the block after the last scan has a number.
          exact absurd rfl (hscan.ne_overflow (ExitCache.refreshed_of_run hrun) overflow)

theorem unexpected_cons_of_expected {cache : ExitCache} {index : ValidatorIndex} {key : NamedKey}
    (h : cache.isExpected key.moduleIndex key.operatorIndex index = true) (rest : List (ValidatorIndex × NamedKey))
    : unexpected cache ((index, key) :: rest) = unexpected cache rest := by
  simp [unexpected, h]

theorem unexpected_cons_of_not_expected {cache : ExitCache} {index : ValidatorIndex} {key : NamedKey}
    (h : cache.isExpected key.moduleIndex key.operatorIndex index = false) (rest : List (ValidatorIndex × NamedKey))
    : unexpected cache ((index, key) :: rest) = (key.operatorName, index) :: unexpected cache rest := by
  simp [unexpected, h]

/-- Each exit is judged on its own. -/
theorem classified_unexpected (disabledModules : List UInt64) (state : State) (cache : ExitCache)
    (indices : List ValidatorIndex)
    : Classified (IsUnexpected disabledModules state cache) indices
        (unexpected cache (indices.filterMap (ownedKey? disabledModules state))) := by
  induction indices with
  | nil => exact .nil
  | cons index rest ih =>
    cases hkey : ownedKey? disabledModules state index with
    | none =>
      rw [List.filterMap_cons_none hkey]
      refine .skip ?_ ih
      intro operator ⟨key, hwatched, _⟩
      exact ownedKey?_eq_none_iff.mp hkey key hwatched
    | some entry =>
      rcases entry with ⟨index', key⟩
      obtain ⟨rfl, hwatched⟩ := ownedKey?_eq_some_iff.mp hkey
      rw [List.filterMap_cons_some hkey]
      have hrequested : _ ↔ IsRequested cache index' key := cache.isExpected_iff ..
      cases hexpected : cache.isExpected key.moduleIndex key.operatorIndex index' with
      | true =>
        rw [unexpected_cons_of_expected hexpected]
        refine .skip ?_ ih
        intro operator ⟨key', hwatched', hnot, _⟩
        obtain rfl : key = key' := Owner.owned.inj (hwatched.1.symm.trans hwatched'.1)
        exact hnot (hrequested.mp hexpected)
      | false =>
        rw [unexpected_cons_of_not_expected hexpected]
        refine .cons ⟨key, hwatched, ?_, rfl⟩ ih
        rw [← hrequested, hexpected]
        exact Bool.false_ne_true

theorem oneIfAny_unexpectedDraft (settings : Settings) (slot : Slot) (unexpected : List (String × ValidatorIndex)) :
    OneIfAny (TellsUnexpected settings slot) unexpected (unexpectedDraft settings slot unexpected) := by
  apply oneIfAny_ite
  exact ⟨rfl, rfl, ⟨groupByKey unexpected, grouped_groupByKey unexpected, rfl⟩, rfl⟩

theorem oneIfAny_unknownDraft (settings : Settings) (slot : Slot) (unknown : List ValidatorIndex) :
    OneIfAny (TellsUnknown settings slot) unknown (unknownDraft settings slot unknown) := by
  apply oneIfAny_ite
  exact ⟨rfl, rfl, rfl, rfl⟩

theorem unknown_eq (state : State) (head : Head) : unknown state head = (exiting head).filter (· ∉ state.registry) := by
  simp only [unknown, Owner.of_eq_unknown_iff]

theorem exists_run_report {sink : Sink ω} (hsink : sink.IsReliable) (settings : Settings) (now : Instant)
    (state : State) (head : Head) (cache : ExitCache) (disabledModules : List UInt64) (capacity : Nat)
    (events : List OutletEvent) (world : ω)
    : ∃ sent after,
        (report (OutletEvent.sink sink) settings now state head).run
            (⟨cache, disabledModules, .empty capacity⟩, events, world)
          = (.ok (), ⟨cache, disabledModules, sent⟩,
              events ++ (drafts settings state head disabledModules cache).map (·.goesOut now), after) := by
  have ⟨sent, after, hrun⟩ := exists_deliverDrafts hsink now (pairwise_drafts settings state head disabledModules cache)
    capacity events world
  refine ⟨sent, after, ?_⟩
  simp only [report, hrun]

/--
With a sink that takes every alert, a watch over exits that has not sent anything yet tells of the exits of a block. It
first looks for the requests to exit, which may fail. It then sends one alert about the exits that the cache knows no
request for, of validators of ours under modules that are not disabled, by their operators, and one alert about those of
validators that are not in the registry, each if there are any.
-/
theorem handle_tells_exits {outlets : Outlets ω} (hsink : outlets.sink.IsReliable) {requests : ExitCache}
    (hscan : requests.CanScan) (settings : Settings) (now : Instant) (state : State) (head : Head)
    (disabledModules : List UInt64) (capacity : Nat) (events : List OutletEvent) (world : ω)
    : ∃ asked cache between ofOurs unexpected unknown sent after,
        Looked (AnyWatched disabledModules state head) requests world outlets.oracle head.blockNumber asked cache
            between
          ∧ (Handler.handle outlets.logged settings now head).run
              ⟨.exit ⟨requests, disabledModules, .empty capacity⟩, state, events, world⟩
            = (.ok (), ⟨.exit ⟨cache, disabledModules, sent⟩, state,
                events ++ asked ++ (unexpected ++ unknown).map (·.goesOut now), after⟩)
          ∧ Classified (IsUnexpected disabledModules state cache) (exiting head) ofOurs
          ∧ OneIfAny (TellsUnexpected settings head.slot) ofOurs unexpected
          ∧ OneIfAny (TellsUnknown settings head.slot) ((exiting head).filter (· ∉ state.registry)) unknown := by
  have ⟨asked, cache, between, hlearn, hlooked⟩ :=
    looked_learn outlets ⟨requests, disabledModules, .empty capacity⟩ hscan state head events world
  have ⟨sent, after, hreport⟩ := exists_run_report hsink settings now state head cache disabledModules capacity
    (events ++ asked) between
  have hhandle : (handle outlets.logged.oracle outlets.logged.sink settings now state head).run
      (⟨requests, disabledModules, .empty capacity⟩, events, world) = _ :=
    (Action.run_bind_of_ok hlearn).trans hreport
  have hunknown := oneIfAny_unknownDraft settings head.slot (unknown state head)
  rw [drafts] at hhandle
  rw [unknown_eq] at hhandle hunknown
  refine ⟨asked, cache, between, _, _, _, sent, after, hlooked, ?_, classified_unexpected disabledModules state cache _,
    oneIfAny_unexpectedDraft .., hunknown⟩
  simp only [Handler.handle, hhandle, owned]

namespace Unrequested

def settings : Settings := ⟨⟨"mainnet"⟩, Labels.ofList [("team", "validators")], []⟩

/-- Validators 1 and 5 are run by Alpha, 7 by Gamma and 2 by Beta in another module, 3 is known, and no other one is. -/
def state : State := { State.empty 96 with
  keys := .ofKeys [⟨"0xaa01", "Alpha", 0, 1⟩, ⟨"0xaa05", "Alpha", 0, 1⟩, ⟨"0xaa07", "Gamma", 2, 1⟩,
    ⟨"0xaa02", "Beta", 1, 2⟩]
  registry := (∅ : Registry).insert 1 "0xaa01" |>.insert 2 "0xaa02" |>.insert 3 "0xff03" |>.insert 5 " 0xAA05"
    |>.insert 7 "0xaa07" }

def head : Head :=
  ⟨⟨"0x0b", true, ⟨100, 1, "0x0a", "0x03"⟩⟩, ⟨100, "0x0a",
    ⟨some ⟨990⟩, [⟨42⟩, ⟨1⟩, ⟨5⟩, ⟨7⟩, ⟨2⟩, ⟨3⟩, ⟨1⟩, ⟨43⟩], [], [], none⟩⟩⟩

/-- The exit of 5 was asked for, and that of 1 under the key of somebody else. -/
def requests : ExitCache := ⟨100, [⟨980, 1, 0, 5⟩, ⟨980, 1, 2, 1⟩], 1, some 985⟩

/-- An oracle that knows of new requests and fails to tell them. -/
def outlets : Outlets Unit := ⟨some ⟨fun _ => pure 2, fun _ _ => .fail (.scan .unanswered)⟩, ⟨fun _ => pure ()⟩⟩

def events : List OutletEvent :=
  Handler.outgoing outlets settings ⟨0, 0⟩ state head () (.exit ⟨requests, [2], .empty 10⟩)

def told : List Annotations := [
  ⟨"🚨🚨🚨 3 Our validators were unexpected exited! 🚨🚨🚨",
    "\nAlpha -[[1](http://mainnet.beaconcha.in/validator/1), [1](http://mainnet.beaconcha.in/validator/1)]"
      ++ "\nGamma -[[7](http://mainnet.beaconcha.in/validator/7)]"
      ++ "\n\nslot: [100](https://mainnet.beaconcha.in/slot/100)"⟩,
  ⟨"🚨 2 unknown validators were exited!",
    "[[42](http://mainnet.beaconcha.in/validator/42), [43](http://mainnet.beaconcha.in/validator/43)]"
      ++ "\n\nslot: [100](https://mainnet.beaconcha.in/slot/100)"⟩]

theorem canScan_requests : requests.CanScan := by
  rintro _ ⟨⟩
  decide

theorem take_events : events.take 2 = [.askedTotal 990, .askedRequests 986 990] := rfl

theorem told_events : events.flatMap OutletEvent.told = told := by
  decide +kernel

/-- The oracle fails, so that the requests of the last scan decide. -/
theorem handle_tells_unrequested : outlets.sink.IsReliable ∧ requests.CanScan
    ∧ ∃ asked cache between ofOurs unexpected unknown,
      Looked (AnyWatched [2] state head) requests () outlets.oracle (some 990) asked cache between
        ∧ events = asked ++ (unexpected ++ unknown).map (·.goesOut ⟨0, 0⟩)
        ∧ Classified (IsUnexpected [2] state cache) [42, 1, 5, 7, 2, 3, 1, 43] ofOurs
        ∧ OneIfAny (TellsUnexpected settings 100) ofOurs unexpected
        ∧ OneIfAny (TellsUnknown settings 100)
            (([42, 1, 5, 7, 2, 3, 1, 43] : List ValidatorIndex).filter (· ∉ state.registry)) unknown
        ∧ events.take 2 = [.askedTotal 990, .askedRequests 986 990]
        ∧ events.flatMap OutletEvent.told = told := by
  have hsink : outlets.sink.IsReliable := fun _ _ => rfl
  have ⟨asked, cache, between, ofOurs, unexpected, unknown, _, _, hlooked, hrun, hours, hunexpected, hunknown⟩ :=
    handle_tells_exits hsink canScan_requests settings ⟨0, 0⟩ state head [2] 10 [] ()
  have hevents : events = asked ++ (unexpected ++ unknown).map (·.goesOut ⟨0, 0⟩) := congrArg (·.2.world.1) hrun
  exact ⟨hsink, canScan_requests, asked, cache, between, ofOurs, unexpected, unknown, hlooked, hevents, hours,
    hunexpected, hunknown, take_events, told_events⟩

end Unrequested
end ExitWatch
end Watch
end BeaconSentry
