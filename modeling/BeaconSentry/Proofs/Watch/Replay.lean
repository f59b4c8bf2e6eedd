import BeaconSentry.Alert.Manager
import BeaconSentry.Proofs.Beacon.FirstKnown
import BeaconSentry.Proofs.Watch.Cycle

/-!
This module contains what a replay that ends well says about its slots. A slot is passed over as one without a block
for each failure of its cycle that is a "not found": that of the header, but also that of the block, or of a handler.
-/

namespace BeaconSentry
namespace Watch

open Beacon Net

variable {η ω : Type}

/-- The plan with a client of beacon nodes to ask for headers and blocks. -/
def Plan.asking (wire : Wire ω) (client : Client) (plan : Plan η ω) : Plan η ω :=
  { plan with services := { plan.services with header := client.header wire, block := client.block wire } }

namespace Watcher

/-- What the nodes of a client answer if they are asked for the header of a slot. -/
def answeredSlot (wire : Wire ω) (client : Client) (slot : Slot) (world : ω) :
    Except (List ProviderError) HeaderRecord × ω :=
  (Provider.poll (Client.askHeader wire (.slot slot) fun _ => false) client.provider.hosts).run world

/-- What the nodes of a client answer if they are asked for the block with a root. -/
def answeredRoot (wire : Wire ω) (client : Client) (root : String) (world : ω) :
    Except (List ProviderError) Block × ω :=
  (Provider.poll (Client.askBlock wire (.root root)) client.provider.hosts).run world

/-- A slot has no block, was handled just before, or is handled now. -/
inductive Accounted (wire : Wire ω) (client : Client) (plan : Plan η ω) (slot : Slot) (watcher : Watcher η ω) : Prop
  | missing {errors : List ProviderError} {world : ω}
      (hheader : answeredSlot wire client slot watcher.world = (.error errors, world))
      (hfound : ∃ error ∈ errors, error.isNotFound = true)
  | repeated {record : HeaderRecord} {world : ω}
      (hheader : answeredSlot wire client slot watcher.world = (.ok record, world))
      (hslot : watcher.state.lastHandledSlot = some record.header.slot)
  | handled {head : Head} {world after : ω}
      (hheader : answeredSlot wire client slot watcher.world = (.ok head.header, world))
      (hslot : watcher.state.lastHandledSlot ≠ some head.slot)
      (hblock : answeredRoot wire client head.root world = (.ok head.block, after))
      (hverdicts : verdicts plan head watcher.handlers (watcher.facing head after)
        = List.replicate watcher.handlers.length (.ok ()))
      (hremembered : ((cycle plan (.slot slot)).run watcher).2.state
        = ((watcher.facing head after).consulted plan head).state.pushHandled head)

/-- The header of a slot is there, but a "not found" that is not about it makes the slot look empty. -/
inductive Lost (wire : Wire ω) (client : Client) (plan : Plan η ω) (slot : Slot) (watcher : Watcher η ω) : Prop
  | block {record : HeaderRecord} {world after : ω} {errors : List ProviderError}
      (hheader : answeredSlot wire client slot watcher.world = (.ok record, world))
      (hslot : watcher.state.lastHandledSlot ≠ some record.header.slot)
      (hblock : answeredRoot wire client record.root world = (.error errors, after))
      (hfound : ∃ error ∈ errors, error.isNotFound = true)
  | handler {head : Head} {world after : ω} {report : Report}
      (hheader : answeredSlot wire client slot watcher.world = (.ok head.header, world))
      (hslot : watcher.state.lastHandledSlot ≠ some head.slot)
      (hblock : answeredRoot wire client head.root world = (.ok head.block, after))
      (hrange : ∀ verdict ∈ verdicts plan head watcher.handlers (watcher.facing head after), isOverflow verdict = false)
      (hfirst : (verdicts plan head watcher.handlers (watcher.facing head after)).findSome? report? = some report)
      (hmissing : report.isMissingSlot = true)

/-- Whether a replay goes on after a cycle that ends in some way. -/
def passes : Except Failure Bool → Bool
  | .ok _ => true
  | .error (.report report) => report.isMissingSlot
  | .error (.overflow _) => false

/-- Something holds of each slot and the watcher that comes to it. -/
def AtEachSlot (plan : Plan η ω) (p : Slot → Watcher η ω → Prop) : List Slot → Watcher η ω → Prop
  | [], _ => True
  | slot :: rest, watcher =>
    p slot watcher ∧ AtEachSlot plan p rest (((cycle plan (.slot slot)).run watcher).2.settle plan)

theorem atEachSlot_and {plan : Plan η ω} {p q : Slot → Watcher η ω → Prop} {slots : List Slot} {watcher : Watcher η ω}
    : AtEachSlot plan (fun slot watcher => p slot watcher ∧ q slot watcher) slots watcher
        ↔ AtEachSlot plan p slots watcher ∧ AtEachSlot plan q slots watcher := by
  induction slots generalizing watcher with
  | nil => simp [AtEachSlot]
  | cons slot rest ih =>
    simp only [AtEachSlot, ih]
    exact and_and_and_comm

theorem run_replay_cons (plan : Plan η ω) (slot : Slot) (rest : List Slot) (watcher : Watcher η ω) :
    ((replay plan (slot :: rest)).run watcher).1 = .ok ()
      ↔ passes ((cycle plan (.slot slot)).run watcher).1 = true
        ∧ ((replay plan rest).run (((cycle plan (.slot slot)).run watcher).2.settle plan)).1 = .ok () := by
  rw [replay]
  dsimp only
  generalize (cycle plan (.slot slot)).run watcher = answer
  rcases answer with ⟨failure | new, after⟩
  . cases failure with
    | report report => cases hmissing : report.isMissingSlot <;> simp [passes, hmissing]
    | overflow => simp [passes]
  . simp [passes]

theorem replay_cons (plan : Plan η ω) (slot : Slot) (rest : List Slot) (watcher : Watcher η ω) :
    (replay plan (slot :: rest)).run watcher =
      let outcome := (cycle plan (.slot slot)).run watcher
      if passes outcome.1 then (replay plan rest).run (outcome.2.settle plan)
      else (outcome.1.map fun _ => (), outcome.2) := by
  rw [replay]
  dsimp only
  generalize (cycle plan (.slot slot)).run watcher = outcome
  rcases outcome with ⟨(_ | _) | _, after⟩ <;> rfl

theorem replay_iff_atEachSlot (plan : Plan η ω) (slots : List Slot) (watcher : Watcher η ω) :
    ((replay plan slots).run watcher).1 = .ok ()
      ↔ AtEachSlot plan (fun slot watcher => passes ((cycle plan (.slot slot)).run watcher).1 = true)
        slots watcher := by
  induction slots generalizing watcher with
  | nil => simp [replay, AtEachSlot]
  | cons slot rest ih => rw [run_replay_cons, AtEachSlot, ih]

section

variable {wire : Wire ω} {client : Client} {plan : Plan η ω} {slot : Slot} {watcher : Watcher η ω}

theorem askedHeader_eq_ok_iff {record : HeaderRecord} {world : ω}
    : watcher.askedHeader (plan.asking wire client) (.slot slot) = (.ok record, world)
        ↔ answeredSlot wire client slot watcher.world = (.ok record, world) :=
  Client.run_firstKnown_eq_ok_iff

theorem askedHeader_eq_error_iff {error : ProviderError} {world : ω}
    : watcher.askedHeader (plan.asking wire client) (.slot slot) = (.error error, world)
        ↔ ∃ errors, answeredSlot wire client slot watcher.world = (.error errors, world)
          ∧ Client.blame client.provider.name errors = error :=
  Client.run_firstKnown_eq_error_iff

theorem run_block_eq_ok_iff {root : String} {world after : ω} {block : Block}
    : ((plan.asking wire client).services.block (.root root)).run world = (.ok block, after)
        ↔ answeredRoot wire client root world = (.ok block, after) :=
  Client.run_firstKnown_eq_ok_iff

theorem run_block_eq_error_iff {root : String} {world after : ω} {error : ProviderError}
    : ((plan.asking wire client).services.block (.root root)).run world = (.error error, after)
        ↔ ∃ errors, answeredRoot wire client root world = (.error errors, after)
          ∧ Client.blame client.provider.name errors = error :=
  Client.run_firstKnown_eq_error_iff

theorem accounted_or_lost_of_passes
    (h : passes ((cycle (plan.asking wire client) (.slot slot)).run watcher).1 = true)
    : Accounted wire client (plan.asking wire client) slot watcher
        ∨ Lost wire client (plan.asking wire client) slot watcher := by
  have hcycled := cycled_cycle (plan.asking wire client) (.slot slot) watcher
  generalize hrun : (cycle (plan.asking wire client) (.slot slot)).run watcher = outcome at h hcycled
  rcases outcome with ⟨result, final⟩
  cases hcycled with
  | unfetched hfetched =>
    cases hfetched with
    | headerFailed hheader =>
      have ⟨errors, hanswer, hblame⟩ := askedHeader_eq_error_iff.mp hheader
      rw [← hblame] at h
      exact .inl (.missing hanswer ((Client.isNotFound_blame ..).mp h))
    | ageOverflowed => cases h
    | blockFailed hheader hage hslot hblock =>
      have ⟨errors, hanswer, hblame⟩ := run_block_eq_error_iff.mp hblock
      rw [← hblame] at h
      exact .inr (.block (askedHeader_eq_ok_iff.mp hheader) hslot hanswer ((Client.isNotFound_blame ..).mp h))
  | repeated hfetched =>
    cases hfetched with
    | repeated hheader hage hslot => exact .inl (.repeated (askedHeader_eq_ok_iff.mp hheader) hslot)
  | @refused head after _ hfetched hresult =>
    cases hfetched with
    | found hheader hage hslot hblock =>
      have hjudged := judged_runHandlers (plan.asking wire client) head watcher.handlers (watcher.facing head after)
      rw [hresult] at hjudged
      cases hjudged with
      | reported name hrange hfirst =>
        exact .inr (.handler (askedHeader_eq_ok_iff.mp hheader) hslot (run_block_eq_ok_iff.mp hblock) hrange hfirst h)
      | overflowed => cases h
  | @handled head after hfetched hresult =>
    cases hfetched with
    | found hheader hage hslot hblock =>
      have hjudged := judged_runHandlers (plan.asking wire client) head watcher.handlers (watcher.facing head after)
      rw [hresult] at hjudged
      cases hjudged with
      | accepted hall =>
        refine .inl (.handled (askedHeader_eq_ok_iff.mp hheader) hslot (run_block_eq_ok_iff.mp hblock) ?_ ?_)
        . rw [List.eq_replicate_iff]
          exact ⟨length_verdicts .., hall⟩
        . rw [hrun]

theorem isStaleHead_slot (record : HeaderRecord) : watcher.isStaleHead plan (.slot slot) record = .ok false := rfl

theorem passes_of_accounted (h : Accounted wire client (plan.asking wire client) slot watcher)
    : passes ((cycle (plan.asking wire client) (.slot slot)).run watcher).1 = true := by
  cases h with
  | missing hheader hfound =>
    have hfetched : Fetched (plan.asking wire client) (.slot slot) watcher _ _ :=
      .headerFailed (askedHeader_eq_error_iff.mpr ⟨_, hheader, rfl⟩)
    rw [(Cycled.unfetched hfetched).run_eq]
    exact (Client.isNotFound_blame ..).mpr hfound
  | repeated hheader hslot =>
    have hfetched : Fetched (plan.asking wire client) (.slot slot) watcher _ _ :=
      .repeated (askedHeader_eq_ok_iff.mpr hheader) (isStaleHead_slot _) hslot
    rw [(Cycled.repeated hfetched).run_eq]
    rfl
  | @handled head world after hheader hslot hblock hverdicts =>
    have hfetched : Fetched (plan.asking wire client) (.slot slot) watcher (.ok (some head)) after :=
      .found (askedHeader_eq_ok_iff.mpr hheader) (isStaleHead_slot _) hslot (run_block_eq_ok_iff.mpr hblock)
    have hjudged := judged_runHandlers (plan.asking wire client) head watcher.handlers (watcher.facing head after)
    have hall := (List.eq_replicate_iff.mp hverdicts).2
    rw [run_cycle_of_fetched hfetched, hjudged.eq_ok hall]
    rfl

theorem passes_of_lost (h : Lost wire client (plan.asking wire client) slot watcher)
    : passes ((cycle (plan.asking wire client) (.slot slot)).run watcher).1 = true := by
  cases h with
  | block hheader hslot hblock hfound =>
    have hfetched : Fetched (plan.asking wire client) (.slot slot) watcher _ _ :=
      .blockFailed (askedHeader_eq_ok_iff.mpr hheader) (isStaleHead_slot _) hslot
        (run_block_eq_error_iff.mpr ⟨_, hblock, rfl⟩)
    rw [(Cycled.unfetched hfetched).run_eq]
    exact (Client.isNotFound_blame ..).mpr hfound
  | @handler head world after report hheader hslot hblock hrange hfirst hmissing =>
    have hfetched : Fetched (plan.asking wire client) (.slot slot) watcher (.ok (some head)) after :=
      .found (askedHeader_eq_ok_iff.mpr hheader) (isStaleHead_slot _) hslot (run_block_eq_ok_iff.mpr hblock)
    have hjudged := judged_runHandlers (plan.asking wire client) head watcher.handlers (watcher.facing head after)
    have ⟨name, hresult⟩ := hjudged.eq_report hrange hfirst
    rw [run_cycle_of_fetched hfetched, hresult]
    exact hmissing

theorem passes_iff
    : passes ((cycle (plan.asking wire client) (.slot slot)).run watcher).1 = true
        ↔ Accounted wire client (plan.asking wire client) slot watcher
          ∨ Lost wire client (plan.asking wire client) slot watcher := by
  constructor
  . exact accounted_or_lost_of_passes
  . intro h
    cases h with
    | inl h => exact passes_of_accounted h
    | inr h => exact passes_of_lost h

theorem not_lost_of_accounted (h : Accounted wire client plan slot watcher) : ¬Lost wire client plan slot watcher := by
  intro hlost
  cases hlost with
  | block hheader hslot hblock hfound =>
    cases h with
    | missing hheader' =>
      rw [hheader] at hheader'
      cases hheader'
    | repeated hheader' hslot' =>
      rw [hheader] at hheader'
      cases hheader'
      exact hslot hslot'
    | handled hheader' _ hblock' =>
      rw [hheader] at hheader'
      cases hheader'
      cases hblock.symm.trans hblock'
  | @handler head _ _ report hheader hslot hblock hrange hfirst hmissing =>
    cases h with
    | missing hheader' =>
      rw [hheader] at hheader'
      cases hheader'
    | repeated hheader' hslot' =>
      rw [hheader] at hheader'
      cases hheader'
      exact hslot hslot'
    | @handled head' _ _ hheader' _ hblock' hverdicts =>
      -- Both speak of the same head, whose handlers cannot all succeed and one of them fail.
      rcases head with ⟨record, block⟩
      rcases head' with ⟨record', block'⟩
      cases hheader.symm.trans hheader'
      cases hblock.symm.trans hblock'
      obtain ⟨verdict, hmem, hreport⟩ := List.exists_of_findSome?_eq_some hfirst
      rw [hverdicts] at hmem
      rw [List.eq_of_mem_replicate hmem] at hreport
      cases hreport

theorem replay_of_lost (h : Lost wire client (plan.asking wire client) slot watcher)
    : ((replay (plan.asking wire client) [slot]).run watcher).1 = .ok ()
        ∧ ¬AtEachSlot (plan.asking wire client) (Accounted wire client (plan.asking wire client)) [slot] watcher := by
  constructor
  . rw [run_replay_cons]
    exact ⟨passes_of_lost h, rfl⟩
  . intro haccounted
    exact not_lost_of_accounted haccounted.1 h

/--
A replay ends well if and only if each of its slots is accounted for or lost. So all slots of a replay are accounted
for if and only if it ends well and none is lost.
-/
theorem replay_eq_ok_iff (wire : Wire ω) (client : Client) (plan : Plan η ω) (slots : List Slot) (watcher : Watcher η ω)
    : let plan := plan.asking wire client
      (((replay plan slots).run watcher).1 = .ok ()
          ↔ AtEachSlot plan
            (fun slot watcher => Accounted wire client plan slot watcher ∨ Lost wire client plan slot watcher)
            slots watcher)
        ∧ (AtEachSlot plan (Accounted wire client plan) slots watcher
          ↔ ((replay plan slots).run watcher).1 = .ok ()
            ∧ AtEachSlot plan (fun slot watcher => ¬Lost wire client plan slot watcher) slots watcher) := by
  intro plan'
  have hok : ((replay plan' slots).run watcher).1 = .ok ()
      ↔ AtEachSlot plan'
        (fun slot watcher => Accounted wire client plan' slot watcher ∨ Lost wire client plan' slot watcher)
        slots watcher := by
    simp only [replay_iff_atEachSlot, plan', passes_iff]
  refine ⟨hok, ?_⟩
  rw [hok, ← atEachSlot_and]
  have (slot : Slot) (watcher : Watcher η ω) : (Accounted wire client plan' slot watcher
      ∨ Lost wire client plan' slot watcher) ∧ ¬Lost wire client plan' slot watcher
        ↔ Accounted wire client plan' slot watcher := by
    constructor
    . intro ⟨h, hlost⟩
      exact h.resolve_right hlost
    . intro h
      exact ⟨.inl h, not_lost_of_accounted h⟩
  simp only [this]

end

namespace Forgetful

def header : HeaderRecord := ⟨"0x01", true, ⟨5, 1, "0x02", "0x03"⟩⟩

def block : Block := ⟨5, "0x02", ⟨none, [], [], [], some ⟨[], [], [⟨"0xaa", "0x01", "0x02"⟩]⟩⟩⟩

/-- A host that knows of one header, perhaps of its block, and of nothing else. -/
def wire (knowsBlock : Bool) : Wire Unit where
  exchange request := .done <|
    match request.url.path, knowsBlock with
    | .segments ["eth", "v1", "beacon", "headers", "5"], _ =>
      ⟨200, "[[\"0x01\",true,[[5,1,\"0x02\",\"0x03\"]]]]".toUTF8.toList, true⟩
    | .segments ["eth", "v2", "beacon", "blocks", "0x01"], true =>
      ⟨200, "[[[5,\"0x02\",[null,[],[],[],[[],[],[[\"0xaa\",\"0x01\",\"0x02\"]]]]]]]".toUTF8.toList, true⟩
    | _, _ => ⟨404, [], true⟩
  observe _ world := world

def provider (name : String) : Provider :=
  ⟨name, [⟨"http", some ⟨"", "", "host", none⟩, .segments [""], none, none⟩], .limited (.ofMillis 10) 0 .zero⟩

def client : Client := ⟨provider "ConsensusClient"⟩

/-- The handlers post their alerts to the same host. -/
def plan (wire : Wire Unit) : Plan Handler Unit where
  services :=
    let manager : AlertManager := ⟨some (provider "AlertmanagerClient"), "mainnet", false⟩
    .ofClient wire client ⟨none, manager.sink wire⟩ ⟨0, 0⟩ (pure none) fun _ => 0
  settings := ⟨⟨"mainnet"⟩, ∅, ["0xaa"]⟩
  genesisTime := 0

def watcher : Watcher Handler Unit := .start [.consolidation (.empty 10)] (.empty 96) 0 none ()

theorem answeredSlot_eq (knowsBlock : Bool) :
    answeredSlot (wire knowsBlock) client 5 watcher.world = (.ok header, ()) := by
  cases knowsBlock <;> decide +kernel

theorem lastHandledSlot_ne (slot : Slot) : watcher.state.lastHandledSlot ≠ some slot := by
  intro h
  cases h

theorem lost_of_unknownBlock : Lost (wire false) client ((plan (wire false)).asking (wire false) client) 5 watcher := by
  have hblock : answeredRoot (wire false) client header.root ()
      = (.error [.notOk "eth/v2/beacon/blocks/0x01" 404 ""], ()) := by
    decide +kernel
  apply Lost.block (answeredSlot_eq false) (lastHandledSlot_ne _) hblock
  exact ⟨_, List.mem_singleton_self _, rfl⟩

theorem lost_of_unknownManager : Lost (wire true) client ((plan (wire true)).asking (wire true) client) 5 watcher := by
  have hblock : answeredRoot (wire true) client header.root () = (.ok block, ()) := by
    decide +kernel
  have hverdicts : verdicts ((plan (wire true)).asking (wire true) client) ⟨header, block⟩ watcher.handlers
      (watcher.facing ⟨header, block⟩ ()) = [.error (.report (.provider (.notOk "api/v2/alerts" 404 "")))] := by
    decide +kernel
  have hlost := @Lost.handler _ _ (wire true) client ((plan (wire true)).asking (wire true) client) 5 watcher
    ⟨header, block⟩ () () (.provider (.notOk "api/v2/alerts" 404 "")) (answeredSlot_eq true)
    (lastHandledSlot_ne _) hblock
  rw [hverdicts] at hlost
  exact hlost (by decide) rfl rfl

/-- Neither a block nor an alert manager that is not found makes a slot one without a block. -/
theorem replay_hides_failures :
    let replayed (knowsBlock : Bool) :=
      (replay ((plan (wire knowsBlock)).asking (wire knowsBlock) client) [5]).run watcher
    let isAccounted (knowsBlock : Bool) :=
      AtEachSlot ((plan (wire knowsBlock)).asking (wire knowsBlock) client)
        (Accounted (wire knowsBlock) client ((plan (wire knowsBlock)).asking (wire knowsBlock) client)) [5] watcher
    ((replayed false).1 = .ok () ∧ ¬isAccounted false) ∧ (replayed true).1 = .ok () ∧ ¬isAccounted true :=
  ⟨replay_of_lost lost_of_unknownBlock, replay_of_lost lost_of_unknownManager⟩

end Forgetful
end Watcher
end Watch
end BeaconSentry
