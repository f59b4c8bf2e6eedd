import BeaconSentry.Proofs.Watch.Rounds

/-!
This module contains what a replay of a range of slots does if the nodes serve one chain and no handler fails: each
block of the range is handled one time, in order, and no slot without a block is mistaken for a fork.
-/

namespace BeaconSentry
namespace Watch

open Beacon Net

variable {η ω : Type}

namespace Fork

theorem drafts_eq_nil (settings : Settings) {state : State} {head : Head} (hreorgs : state.reorgs = ∅)
    (hparent : ∀ last ∈ state.handled.getLast?, head.parentRoot = last.root)
    : drafts settings state head = .ok [] := by
  have hunlinked : unlinked state head = [] := by
    unfold unlinked State.drainReorgs
    rw [hreorgs]
    rfl
  rw [drafts_of_unlinked_eq_nil hunlinked]
  unfold headDrafts
  cases hlast : state.handled.getLast? with
  | none => rfl
  | some last =>
    have hmem : last ∈ state.handled ++ [head] := List.mem_append_left _ (List.mem_of_getLast? hlast)
    have hknown : (known? (state.handled ++ [head]) head.parentRoot).isSome = true := by
      unfold known?
      rw [List.find?_isSome]
      exact ⟨last, hmem, by simp [hparent last hlast]⟩
    dsimp only
    rw [if_pos hknown]

/-- If no reorganisation waits and the head continues the last one, the handler for forks sends nothing. -/
theorem run_handle_of_linked (outlets : Outlets ω) (settings : Settings) (now : Instant) {state : State} {head : Head}
    (sent : SentAlerts) (world : ω) (hreorgs : state.reorgs = ∅)
    (hparent : ∀ last ∈ state.handled.getLast?, head.parentRoot = last.root)
    : (Handler.handle outlets settings now head).run ⟨.fork sent, state, world⟩
        = (.ok (), ⟨.fork sent, state.drainReorgs.2, world⟩) := by
  rw [run_handle, drafts_eq_nil settings hreorgs hparent]
  rfl

end Fork

namespace Watcher

/-- The nodes of a client serve a chain in a slot: its header and block, or if there is none, that it is not found. -/
inductive Served (wire : Wire ω) (client : Client) (chain : Slot → Option Head) (slot : Slot) (world : ω) : Prop
  | missing {errors : List ProviderError} {after : ω} (hchain : chain slot = none)
      (hheader : answeredSlot wire client slot world = (.error errors, after)) (hasked : errors ≠ [])
      (hmissing : ∀ error ∈ errors, error.isNotFound = true)
  | existing {head : Head} {between after : ω} (hchain : chain slot = some head) (hslot : head.slot = slot)
      (hheader : answeredSlot wire client slot world = (.ok head.header, between))
      (hblock : answeredRoot wire client head.root between = (.ok head.block, after))

/-- What a replay leaves that has handled some heads in rounds, after earlier ones. -/
structure Replayed (plan : Plan η ω) (capacity : Nat) (earlier heads : List Head) (watcher : Watcher η ω)
    (log : List (Look η ω)) (outcome : Except Failure Unit × Watcher η ω) : Prop where
  result_eq : outcome.1 = .ok ()
  rounds : ∃ rounds, log = rounds.flatten
    ∧ Rounds plan capacity earlier watcher.handlers heads rounds outcome.2.handlers
  window_eq : outcome.2.state.window = ((earlier ++ heads).rtake capacity, capacity)
  slotGauge_eq : outcome.2.gauges.slot = (heads.getLast?.map (gaugeValue ·.slot)).getD watcher.gauges.slot

section

variable {plan : Plan η ω} {capacity : Nat} {earlier heads : List Head} {watcher watcher' : Watcher η ω}
  {log : List (Look η ω)} {outcome : Except Failure Unit × Watcher η ω}

theorem Replayed.of_settled (h : Replayed plan capacity earlier heads watcher' log outcome)
    (hsettled : watcher'.settled = watcher.settled) : Replayed plan capacity earlier heads watcher log outcome := by
  have hhandlers : watcher'.handlers = watcher.handlers := congrArg (·.1) hsettled
  have hgauge : watcher'.gauges.slot = watcher.gauges.slot := congrArg (·.2.1) hsettled
  obtain ⟨hresult, hrounds, hwindow, hslot⟩ := h
  rw [hhandlers] at hrounds
  rw [hgauge] at hslot
  exact ⟨hresult, hrounds, hwindow, hslot⟩

theorem Replayed.cons {head : Head} {looks : List (Look η ω)}
    (h : Replayed plan capacity (earlier ++ [head]) heads watcher' log outcome)
    (hall : AllLook plan head watcher.handlers watcher'.handlers looks)
    (haccepted : ∀ look ∈ looks, look.result = .ok ())
    (hwindow : ∀ look ∈ looks, look.before.state.window = (earlier.rtake capacity, capacity))
    (hgauge : watcher'.gauges.slot = gaugeValue head.slot)
    : Replayed plan capacity earlier (head :: heads) watcher (looks ++ log) outcome := by
  obtain ⟨rounds, rfl, hrounds⟩ := h.rounds
  refine ⟨h.result_eq, ⟨looks :: rounds, rfl, .cons hall haccepted hwindow hrounds⟩, ?_, ?_⟩
  . rw [h.window_eq, List.append_assoc, List.singleton_append]
  . rw [h.slotGauge_eq, hgauge, List.getLast?_cons]
    cases heads.getLast? <;> rfl

end

section

variable {wire : Wire ω} {client : Client} {plan : Plan η ω} {capacity : Nat} {earlier : List Head}
  {watcher : Watcher η ω} {slot : Slot}

theorem handlers_settle (plan : Plan η ω) (watcher : Watcher η ω) :
    (watcher.settle plan).handlers = watcher.handlers :=
  congrArg (·.1) (settled_settle plan watcher)

theorem slotGauge_settle (plan : Plan η ω) (watcher : Watcher η ω) :
    (watcher.settle plan).gauges.slot = watcher.gauges.slot :=
  congrArg (·.2.1) (settled_settle plan watcher)

theorem AtEachSlot.forall_mem {p : Slot → Watcher η ω → Prop} {q : Slot → Prop} {slots : List Slot}
    (h : AtEachSlot plan p slots watcher) (himp : ∀ slot watcher, p slot watcher → q slot)
    : ∀ slot ∈ slots, q slot := by
  induction slots generalizing watcher with
  | nil => exact List.forall_mem_nil _
  | cons slot rest ih => exact List.forall_mem_cons.mpr ⟨himp slot watcher h.1, ih h.2⟩

theorem result_of_accepted {plan : Plan η ω} {head : Head} {handlers : List η} (watcher : Watcher η ω)
    (haccepted : ∀ look ∈ looks plan head handlers watcher.state watcher.world, look.result = .ok ())
    : (runHandlers plan head handlers watcher).1 = .ok () := by
  rcases allLook_or_overflow plan head handlers watcher with ⟨_, hconcluded⟩ | ⟨overflow, _, look, hmem, hfailed⟩
  . generalize (runHandlers plan head handlers watcher).1 = result at hconcluded
    cases hconcluded with
    | accepted => rfl
    | @reported earlier later look _ hlooks _ hfailed =>
      have hmem : look ∈ looks plan head handlers watcher.state watcher.world := by
        rw [hlooks]
        exact List.mem_append_right _ List.mem_cons_self
      rw [haccepted look hmem] at hfailed
      cases hfailed
  . rw [haccepted look hmem] at hfailed
    cases hfailed

theorem cycle_of_missing {errors : List ProviderError} {world : ω}
    (hheader : answeredSlot wire client slot watcher.world = (.error errors, world)) (hasked : errors ≠ [])
    (hmissing : ∀ error ∈ errors, error.isNotFound = true)
    : let plan := plan.asking wire client
      let outcome := (cycle plan (.slot slot)).run watcher
      passes outcome.1 = true ∧ seen plan (.slot slot) watcher = []
        ∧ outcome.2.state = watcher.state ∧ outcome.2.settled = watcher.settled := by
  obtain ⟨error, hmem⟩ := List.exists_mem_of_ne_nil errors hasked
  have hfetched : Fetched (plan.asking wire client) (.slot slot) watcher _ _ :=
    .headerFailed (askedHeader_eq_error_iff.mpr ⟨_, hheader, rfl⟩)
  have hseen : seen (plan.asking wire client) (.slot slot) watcher = [] := by rw [seen, hfetched.run_eq]
  refine ⟨passes_of_accounted (.missing hheader ⟨error, hmem, hmissing error hmem⟩), hseen, ?_⟩
  rw [(Cycled.unfetched hfetched).run_eq]
  exact ⟨rfl, rfl⟩

theorem cycle_of_existing {head : Head} {between after : ω} (hkeeps : (plan.asking wire client).KeepsWindow)
    (hwindow : watcher.state.window = (earlier.rtake capacity, capacity))
    (hearlier : ∀ last ∈ earlier, last.slot < head.slot)
    (hheader : answeredSlot wire client slot watcher.world = (.ok head.header, between))
    (hblock : answeredRoot wire client head.root between = (.ok head.block, after))
    (haccepted : ∀ look ∈ seen (plan.asking wire client) (.slot slot) watcher, look.result = .ok ())
    : let plan := plan.asking wire client
      let outcome := (cycle plan (.slot slot)).run watcher
      outcome.1 = .ok true ∧ AllLook plan head watcher.handlers outcome.2.handlers (seen plan (.slot slot) watcher)
        ∧ outcome.2.state.window = ((earlier ++ [head]).rtake capacity, capacity)
        ∧ outcome.2.gauges.slot = gaugeValue head.slot := by
  -- The head is new, although only its slot is compared: all slots before it are lower.
  have hlast : watcher.state.lastHandledSlot ≠ some head.slot := by
    intro h
    obtain ⟨last, hlast, heq⟩ := State.lastHandledSlot_eq_some_iff.mp h
    have ⟨_, hlast⟩ := (State.mem_getLast?_iff_of_window hwindow).mp hlast
    exact UInt64.ne_of_lt (hearlier last (List.mem_of_getLast? hlast)) heq
  have hfetched : Fetched (plan.asking wire client) (.slot slot) watcher (.ok (some head)) after :=
    .found (askedHeader_eq_ok_iff.mpr hheader) (isStaleHead_slot _) hlast (run_block_eq_ok_iff.mpr hblock)
  have hresult := result_of_accepted (watcher.facing head after) (seen_of_fetched hfetched ▸ haccepted)
  have hrun := (Cycled.handled hfetched hresult).run_eq
  have hlooked := allLook_of_fetched hfetched (by rw [hrun]; nofun)
  have hconsulted : ((watcher.facing head after).consulted (plan.asking wire client) head).state.window
      = watcher.state.window :=
    window_consulted hkeeps (watcher.facing head after)
  have hpushed := (State.window_pushHandled head hconsulted).trans (State.window_pushHandled_of_rtake hwindow head)
  dsimp only
  rw [hrun] at *
  exact ⟨rfl, hlooked.1, hpushed, rfl⟩

theorem replayed_of_served {chain : Slot → Option Head} {slots : List Slot}
    (hkeeps : (plan.asking wire client).KeepsWindow)
    (hwindow : watcher.state.window = (earlier.rtake capacity, capacity)) (hascending : slots.Pairwise (· < ·))
    (hearlier : ∀ last ∈ earlier, ∀ slot ∈ slots, last.slot < slot)
    (hserved : AtEachSlot (plan.asking wire client) (fun slot watcher => Served wire client chain slot watcher.world)
      slots watcher)
    (haccepted : AtEachSlot (plan.asking wire client)
      (fun slot watcher => ∀ look ∈ seen (plan.asking wire client) (.slot slot) watcher, look.result = .ok ())
      slots watcher)
    : Replayed (plan.asking wire client) capacity earlier (slots.filterMap chain) watcher
        (seenIn (plan.asking wire client) slots watcher) ((replay (plan.asking wire client) slots).run watcher) := by
  -- The window always holds the last ones of all earlier heads, and the slots that are left are above all of them.
  induction slots generalizing earlier watcher with
  | nil =>
    refine ⟨rfl, ⟨[], rfl, .nil⟩, ?_, rfl⟩
    rw [List.filterMap_nil, List.append_nil]
    exact hwindow
  | cons slot rest ih =>
    rw [List.pairwise_cons] at hascending
    have hlater : ∀ last ∈ earlier, ∀ slot ∈ rest, last.slot < slot :=
      fun last hlast slot hslot => hearlier last hlast slot (List.mem_cons_of_mem _ hslot)
    have hsettled := settled_settle (plan.asking wire client)
      ((cycle (plan.asking wire client) (.slot slot)).run watcher).2
    have hsettle := window_settle (plan.asking wire client)
      ((cycle (plan.asking wire client) (.slot slot)).run watcher).2
    rw [replay_cons, seenIn]
    dsimp only
    cases hserved.1 with
    | missing hchain hheader hasked hmissing =>
      obtain ⟨hpasses, hseen, hstate, hsettled'⟩ := @cycle_of_missing _ _ _ _ plan _ _ _ _ hheader hasked hmissing
      rw [hstate, hwindow] at hsettle
      rw [if_pos hpasses, if_pos hpasses, hseen, List.nil_append, List.filterMap_cons_none hchain]
      exact (ih hsettle hascending.2 hlater hserved.2 haccepted.2).of_settled (hsettled.trans hsettled')
    | @existing head _ _ hchain hslot hheader hblock =>
      have hbefore : ∀ last ∈ earlier, last.slot < head.slot := by
        intro last hlast
        rw [hslot]
        exact hearlier last hlast slot List.mem_cons_self
      obtain ⟨hresult, hall, hwindow', hgauge⟩ := cycle_of_existing hkeeps hwindow hbefore hheader hblock haccepted.1
      have hpasses : passes ((cycle (plan.asking wire client) (.slot slot)).run watcher).1 = true := by
        rw [hresult]
        rfl
      have hnext : ∀ last ∈ earlier ++ [head], ∀ slot ∈ rest, last.slot < slot := by
        rw [List.forall_mem_append, List.forall_mem_singleton, hslot]
        exact ⟨hlater, hascending.1⟩
      rw [if_pos hpasses, if_pos hpasses, List.filterMap_cons_some hchain]
      apply Replayed.cons (ih (hsettle.trans hwindow') hascending.2 hnext hserved.2 haccepted.2)
      . rw [handlers_settle]
        exact hall
      . exact haccepted.1
      . exact seen_keeps (hkeeps.keeps _) _ hwindow
      . rw [slotGauge_settle]
        exact hgauge

theorem Served.slot_eq {chain : Slot → Option Head} {world : ω} (h : Served wire client chain slot world)
    : ∀ head ∈ chain slot, head.slot = slot := by
  intro head hhead
  cases h with
  | missing hchain => cases hchain.symm.trans hhead
  | existing hchain hslot =>
    cases hchain.symm.trans hhead
    exact hslot

theorem isOrdered_of_served {chain : Slot → Option Head} {slots : List Slot} (hascending : slots.Pairwise (· < ·))
    (hserved : AtEachSlot plan (fun slot watcher => Served wire client chain slot watcher.world) slots watcher)
    : IsOrdered (slots.filterMap chain) := by
  have hslot := hserved.forall_mem fun _ _ => Served.slot_eq
  unfold IsOrdered
  rw [List.pairwise_filterMap]
  apply hascending.imp_of_mem
  intro slot slot' hmem hmem' hlt head hhead head' hhead'
  rw [hslot slot hmem head hhead, hslot slot' hmem' head' hhead']
  exact hlt

end

/--
A replay of ascending slots in which the nodes serve one chain and no handler fails ends well. In it all handlers look
at each block of the chain in these slots one time, in order of the slots, and then the last ones of them are remembered
and the last one is shown. If each block continues the last one and no reorganisation waits, the handler for forks sends
nothing. If the cycle of a later slot fails, and not since the slot has no block, the replay up to it ends with this
failure, and nothing but these blocks has been handled.
-/
theorem replay_handles_chain {wire : Wire ω} {client : Client} {plan : Plan η ω} {chain : Slot → Option Head}
    {slots : List Slot} {watcher : Watcher η ω} (hkeeps : plan.KeepsWindow) (hascending : slots.Pairwise (· < ·))
    (hempty : watcher.state.handled = [])
    (hserved : AtEachSlot (plan.asking wire client) (fun slot watcher => Served wire client chain slot watcher.world)
      slots watcher)
    (haccepted : AtEachSlot (plan.asking wire client)
      (fun slot watcher => ∀ look ∈ seen (plan.asking wire client) (.slot slot) watcher, look.result = .ok ())
      slots watcher)
    : let plan := plan.asking wire client
      let heads := slots.filterMap chain
      let ended := ((replay plan slots).run watcher).2
      let log := seenIn plan slots watcher
      ((replay plan slots).run watcher).1 = .ok ()
        ∧ (replay plan.recorded slots).run (watcher.recording []) = (.ok (), ended.recording log)
        ∧ IsOrdered heads
        ∧ (∃ rounds, log = rounds.flatten
          ∧ Rounds plan watcher.state.capacity [] watcher.handlers heads rounds ended.handlers)
        ∧ ended.state.handled = heads.rtake watcher.state.capacity
        ∧ ended.gauges.slot = (heads.getLast?.map (gaugeValue ·.slot)).getD watcher.gauges.slot
        ∧ (plan.Keeps (·.reorgs = ∅) → watcher.state.reorgs = ∅
          → heads.IsChain (fun last head => head.parentRoot = last.root)
          → ∀ look ∈ log, ∀ outlets now sent world,
            (Handler.handle outlets plan.settings now look.head).run ⟨.fork sent, look.before.state, world⟩
              = (.ok (), ⟨.fork sent, look.before.state.drainReorgs.2, (world : ω)⟩))
        ∧ ∀ slot rest failure,
          let stopped := (cycle plan (.slot slot)).run ended
          stopped.1 = .error failure → passes (.error failure) = false
            → (replay plan (slots ++ slot :: rest)).run watcher = (.error failure, stopped.2)
              ∧ seenIn plan (slots ++ slot :: rest) watcher = log ++ seen plan (.slot slot) ended
              ∧ stopped.2.progress = ended.progress := by
  intro plan' heads ended log
  have hwindow : watcher.state.window = (([] : List Head).rtake watcher.state.capacity, watcher.state.capacity) := by
    rw [State.window, hempty, List.rtake_nil]
  have hnone : ∀ last ∈ ([] : List Head), ∀ slot ∈ slots, last.slot < slot := List.forall_mem_nil _
  have hreplayed := replayed_of_served hkeeps hwindow hascending hnone hserved haccepted
  have hok : ((replay plan' slots).run watcher).1 = .ok () := hreplayed.result_eq
  refine ⟨hok, ?_, isOrdered_of_served hascending hserved, hreplayed.rounds, ?_, hreplayed.slotGauge_eq, ?_, ?_⟩
  . rw [run_replay_recorded, hok, List.nil_append]
  . exact congrArg Prod.fst hreplayed.window_eq
  . intro hquiet hreorgs hchain look hlook outlets now sent world
    obtain ⟨rounds, hlog, hrounds⟩ := hreplayed.rounds
    have hlinked : ∀ last ∈ look.before.state.handled.getLast?, look.head.parentRoot = last.root := by
      apply hrounds.isLinked hchain look
      rw [← hlog]
      exact hlook
    have hnoReorgs := seenIn_keeps hquiet slots watcher hreorgs look hlook
    exact Fork.run_handle_of_linked outlets plan'.settings now sent world hnoReorgs hlinked
  . intro slot rest failure stopped hfailed hpasses
    have ⟨hrun, hseen⟩ := replay_of_failure rest hok hfailed hpasses
    exact ⟨hrun, hseen, progress_of_error hkeeps hfailed⟩

instance decidableAtEachSlot {p : Slot → Watcher η ω → Prop} [∀ slot watcher, Decidable (p slot watcher)]
    (plan : Plan η ω) : (slots : List Slot) → (watcher : Watcher η ω) → Decidable (AtEachSlot plan p slots watcher)
  | [], _ => .isTrue trivial
  | slot :: rest, watcher => @instDecidableAnd (p slot watcher) _ _ (decidableAtEachSlot plan rest _)

namespace Sparse

def first : Head := ⟨⟨"0x0a", true, ⟨10, 1, "0x09", "0x03"⟩⟩, ⟨10, "0x09", ⟨none, [], [], [], none⟩⟩⟩

def second : Head := ⟨⟨"0x0d", true, ⟨13, 1, "0x0a", "0x03"⟩⟩, ⟨13, "0x0a", ⟨none, [], [], [], none⟩⟩⟩

/-- A chain with two slots that have no block. -/
def chain (slot : Slot) : Option Head := [first, second].find? (·.slot == slot)

def wire : Wire Unit where
  exchange request := .done <|
    match request.url.path with
    | .segments ["eth", "v1", "beacon", "headers", "10"] =>
      ⟨200, "[[\"0x0a\",true,[[10,1,\"0x09\",\"0x03\"]]]]".toUTF8.toList, true⟩
    | .segments ["eth", "v1", "beacon", "headers", "13"] =>
      ⟨200, "[[\"0x0d\",true,[[13,1,\"0x0a\",\"0x03\"]]]]".toUTF8.toList, true⟩
    | .segments ["eth", "v2", "beacon", "blocks", "0x0a"] =>
      ⟨200, "[[[10,\"0x09\",[null,[],[],[],null]]]]".toUTF8.toList, true⟩
    | .segments ["eth", "v2", "beacon", "blocks", "0x0d"] =>
      ⟨200, "[[[13,\"0x0a\",[null,[],[],[],null]]]]".toUTF8.toList, true⟩
    | _ => ⟨404, [], true⟩
  observe _ world := world

def client : Client :=
  ⟨⟨"ConsensusClient", [⟨"http", some ⟨"", "", "host", none⟩, .segments [""], none, none⟩],
    .limited (.ofMillis 10) 0 .zero⟩⟩

/-- All alerts are refused, so that handlers fail that send any. -/
def plan : Plan Handler Unit where
  services :=
    .ofClient wire client ⟨none, ⟨fun _ => .fail (.plain "refused")⟩⟩ ⟨0, 0⟩ (pure none) fun _ => 0
  settings := ⟨⟨"mainnet"⟩, ∅, []⟩
  genesisTime := 0

def watcher : Watcher Handler Unit := .start [.fork (.empty 10), .slashing (.empty 10)] (.empty 96) 0 none ()

theorem answeredSlot_of_missing :
    answeredSlot wire client 11 () = (.error [.notOk "eth/v1/beacon/headers/11" 404 ""], ())
      ∧ answeredSlot wire client 12 () = (.error [.notOk "eth/v1/beacon/headers/12" 404 ""], ()) := by
  decide +kernel

theorem answered_of_existing :
    (answeredSlot wire client 10 () = (.ok first.header, ())
        ∧ answeredRoot wire client "0x0a" () = (.ok first.block, ()))
      ∧ answeredSlot wire client 13 () = (.ok second.header, ())
        ∧ answeredRoot wire client "0x0d" () = (.ok second.block, ()) := by
  decide +kernel

theorem served : AtEachSlot (plan.asking wire client) (fun slot watcher => Served wire client chain slot watcher.world)
    [10, 11, 12, 13] watcher := by
  have ⟨hmissing, hmissing'⟩ := answeredSlot_of_missing
  have ⟨hfirst, hsecond⟩ := answered_of_existing
  exact ⟨.existing rfl rfl hfirst.1 hfirst.2,
    .missing rfl hmissing nofun (List.forall_mem_singleton.mpr rfl),
    .missing rfl hmissing' nofun (List.forall_mem_singleton.mpr rfl),
    .existing rfl rfl hsecond.1 hsecond.2, trivial⟩

theorem accepted : AtEachSlot (plan.asking wire client)
    (fun slot watcher => ∀ look ∈ seen (plan.asking wire client) (.slot slot) watcher, look.result = .ok ())
    [10, 11, 12, 13] watcher := by
  decide +kernel

theorem filterMap_chain : [10, 11, 12, 13].filterMap chain = [first, second] := rfl

/-- The blocks are handled without an alert about the slots between them. -/
theorem replay_handles_sparse :
    let plan := plan.asking wire client
    let slots := [10, 11, 12, 13]
    let ended := ((replay plan slots).run watcher).2
    ((replay plan slots).run watcher).1 = .ok () ∧ ended.state.handled = [first, second] ∧ ended.gauges.slot = 13
      ∧ (∃ rounds, seenIn plan slots watcher = rounds.flatten
        ∧ Rounds plan watcher.state.capacity [] watcher.handlers [first, second] rounds ended.handlers)
      ∧ ∀ look ∈ seenIn plan slots watcher, ∀ outlets now sent,
        (Handler.handle outlets plan.settings now look.head).run ⟨.fork sent, look.before.state, ()⟩
          = (.ok (), ⟨.fork sent, look.before.state.drainReorgs.2, ()⟩) := by
  have hkeeps : plan.KeepsWindow := Plan.keepsWindow_of_handle rfl
  have hquiet : (plan.asking wire client).Keeps (·.reorgs = ∅) := Plan.keeps_of_handle rfl
  have ⟨hok, _, _, hrounds, hhandled, hgauge, hforks, _⟩ :=
    replay_handles_chain hkeeps (by decide) rfl served accepted
  have hlast : [first, second].rtake watcher.state.capacity = [first, second] := rfl
  have hshown : ([first, second].getLast?.map (gaugeValue ·.slot)).getD watcher.gauges.slot = 13 := by decide
  rw [filterMap_chain] at hrounds hhandled hgauge hforks
  rw [hlast] at hhandled
  rw [hshown] at hgauge
  dsimp only
  refine ⟨hok, hhandled, hgauge, hrounds, ?_⟩
  intro look hlook outlets now sent
  exact hforks hquiet rfl (by decide) look hlook outlets now sent ()

end Sparse

end Watcher
end Watch
end BeaconSentry
