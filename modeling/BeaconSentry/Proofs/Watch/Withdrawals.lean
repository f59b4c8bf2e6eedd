import BeaconSentry.Proofs.Watch.Outlets

/-!
This module contains what is told about the withdrawals that the execution layer asks for in a block: each one that
concerns us is told in the alert of its category, and all others are not told.
-/

namespace BeaconSentry

/-- The head without the requests for withdrawals that do not satisfy a condition. -/
def Beacon.Head.filterWithdrawals (head : Head) (p : WithdrawalRequest → Bool) : Head :=
  { head with
    block.body.executionRequests := head.body.executionRequests.map fun requests =>
      { requests with withdrawals := requests.withdrawals.filter p } }

theorem Beacon.Head.withdrawals_filterWithdrawals (head : Head) (p : WithdrawalRequest → Bool) :
    (head.filterWithdrawals p).withdrawals = head.withdrawals.filter p := by
  unfold withdrawals filterWithdrawals body
  dsimp only
  cases head.block.body.executionRequests <;> rfl

namespace Watch

open Beacon

variable {ω : Type}

namespace WithdrawalCategory

/-- A request comes from an address of ours or is about a validator of ours. -/
abbrev Concerns (settings : Settings) (keys : OwnedKeys) (request : WithdrawalRequest) : Prop :=
  Text.lower request.sourceAddress ∈ settings.addresses ∨ NamedKey.normalize request.validatorPubkey ∈ keys

inductive Falls (settings : Settings) (keys : OwnedKeys) (request : WithdrawalRequest) : WithdrawalCategory → Prop
  | full (hsource : Text.lower request.sourceAddress ∈ settings.addresses)
      (howned : NamedKey.normalize request.validatorPubkey ∈ keys) (hamount : request.amount = 0) :
    Falls settings keys request .full
  | partialAmount (hsource : Text.lower request.sourceAddress ∈ settings.addresses)
      (howned : NamedKey.normalize request.validatorPubkey ∈ keys) (hamount : 0 < request.amount) :
    Falls settings keys request .partialAmount
  | fromValidAddress (hsource : Text.lower request.sourceAddress ∈ settings.addresses)
      (howned : NamedKey.normalize request.validatorPubkey ∉ keys) : Falls settings keys request .fromValidAddress
  | ownedFromUnknownSource (hsource : Text.lower request.sourceAddress ∉ settings.addresses)
      (howned : NamedKey.normalize request.validatorPubkey ∈ keys) :
    Falls settings keys request .ownedFromUnknownSource

/-- Who runs the validator of a request, as far as it is one of ours. -/
inductive IsCalled (keys : OwnedKeys) (request : WithdrawalRequest) : String → Prop
  | owned {key : NamedKey} (hkey : keys[NamedKey.normalize request.validatorPubkey]? = some key) :
    IsCalled keys request key.operatorName
  | unknown (howned : NamedKey.normalize request.validatorPubkey ∉ keys) : IsCalled keys request "unknown"

def Describes (links : Links) (keys : OwnedKeys) (request : WithdrawalRequest) (text : String) : Prop :=
  ∃ operator, IsCalled keys request operator
    ∧ text = s!"\nvalidator_pubkey: {links.pubkey request.validatorPubkey keys} | operator: {operator}" ++
        s!" | source_address: {request.sourceAddress} | amount: {request.amount}"

abbrev Tells (settings : Settings) (keys : OwnedKeys) (slot : Slot)
    (group : WithdrawalCategory × List WithdrawalRequest) : Draft → Prop :=
  TellsEach group.1.kind group.1.summary (if group.1 = .partialAmount then settings.labels else ∅)
    (Describes settings.links keys) settings.links slot group.2

section

variable {settings : Settings} {keys : OwnedKeys} {request : WithdrawalRequest} {category : WithdrawalCategory}

theorem Falls.of?_eq (h : Falls settings keys request category) :
    of? request (settings.isValidAddress request.sourceAddress) (keys.owner? request.validatorPubkey).isSome
      = some category := by
  cases h with
  | full hsource howned hamount =>
    rw [Settings.isValidAddress_iff.mpr hsource, OwnedKeys.isSome_owner?_iff.mpr howned]
    simp [of?, WithdrawalRequest.isFull, hamount]
  | partialAmount hsource howned hamount =>
    rw [Settings.isValidAddress_iff.mpr hsource, OwnedKeys.isSome_owner?_iff.mpr howned]
    simp [of?, WithdrawalRequest.isFull, UInt64.pos_iff_ne_zero.mp hamount]
  | fromValidAddress hsource howned =>
    rw [← OwnedKeys.isSome_owner?_iff, Bool.not_eq_true] at howned
    rw [Settings.isValidAddress_iff.mpr hsource, howned]
    rfl
  | ownedFromUnknownSource hsource howned =>
    rw [← Settings.isValidAddress_iff, Bool.not_eq_true] at hsource
    rw [hsource, OwnedKeys.isSome_owner?_iff.mpr howned]
    rfl

theorem of?_eq_none (h : ¬Concerns settings keys request) :
    of? request (settings.isValidAddress request.sourceAddress) (keys.owner? request.validatorPubkey).isSome
      = none := by
  rw [not_or, ← Settings.isValidAddress_iff, ← OwnedKeys.isSome_owner?_iff, Bool.not_eq_true, Bool.not_eq_true] at h
  rw [h.1, h.2]
  rfl

theorem Concerns.exists_falls (h : Concerns settings keys request) :
    ∃ category, Falls settings keys request category := by
  by_cases hsource : Text.lower request.sourceAddress ∈ settings.addresses
  . by_cases howned : NamedKey.normalize request.validatorPubkey ∈ keys
    . by_cases hamount : request.amount = 0
      . exact ⟨_, .full hsource howned hamount⟩
      . exact ⟨_, .partialAmount hsource howned (UInt64.pos_iff_ne_zero.mpr hamount)⟩
    . exact ⟨_, .fromValidAddress hsource howned⟩
  . exact ⟨_, .ownedFromUnknownSource hsource (h.resolve_left hsource)⟩

theorem of?_eq_some_iff :
    of? request (settings.isValidAddress request.sourceAddress) (keys.owner? request.validatorPubkey).isSome
        = some category
      ↔ Falls settings keys request category := by
  constructor
  . intro h
    by_cases hconcerns : Concerns settings keys request
    . have ⟨category', hfalls⟩ := hconcerns.exists_falls
      rw [hfalls.of?_eq] at h
      cases h
      exact hfalls
    . rw [of?_eq_none hconcerns] at h
      cases h
  . exact Falls.of?_eq

/-- The categories neither overlap nor miss a request that concerns us. -/
theorem concerns_iff : Concerns settings keys request ↔ ∃! category, Falls settings keys request category := by
  constructor
  . intro h
    apply existsUnique_of_exists_of_unique h.exists_falls
    intro category category' hfalls hfalls'
    exact Option.some.inj (hfalls.of?_eq.symm.trans hfalls'.of?_eq)
  . intro ⟨category, hfalls, _⟩
    by_contra h
    have hsome := hfalls.of?_eq
    rw [of?_eq_none h] at hsome
    cases hsome

end

theorem describes_line (links : Links) (keys : OwnedKeys) (request : WithdrawalRequest) :
    Describes links keys request (line links keys request) := by
  refine ⟨_, ?_, rfl⟩
  cases howner : keys.owner? request.validatorPubkey with
  | none =>
    refine .unknown ?_
    rw [← OwnedKeys.isSome_owner?_iff, howner]
    exact Bool.false_ne_true
  | some key => exact .owned howner

theorem tells_draft (settings : Settings) (keys : OwnedKeys) (slot : Slot)
    (group : WithdrawalCategory × List WithdrawalRequest)
    : Tells settings keys slot group (draft settings keys slot group.1 group.2) :=
  ⟨rfl, rfl, ⟨_, forall₂_map_right (describes_line settings.links keys) group.2, rfl⟩, rfl⟩

/-- A request that does not concern us changes nothing. -/
theorem drafts_filterWithdrawals (settings : Settings) (state : State) (head : Head) :
    drafts settings state (head.filterWithdrawals (Concerns settings state.keys ·)) = drafts settings state head := by
  have hconcern : (head.withdrawals.filter (Concerns settings state.keys ·)).filterMap (concern? settings state.keys)
      = head.withdrawals.filterMap (concern? settings state.keys) := by
    rw [List.filterMap_filter]
    congr
    funext request
    by_cases h : Concerns settings state.keys request
    . simp [h]
    . simp [h, concern?, of?_eq_none h]
  unfold drafts
  rw [Head.withdrawals_filterWithdrawals, hconcern]
  rfl

/--
With a sink that takes every alert, a handler that has not sent anything yet tells of all requests for withdrawals in a
block that concern us. There is one alert for each category that occurs, in the order in which they occur first, with
one line for each request of the category. Without all other requests the same would go out.
-/
theorem handle_tells_withdrawals {outlets : Outlets ω} (hsink : outlets.sink.IsReliable) (settings : Settings)
    (now : Instant) (state : State) (head : Head) (capacity : Nat) (events : List OutletEvent) (world : ω)
    : (∃ groups drafts sent after,
        (Handler.handle outlets.logged settings now head).run ⟨.withdrawal (.empty capacity), state, events, world⟩
            = (.ok (), ⟨.withdrawal sent, state, events ++ drafts.map (·.goesOut now), after⟩)
          ∧ Filed (Falls settings state.keys) head.withdrawals groups
          ∧ List.Forall₂ (Tells settings state.keys head.slot) groups drafts)
      ∧ (∀ request, Concerns settings state.keys request ↔ ∃! category, Falls settings state.keys request category)
      ∧ (Handler.handle outlets.logged settings now (head.filterWithdrawals (Concerns settings state.keys ·))).run
          ⟨.withdrawal (.empty capacity), state, events, world⟩
        = (Handler.handle outlets.logged settings now head).run
          ⟨.withdrawal (.empty capacity), state, events, world⟩ := by
  have ⟨sent, after, hrun⟩ :=
    Handler.exists_deliver hsink now (pairwise_drafts settings state head) .withdrawal capacity state events world
  refine ⟨⟨_, _, sent, after, hrun, filed_groupByKey (fun _ _ => of?_eq_some_iff) head.withdrawals,
    forall₂_map_right (tells_draft settings state.keys head.slot) _⟩, fun _ => concerns_iff, ?_⟩
  simp only [Handler.handle, drafts_filterWithdrawals]

namespace Mixed

/-- Validators of Alpha and Beta are ours, and so is one address. -/
def settings : Settings := ⟨⟨"mainnet"⟩, Labels.ofList [("team", "validators")], ["0xva17"]⟩

def state : State := { State.empty 96 with
  keys := .ofKeys [⟨"0xaa01", "Alpha", 0, 1⟩, ⟨"0xaa05", "Beta", 1, 1⟩] }

def requests : List WithdrawalRequest := [
  ⟨"0xVA17", " 0xAA01", 0⟩,
  ⟨"0xff", "0xaa05", 5⟩,
  ⟨"0xff", "0xbb02", 0⟩,
  ⟨"0xva17", "0xbb02", 1⟩,
  ⟨"0xva17", "0xaa05", 0⟩,
  ⟨"0xVa17", "0xAa05", 7⟩,
  ⟨"0xVA17", " 0xAA01", 0⟩]

def head : Head :=
  ⟨⟨"0x0b", true, ⟨100, 1, "0x0a", "0x03"⟩⟩, ⟨100, "0x0a", ⟨none, [], [], [], some ⟨[], requests, []⟩⟩⟩⟩

def events : List OutletEvent :=
  Handler.outgoing .reliable settings ⟨0, 0⟩ state head () (.withdrawal (.empty 10))

def told : List Annotations :=
  let slot := "\n\nslot: [100](https://mainnet.beaconcha.in/slot/100)"
  let alpha := "\nvalidator_pubkey: [Alpha  0xAA01](https://mainnet.beaconcha.in/validator/ 0xAA01)" ++
    " | operator: Alpha | source_address: 0xVA17 | amount: 0"
  [⟨"\u2139\ufe0f Full withdrawal was requested for our validators",
      alpha ++ "\nvalidator_pubkey: [Beta 0xaa05](https://mainnet.beaconcha.in/validator/0xaa05) | operator: Beta" ++
        " | source_address: 0xva17 | amount: 0" ++ alpha ++ slot⟩,
    ⟨"\u26a0\ufe0f\u26a0\ufe0f\u26a0\ufe0f Our validator triggered withdrawal was requested",
      "\nvalidator_pubkey: [Beta 0xaa05](https://mainnet.beaconcha.in/validator/0xaa05) | operator: Beta" ++
        " | source_address: 0xff | amount: 5" ++ slot⟩,
    ⟨"🚨🚨🚨 Our validator triggered withdrawal was requested from our Withdrawal Vault address",
      "\nvalidator_pubkey: [0xbb02](https://mainnet.beaconcha.in/validator/0xbb02) | operator: unknown" ++
        " | source_address: 0xva17 | amount: 1" ++ slot⟩,
    ⟨"🚨🚨🚨 Partial withdrawal was requested for our validators 🚨🚨🚨",
      "\nvalidator_pubkey: [Beta 0xAa05](https://mainnet.beaconcha.in/validator/0xAa05) | operator: Beta" ++
        " | source_address: 0xVa17 | amount: 7" ++ slot⟩]

theorem told_events : events.flatMap OutletEvent.told = told := by
  decide +kernel

/-- A request that is repeated is told as often, and the one that is not about us is not told. -/
theorem handle_tells_mixed : Outlets.reliable.sink.IsReliable
    ∧ ∃ groups drafts, events = drafts.map (·.goesOut ⟨0, 0⟩)
      ∧ Filed (Falls settings state.keys) requests groups
      ∧ List.Forall₂ (Tells settings state.keys 100) groups drafts
      ∧ events.flatMap OutletEvent.told = told := by
  have ⟨⟨groups, drafts, _, _, hrun, hfiled, htells⟩, _⟩ :=
    handle_tells_withdrawals Outlets.isReliable_reliable settings ⟨0, 0⟩ state head 10 [] ()
  exact ⟨Outlets.isReliable_reliable, groups, drafts, congrArg (·.2.world.1) hrun, hfiled, htells, told_events⟩

end Mixed
end WithdrawalCategory
end Watch
end BeaconSentry
