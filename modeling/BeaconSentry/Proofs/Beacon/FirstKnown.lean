import BeaconSentry.Beacon.Client

/-!
This module contains what becomes of a question that is put to one beacon node after the other.
-/

namespace BeaconSentry
namespace Net

variable {ω α : Type}

/-- Ask hosts in order until one succeeds. If none of them does, the errors of all are the failure. -/
def Provider.poll (ask : Url → Action ω ProviderError α) : List Url → Action ω (List ProviderError) α
  | [] => .fail []
  | host :: rest => {
    run := fun world =>
      match (ask host).run world with
      | (.ok value, world) => (.ok value, world)
      | (.error error, world) => ((poll ask rest).mapError (error :: ·)).run world }

theorem Provider.exists_of_poll_eq_ok {ask : Url → Action ω ProviderError α} {hosts : List Url} {value : α}
    {world after : ω} (h : (poll ask hosts).run world = (.ok value, after))
    : ∃ host ∈ hosts, ∃ world, (ask host).run world = (.ok value, after) := by
  induction hosts generalizing world with
  | nil => cases h
  | cons host rest ih =>
    unfold poll at h
    dsimp only at h
    split at h
    . next hrun =>
      cases h
      exact ⟨host, List.mem_cons_self, world, hrun⟩
    . have ⟨host, hmem, hask⟩ := ih (Action.run_mapError_eq_ok_iff.mp h)
      exact ⟨host, List.mem_cons_of_mem _ hmem, hask⟩

theorem Provider.rejects_of_accept_eq_ok {path : String} {read : Json.Decoder α} {rejects : α → Bool} {reply : Reply}
    {value : α} (h : accept path read rejects reply = .ok value) : rejects value = false := by
  unfold accept at h
  generalize decode path read reply = decoded at h
  cases decoded with
  | error => cases h
  | ok value' =>
    change (if rejects value' then _ else _) = _ at h
    split at h
    . cases h
    . next hrejects =>
      cases h
      exact eq_false_of_ne_true hrejects

theorem Provider.rejects_of_askJson_eq_ok {wire : Wire ω} {policy : RequestPolicy} {inquiry : Inquiry}
    {rejects : α → Bool} {read : Json.Decoder α} {host : Url} {world after : ω} {value : α}
    (h : (askJson wire policy inquiry rejects read host).run world = (.ok value, after))
    : rejects value = false := by
  rw [askJson, Action.run_bind] at h
  split at h
  . exact rejects_of_accept_eq_ok (congrArg Prod.fst h)
  . cases h

end Net

namespace Beacon
namespace Client

open Net

variable {ω α : Type}

/-- The error that stands for those of all nodes. -/
def blame (name : String) (errors : List ProviderError) : ProviderError :=
  (errors.find? (·.isNotFound)).getD (errors.getLast?.getD (.noHosts name))

theorem isNotFound_blame (name : String) (errors : List ProviderError) :
    (blame name errors).isNotFound = true ↔ ∃ error ∈ errors, error.isNotFound = true := by
  unfold blame
  cases hfind : errors.find? (·.isNotFound) with
  | some error =>
    constructor
    . intro _
      exact ⟨error, List.mem_of_find?_eq_some hfind, List.find?_some hfind⟩
    . intro _
      exact List.find?_some hfind
  | none =>
    rw [List.find?_eq_none] at hfind
    constructor
    . intro hblame
      cases hlast : errors.getLast? with
      | none =>
        rw [hlast] at hblame
        cases hblame
      | some last =>
        rw [hlast] at hblame
        exact absurd hblame (hfind last (List.mem_of_getLast? hlast))
    . intro ⟨error, hmem, hfound⟩
      exact absurd hfound (hfind error hmem)

theorem missedSlot_bind (nodes : Nat) (errors : List ProviderError) :
    (missedSlot nodes errors).bind (errors[·]?)
      = if errors.length = nodes then errors.find? (·.isNotFound) else none := by
  unfold missedSlot
  split
  . next hlength =>
    rw [if_pos (by simpa using hlength), List.find?_eq_bind_findIdx?_getElem?]
  . next hlength =>
    rw [if_neg (by simpa using hlength)]
    rfl

theorem firstKnown.run_go (name : String) (nodes : Nat) (ask : Url → Action ω ProviderError α)
    (errors : List ProviderError) (hosts : List Url) (world : ω) (hlength : errors.length + hosts.length = nodes)
    (hfound : hosts = [] → errors.find? (·.isNotFound) = none)
    : (Provider.withFallbacks.go name (missedSlot nodes) ask errors hosts).run world
        =
      ((Provider.poll ask hosts).mapError fun later => blame name (errors ++ later)).run world := by
  induction hosts generalizing errors world with
  | nil =>
    simp only [Provider.withFallbacks.go, Provider.poll, Action.run_fail, Action.run_mapError, mapError_error,
      List.append_nil, blame, hfound, Option.getD_none]
  | cons host rest ih =>
    rw [List.length_cons] at hlength
    have hlength' (error : ProviderError) : (errors ++ [error]).length + rest.length = nodes := by
      rw [List.length_append, List.length_singleton]
      omega
    simp only [Provider.withFallbacks.go, Provider.poll, Action.run_bind, Action.run_outcome, Action.run_mapError]
    generalize (ask host).run world = answer
    rcases answer with ⟨error | value, world⟩
    . dsimp only
      rw [missedSlot_bind]
      split
      . next failed hfailed =>
        -- The last node has been asked, so the error that was picked is the one that is blamed.
        split at hfailed
        . next hall =>
          specialize hlength' error
          have : rest = [] := List.eq_nil_of_length_eq_zero (by omega)
          subst this
          simp only [Provider.poll, Action.run_fail, mapError_error, blame, hfailed, Option.getD_some]
        . cases hfailed
      . next hnone =>
        rw [ih _ _ (hlength' error)]
        . rw [Action.run_mapError]
          generalize (Provider.poll ask rest).run world = later
          rcases later with ⟨later | value, world⟩
          . simp only [mapError_error, List.append_assoc, List.singleton_append]
          . rfl
        . intro hrest
          rw [hrest] at hlength'
          rw [if_pos (by exact hlength' error)] at hnone
          exact hnone
    . rfl

theorem run_firstKnown (client : Client) (ask : Url → Action ω ProviderError α) (world : ω) :
    (client.firstKnown ask).run world
      = ((Provider.poll ask client.provider.hosts).mapError (blame client.provider.name)).run world := by
  unfold firstKnown Provider.withFallbacks
  rw [firstKnown.run_go]
  . rfl
  . simp
  . intro _
    rfl

variable {client : Client} {ask : Url → Action ω ProviderError α} {world after : ω}

theorem run_firstKnown_eq_ok_iff {value : α}
    : (client.firstKnown ask).run world = (.ok value, after)
        ↔ (Provider.poll ask client.provider.hosts).run world = (.ok value, after) := by
  rw [run_firstKnown, Action.run_mapError_eq_ok_iff]

theorem run_firstKnown_eq_error_iff {error : ProviderError}
    : (client.firstKnown ask).run world = (.error error, after)
        ↔ ∃ errors, (Provider.poll ask client.provider.hosts).run world = (.error errors, after)
          ∧ blame client.provider.name errors = error := by
  rw [run_firstKnown, Action.run_mapError_eq_error_iff]

end Client
end Beacon
end BeaconSentry
