import BeaconSentry.Proofs.Net.Tour

/-!
This module contains how the search for a header or a block is resolved: by the first node that knows it, or, once all
nodes have been asked in vain, by the one error that tells most.
-/

namespace BeaconSentry
namespace Beacon
namespace Client

open Net

variable {ω α : Type}

/-- The error that is told for those of all nodes: the first "not found", or the last error if no node said that. -/
def IsTold (errors : List ProviderError) (error : ProviderError) : Prop :=
  errors.find? (·.isNotFound) = some error
    ∨ (∀ error ∈ errors, error.isNotFound = false) ∧ errors.getLast? = some error

/-- A search that visits nodes up to the first one with an accepted reply, or all of them in vain. -/
def Resolved (wire : Wire ω) (inquiry : Inquiry) (take : Reply → Except ProviderError α) (client : Client) (world : ω)
    (search : Action (List WireEvent × ω) ProviderError α) : Prop :=
  ∃ visits result after,
    search.run ([], world) = (result, visits.flatMap (·.events), after)
      ∧ Tour wire headPolicy inquiry take client.provider.hosts world visits after
      ∧ match result with
        | .ok value => ∃ last ∈ visits.getLast?, last.verdict take = .ok value
        | .error error =>
          visits.map (·.host) = client.provider.hosts
            ∧ ∃ errors, visits.map (·.verdict take) = errors.map .error
              ∧ (client.provider.hosts ≠ [] → IsTold errors error)

theorem isTold_blame (name : String) {errors : List ProviderError} (hne : errors ≠ [])
    : IsTold errors (blame name errors) := by
  unfold IsTold blame
  cases hfind : errors.find? (·.isNotFound) with
  | some error => simp
  | none =>
    right
    rw [List.find?_eq_none] at hfind
    refine ⟨fun error hmem => eq_false_of_ne_true (hfind error hmem), ?_⟩
    rw [List.getLast?_eq_some_getLast hne]
    simp

theorem hosts_eq_of_forall_error {wire : Wire ω} {policy : RequestPolicy} {inquiry : Inquiry}
    {take : Reply → Except ProviderError α} {hosts : List Url} {world after : ω} {visits : List (Visit ω)}
    {errors : List ProviderError} (htour : Tour wire policy inquiry take hosts world visits after)
    (herrors : visits.map (·.verdict take) = errors.map .error) : visits.map (·.host) = hosts := by
  rcases htour.ended with hall | ⟨last, hlast, value, hvalue⟩
  . exact hall
  . have hmem : last.verdict take ∈ visits.map (·.verdict take) :=
      List.mem_map_of_mem (List.mem_of_getLast? hlast)
    rw [herrors, hvalue] at hmem
    simp at hmem

theorem resolved_firstKnown {wire : Wire ω} {inquiry : Inquiry} {take : Reply → Except ProviderError α}
    {ask : Url → Action (List WireEvent × ω) ProviderError α} (hask : IsVisit wire headPolicy inquiry take ask)
    (client : Client) (world : ω) : client.Resolved wire inquiry take world (client.firstKnown ask) := by
  have ⟨visits, result, after, hrun, htour, hends⟩ := tour_poll hask client.provider.hosts [] world
  refine ⟨visits, result.mapError (blame client.provider.name), after, ?_, htour, ?_⟩
  . rw [run_firstKnown, Action.run_mapError, hrun, List.nil_append]
  . cases result with
    | ok value =>
      have hends : (visits.map (·.verdict take)).getLast? = some (.ok value) := hends
      rw [List.getLast?_map, Option.map_eq_some_iff] at hends
      exact hends
    | error errors =>
      have hends : visits.map (·.verdict take) = errors.map .error := hends
      have hhosts := hosts_eq_of_forall_error htour hends
      refine ⟨hhosts, errors, hends, ?_⟩
      intro hne
      apply isTold_blame
      rintro rfl
      rw [List.map_nil, List.map_eq_nil_iff] at hends
      rw [hends] at hhosts
      exact hne hhosts.symm

/-- A block ID as nodes are asked for the header that belongs to it. -/
def headerInquiry (id : BlockId) : Inquiry :=
  .get "eth/v1/beacon/headers/\x7bblock_id\x7d" ("eth/v1/beacon/headers/" ++ id.toText) []

def blockInquiry (id : BlockId) : Inquiry :=
  .get "eth/v2/beacon/blocks/\x7bblock_id\x7d" ("eth/v2/beacon/blocks/" ++ id.toText) []

end Client
end Beacon
end BeaconSentry
