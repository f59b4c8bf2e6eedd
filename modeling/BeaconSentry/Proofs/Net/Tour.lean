import BeaconSentry.Proofs.Beacon.FirstKnown
import BeaconSentry.Proofs.Net.Attempts
import BeaconSentry.Proofs.Url.Join

/-!
This module contains the tour of a request: which hosts are visited, in which order, how often each of them is asked,
what is recorded of it, and what the tour ends with.
-/

namespace BeaconSentry
namespace Net

variable {ω α : Type}

theorem Channel.domain_of_mem_events {channel : Channel ω} {world : ω} {attempts : Nat} {observation : Observation}
    (h : .observed observation ∈ channel.events world attempts) : observation.domain = channel.url.domain := by
  induction attempts generalizing world with
  | zero => cases h
  | succ attempts ih =>
    unfold events at h
    simp only [List.mem_cons, reduceCtorEq, false_or, WireEvent.observed.injEq] at h
    rcases h with rfl | h
    . unfold Channel.observation
      split <;> rfl
    . exact ih h

namespace Visit

/-- Whatever is recorded of a visit is recorded for its host, if it has a name and the path leads to no other one. -/
def AtHost (inquiry : Inquiry) (visit : Visit ω) : Prop :=
  Url.isLocal inquiry.path = true → visit.host.isNamed = true →
    ∀ observation, .observed observation ∈ visit.events → observation.domain = visit.host.domain

theorem Made.atHost {wire : Wire ω} {policy : RequestPolicy} {inquiry : Inquiry} {visit : Visit ω}
    (h : visit.Made wire policy inquiry) : visit.AtHost inquiry := by
  intro hlocal hnamed observation hmem
  cases h with
  | unasked => cases hmem
  | @asked host url world attempts hurl =>
    rw [Channel.domain_of_mem_events hmem]
    apply Url.domain_eq_of_authority_eq hnamed
    obtain ⟨joined, hjoin, rfl⟩ := Option.map_eq_some_iff.mp hurl
    have hauthority : joined.authority = host.authority := Url.authority_of_join? hlocal hjoin
    unfold Channel.visit
    dsimp only
    rw [← hauthority]
    split <;> rfl

theorem Made.events_ne_nil {wire : Wire ω} {policy : RequestPolicy} {inquiry : Inquiry} {visit : Visit ω}
    (h : visit.Made wire policy inquiry) (hlocal : Url.isLocal inquiry.path = true)
    (hbase : visit.host.isBase = true) : visit.events ≠ [] := by
  cases h with
  | @unasked host world hurl =>
    have hjoin : (Url.join? host inquiry.path).isSome = true := Url.isSome_join? hlocal hbase
    unfold Inquiry.url? at hurl
    rw [Option.map_eq_none_iff] at hurl
    rw [hurl] at hjoin
    cases hjoin
  | asked => exact List.cons_ne_nil _ _

/-- What a visit comes to for a caller that takes in a successful reply. -/
def verdict (take : Reply → Except ProviderError α) (visit : Visit ω) : Except ProviderError α :=
  match visit.reply with
  | .ok reply => take reply
  | .error error => .error error

end Visit

/--
A tour over hosts: they are visited in order, each one in the world that the visit before left behind, up to the first
whose reply is accepted.
-/
structure Tour (wire : Wire ω) (policy : RequestPolicy) (inquiry : Inquiry) (take : Reply → Except ProviderError α)
    (hosts : List Url) (world : ω) (visits : List (Visit ω)) (after : ω) : Prop where
  made : ∀ visit ∈ visits, visit.Made wire policy inquiry
  atHost : ∀ visit ∈ visits, visit.AtHost inquiry
  linked : visits.map (·.before) ++ [after] = world :: visits.map (·.after)
  hosts_prefix : visits.map (·.host) <+: hosts
  failed : ∀ visit ∈ visits.dropLast, ∃ error, visit.verdict take = .error error
  ended : visits.map (·.host) = hosts ∨ ∃ last ∈ visits.getLast?, ∃ value, last.verdict take = .ok value

namespace Tour

variable {wire : Wire ω} {policy : RequestPolicy} {inquiry : Inquiry} {take : Reply → Except ProviderError α}

theorem nil (world : ω) : Tour wire policy inquiry take [] world [] world where
  made := List.forall_mem_nil _
  atHost := List.forall_mem_nil _
  linked := rfl
  hosts_prefix := List.prefix_rfl
  failed := List.forall_mem_nil _
  ended := .inl rfl

theorem accepted {visit : Visit ω} {value : α} (rest : List Url) (hmade : visit.Made wire policy inquiry)
    (hvalue : visit.verdict take = .ok value)
    : Tour wire policy inquiry take (visit.host :: rest) visit.before [visit] visit.after where
  made := by simpa
  atHost := by simpa using hmade.atHost
  linked := rfl
  hosts_prefix := by simp
  failed := List.forall_mem_nil _
  ended := .inr ⟨visit, rfl, value, hvalue⟩

theorem passedOn {visit : Visit ω} {error : ProviderError} {rest : List Url} {visits : List (Visit ω)} {after : ω}
    (hmade : visit.Made wire policy inquiry) (herror : visit.verdict take = .error error)
    (h : Tour wire policy inquiry take rest visit.after visits after)
    : Tour wire policy inquiry take (visit.host :: rest) visit.before (visit :: visits) after where
  made := by
    rw [List.forall_mem_cons]
    exact ⟨hmade, h.made⟩
  atHost := by
    rw [List.forall_mem_cons]
    exact ⟨hmade.atHost, h.atHost⟩
  linked := by
    rw [List.map_cons, List.cons_append, h.linked, List.map_cons]
  hosts_prefix := by
    rw [List.map_cons, List.cons_prefix_cons]
    exact ⟨rfl, h.hosts_prefix⟩
  failed := by
    cases visits with
    | nil => exact List.forall_mem_nil _
    | cons second visits =>
      rw [List.dropLast_cons_cons, List.forall_mem_cons]
      exact ⟨⟨error, herror⟩, h.failed⟩
  ended := by
    rcases h.ended with hall | ⟨last, hlast, value, hvalue⟩
    . left
      rw [List.map_cons, hall]
    . right
      refine ⟨last, ?_, value, hvalue⟩
      rw [List.getLast?_cons_of_ne_nil (List.ne_nil_of_mem (List.mem_of_getLast? hlast))]
      exact hlast

end Tour

namespace Provider

variable {ask : Url → Action ω ProviderError α} {host : Url} {world after : ω}

theorem run_poll_of_ok {value : α} (rest : List Url) (h : (ask host).run world = (.ok value, after))
    : (poll ask (host :: rest)).run world = (.ok value, after) := by
  rw [poll]
  dsimp only
  rw [h]

theorem run_poll_of_error {error : ProviderError} (rest : List Url) (h : (ask host).run world = (.error error, after))
    : (poll ask (host :: rest)).run world = ((poll ask rest).mapError (error :: ·)).run after := by
  rw [poll]
  dsimp only
  rw [h]

end Provider

/-- How a search ends whose hosts came to some verdicts: with the last one, or with the errors of all. -/
def EndsWith (verdicts : List (Except ProviderError α)) : Except (List ProviderError) α → Prop
  | .ok value => verdicts.getLast? = some (.ok value)
  | .error errors => verdicts = errors.map .error

theorem EndsWith.mapError_eq {verdicts : List (Except ProviderError α)} {result : Except (List ProviderError) α}
    {none : ProviderError} (h : EndsWith verdicts result)
    : result.mapError (fun errors => errors.getLast?.getD none) = verdicts.getLast?.getD (.error none) := by
  cases result with
  | ok value =>
    have h : verdicts.getLast? = some (.ok value) := h
    simp [h]
  | error errors =>
    have h : verdicts = errors.map .error := h
    rw [h, List.getLast?_map]
    cases hlast : errors.getLast? <;> simp [hlast]

/-- To ask a host is to visit it, and to take in its reply. -/
def IsVisit (wire : Wire ω) (policy : RequestPolicy) (inquiry : Inquiry) (take : Reply → Except ProviderError α)
    (ask : Url → Action (List WireEvent × ω) ProviderError α) : Prop :=
  ∀ host log world, ∃ visit : Visit ω, visit.Made wire policy inquiry ∧ visit.host = host ∧ visit.before = world
    ∧ (ask host).run (log, world) = (visit.verdict take, log ++ visit.events, visit.after)

section

variable {wire : Wire ω} {policy : RequestPolicy} {inquiry : Inquiry} {take : Reply → Except ProviderError α}

theorem isVisit_send : IsVisit wire policy inquiry .ok (Provider.send wire.logged policy inquiry) := by
  intro host log world
  have ⟨visit, hmade, hhost, hbefore, hrun⟩ := Visit.made_send wire policy inquiry host log world
  refine ⟨visit, hmade, hhost, hbefore, ?_⟩
  rw [hrun]
  unfold Visit.verdict
  split <;> simp_all

theorem isVisit_send_bind
    : IsVisit wire policy inquiry take fun host =>
        Provider.send wire.logged policy inquiry host >>= fun reply => .ofExcept (take reply) := by
  intro host log world
  have ⟨visit, hmade, hhost, hbefore, hrun⟩ := Visit.made_send wire policy inquiry host log world
  refine ⟨visit, hmade, hhost, hbefore, ?_⟩
  unfold Visit.verdict
  split
  . next hreply =>
    rw [hreply] at hrun
    rw [Action.run_bind_of_ok hrun, Action.run_ofExcept]
  . next hreply =>
    rw [hreply] at hrun
    rw [Action.run_bind_of_error hrun]

theorem isVisit_askJson (rejects : α → Bool) (read : Json.Decoder α)
    : IsVisit wire policy inquiry (Provider.accept inquiry.path read rejects)
        (Provider.askJson wire.logged policy inquiry rejects read) :=
  isVisit_send_bind

theorem tour_poll {ask : Url → Action (List WireEvent × ω) ProviderError α}
    (hask : IsVisit wire policy inquiry take ask) (hosts : List Url) (log : List WireEvent) (world : ω)
    : ∃ visits result after,
        (Provider.poll ask hosts).run (log, world) = (result, log ++ visits.flatMap (·.events), after)
          ∧ Tour wire policy inquiry take hosts world visits after ∧ EndsWith (visits.map (·.verdict take)) result := by
  -- Each host adds its events to the log, and leaves its world to the next one.
  induction hosts generalizing log world with
  | nil => exact ⟨[], .error [], world, by simp [Provider.poll], .nil world, rfl⟩
  | cons host rest ih =>
    obtain ⟨visit, hmade, rfl, rfl, hrun⟩ := hask host log world
    cases hverdict : visit.verdict take with
    | ok value =>
      rw [hverdict] at hrun
      rw [Provider.run_poll_of_ok rest hrun]
      refine ⟨[visit], .ok value, visit.after, by simp, .accepted rest hmade hverdict, ?_⟩
      simp [EndsWith, hverdict]
    | error error =>
      rw [hverdict] at hrun
      rw [Provider.run_poll_of_error rest hrun]
      obtain ⟨visits, result, after, hrest, htour, hends⟩ := ih (log ++ visit.events) visit.after
      refine ⟨visit :: visits, result.mapError (error :: ·), after, ?_, htour.passedOn hmade hverdict, ?_⟩
      . simp [hrest]
      . cases result with
        | error errors =>
          have hends : visits.map (·.verdict take) = errors.map .error := hends
          simp [EndsWith, hverdict, hends]
        | ok value =>
          have hends : (visits.map (·.verdict take)).getLast? = some (.ok value) := hends
          have hne := List.ne_nil_of_mem (List.mem_of_getLast? hends)
          simp only [EndsWith, mapError_ok, List.map_cons]
          rw [List.getLast?_cons_of_ne_nil hne]
          exact hends

end

namespace Provider

theorem withFallbacks.run_go_never (name : String) (ask : Url → Action ω ProviderError α)
    (errors : List ProviderError) (hosts : List Url) (world : ω) :
    (withFallbacks.go name .never ask errors hosts).run world
      = ((poll ask hosts).mapError fun later => (errors ++ later).getLast?.getD (.noHosts name)).run world := by
  induction hosts generalizing errors world with
  | nil => simp [withFallbacks.go, poll]
  | cons host rest ih =>
    simp only [withFallbacks.go, poll, Action.run_bind, Action.run_outcome, Action.run_mapError]
    generalize (ask host).run world = answer
    rcases answer with ⟨error | value, world⟩
    . have hnever : (Raise.never (errors ++ [error])).bind ((errors ++ [error])[·]?) = none := rfl
      simp only [hnever]
      rw [ih (errors ++ [error]) world, Action.run_mapError]
      generalize (poll ask rest).run world = later
      rcases later with ⟨later | value, world⟩
      . simp
      . rfl
    . rfl

theorem run_withFallbacks_never (provider : Provider) (ask : Url → Action ω ProviderError α) (world : ω) :
    (provider.withFallbacks .never ask).run world
      = ((poll ask provider.hosts).mapError fun errors => errors.getLast?.getD (.noHosts provider.name)).run world := by
  unfold withFallbacks
  rw [withFallbacks.run_go_never]
  simp

/--
A request ends with what the last host of its tour came to. If the path leads to no other host, each visit to a host
with a name makes at least one attempt, and all of its attempts are recorded for that host.
-/
def Toured (wire : Wire ω) (policy : RequestPolicy) (inquiry : Inquiry) (take : Reply → Except ProviderError α)
    (provider : Provider) (world : ω) (request : Action (List WireEvent × ω) ProviderError α) : Prop :=
  ∃ visits after,
    request.run ([], world)
        = ((visits.getLast?.map (·.verdict take)).getD (.error (.noHosts provider.name)),
            visits.flatMap (·.events), after)
      ∧ Tour wire policy inquiry take provider.hosts world visits after
      ∧ (Url.isLocal inquiry.path = true → ∀ visit ∈ visits, visit.host.isBase = true → visit.host.isNamed = true →
          visit.events ≠ []
            ∧ ∀ observation, .observed observation ∈ visit.events → observation.domain = visit.host.domain)

theorem toured_withFallbacks {wire : Wire ω} {policy : RequestPolicy} {inquiry : Inquiry}
    {take : Reply → Except ProviderError α} {ask : Url → Action (List WireEvent × ω) ProviderError α}
    (hask : IsVisit wire policy inquiry take ask) (provider : Provider) (world : ω)
    : provider.Toured wire policy inquiry take world (provider.withFallbacks .never ask) := by
  have ⟨visits, result, after, hrun, htour, hends⟩ := tour_poll hask provider.hosts [] world
  refine ⟨visits, after, ?_, htour, fun hlocal visit hvisit hbase hnamed => ?_⟩
  . rw [run_withFallbacks_never, Action.run_mapError, hrun, hends.mapError_eq, List.getLast?_map]
    rfl
  . have hmade := htour.made visit hvisit
    exact ⟨hmade.events_ne_nil hlocal hbase, hmade.atHost hlocal hnamed⟩

end Provider

namespace Listed

/-- A policy that has a success among the statuses that are worth another attempt. -/
def policy : RequestPolicy := ⟨some (.ofMillis 10000), ⟨3, .zero, [200]⟩⟩

def host : Url := ⟨"http", some ⟨"", "", "node", none⟩, .segments [""], none, none⟩

def provider : Provider := ⟨"OracleProvider", [host], policy⟩

def inquiry (path : String) : Inquiry := .get "ping" path []

def document : Reply := ⟨200, Utf8.encode "1", true⟩

/-- A wire that gives one and the same answer to all requests. -/
def wire (answer : Except Fault Reply) : Wire Unit where
  exchange _ := .ofExcept answer
  observe _ world := world

def request (answer : Except Fault Reply) (path : String) : Action (List WireEvent × Unit) ProviderError UInt64 :=
  provider.getJson (wire answer).logged policy (inquiry path) .never (fun _ => false) Json.Value.asWord

def recorded : WireEvent → Option Observation
  | .exchanged .. => none
  | .observed observation => some observation

theorem recorded_request :
    ((request (.ok document) "ping").run ([], ())).2.1.filterMap recorded = [⟨"ping", 200, "node"⟩] := by
  decide +kernel

theorem domain_host : host.domain = "node" := by decide +kernel

end Listed
end Net
end BeaconSentry
