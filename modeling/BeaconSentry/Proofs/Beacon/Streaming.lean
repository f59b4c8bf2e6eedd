import BeaconSentry.Proofs.Net.Tour

/-!
This module contains the difference between a registry that is streamed and one that is asked for like other documents.
A streamed one comes from the first node with a successful reply, even if that reply cannot be read to its end.
-/

namespace BeaconSentry
namespace Net
namespace Provider

variable {ω α : Type}

def askAndTake (ask : Url → Action ω ProviderError Reply) (take : Reply → Except ProviderError α) (host : Url) :
    Action ω ProviderError α :=
  ask host >>= fun reply => .ofExcept (take reply)

/--
What becomes of a search for a reply, and of a search for one that can be taken in. They differ if the first reply
cannot be taken in: then the second search goes on with the hosts after it.
-/
inductive Compared (ask : Url → Action ω ProviderError Reply) (take : Reply → Except ProviderError α)
    (hosts : List Url) (world : ω) :
    Except (List ProviderError) Reply × ω → Except (List ProviderError) α × ω → Prop
  | failed {errors : List ProviderError} {after : ω} :
    Compared ask take hosts world (.error errors, after) (.error errors, after)
  | taken {reply : Reply} {value : α} {after : ω} (htake : take reply = .ok value) :
    Compared ask take hosts world (.ok reply, after) (.ok value, after)
  | broken {earlier rest : List Url} {host : Url} {errors : List ProviderError} {error : ProviderError} {reply : Reply}
      {before after : ω} (hhosts : hosts = earlier ++ host :: rest)
      (hearlier : (poll ask earlier).run world = (.error errors, before))
      (hreply : (ask host).run before = (.ok reply, after)) (htake : take reply = .error error) :
    Compared ask take hosts world (.ok reply, after)
      (((poll (askAndTake ask take) rest).mapError fun later => errors ++ error :: later).run after)

section

variable {ask : Url → Action ω ProviderError Reply} {take : Reply → Except ProviderError α} {host : Url}
  {world after : ω}

theorem run_askAndTake_of_ok (take : Reply → Except ProviderError α) {reply : Reply}
    (h : (ask host).run world = (.ok reply, after))
    : (askAndTake ask take host).run world = (take reply, after) := by
  unfold askAndTake
  rw [Action.run_bind_of_ok h, Action.run_ofExcept]

theorem run_askAndTake_of_error {error : ProviderError} (h : (ask host).run world = (.error error, after))
    : (askAndTake ask take host).run world = (.error error, after) := by
  unfold askAndTake
  rw [Action.run_bind_of_error h]

theorem Compared.cons {error : ProviderError} {hosts : List Url} {streamed : Except (List ProviderError) Reply × ω}
    {plain : Except (List ProviderError) α × ω} (h : Compared ask take hosts after streamed plain)
    (hask : (ask host).run world = (.error error, after))
    : Compared ask take (host :: hosts) world (streamed.1.mapError (error :: ·), streamed.2)
        (plain.1.mapError (error :: ·), plain.2) := by
  cases h with
  | failed => exact .failed
  | taken htake => exact .taken htake
  | @broken earlier rest host' errors error' reply before _ hhosts hearlier hreply htake =>
    have hhosts : host :: hosts = (host :: earlier) ++ host' :: rest := by
      rw [hhosts, List.cons_append]
    have hearlier : (poll ask (host :: earlier)).run world = (.error (error :: errors), before) := by
      rw [run_poll_of_error earlier hask, Action.run_mapError, hearlier, mapError_error]
    rw [← Action.run_mapError, Action.mapError_mapError]
    exact .broken hhosts hearlier hreply htake

theorem compared_poll (ask : Url → Action ω ProviderError Reply) (take : Reply → Except ProviderError α)
    (hosts : List Url) (world : ω) :
    Compared ask take hosts world ((poll ask hosts).run world) ((poll (askAndTake ask take) hosts).run world) := by
  -- Both searches go through the same worlds until a reply that cannot be taken in sets them apart.
  induction hosts generalizing world with
  | nil => exact .failed
  | cons host rest ih =>
    generalize hreply : (ask host).run world = answer
    rcases answer with ⟨error | reply, after⟩
    . have htake : (askAndTake ask take host).run world = (.error error, after) := run_askAndTake_of_error hreply
      rw [run_poll_of_error rest hreply, run_poll_of_error rest htake]
      exact (ih after).cons hreply
    . have htake : (askAndTake ask take host).run world = (take reply, after) := run_askAndTake_of_ok take hreply
      rw [run_poll_of_ok rest hreply]
      cases hvalue : take reply with
      | ok value =>
        rw [hvalue] at htake
        rw [run_poll_of_ok rest htake]
        exact .taken hvalue
      | error error =>
        rw [hvalue] at htake
        rw [run_poll_of_error rest htake]
        exact .broken (List.nil_append _).symm rfl hreply hvalue

end

section

variable {ask : Url → Action ω ProviderError α} {earlier : List Url} {errors : List ProviderError} {world between : ω}

theorem run_poll_append (rest : List Url) (h : (poll ask earlier).run world = (.error errors, between))
    : (poll ask (earlier ++ rest)).run world = ((poll ask rest).mapError (errors ++ ·)).run between := by
  induction earlier generalizing world errors with
  | nil =>
    cases h
    have hnil : (([] : List ProviderError) ++ ·) = id := rfl
    rw [hnil, Action.mapError_id, List.nil_append]
  | cons host earlier ih =>
    generalize hreply : (ask host).run world = answer
    rcases answer with ⟨error | value, after⟩
    . rw [run_poll_of_error earlier hreply, Action.run_mapError_eq_error_iff] at h
      obtain ⟨errors, hearlier, rfl⟩ := h
      rw [List.cons_append, run_poll_of_error _ hreply, Action.run_mapError, ih hearlier, ← Action.run_mapError,
        Action.mapError_mapError]
      rfl
    . rw [run_poll_of_ok earlier hreply] at h
      cases h

theorem run_poll_append_cons_of_ok {host : Url} {value : α} {after : ω} (rest : List Url)
    (hearlier : (poll ask earlier).run world = (.error errors, between))
    (hvalue : (ask host).run between = (.ok value, after))
    : (poll ask (earlier ++ host :: rest)).run world = (.ok value, after) := by
  rw [run_poll_append _ hearlier, Action.run_mapError_eq_ok_iff, run_poll_of_ok rest hvalue]

theorem run_poll_append_cons_of_error {host : Url} {error : ProviderError} {value : α} {middle after : ω}
    {rest : List Url} (hearlier : (poll ask earlier).run world = (.error errors, between))
    (herror : (ask host).run between = (.error error, middle)) (hrest : (poll ask rest).run middle = (.ok value, after))
    : (poll ask (earlier ++ host :: rest)).run world = (.ok value, after) := by
  rw [run_poll_append _ hearlier, Action.run_mapError_eq_ok_iff, run_poll_of_error rest herror,
    Action.run_mapError_eq_ok_iff]
  exact hrest

end

theorem run_poll_askAndTake_of_error {ask : Url → Action ω ProviderError Reply} (take : Reply → Except ProviderError α)
    {hosts : List Url} {errors : List ProviderError} {world after : ω}
    (h : (poll ask hosts).run world = (.error errors, after))
    : (poll (askAndTake ask take) hosts).run world = (.error errors, after) := by
  have hcompared := compared_poll ask take hosts world
  rw [h] at hcompared
  generalize (poll (askAndTake ask take) hosts).run world = plain at hcompared
  cases hcompared
  rfl

theorem accept_of_never_rejected (path : String) (read : Json.Decoder α) (reply : Reply) :
    accept path read (fun _ => false) reply = decode path read reply := by
  unfold accept
  cases decode path read reply <;> rfl

theorem askJson_of_never_rejected (wire : Wire ω) (policy : RequestPolicy) (inquiry : Inquiry) (read : Json.Decoder α) :
    askJson wire policy inquiry (fun _ => false) read
      = askAndTake (send wire policy inquiry) (decode inquiry.path read) := by
  funext host
  unfold askJson askAndTake
  simp only [accept_of_never_rejected]

end Provider
end Net

namespace Beacon
namespace Client

open Net

variable {ω : Type}

def registryInquiry (id : BlockId) : Inquiry :=
  .get "eth/v1/beacon/states/\x7bstate_id\x7d/validators" ("eth/v1/beacon/states/" ++ id.toText ++ "/validators") []

def registry : Json.Decoder (List ValidatorEntry) := data (Json.Value.asList ValidatorEntry.decode)

/-- Ask for the registry as for other documents. -/
def plainValidators (wire : Wire ω) (client : Client) (id : BlockId) : Action ω ProviderError (List ValidatorEntry) :=
  client.provider.getJson wire client.provider.policy (registryInquiry id) .never (fun _ => false) registry

def askRegistry (wire : Wire ω) (client : Client) (id : BlockId) : Url → Action ω ProviderError Reply :=
  Provider.send wire client.provider.policy (registryInquiry id)

/-- The first node with a successful reply has a registry that cannot be read, and one after it has one that can. -/
inductive Hidden (wire : Wire ω) (client : Client) (id : BlockId) (world : ω) : Prop
  | behind {earlier rest : List Url} {node : Url} {errors : List ProviderError} {error : ProviderError} {reply : Reply}
      {entries : List ValidatorEntry} {before between after : ω}
      (hnodes : client.provider.hosts = earlier ++ node :: rest)
      (hearlier : (Provider.poll (client.askRegistry wire id) earlier).run world = (.error errors, before))
      (hreply : (client.askRegistry wire id node).run before = (.ok reply, between))
      (hbroken : Provider.decode (registryInquiry id).path registry reply = .error error)
      (hrest : (Provider.poll (Provider.askJson wire client.provider.policy (registryInquiry id) (fun _ => false)
        registry) rest).run between = (.ok entries, after))

section

variable {wire : Wire ω} {client : Client} {id : BlockId} {world after : ω} {entries : List ValidatorEntry}

theorem readValidators_eq_ok_iff {path : String} {reply : Reply}
    : readValidators path reply = .ok entries ↔ Provider.decode path registry reply = .ok entries := by
  unfold readValidators Provider.decode
  by_cases hcomplete : reply.complete = true
  . simp [hcomplete, registry]
  . simp [hcomplete]

theorem run_validators_eq_ok_iff
    : (client.validators wire id).run world = (.ok entries, after)
        ↔ ∃ reply, (Provider.poll (client.askRegistry wire id) client.provider.hosts).run world = (.ok reply, after)
          ∧ Provider.decode (registryInquiry id).path registry reply = .ok entries := by
  have hvalidators : client.validators wire id
      = client.provider.withFallbacks .never (client.askRegistry wire id)
        >>= fun reply => .ofExcept (readValidators (registryInquiry id).path reply) := rfl
  rw [hvalidators, Action.run_bind, Provider.run_withFallbacks_never, Action.run_mapError]
  generalize (Provider.poll (client.askRegistry wire id) client.provider.hosts).run world = answer
  rcases answer with ⟨errors | reply, between⟩
  . simp
  . simp only [mapError_ok, Action.run_ofExcept, Prod.mk.injEq, readValidators_eq_ok_iff, Except.ok.injEq]
    constructor
    . intro ⟨hdecode, hafter⟩
      exact ⟨reply, ⟨rfl, hafter⟩, hdecode⟩
    . intro ⟨_, ⟨hreply, hafter⟩, hdecode⟩
      rw [hreply]
      exact ⟨hdecode, hafter⟩

theorem run_plainValidators_eq_ok_iff
    : (client.plainValidators wire id).run world = (.ok entries, after)
        ↔ (Provider.poll
            (Provider.askAndTake (client.askRegistry wire id) (Provider.decode (registryInquiry id).path registry))
            client.provider.hosts).run world = (.ok entries, after) := by
  unfold plainValidators Provider.getJson
  rw [Provider.run_withFallbacks_never, Action.run_mapError_eq_ok_iff, Provider.askJson_of_never_rejected]
  rfl

theorem run_plainValidators_of_validators (h : (client.validators wire id).run world = (.ok entries, after))
    : (client.plainValidators wire id).run world = (.ok entries, after) := by
  rw [run_plainValidators_eq_ok_iff]
  obtain ⟨reply, hreply, hdecode⟩ := run_validators_eq_ok_iff.mp h
  have hcompared := Provider.compared_poll (client.askRegistry wire id)
    (Provider.decode (registryInquiry id).path registry) client.provider.hosts world
  rw [hreply] at hcompared
  generalize (Provider.poll (Provider.askAndTake _ _) client.provider.hosts).run world = plain at hcompared ⊢
  cases hcompared with
  | taken htake =>
    cases hdecode.symm.trans htake
    rfl
  | broken _ _ _ htake => cases hdecode.symm.trans htake

theorem run_validators_of_not_hidden (hhidden : ¬Hidden wire client id world)
    (h : (client.plainValidators wire id).run world = (.ok entries, after))
    : (client.validators wire id).run world = (.ok entries, after) := by
  rw [run_validators_eq_ok_iff]
  rw [run_plainValidators_eq_ok_iff] at h
  have hcompared := Provider.compared_poll (client.askRegistry wire id)
    (Provider.decode (registryInquiry id).path registry) client.provider.hosts world
  rw [h] at hcompared
  generalize (Provider.poll (client.askRegistry wire id) client.provider.hosts).run world = streamed at hcompared ⊢
  generalize hplain : (Except.ok entries, after) = plain at hcompared
  cases hcompared with
  | failed => cases hplain
  | taken htake =>
    cases hplain
    exact ⟨_, rfl, htake⟩
  | broken hnodes hearlier hreply hbroken =>
    have hrest := Action.run_mapError_eq_ok_iff.mp hplain.symm
    unfold askRegistry at hrest
    rw [← Provider.askJson_of_never_rejected] at hrest
    exact absurd (.behind hnodes hearlier hreply hbroken hrest) hhidden

theorem Hidden.exists_plainValidators (h : Hidden wire client id world)
    : ∃ entries after, (client.plainValidators wire id).run world = (.ok entries, after)
        ∧ ∀ entries' after', (client.validators wire id).run world ≠ (.ok entries', after') := by
  obtain @⟨_, _, _, _, _, _, entries, _, _, after, hnodes, hearlier, hreply, hbroken, hrest⟩ := h
  refine ⟨entries, after, ?_, ?_⟩
  . rw [run_plainValidators_eq_ok_iff, hnodes]
    rw [Provider.askJson_of_never_rejected] at hrest
    have htake := Provider.run_askAndTake_of_ok (Provider.decode (registryInquiry id).path registry) hreply
    rw [hbroken] at htake
    exact Provider.run_poll_append_cons_of_error (Provider.run_poll_askAndTake_of_error _ hearlier) htake hrest
  . intro entries' after' hvalidators
    obtain ⟨reply', hreply', hdecode⟩ := run_validators_eq_ok_iff.mp hvalidators
    rw [hnodes, Provider.run_poll_append_cons_of_ok _ hearlier hreply] at hreply'
    cases hreply'
    cases hbroken.symm.trans hdecode

end

/--
Whenever a registry can be streamed, it is the one that is found if it is asked for like other documents. The reverse
holds if and only if no registry is hidden behind one that cannot be read.
-/
theorem validators_agree_iff (wire : Wire ω) (client : Client) (id : BlockId) (world : ω) :
    (∀ entries after, (client.validators wire id).run world = (.ok entries, after)
        → (client.plainValidators wire id).run world = (.ok entries, after))
      ∧ ((∀ entries after, (client.plainValidators wire id).run world = (.ok entries, after)
          → (client.validators wire id).run world = (.ok entries, after))
        ↔ ¬Hidden wire client id world) := by
  refine ⟨fun _ _ => run_plainValidators_of_validators, ?_⟩
  constructor
  . intro hagree hhidden
    have ⟨entries, after, hplain, hvalidators⟩ := hhidden.exists_plainValidators
    exact hvalidators entries after (hagree entries after hplain)
  . exact fun hhidden _ _ => run_validators_of_not_hidden hhidden

namespace Torn

/-- The first node breaks its reply off, the second one serves a registry of one validator. -/
def wire : Wire Unit where
  exchange request :=
    if request.url.domain == "torn" then pure ⟨200, "[[[\"7\",[\"0xaa\"]],".toUTF8.toList, false⟩
    else pure ⟨200, "[[[\"7\",[\"0xaa\"]]]]".toUTF8.toList, true⟩
  observe _ world := world

def node (name : String) : Url := ⟨"http", some ⟨"", "", name, none⟩, .segments [""], none, none⟩

def client : Client := ⟨⟨"ConsensusClient", [node "torn", node "whole"], .limited (.ofMillis 10) 0 .zero⟩⟩

/-- A broken reply keeps a later node from being asked, which would serve a registry. -/
theorem validators_ne_plainValidators :
    ((client.validators wire .head).run ()).1 = .error (.undecodable "eth/v1/beacon/states/head/validators")
      ∧ ((client.plainValidators wire .head).run ()).1 = .ok [⟨7, "0xaa"⟩] := by
  decide +kernel

end Torn
end Client
end Beacon
end BeaconSentry
