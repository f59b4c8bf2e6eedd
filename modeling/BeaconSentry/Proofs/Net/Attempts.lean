import BeaconSentry.Net.Provider

/-!
This module contains what becomes of a request that is sent to one host again and again: how many attempts are made,
what is recorded of them, and which answer counts in the end.
-/

namespace BeaconSentry
namespace Net

variable {ω : Type}

inductive WireEvent where
  | exchanged (request : Request) (answer : Except Fault Reply)
  | observed (observation : Observation)

/-- A wire that keeps a log of what it carries and of what is recorded. -/
def Wire.logged (wire : Wire ω) : Wire (List WireEvent × ω) where
  exchange request := {
    run := fun (log, world) =>
      let (answer, world) := (wire.exchange request).run world
      (answer, log ++ [.exchanged request answer], world) }
  observe observation := fun (log, world) => (log ++ [.observed observation], wire.observe observation world)

theorem Wire.run_exchange_logged (wire : Wire ω) (request : Request) (log : List WireEvent) (world : ω) :
    (wire.logged.exchange request).run (log, world)
      = (((wire.exchange request).run world).1,
          log ++ [.exchanged request ((wire.exchange request).run world).1], ((wire.exchange request).run world).2) :=
  rfl

theorem Wire.observe_logged (wire : Wire ω) (observation : Observation) (log : List WireEvent) (world : ω) :
    wire.logged.observe observation (log, world)
      = (log ++ [.observed observation], wire.observe observation world) :=
  rfl

/-- The attempts to get something from one URL: all of them send the same request. -/
structure Channel (ω : Type) where
  wire : Wire ω
  policy : RequestPolicy
  inquiry : Inquiry
  url : Url

namespace Channel

def request (channel : Channel ω) : Request :=
  ⟨channel.inquiry.method, channel.url, channel.inquiry.body, channel.policy.timeout⟩

/-- What is recorded of an attempt with an answer: its status, or zero without a reply, and whose it is. -/
def observation (channel : Channel ω) : Except Fault Reply → Observation
  | .ok reply => ⟨channel.inquiry.endpoint, reply.status, channel.url.domain⟩
  | .error _ => ⟨channel.inquiry.endpoint, 0, channel.url.domain⟩

def answer (channel : Channel ω) (world : ω) : Except Fault Reply :=
  ((channel.wire.exchange channel.request).run world).1

def next (channel : Channel ω) (world : ω) : ω :=
  channel.wire.observe (channel.observation (channel.answer world))
    ((channel.wire.exchange channel.request).run world).2

def after (channel : Channel ω) : ω → Nat → ω
  | world, 0 => world
  | world, attempts + 1 => channel.after (channel.next world) attempts

/-- What happens on the wire in some attempts in a row. -/
def events (channel : Channel ω) : ω → Nat → List WireEvent
  | _, 0 => []
  | world, attempts + 1 =>
    let answer := channel.answer world
    .exchanged channel.request answer :: .observed (channel.observation answer)
      :: channel.events (channel.next world) attempts

end Channel

/-- An answer that a policy does not list among those worth another attempt. -/
def RequestPolicy.IsUnlisted (policy : RequestPolicy) : Except Fault Reply → Prop
  | .ok reply => reply.status ∉ policy.retry.forcelist
  | .error fault => fault ≠ .connect ∧ fault ≠ .timeout ∧ fault ≠ .request

/--
An answer after which a host is not asked again, even if attempts are left. A success is final in any case: the list of
statuses is only consulted for other replies.
-/
def RequestPolicy.IsFinal (policy : RequestPolicy) (answer : Except Fault Reply) : Prop :=
  (∃ reply, answer = .ok reply ∧ reply.isOk = true) ∨ policy.IsUnlisted answer

/-- What an answer comes to: a reply that is a success, or an error. -/
def Inquiry.received (inquiry : Inquiry) : Except Fault Reply → Except ProviderError Reply
  | .ok reply =>
    if reply.isOk then .ok reply else .error (.notOk inquiry.path reply.status (reply.text?.getD ""))
  | .error fault => .error (.transport inquiry.path fault)

/-- The final answers are the unlisted ones just if no success is listed. -/
theorem RequestPolicy.forall_isFinal_iff (policy : RequestPolicy) :
    (∀ answer, policy.IsFinal answer ↔ policy.IsUnlisted answer)
      ↔ ∀ reply : Reply, reply.isOk = true → reply.status ∉ policy.retry.forcelist := by
  constructor
  . intro h reply hok
    exact (h (.ok reply)).mp (.inl ⟨reply, rfl, hok⟩)
  . intro h answer
    constructor
    . rintro (⟨reply, rfl, hok⟩ | hunlisted)
      . exact h reply hok
      . exact hunlisted
    . exact .inr

theorem RequestPolicy.not_isFinal_iff (policy : RequestPolicy) (inquiry : Inquiry) (answer : Except Fault Reply) :
    ¬policy.IsFinal answer ↔ ∃ error, inquiry.received answer = .error error ∧ policy.retries error = true := by
  cases answer with
  | error fault => cases fault <;> simp [IsFinal, IsUnlisted, Inquiry.received, RequestPolicy.retries, Fault.isPassing]
  | ok reply =>
    unfold IsFinal IsUnlisted Inquiry.received
    by_cases hok : reply.isOk = true
    . simp [hok]
    . simp [hok, RequestPolicy.retries, RetryPolicy.retriesStatus]

/--
How many attempts are made if the first one may be followed by `total` more. None follows the `k`-th one, counted from
zero, if it is the first for which `isLast` holds.
-/
structure IsAttempts (total : Nat) (isLast : Nat → Prop) (attempts : Nat) : Prop where
  eq_min : ∀ k, isLast k → (∀ n < k, ¬isLast n) → attempts = min (k + 1) (total + 1)
  eq_total : (∀ n, ¬isLast n) → attempts = total + 1

namespace IsAttempts

variable {total attempts : Nat} {isLast : Nat → Prop}

theorem of_total_eq_zero : IsAttempts 0 isLast 1 where
  eq_min k _ _ := by omega
  eq_total _ := rfl

theorem of_isLast_zero (h : isLast 0) : IsAttempts total isLast 1 where
  eq_min k _ hfirst := by
    have : ¬0 < k := fun hlt => hfirst 0 hlt h
    omega
  eq_total hnone := absurd h (hnone 0)

theorem succ (hzero : ¬isLast 0) (h : IsAttempts total (fun n => isLast (n + 1)) attempts)
    : IsAttempts (total + 1) isLast (attempts + 1) where
  eq_min k hk hfirst := by
    cases k with
    | zero => exact absurd hk hzero
    | succ k =>
      have := h.eq_min k hk fun n hn => hfirst (n + 1) (by omega)
      omega
  eq_total hnone := by
    have := h.eq_total fun n => hnone (n + 1)
    omega

end IsAttempts

namespace Channel

/-- Whether the `n`-th answer from a world on is the last one that an attempt is made for. -/
def isLast (channel : Channel ω) (world : ω) (n : Nat) : Prop :=
  channel.policy.IsFinal (channel.answer (channel.after world n))

theorem run_attempt (channel : Channel ω) (log : List WireEvent) (world : ω) :
    (Provider.attempt channel.wire.logged channel.policy channel.inquiry channel.url).run (log, world)
      = (channel.inquiry.received (channel.answer world), log ++ channel.events world 1, channel.next world) := by
  have hrequest : (⟨channel.inquiry.method, channel.url, channel.inquiry.body, channel.policy.timeout⟩ : Request)
      = channel.request := rfl
  unfold Provider.attempt next events answer
  rw [hrequest]
  simp only [Wire.run_exchange_logged]
  generalize (channel.wire.exchange channel.request).run world = answer
  rcases answer with ⟨fault | reply, world⟩
  . simp [Inquiry.received, observation, events, Wire.observe_logged]
  . by_cases hok : reply.isOk = true <;> simp [Inquiry.received, observation, events, Wire.observe_logged, hok]

/-- A host is asked until its first final answer, as far as the policy allows, and the last answer counts. -/
theorem run_retry (channel : Channel ω) (total : Nat) (log : List WireEvent) (world : ω) :
    ∃ attempts, IsAttempts total (channel.isLast world) (attempts + 1)
      ∧ ((Provider.attempt channel.wire.logged channel.policy channel.inquiry channel.url).retry total
          channel.policy.retries).run (log, world)
        = (channel.inquiry.received (channel.answer (channel.after world attempts)),
            log ++ channel.events world (attempts + 1), channel.after world (attempts + 1)) := by
  unfold Action.retry
  dsimp only
  induction total generalizing log world with
  | zero =>
    refine ⟨0, .of_total_eq_zero, ?_⟩
    unfold Action.retry.go
    rw [run_attempt]
    generalize hreceived : channel.inquiry.received (channel.answer world) = received
    cases received <;> simp [after, hreceived]
  | succ total ih =>
    unfold Action.retry.go
    rw [run_attempt]
    -- A final answer leaves the retries unused, any other one leaves the rest to them.
    by_cases hlast : channel.isLast world 0
    . refine ⟨0, .of_isLast_zero hlast, ?_⟩
      generalize hreceived : channel.inquiry.received (channel.answer world) = received
      cases received with
      | ok => simp [after, hreceived]
      | error error =>
        have hworth : ¬channel.policy.retries error = true := by
          intro hworth
          have := (channel.policy.not_isFinal_iff channel.inquiry _).mpr ⟨error, hreceived, hworth⟩
          exact this hlast
        simp [after, hreceived, hworth]
    . have ⟨error, hreceived, hworth⟩ := (channel.policy.not_isFinal_iff channel.inquiry _).mp hlast
      have ⟨attempts, hattempts, hrun⟩ := ih (log ++ channel.events world 1) (channel.next world)
      refine ⟨attempts + 1, hattempts.succ hlast, ?_⟩
      have hreceived : channel.inquiry.received (channel.answer world) = .error error := hreceived
      rw [hreceived]
      simp only [hworth, if_true]
      rw [hrun]
      simp [after, events]

end Channel

/-- What one host is asked and what it answers, from its first attempt in a world on. -/
structure Visit (ω : Type) where
  host : Url
  before : ω
  events : List WireEvent
  /-- What the last answer comes to. -/
  reply : Except ProviderError Reply
  after : ω

def Channel.visit (channel : Channel ω) (host : Url) (world : ω) (attempts : Nat) : Visit ω where
  host := host
  before := world
  events := channel.events world (attempts + 1)
  reply := channel.inquiry.received (channel.answer (channel.after world attempts))
  after := channel.after world (attempts + 1)

/-- A visit as the policy asks for it. A host is not asked if it and the path do not make a URL. -/
inductive Visit.Made (wire : Wire ω) (policy : RequestPolicy) (inquiry : Inquiry) : Visit ω → Prop
  | unasked {host : Url} {world : ω} (hurl : inquiry.url? host = none) :
    Made wire policy inquiry ⟨host, world, [], .error (.badUrl inquiry.path), world⟩
  | asked {host url : Url} {world : ω} {attempts : Nat} (hurl : inquiry.url? host = some url)
      (hattempts : IsAttempts policy.retry.total (Channel.isLast ⟨wire, policy, inquiry, url⟩ world) (attempts + 1)) :
    Made wire policy inquiry (Channel.visit ⟨wire, policy, inquiry, url⟩ host world attempts)

theorem Visit.made_send (wire : Wire ω) (policy : RequestPolicy) (inquiry : Inquiry) (host : Url)
    (log : List WireEvent) (world : ω) :
    ∃ visit : Visit ω, visit.Made wire policy inquiry ∧ visit.host = host ∧ visit.before = world
      ∧ (Provider.send wire.logged policy inquiry host).run (log, world)
        = (visit.reply, log ++ visit.events, visit.after) := by
  unfold Provider.send
  cases hurl : inquiry.url? host with
  | none =>
    refine ⟨_, .unasked hurl, rfl, rfl, ?_⟩
    simp
  | some url =>
    have ⟨attempts, hattempts, hrun⟩ := Channel.run_retry ⟨wire, policy, inquiry, url⟩ policy.retry.total log world
    exact ⟨_, .asked hurl hattempts, rfl, rfl, hrun⟩

end Net
end BeaconSentry
