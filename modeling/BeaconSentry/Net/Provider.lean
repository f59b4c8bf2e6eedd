import BeaconSentry.Json.Decode
import BeaconSentry.Net.Http
import BeaconSentry.Net.Retry
import BeaconSentry.Url.Parser
import BeaconSentry.Url.Percent

/-!
This module contains requests to a list of hosts. The hosts are asked in order, each as often as the policy
says, until one of them gives an answer that the caller accepts.
-/

namespace BeaconSentry
namespace Net

structure RequestPolicy where
  /-- The time that each attempt has. -/
  timeout : Option Duration
  retry : RetryPolicy
  deriving Repr, DecidableEq

namespace RequestPolicy

def limited (timeout : Duration) (retries : Nat) (backoff : Duration) : RequestPolicy :=
  ⟨some timeout, .ofTotal retries backoff⟩

def unlimited (policy : RequestPolicy) : RequestPolicy := { policy with timeout := none }

def retries (policy : RequestPolicy) : ProviderError → Bool
  | .transport _ fault => fault.isPassing
  | .notOk _ status _ => policy.retry.retriesStatus status
  | _ => false

end RequestPolicy

structure Inquiry where
  method : Method
  /-- The name under which attempts are recorded. -/
  endpoint : String
  /-- The path below the URL of the host. -/
  path : String
  query : List (String × String) := []
  body : Option Json.Value := none

namespace Inquiry

def get (endpoint path : String) (query : List (String × String)) : Inquiry :=
  { method := .get, endpoint, path, query }

def url? (inquiry : Inquiry) (host : Url) : Option Url :=
  (Url.join? host inquiry.path).map fun url =>
    if inquiry.query.isEmpty then url else url.addQuery (Percent.formQuery inquiry.query)

end Inquiry

/--
Which of the errors so far ends the search at once, as its position among them. The errors are those of the
hosts asked so far, in order.
-/
abbrev Raise := List ProviderError → Option Nat

def Raise.never : Raise := fun _ => none

structure Provider where
  name : String
  hosts : List Url
  policy : RequestPolicy
  deriving Repr, DecidableEq

namespace Provider

variable {ω α : Type}

def new (name : String) (hosts : List Url) (policy : RequestPolicy) : Except ProviderError Provider :=
  if hosts.isEmpty then .error (.noHosts name) else .ok ⟨name, hosts, policy⟩

def attempt (wire : Wire ω) (policy : RequestPolicy) (inquiry : Inquiry) (url : Url) :
    Action ω ProviderError Reply where
  run world :=
    let observation (code : Nat) : Observation := ⟨inquiry.endpoint, code, url.domain⟩
    match (wire.exchange ⟨inquiry.method, url, inquiry.body, policy.timeout⟩).run world with
    | (.error fault, world) =>
      (.error (.transport inquiry.path fault), wire.observe (observation 0) world)
    | (.ok reply, world) =>
      let world := wire.observe (observation reply.status) world
      if reply.isOk then (.ok reply, world)
      else (.error (.notOk inquiry.path reply.status (reply.text?.getD "")), world)

def send (wire : Wire ω) (policy : RequestPolicy) (inquiry : Inquiry) (host : Url) :
    Action ω ProviderError Reply :=
  match inquiry.url? host with
  | none => .fail (.badUrl inquiry.path)
  | some url => (attempt wire policy inquiry url).retry policy.retry.total policy.retries

/--
Ask hosts in order until one succeeds or `raise` picks an error; `errors` are those of the hosts before. If all
hosts fail, the error of the last one is the result.
-/
def withFallbacks.go (name : String) (raise : Raise) (ask : Url → Action ω ProviderError α)
    (errors : List ProviderError) : List Url → Action ω ProviderError α
  | [] => .fail (errors.getLast?.getD (.noHosts name))
  | host :: rest => do
    match ← (ask host).outcome with
    | .ok value => pure value
    | .error error =>
      let errors := errors ++ [error]
      match (raise errors).bind (errors[·]?) with
      | some error => .fail error
      | none => withFallbacks.go name raise ask errors rest

/-- Ask the hosts of a provider in order until one succeeds or `raise` picks an error. -/
def withFallbacks (provider : Provider) (raise : Raise) (ask : Url → Action ω ProviderError α) :
    Action ω ProviderError α :=
  withFallbacks.go provider.name raise ask [] provider.hosts

/--
The document in the body of a reply. A body that is not UTF-8 is refused as a whole. This is stricter than to check the
strings that are decoded one by one, which would let malformed bytes pass inside of strings that `read` skips.
-/
def decode (path : String) (read : Json.Decoder α) (reply : Reply) : Except ProviderError α :=
  if reply.complete then
    match (Utf8.decode? reply.body).bind (Json.decode? read) with
    | some value => .ok value
    | none => .error (.undecodable path)
  else
    .error (.transport path .body)

def accept (path : String) (read : Json.Decoder α) (rejects : α → Bool) (reply : Reply) :
    Except ProviderError α := do
  let value ← decode path read reply
  if rejects value then .error (.rejected path) else .ok value

/-- Ask one host for a document that `read` understands and `rejects` does not reject. -/
def askJson (wire : Wire ω) (policy : RequestPolicy) (inquiry : Inquiry) (rejects : α → Bool)
    (read : Json.Decoder α) (host : Url) : Action ω ProviderError α := do
  let reply ← send wire policy inquiry host
  .ofExcept (accept inquiry.path read rejects reply)

/-- Ask for a document that `read` understands and `rejects` does not reject. -/
def getJson (wire : Wire ω) (provider : Provider) (policy : RequestPolicy) (inquiry : Inquiry)
    (raise : Raise) (rejects : α → Bool) (read : Json.Decoder α) : Action ω ProviderError α :=
  provider.withFallbacks raise (askJson wire policy inquiry rejects read)

def getStream (wire : Wire ω) (provider : Provider) (policy : RequestPolicy) (inquiry : Inquiry)
    (raise : Raise) : Action ω ProviderError Reply :=
  provider.withFallbacks raise (send wire policy inquiry)

/-- Post a document. The body of the reply does not matter. -/
def postJson (wire : Wire ω) (provider : Provider) (endpoint path : String) (body : Json.Value) :
    Action ω ProviderError Unit :=
  provider.withFallbacks .never fun host => do
    let _ ← send wire provider.policy { method := .post, endpoint, path, body := some body } host
    pure ()

end Provider
end Net
end BeaconSentry
