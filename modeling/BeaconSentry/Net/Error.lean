/-!
This module contains what can go wrong between a client and its hosts.
-/

namespace BeaconSentry
namespace Net

inductive Fault where
  /-- The connection was refused. -/
  | connect
  /-- The time for an answer ran out. -/
  | timeout
  /-- The request was sent in vain. -/
  | request
  /-- The body ended before its announced length. -/
  | body
  deriving Repr, DecidableEq

def Fault.isPassing : Fault → Bool
  | .connect | .timeout | .request => true
  | .body => false

inductive ProviderError where
  /-- There is no host to ask. -/
  | noHosts (client : String)
  /-- The response has a status that is no success. -/
  | notOk (path : String) (status : Nat) (text : String)
  /-- The caller did not accept the response. -/
  | rejected (path : String)
  /-- No response came, or only a part of it. -/
  | transport (path : String) (fault : Fault)
  /-- The body of the response is not what was asked for. -/
  | undecodable (path : String)
  /-- The host and the path do not make a URL. -/
  | badUrl (path : String)
  deriving Repr, DecidableEq

namespace ProviderError

def message : ProviderError → String
  | noHosts client => s!"no hosts provided for {client}"
  | notOk path status text =>
    "response from " ++ path ++ " [" ++ toString status ++ "] with text: \"" ++ text ++ "\" returned"
  | rejected path => s!"forced to use fallback for {path}"
  | transport path _ => s!"request to {path} failed"
  | undecodable path => s!"failed to decode response from {path}"
  | badUrl path => s!"invalid url: {path}"

def kind : ProviderError → String
  | noHosts _ => "no_hosts"
  | notOk .. => "not_ok"
  | rejected _ => "force_use_fallback"
  | transport .. => "transport"
  | undecodable _ => "decode"
  | badUrl _ => "url"

def status? : ProviderError → Option Nat
  | notOk _ status _ => some status
  | _ => none

def isNotFound (error : ProviderError) : Bool := error.status? == some 404

end ProviderError
end Net
end BeaconSentry
