import BeaconSentry.Duration
import BeaconSentry.Json.Basic
import BeaconSentry.Net.Error
import BeaconSentry.Action
import BeaconSentry.Text.Utf8
import BeaconSentry.Url.Basic

/-!
This module contains requests and replies between a client and a host, and the wire that carries them.
-/

namespace BeaconSentry
namespace Net

inductive Method where
  | get
  | post
  deriving Repr, DecidableEq

def Method.name : Method → String
  | .get => "GET"
  | .post => "POST"

structure Request where
  method : Method
  url : Url
  body : Option Json.Value
  /-- How long to wait for the reply; without it, as long as it takes. -/
  timeout : Option Duration

structure Reply where
  status : Nat
  /-- The bytes of the body that arrived. -/
  body : List UInt8
  /-- Whether the whole body arrived. -/
  complete : Bool
  deriving Repr, DecidableEq

namespace Reply

def isOk (reply : Reply) : Bool := 200 ≤ reply.status && reply.status < 300

/-- The text of the body, unless it is cut short. -/
def text? (reply : Reply) : Option String :=
  if reply.complete then some (Utf8.decodeLossy reply.body) else none

end Reply

/-- What is recorded of an attempt. The code is the status of the reply, or zero without a reply. -/
structure Observation where
  endpoint : String
  code : Nat
  domain : String
  deriving Repr, DecidableEq

def Observation.text (observation : Observation) : String :=
  s!"{observation.endpoint} {observation.code} {observation.domain}"

structure Wire (ω : Type) where
  exchange : Request → Action ω Fault Reply
  observe : Observation → ω → ω

end Net
end BeaconSentry
