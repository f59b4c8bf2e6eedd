import BeaconSentry.Exit.Requests

/-!
This module contains an oracle of requests to exit that answers by a script.
-/

namespace BeaconSentry
namespace Rehearsal

open Exit Beacon

inductive Query where
  | total (block : BlockNumber)
  | requests (first last : BlockNumber)
  deriving Repr, DecidableEq

/-- What an oracle knows, which questions it fails to answer, and the questions so far. -/
structure Oracle where
  total : UInt64
  requests : List ExitRequest
  failsTotal : Bool
  failsRequests : Bool
  queries : List Query
  deriving Repr, DecidableEq

namespace Oracle

def silent : Oracle := ⟨0, [], false, false, []⟩

def answerTotal (block : BlockNumber) (oracle : Oracle) : Except Report UInt64 × Oracle :=
  (if oracle.failsTotal then .error (.plain "total failed") else .ok oracle.total,
    { oracle with queries := oracle.queries ++ [.total block] })

def answerRequests (first last : BlockNumber) (oracle : Oracle) :
    Except Report (List ExitRequest) × Oracle :=
  (if oracle.failsRequests then .error (.plain "requests failed")
    else .ok (oracle.requests.filter fun request => first ≤ request.block && request.block ≤ last),
    { oracle with queries := oracle.queries ++ [.requests first last] })

def scripted : ExitOracle Oracle where
  total block := ⟨answerTotal block⟩
  requests first last := ⟨answerRequests first last⟩

end Oracle
end Rehearsal
end BeaconSentry
