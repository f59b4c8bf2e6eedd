import BeaconSentry.Net.Http

/-!
This module contains hosts that answer by a script, so that clients can be rehearsed without a network.
-/

namespace BeaconSentry
namespace Rehearsal

open Net

inductive Answer where
  | reply (reply : Reply)
  /-- It never answers. -/
  | silence
  deriving Repr

/-- A request that arrived: its method and target, and its body. -/
structure Arrival where
  line : String
  body : Option Json.Value

structure Host where
  url : Url
  /-- Whether it takes connections. -/
  isUp : Bool
  routes : List (String × List Answer)
  /-- The requests that arrived, in order. -/
  arrivals : List Arrival

structure Hosts where
  hosts : List Host
  observed : List Observation
  /-- Requests that end the script once they have no answer left. -/
  lastLine : Option String
  isOver : Bool

def noRoute : Reply := ⟨404, Utf8.encode "no route", true⟩

namespace Host

/-- The answer that is due for a request, and the answers that are left after it. The last one stays. -/
def take (keepLast : Bool) (line : String) :
    List (String × List Answer) → Option Answer × List (String × List Answer)
  | [] => (some (.reply noRoute), [])
  | (name, answers) :: rest =>
    if name == line then
      match answers with
      | [] => (if keepLast then some (.reply noRoute) else none, (name, []) :: rest)
      | [answer] => (some answer, (name, if keepLast then [answer] else []) :: rest)
      | answer :: answers => (some answer, (name, answers) :: rest)
    else
      let (answer, rest) := take keepLast line rest
      (answer, (name, answers) :: rest)

end Host

namespace Hosts

def start (hosts : List Host) (lastLine : Option String) : Hosts := ⟨hosts, [], lastLine, false⟩

def answer.go (lastLine : Option String) (request : Request) :
    List Host → Option (Except Fault Reply) × List Host
  | [] => (some (.error .connect), [])
  | host :: rest =>
    if host.url.domain == request.url.domain then
      if host.isUp then
        let line := request.method.name ++ " " ++ request.url.target
        match Host.take (lastLine != some line) line host.routes with
        | (none, routes) => (none, { host with routes } :: rest)
        | (some answer, routes) =>
          let arrivals := host.arrivals ++ [⟨line, request.body⟩]
          let result :=
            match answer with
            | .reply reply => .ok reply
            | .silence => .error .timeout
          (some result, { host with routes, arrivals } :: rest)
      else
        (some (.error .connect), host :: rest)
    else
      let (result, rest) := answer.go lastLine request rest
      (result, host :: rest)

/-- Answer a request. Once the script is over nothing is answered. -/
def answer (request : Request) (hosts : Hosts) : Except Fault Reply × Hosts :=
  if hosts.isOver then (.error .request, hosts)
  else
    match answer.go hosts.lastLine request hosts.hosts with
    | (some result, list) => (result, { hosts with hosts := list })
    | (none, list) => (.error .request, { hosts with hosts := list, isOver := true })

/-- Record an attempt, unless the script is over. -/
def record (observation : Observation) (hosts : Hosts) : Hosts :=
  if hosts.isOver then hosts else { hosts with observed := hosts.observed ++ [observation] }

def wire : Wire Hosts := ⟨fun request => ⟨answer request⟩, record⟩

end Hosts
end Rehearsal
end BeaconSentry
