import BeaconSentry.Beacon.Decode
import BeaconSentry.EventStream
import BeaconSentry.Net.Provider

/-!
This module contains a typed client of beacon nodes. The client asks its nodes in order. A block that one node
does not know of may still be known to another, so the answer "not found" counts only after the last node.
-/

namespace BeaconSentry
namespace Beacon

open Net

structure Client where
  provider : Provider
  deriving Repr, DecidableEq

namespace Client

variable {ω : Type}

def new (nodes : List Url) (policy : RequestPolicy) : Except ProviderError Client :=
  (Provider.new "ConsensusClient" nodes policy).map Client.mk

/-- Polling the head must not wait for a slow node: little time, and one more try after half a second. -/
def headPolicy : RequestPolicy := .limited (.ofMillis 1500) 1 (.ofMillis 500)

def data (read : Json.Decoder α) : Json.Decoder α := fun value => do
  let [data] ← value.fields? ["data"] | none
  Json.required read data

/--
The error that says that a slot has no block: the first "not found", once every node has failed. It then
counts more than a node that could not be reached.
-/
def missedSlot (nodes : Nat) : Raise := fun errors =>
  if errors.length == nodes then errors.findIdx? (·.isNotFound) else none

def genesis (wire : Wire ω) (client : Client) : Action ω ProviderError Genesis :=
  let path := "eth/v1/beacon/genesis"
  client.provider.getJson wire client.provider.policy (.get path path []) .never (fun _ => false)
    (data Genesis.decode)

/-- Ask for the answer of one node after the other, where "not found" counts only after the last one. -/
def firstKnown (client : Client) (ask : Url → Action ω ProviderError α) : Action ω ProviderError α :=
  client.provider.withFallbacks (missedSlot client.provider.hosts.length) ask

/-- Ask one node for a block header that `rejects` does not reject. -/
def askHeader (wire : Wire ω) (id : BlockId) (rejects : HeaderRecord → Bool) :
    Url → Action ω ProviderError HeaderRecord :=
  let inquiry := .get "eth/v1/beacon/headers/\x7bblock_id\x7d" ("eth/v1/beacon/headers/" ++ id.toText) []
  Provider.askJson wire headPolicy inquiry rejects (data HeaderRecord.decode)

/-- Ask for a block header that `rejects` does not reject. -/
def header (wire : Wire ω) (client : Client) (id : BlockId) (rejects : HeaderRecord → Bool) :
    Action ω ProviderError HeaderRecord :=
  client.firstKnown (askHeader wire id rejects)

def askBlock (wire : Wire ω) (id : BlockId) : Url → Action ω ProviderError Block :=
  let inquiry := .get "eth/v2/beacon/blocks/\x7bblock_id\x7d" ("eth/v2/beacon/blocks/" ++ id.toText) []
  Provider.askJson wire headPolicy inquiry (fun _ => false) (data Block.decode)

def block (wire : Wire ω) (client : Client) (id : BlockId) : Action ω ProviderError Block :=
  client.firstKnown (askBlock wire id)

/-- Read a registry that is streamed; a stream that breaks off is no registry. -/
def readValidators (path : String) (reply : Reply) : Except ProviderError (List ValidatorEntry) :=
  if reply.complete then Provider.decode path (data (Json.Value.asList ValidatorEntry.decode)) reply
  else .error (.undecodable path)

def validators (wire : Wire ω) (client : Client) (id : BlockId) :
    Action ω ProviderError (List ValidatorEntry) := do
  let path := "eth/v1/beacon/states/" ++ id.toText ++ "/validators"
  let reply ← client.provider.getStream wire client.provider.policy
    (.get "eth/v1/beacon/states/\x7bstate_id\x7d/validators" path []) .never
  .ofExcept (readValidators path reply)

def eventsPath : String := "eth/v1/events"

/-- The reorganisation that an event of a stream tells of. Other events tell of none. -/
def reorg? (event : ServerEvent) : Option (Except ProviderError Reorg) :=
  if event.event == "chain_reorg" then
    match Json.decode? Reorg.decode event.data with
    | some reorg => some (.ok reorg)
    | none => some (.error (.undecodable eventsPath))
  else
    none

/-- What a stream of events says, in order; a stream that breaks off ends with an error. -/
def readReorgs (reply : Reply) : List (Except ProviderError Reorg) :=
  (EventStream.start.feed reply.body).2.filterMap reorg? ++
    if reply.complete then [] else [.error (.transport eventsPath .body)]

def reorgs (wire : Wire ω) (client : Client) :
    Action ω ProviderError (List (Except ProviderError Reorg)) := do
  let reply ← client.provider.getStream wire client.provider.policy.unlimited
    (.get eventsPath eventsPath [("topics", "chain_reorg")]) .never
  pure (readReorgs reply)

end Client
end Beacon
end BeaconSentry
