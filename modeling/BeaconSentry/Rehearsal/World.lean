import BeaconSentry.Keys.File
import BeaconSentry.Keys.Source
import BeaconSentry.Rehearsal.Hosts
import BeaconSentry.Rehearsal.Mailbox
import BeaconSentry.Rehearsal.Oracle
import BeaconSentry.Watch.Cycle

/-!
This module contains a world in which the watcher can be rehearsed: a mailbox for its alerts, an oracle of
requests to exit, scripted nodes, and a supply of owned keys.
-/

namespace BeaconSentry
namespace Rehearsal

open Net Watch

inductive KeysSupply where
  /-- Updates one after the other. Once they are used up nothing changes any more. -/
  | script (updates : List (Except Report (Option OwnedKeys)))
  | file (path : String) (version : Option Keys.FileVersion) (source : Keys.FileSource)
  | service (client : Keys.Client) (hosts : Hosts) (source : Keys.ServiceSource)

abbrev Supplied := Except Failure (Option OwnedKeys) × Option UInt64 × KeysSupply

namespace KeysSupply

def serviceWire : Wire (Hosts × Option UInt64) where
  exchange request := (Hosts.wire.exchange request).within (·.1) fun hosts world => (hosts, world.2)
  observe observation world := (Hosts.wire.observe observation world.1, world.2)

def ofService (client : Keys.Client) (hosts : Hosts) (source : Keys.ServiceSource) :
    Except Failure (Option OwnedKeys) × Keys.ServiceSource × Hosts × Option UInt64 :=
  let service := client.service serviceWire fun block world => (world.1, some block)
  (Keys.ServiceSource.update service).run (source, hosts, none)

def update : KeysSupply → Supplied
  | script [] => (.ok none, none, script [])
  | script (next :: rest) => (next.mapError .report, none, script rest)
  | file path version source =>
    let (result, source) := source.update version version
    (result.mapError fun error => .report (.plain (error.message path)), none, file path version source)
  | service client hosts source =>
    let (result, source, hosts, block) := ofService client hosts source
    (result, block, service client hosts source)

def hosts? : KeysSupply → Option Hosts
  | service _ hosts _ => some hosts
  | _ => none

end KeysSupply

structure World where
  mailbox : Mailbox
  oracle : Oracle
  nodes : Hosts
  supply : KeysSupply
  /-- How often the supply was asked. -/
  updates : Nat
  /-- What the gauge of the block of the last snapshot shows. -/
  keysBlock : Nat

namespace World

def empty : World := ⟨.empty, .silent, .start [] none, .script [], 0, 0⟩

def sink : Sink World where
  deliver alerts := (Mailbox.sink.deliver alerts).within (·.mailbox) fun mailbox world => { world with mailbox }

def exits : Exit.ExitOracle World where
  total block := (Oracle.scripted.total block).within (·.oracle) fun oracle world => { world with oracle }
  requests first last :=
    (Oracle.scripted.requests first last).within (·.oracle) fun oracle world => { world with oracle }

def outlets (hasOracle : Bool) : Outlets World := ⟨if hasOracle then some exits else none, sink⟩

def wire : Wire World where
  exchange request := (Hosts.wire.exchange request).within (·.nodes) fun nodes world => { world with nodes }
  observe observation world := { world with nodes := Hosts.wire.observe observation world.nodes }

def updateKeys : Action World Failure (Option OwnedKeys) where
  run world :=
    let (result, block, supply) := world.supply.update
    let keysBlock := (block.map gaugeValue).getD world.keysBlock
    (result, { world with supply, keysBlock, updates := world.updates + 1 })

/-- The time in a world, which stands still. -/
def now : Instant := ⟨1800000000, 0⟩

def services (client : Beacon.Client) (hasOracle : Bool) : Services Handler World :=
  .ofClient wire client (outlets hasOracle) now updateKeys fun _ => UInt64.ofNat now.seconds.toNat

def headLine : String := "GET /eth/v1/beacon/headers/head"

def polls (nodes : Hosts) : Nat :=
  nodes.hosts.foldl (fun n host => n + ((host.routes.lookup headLine).getD []).length) 0

/--
Watch with some handlers: replay slots, or follow the head until a host is asked for it once more than it has
answers. Without the genesis there is nothing to watch.
-/
def watch (client : Beacon.Client) (hasOracle : Bool) (settings : Settings) (handlers : List Handler)
    (capacity : Nat) (slots : Option (List Slot)) (world : World) :
    Except ProviderError (Except Failure Unit × Watcher Handler World) :=
  let nodes := { world.nodes with lastLine := if slots.isSome then none else some headLine }
  match (client.genesis wire).run { world with nodes } with
  | (.error error, _) => .error error
  | (.ok genesis, world) =>
    let plan : Plan Handler World := ⟨services client hasOracle, settings, genesis.time⟩
    let watcher := Watcher.start handlers (.empty capacity) genesis.time none world
    .ok (match slots with
    | some slots => (Watcher.replay plan slots).run watcher
    | none => (Watcher.follow plan (·.nodes.isOver) (polls world.nodes + 1)).run watcher)

end World
end Rehearsal
end BeaconSentry
