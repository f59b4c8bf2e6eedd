import BeaconSentry.Evm.Node
import BeaconSentry.Exit.Range
import BeaconSentry.Exit.Requests

/-!
This module contains the contracts of the protocol that the watcher reads: the exit bus, which announces the
requests to exit, and the locator, which knows the addresses of the other contracts.
-/

namespace BeaconSentry
namespace Exit

open Beacon Evm Net

structure Contract where
  node : Node
  address : String
  deriving Repr, DecidableEq

/-- The exit bus. One query for events spans at most `step + 1` blocks. -/
structure ExitBus extends Contract where
  step : UInt64
  deriving Repr, DecidableEq

namespace ExitBus

variable {ω : Type}

/-- The first bytes of the hash of `getTotalRequestsProcessed()`. -/
def totalSelector : List UInt8 := [0xe2, 0x79, 0x3e, 0x72]

/-- The hash of the signature of the event that announces a request to exit. -/
def requestTopic : List UInt8 := [
  0x96, 0x39, 0x5f, 0x55, 0xc4, 0x99, 0x74, 0x66, 0xe5, 0x03, 0x5d, 0x77, 0x7f, 0x0e, 0x1b, 0xa8,
  0x2b, 0x8c, 0xae, 0x21, 0x7a, 0xaa, 0xd0, 0x5c, 0xf0, 0x78, 0x39, 0xeb, 0x7c, 0x75, 0xbc, 0xf2]

def event? (log : Log) : Option (UInt64 × UInt64 × UInt64) := do
  let [topic, moduleIndex, operatorIndex, validator] := log.topics | none
  if topic == requestTopic && log.topics.all (·.length == wordLength) && holdsBytesAndWord log.data then
    pure (saturate (← natWord? moduleIndex), saturate (← natWord? operatorIndex),
      saturate (← natWord? validator))
  else
    none

/-- The request that an event tells of, in a window that must hold its block. -/
def request (window : BlockRange) (block : Option BlockNumber) (event : UInt64 × UInt64 × UInt64) :
    Except ScanError ExitRequest :=
  match block with
  | some number =>
    if window.contains number then .ok ⟨number, event.1, event.2.1, event.2.2⟩
    else .error (.inconsistentEvents block window.first window.last)
  | none => .error (.inconsistentEvents block window.first window.last)

/-- Where events are looked for: each answer pairs events with the block that their log names, if it names one. -/
abbrev EventQuery (ω : Type) :=
  BlockRange → Action ω ScanError (List (Option BlockNumber × UInt64 × UInt64 × UInt64))

/-- Look for requests window by window. A log outside its window ends the scan. -/
def scan (query : EventQuery ω) : List BlockRange → Action ω ScanError (List ExitRequest)
  | [] => pure []
  | window :: rest => do
    let events ← query window
    let requests ← .ofExcept (events.mapM fun (block, event) => request window block event)
    pure (requests ++ (← scan query rest))

/-- Look for the requests of a range, in windows of `step + 1` blocks. -/
def scanRange (query : EventQuery ω) (step : UInt64) (range : BlockRange) :
    Action ω ScanError (List ExitRequest) :=
  if range.last < range.first then .fail (.invertedRange range.first range.last)
  else scan query (range.windows step)

def query (wire : Wire ω) (bus : ExitBus) : EventQuery ω := fun window => do
  let logs ← (bus.node.logs wire bus.address requestTopic window.first window.last).mapError
    fun _ => ScanError.unanswered
  match logs.mapM fun log => (event? log).map fun event => (log.block, event) with
  | some events => pure events
  | none => .fail .unanswered

def total (wire : Wire ω) (bus : ExitBus) (block : BlockNumber) : Action ω ScanError UInt64 := do
  let data ← (bus.node.callContract wire bus.address totalSelector (.number block)).mapError
    fun _ => ScanError.unanswered
  match natWord? data with
  | some n => pure (saturate n)
  | none => .fail .unanswered

def requests (wire : Wire ω) (bus : ExitBus) (first last : BlockNumber) :
    Action ω ScanError (List ExitRequest) :=
  scanRange (bus.query wire) bus.step ⟨first, last⟩

def oracle (wire : Wire ω) (bus : ExitBus) : ExitOracle ω where
  total block := (bus.total wire block).mapError .scan
  requests first last := (bus.requests wire first last).mapError .scan

end ExitBus

structure Locator extends Contract where
  deriving Repr, DecidableEq

namespace Locator

variable {ω : Type}

/-- The first bytes of the hash of `withdrawalVault()`. -/
def vaultSelector : List UInt8 := [0x69, 0xd4, 0x21, 0x48]

/-- The first bytes of the hash of `validatorsExitBusOracle()`. -/
def exitBusSelector : List UInt8 := [0x12, 0xf8, 0xd4, 0xb9]

def lookUp (wire : Wire ω) (locator : Locator) (selector : List UInt8) : Action ω ScanError String := do
  let data ← (locator.node.callContract wire locator.address selector .latest).mapError
    fun _ => ScanError.unanswered
  match addressWord? data with
  | some bytes => pure (bytesText bytes)
  | none => .fail .unanswered

def vault (wire : Wire ω) (locator : Locator) : Action ω ScanError String :=
  locator.lookUp wire vaultSelector

def exitBus (wire : Wire ω) (locator : Locator) : Action ω ScanError String :=
  locator.lookUp wire exitBusSelector

end Locator
end Exit
end BeaconSentry
