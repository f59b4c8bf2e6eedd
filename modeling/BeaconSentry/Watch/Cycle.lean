import BeaconSentry.Watch.Refresh

/-!
This module contains the cycle of the watcher: fetch a head, let every handler look at it, and remember it if
all of them succeeded. The watcher goes through cycles to follow the head of the chain or to replay slots.
-/

namespace BeaconSentry
namespace Watch

open Beacon

namespace Watcher

variable {η ω : Type}

def ask (action : Action ω Net.ProviderError α) : Action (Watcher η ω) Failure α :=
  (outside action).mapError fun error => .report (.provider error)

def look : Action (Watcher η ω) Failure (Watcher η ω) := ⟨fun watcher => (.ok watcher, watcher)⟩

/--
Whether a header is too old to be the head, which is asked only after the first head. One reading of the clock, before
the search, stands for those that a watcher takes at the arrival of each header. With the time of the last arrival it
turns down the same headers: all but the last of them were stale on their arrival, and by `Slot.isStale_of_le` they
stay so. What holds for every clock thus holds for clocks that move on during the search.
-/
def isStaleHead (plan : Plan η ω) (watcher : Watcher η ω) (id : BlockId) (record : HeaderRecord) :
    Except Overflow Bool :=
  if id.isHead && watcher.state.lastHandledSlot.isSome then
    record.header.slot.isStale plan.genesisTime (plan.services.clock watcher.world)
  else
    .ok false

/--
Whether a node's header is turned down for the header of another node. A header whose age is out of range is
not turned down, so that it ends the search.
-/
def rejectsHeader (plan : Plan η ω) (watcher : Watcher η ω) (id : BlockId) (record : HeaderRecord) : Bool :=
  match watcher.isStaleHead plan id record with
  | .ok stale => stale
  | .error _ => false

/-- Fetch the header and the block of a head, unless its slot was handled last. -/
def fetchHead (plan : Plan η ω) (id : BlockId) : Action (Watcher η ω) Failure (Option Head) := do
  let watcher ← look
  let header ← ask (plan.services.header id (watcher.rejectsHeader plan id))
  let _ ← .ofExcept ((watcher.isStaleHead plan id header).mapError .overflow)
  if watcher.state.lastHandledSlot == some header.header.slot then
    return none
  let block ← ask (plan.services.block (.root header.root))
  return some ⟨header, block⟩

def handlerFailure (name : String) : Failure → Failure
  | .report report => .report (.context s!"{name} handler failed" report)
  | .overflow overflow => .overflow overflow

/-- The worse of two results: a number out of range ends everything, and the earlier report counts. -/
def firstFailure : Except Failure Unit → Except Failure Unit → Except Failure Unit
  | _, .error (.overflow overflow) => .error (.overflow overflow)
  | .error failure, _ => .error failure
  | .ok (), result => result

/--
Let some handlers look at a head, one after the other. A failed handler does not keep the next ones from
looking, unless a number has left its range.
-/
def runHandlers (plan : Plan η ω) (head : Head) :
    List η → Watcher η ω → Except Failure Unit × List η × Watcher η ω
  | [], watcher => (.ok (), [], watcher)
  | handler :: rest, watcher =>
    let name := plan.services.handlerName handler
    match (plan.services.handle plan.settings head).run ⟨handler, watcher.state, watcher.world⟩ with
    | (.error (.overflow overflow), desk) =>
      (.error (.overflow overflow), desk.handler :: rest,
        { watcher with state := desk.state, world := desk.world })
    | (result, desk) =>
      let watcher := { watcher with state := desk.state, world := desk.world }
      let (later, rest, watcher) := runHandlers plan head rest (watcher.note name result.isOk)
      (firstFailure (result.mapError (handlerFailure name)) later, desk.handler :: rest, watcher)

def consult (plan : Plan η ω) (head : Head) : Action (Watcher η ω) Failure Unit where
  run watcher :=
    let (result, handlers, watcher) := runHandlers plan head watcher.handlers watcher
    (result, { watcher with handlers })

def handleHead (plan : Plan η ω) (head : Head) : Action (Watcher η ω) Failure Unit := do
  noted "handle_head" (consult plan head)
  .modify fun watcher => { watcher with state := watcher.state.pushHandled head }

def showHead (head : Head) (watcher : Watcher η ω) : Watcher η ω :=
  let block := (head.blockNumber.map gaugeValue).getD watcher.gauges.block
  { watcher with
    gauges := { watcher.gauges with slot := gaugeValue head.slot, block }
    beats := watcher.beats.map (· + 1) }

/-- Fetch a head and handle it. The result says whether it is a new one. -/
def cycle (plan : Plan η ω) (id : BlockId) : Action (Watcher η ω) Failure Bool := do
  match ← noted "get_header_full_info" (fetchHead plan id) with
  | none => pure false
  | some head =>
    .modify (kick head.slot)
    handleHead plan head
    .modify (showHead head)
    pure true

/--
Follow the head of the chain for some cycles. Before each poll the refreshers have ended and one event stream
was heard to its end. A failed cycle is followed by the next one, except that a number out of range ends the
watcher; once `hasEnded` holds of the world, the watch ends too, and what the last cycle noted does not count.
-/
def follow (plan : Plan η ω) (hasEnded : ω → Bool) : Nat → Action (Watcher η ω) Failure Unit
  | 0 => pure ()
  | cycles + 1 => {
    run := fun watcher =>
      let watcher := (watcher.settle plan).listen plan
      match (cycle plan .head).run watcher with
      | (.error (.overflow overflow), after) => (.error (.overflow overflow), after)
      | (_, after) =>
        if hasEnded after.world then (.ok (), { watcher with world := after.world })
        else (follow plan hasEnded cycles).run after }

/-- Replay slots in order. Slots without a block are passed over. -/
def replay (plan : Plan η ω) : List Slot → Action (Watcher η ω) Failure Unit
  | [] => pure ()
  | slot :: rest => {
    run := fun watcher =>
      match (cycle plan (.slot slot)).run watcher with
      | (.error (.overflow overflow), watcher) => (.error (.overflow overflow), watcher)
      | (.error (.report report), watcher) =>
        if report.isMissingSlot then (replay plan rest).run (watcher.settle plan)
        else (.error (.report report), watcher)
      | (.ok _, watcher) => (replay plan rest).run (watcher.settle plan) }

end Watcher
end Watch
end BeaconSentry
