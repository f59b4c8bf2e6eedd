import BeaconSentry.Watch.Consolidations
import BeaconSentry.Watch.Exits
import BeaconSentry.Watch.Forks
import BeaconSentry.Watch.Slashings
import BeaconSentry.Watch.Withdrawals

/-!
This module contains the handlers of heads. Each one looks for one kind of events, and remembers the alerts
that it sent.
-/

namespace BeaconSentry
namespace Watch

open Beacon Exit

inductive Handler where
  | slashing (sent : SentAlerts)
  | fork (sent : SentAlerts)
  | exit (watch : ExitWatch)
  | withdrawal (sent : SentAlerts)
  | consolidation (sent : SentAlerts)

structure Outlets (ω : Type) where
  oracle : Option (ExitOracle ω)
  sink : Sink ω

/-- What a handler works on: its memory, what the watcher knows, and the world outside. -/
structure Desk (η ω : Type) where
  handler : η
  state : State
  world : ω

namespace Handler

def name : Handler → String
  | slashing _ => "slashing"
  | fork _ => "fork"
  | exit _ => "exit"
  | withdrawal _ => "el_withdrawal"
  | consolidation _ => "consolidation"

def named? (lookback : UInt64) (disabledModules : List UInt64) (name : String) : Option Handler :=
  let sent := SentAlerts.empty SentAlerts.defaultCapacity
  [slashing sent, fork sent, exit (.start lookback disabledModules), withdrawal sent, consolidation sent].find?
    (·.name == name)

variable {ω : Type}

def deliver (outlets : Outlets ω) (now : Instant) (drafts : List Draft) (remember : SentAlerts → Handler)
    (sent : SentAlerts) (state : State) (world : ω) : Except Failure Unit × Desk Handler ω :=
  let (result, sent, world) := (deliverDrafts outlets.sink now drafts).run (sent, world)
  (result, ⟨remember sent, state, world⟩)

def handle (outlets : Outlets ω) (settings : Settings) (now : Instant) (head : Head) :
    Action (Desk Handler ω) Failure Unit where
  run := fun ⟨handler, state, world⟩ =>
    match handler with
    | slashing sent =>
      deliver outlets now (Slashing.drafts settings state head) slashing sent state world
    | fork sent =>
      let drained := state.drainReorgs.2
      match Fork.drafts settings state head with
      | .error overflow => (.error (.overflow overflow), ⟨fork sent, drained, world⟩)
      | .ok drafts => deliver outlets now drafts fork sent drained world
    | exit watch =>
      let (result, watch, world) :=
        (ExitWatch.handle outlets.oracle outlets.sink settings now state head).run (watch, world)
      (result, ⟨exit watch, state, world⟩)
    | withdrawal sent =>
      deliver outlets now (WithdrawalCategory.drafts settings state head) withdrawal sent state world
    | consolidation sent =>
      deliver outlets now (ConsolidationCategory.drafts settings state head) consolidation sent state world

end Handler
end Watch
end BeaconSentry
