import BeaconSentry.Alert.History
import BeaconSentry.Action
import BeaconSentry.Report

/-!
This module contains the delivery of alerts, and the delivery of those only that no recent alert repeats.
-/

namespace BeaconSentry

structure Sink (ω : Type) where
  deliver : List Alert → Action ω Report Unit

namespace SentAlerts

variable {ω : Type}

/-- Deliver an alert unless it repeats a recent one. The result says whether it was delivered. -/
def sendOnce (sink : Sink ω) (alert : Alert) : Action (SentAlerts × ω) Report Bool where
  run := fun (history, world) =>
    if history.isSent alert then (.ok false, history, world)
    else
      match (sink.deliver [alert]).run world with
      | (.ok (), world) => (.ok true, history.remember alert, world)
      | (.error report, world) => (.error report, history, world)

/-- Deliver alerts in order, as far as they do not repeat recent ones. The first failure ends the delivery. -/
def sendEach (sink : Sink ω) : List Alert → Action (SentAlerts × ω) Report Unit
  | [] => pure ()
  | alert :: rest => do
    let _ ← sendOnce sink alert
    sendEach sink rest

end SentAlerts
end BeaconSentry
