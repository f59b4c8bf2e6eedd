import BeaconSentry.Alert.Basic

/-!
This module contains the memory of alerts that were sent: the annotations of the latest ones, which tell
repeats apart from news.
-/

namespace BeaconSentry

/-- The annotations of the latest alerts, oldest first, at most `capacity` many. -/
structure SentAlerts where
  capacity : Nat
  sent : List Annotations
  deriving Repr, DecidableEq

namespace SentAlerts

/-- How many alerts a memory holds unless it is told otherwise. -/
def defaultCapacity : Nat := 10

def empty (capacity : Nat) : SentAlerts := ⟨capacity, []⟩

def isSent (history : SentAlerts) (alert : Alert) : Bool :=
  history.sent.contains alert.annotations

def remember (history : SentAlerts) (alert : Alert) : SentAlerts :=
  let sent := history.sent ++ [alert.annotations]
  { history with sent := sent.drop (sent.length - history.capacity) }

def size (history : SentAlerts) : Nat := history.sent.length

def isEmpty (history : SentAlerts) : Bool := history.sent.isEmpty

end SentAlerts
end BeaconSentry
