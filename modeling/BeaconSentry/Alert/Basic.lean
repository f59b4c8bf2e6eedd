import BeaconSentry.Time.Instant
import Std.Data.TreeMap

/-!
This module contains alerts: what they say, how they are routed and when they end.
-/

namespace BeaconSentry

abbrev Labels := Std.TreeMap String String

/-- The labels given by some pairs; later pairs replace earlier ones. -/
def Labels.ofList (pairs : List (String × String)) : Labels :=
  pairs.foldl (fun labels (name, value) => labels.insert name value) ∅

inductive Severity where
  | critical
  | info
  deriving Repr, DecidableEq

def Severity.label : Severity → String
  | .critical => "critical"
  | .info => "info"

/-- What an alert tells people. Alerts with equal annotations repeat each other. -/
structure Annotations where
  summary : String
  description : String
  deriving Repr, DecidableEq

/-- An alert. Its name ends with the milliseconds of its start. -/
structure Alert where
  startsAt : Instant
  endsAt : Instant
  name : String
  severity : Severity
  extra : Labels
  annotations : Annotations

namespace Alert

def lifetime : Nat := 5

/-- The length of an alert in milliseconds. -/
def millis (alert : Alert) : Int := alert.endsAt.millis - alert.startsAt.millis

/-- The name without the milliseconds of its start. -/
def kindName (alert : Alert) : String :=
  String.ofList (alert.name.toList.take
    (alert.name.length - (toString alert.startsAt.millis).length))

end Alert

structure AlertKind where
  name : String
  severity : Severity
  deriving Repr, DecidableEq

namespace AlertKind

def alert (kind : AlertKind) (now : Instant) (annotations : Annotations) (extra : Labels) : Alert where
  startsAt := now
  endsAt := now.later Alert.lifetime
  name := kind.name ++ toString now.millis
  severity := kind.severity
  extra := extra
  annotations := annotations

def alert? (kind : AlertKind) (now : Instant) (annotations : Annotations) (extra : Labels) :
    Except Overflow Alert := do
  let _ ← now.later? Alert.lifetime
  pure (kind.alert now annotations extra)

end AlertKind
end BeaconSentry
