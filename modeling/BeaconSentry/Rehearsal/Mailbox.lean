import BeaconSentry.Alert.Sink

/-!
This module contains a sink that keeps the alerts it gets and can be broken, so that alerts can be rehearsed
without anyone being alerted.
-/

namespace BeaconSentry
namespace Rehearsal

structure Mailbox where
  alerts : List Alert
  isBroken : Bool

namespace Mailbox

def empty : Mailbox := ⟨[], false⟩

/-- Take alerts in, unless the mailbox is broken. -/
def take (alerts : List Alert) (mailbox : Mailbox) : Except Report Unit × Mailbox :=
  if mailbox.isBroken then (.error (.plain "sink is broken"), mailbox)
  else (.ok (), { mailbox with alerts := mailbox.alerts ++ alerts })

def sink : Sink Mailbox := ⟨fun alerts => ⟨take alerts⟩⟩

end Mailbox
end Rehearsal
end BeaconSentry
