import BeaconSentry.Beacon.Basic
import BeaconSentry.Keys.Basic

/-!
This module contains the links to a block explorer that alerts carry.
-/

namespace BeaconSentry
namespace Watch

open Beacon

structure Links where
  network : String
  deriving Repr, DecidableEq

namespace Links

def slot (links : Links) (slot : Slot) : String :=
  s!"[{slot}](https://{links.network}.beaconcha.in/slot/{slot})"

def validator (links : Links) (index : ValidatorIndex) : String :=
  s!"[{index}](http://{links.network}.beaconcha.in/validator/{index})"

def validators (links : Links) (indices : List ValidatorIndex) : String :=
  "[" ++ ", ".intercalate (indices.map links.validator) ++ "]"

def pubkey (links : Links) (pubkey : String) (keys : OwnedKeys) : String :=
  let title :=
    match keys.owner? pubkey with
    | some key => s!"{key.operatorName} {pubkey}"
    | none => pubkey
  s!"[{title}](https://{links.network}.beaconcha.in/validator/{pubkey})"

end Links
end Watch
end BeaconSentry
