import BeaconSentry.Text.Blank
import BeaconSentry.Text.Lower
import Std.Data.TreeMap

/-!
This module contains validator keys together with who runs them.
-/

namespace BeaconSentry

structure NamedKey where
  key : String
  operatorName : String
  operatorIndex : UInt64
  moduleIndex : UInt64
  deriving Repr, DecidableEq

/-- The form in which keys are compared: without blanks around, in small letters. -/
def NamedKey.normalize (key : String) : String := Text.lower (Text.trim key)

abbrev OwnedKeys := Std.TreeMap String NamedKey

abbrev Registry := Std.TreeMap UInt64 String

namespace OwnedKeys

def owner? (keys : OwnedKeys) (pubkey : String) : Option NamedKey :=
  keys[NamedKey.normalize pubkey]?

theorem isSome_owner?_iff {keys : OwnedKeys} {pubkey : String} :
    (keys.owner? pubkey).isSome = true ↔ NamedKey.normalize pubkey ∈ keys :=
  Std.TreeMap.mem_iff_isSome_getElem?.symm

/-- The map of some keys, each under its own text; later keys replace earlier ones. -/
def ofKeys (keys : List NamedKey) : OwnedKeys :=
  keys.foldl (fun owned key => owned.insert key.key key) ∅

end OwnedKeys

end BeaconSentry
