import BeaconSentry.Json.Decode

/-!
This module contains the integers of beacon data: written as decimal numerals in quotes, and read from such
numerals or from plain numbers.
-/

namespace BeaconSentry
namespace Beacon
namespace Quantity

open Json

/-- Read an integer that is at least zero and below `size`. -/
def decodeNat (size : Nat) : Decoder Nat
  | .string (some s) => (Numeral.unsigned (size - 1) s).toOption
  | value => value.asNat size

/-- Read an integer from `-bound - 1` to `bound`; only quoted ones may have a sign. -/
def decodeInt (bound : Nat) : Decoder Int
  | .string (some s) => (Numeral.signed bound s).toOption
  | value => (value.asNat (bound + 1)).map Int.ofNat

def decode (value : Value) : Option UInt64 := (decodeNat UInt64.size value).map UInt64.ofNat

def decodeList : Decoder (List UInt64) := Value.asList decode

def encode (n : UInt64) : Value := .text (toString n.toNat)

def encodeList (ns : List UInt64) : Value := .array (ns.map encode)

end Quantity
end Beacon
end BeaconSentry
