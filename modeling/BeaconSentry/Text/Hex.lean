/-!
This module contains hexadecimal notation of bytes and numbers.
-/

namespace BeaconSentry
namespace Hex

def digit? (c : Char) : Option Nat :=
  if '0' ≤ c ∧ c ≤ '9' then some (c.toNat - '0'.toNat)
  else if 'a' ≤ c ∧ c ≤ 'f' then some (c.toNat - 'a'.toNat + 10)
  else if 'A' ≤ c ∧ c ≤ 'F' then some (c.toNat - 'A'.toNat + 10)
  else none

def bytes? : List Char → Option (List UInt8)
  | [] => some []
  | [_] => none
  | high :: low :: rest => do
    let h ← digit? high
    let l ← digit? low
    let bytes ← bytes? rest
    pure (UInt8.ofNat (h * 16 + l) :: bytes)

def ofBytes (bytes : List UInt8) : String :=
  String.ofList (bytes.flatMap fun b =>
    [Nat.digitChar (b.toNat / 16), Nat.digitChar (b.toNat % 16)])

/-- Drop the marker `0x` if it is there. -/
def stripMarker : List Char → List Char
  | '0' :: 'x' :: rest => rest
  | cs => cs

/-- The value of digits after `acc`. -/
def value? (acc : Nat) : List Char → Option Nat
  | [] => some acc
  | c :: rest => do
    let d ← digit? c
    value? (acc * 16 + d) rest

/-- A number in the fewest digits after the marker `0x`. -/
def ofNat (n : Nat) : String := "0x" ++ String.ofList (Nat.toDigits 16 n)

end Hex
end BeaconSentry
