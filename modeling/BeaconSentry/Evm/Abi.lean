import BeaconSentry.Text.Hex
import BeaconSentry.Word

/-!
This module contains the form of values at the interface of contracts: 32-byte words, from which integers and
addresses are read, and hexadecimal text for bytes and quantities.
-/

namespace BeaconSentry
namespace Evm

def wordLength : Nat := 32

/-- The integer that bytes write, highest byte first. -/
def natOfBytes (bytes : List UInt8) : Nat := bytes.foldl (fun n b => n * 256 + b.toNat) 0

/-- The integer in the word at the front of some data. What follows the word does not matter. -/
def natWord? (data : List UInt8) : Option Nat :=
  if wordLength ≤ data.length then some (natOfBytes (data.take wordLength)) else none

def saturate (n : Nat) : UInt64 := if n < UInt64.size then UInt64.ofNat n else Word.max

def addressLength : Nat := 20

/-- The address in the word at the front of some data: its last bytes. -/
def addressWord? (data : List UInt8) : Option (List UInt8) :=
  if wordLength ≤ data.length then some ((data.take wordLength).drop (wordLength - addressLength)) else none

def bytesText (bytes : List UInt8) : String := "0x" ++ Hex.ofBytes bytes

def bytesOfText? (text : String) : Option (List UInt8) := Hex.bytes? (Hex.stripMarker text.toList)

def quantityText (n : UInt64) : String := Hex.ofNat n.toNat

def quantityOfText? (text : String) : Option UInt64 := do
  let '0' :: 'x' :: digits := text.toList | none
  let n ← if digits.isEmpty then none else Hex.value? 0 digits
  if n < UInt64.size then some (UInt64.ofNat n) else none

/--
Whether data holds a byte string and an integer side by side: the position of the byte string, the integer,
and at that position the length of the byte string and its bytes.
-/
def holdsBytesAndWord (data : List UInt8) : Bool :=
  match natWord? data, natWord? (data.drop wordLength) with
  | some position, some _ =>
    match natWord? (data.drop position) with
    | some length => position + wordLength + length ≤ data.length
    | none => false
  | _, _ => false

end Evm
end BeaconSentry
