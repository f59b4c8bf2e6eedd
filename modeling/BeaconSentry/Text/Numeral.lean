/-!
This module contains the reading of decimal numerals as machine integers. A numeral is a sign that its type
allows and at least one digit; leading zeros are fine.
-/

namespace BeaconSentry
namespace Numeral

inductive Error where
  | empty
  | invalidDigit
  | tooLarge
  | tooSmall
  deriving Repr, DecidableEq

def Error.message : Error → String
  | .empty => "cannot parse integer from empty string"
  | .invalidDigit => "invalid digit found in string"
  | .tooLarge => "number too large to fit in target type"
  | .tooSmall => "number too small to fit in target type"

def digit? (c : Char) : Option Nat :=
  if '0' ≤ c ∧ c ≤ '9' then some (c.toNat - '0'.toNat) else none

/--
Read digits after a value `acc`. The first character that is no digit or takes the value beyond `bound`
decides the error.
-/
def digits (bound : Nat) (beyond : Error) (acc : Nat) : List Char → Except Error Nat
  | [] => .ok acc
  | c :: rest =>
    match digit? c with
    | none => .error .invalidDigit
    | some d =>
      if acc * 10 + d ≤ bound then digits bound beyond (acc * 10 + d) rest else .error beyond

/-- Read a numeral without or with a plus sign, up to `bound`. -/
def unsigned (bound : Nat) (s : String) : Except Error Nat :=
  match s.toList with
  | [] => .error .empty
  | ['+'] => .error .invalidDigit
  | '+' :: rest => digits bound .tooLarge 0 rest
  | cs => digits bound .tooLarge 0 cs

/-- Read a numeral that may have a sign, from `-bound - 1` to `bound`. -/
def signed (bound : Nat) (s : String) : Except Error Int :=
  match s.toList with
  | [] => .error .empty
  | ['+'] => .error .invalidDigit
  | ['-'] => .error .invalidDigit
  | '+' :: rest => (digits bound .tooLarge 0 rest).map Int.ofNat
  | '-' :: rest => (digits (bound + 1) .tooSmall 0 rest).map fun n => -Int.ofNat n
  | cs => (digits bound .tooLarge 0 cs).map Int.ofNat

def word (s : String) : Except Error UInt64 :=
  (unsigned (UInt64.size - 1) s).map UInt64.ofNat

end Numeral
end BeaconSentry
