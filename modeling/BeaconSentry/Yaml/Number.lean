import BeaconSentry.Number.Decimal
import BeaconSentry.Text.Hex

/-!
This module contains the numbers of YAML: which plain scalars write them, and how they are shown.
-/

namespace BeaconSentry
namespace Yaml

inductive Number where
  | whole (n : Int)
  /-- A number of double precision, negated after a `minus`. -/
  | finite (minus : Bool) (size : Binary)
  | infinite (minus : Bool)
  | undefined
  deriving Repr, DecidableEq

namespace Number

/-- Whether two numbers are the same. Whole numbers differ from all other ones, and zero has no sign. -/
def isSame : Number → Number → Bool
  | whole m, whole n => m == n
  | finite minus x, finite minus' y => x.le y && y.le x && (minus == minus' || x.mantissa = 0)
  | infinite minus, infinite minus' => minus == minus'
  | undefined, undefined => true
  | _, _ => false

/-- The value of digits in a base, of which there must be at least one. -/
def valueIn? (base : Nat) (cs : List Char) : Option Nat :=
  if cs.isEmpty then none
  else cs.foldlM (fun n c => ((Hex.digit? c).filter (· < base)).map (n * base + ·)) 0

def marked? : List Char → Option (Nat × List Char)
  | '0' :: 'x' :: rest => some (16, rest)
  | '0' :: 'o' :: rest => some (8, rest)
  | '0' :: 'b' :: rest => some (2, rest)
  | _ => none

def dropSign : List Char → List Char
  | '+' :: rest | '-' :: rest => rest
  | cs => cs

/-- Whether all that a scalar holds is digits after a leading zero, which makes it a text. -/
def isZeroPadded (cs : List Char) : Bool :=
  match dropSign cs with
  | '0' :: c :: rest => (c :: rest).all Char.isDigit
  | _ => false

def natural? (cs : List Char) : Option Nat :=
  match marked? cs with
  | some (base, digits) => valueIn? base digits
  | none => valueIn? 10 cs

def integer? (cs : List Char) : Option Int :=
  if isZeroPadded cs then none
  else
    match cs with
    | '+' :: rest => (natural? rest).map Int.ofNat
    | '-' :: rest => (natural? rest).map fun n => -Int.ofNat n
    | cs => (natural? cs).map Int.ofNat

def infinityNames : List String := [".inf", ".Inf", ".INF"]

def undefinedNames : List String := [".nan", ".NaN", ".NAN"]

def float? (cs : List Char) : Option Number :=
  match cs with
  | '-' :: rest =>
    if infinityNames.contains (String.ofList rest) then some (.infinite true)
    else ((Decimal.parse? rest).bind (·.toBinary?)).map (.finite true)
  | '+' :: rest => positive? rest
  | cs => if undefinedNames.contains (String.ofList cs) then some .undefined else positive? cs
where
  positive? (cs : List Char) : Option Number :=
    if infinityNames.contains (String.ofList cs) then some (.infinite false)
    else ((Decimal.parse? cs).bind (·.toBinary?)).map (.finite false)

def decimalText (digits : Nat) (place : Int) : String :=
  let cs := Nat.toDigits 10 digits
  let point := Int.ofNat cs.length + place
  if 0 ≤ place && point ≤ 16 then
    String.ofList (cs ++ List.replicate place.toNat '0') ++ ".0"
  else if 0 < point && point ≤ 16 then
    String.ofList (cs.take point.toNat) ++ "." ++ String.ofList (cs.drop point.toNat)
  else if -5 < point && point ≤ 0 then
    "0." ++ String.ofList (List.replicate (-point).toNat '0' ++ cs)
  else
    let fraction := if cs.length = 1 then "" else "." ++ String.ofList (cs.drop 1)
    String.ofList (cs.take 1) ++ fraction ++ "e" ++ toString (point - 1)

/-- The text of a number. A tie between decimals goes to the even digit. -/
def toText : Number → String
  | whole n => toString n
  | finite minus size =>
    let (digits, place) := if size.mantissa = 0 then (0, 0) else size.shortest .even
    (if minus then "-" else "") ++ decimalText digits place
  | infinite minus => if minus then "-.inf" else ".inf"
  | undefined => ".nan"

end Number
end Yaml
end BeaconSentry
