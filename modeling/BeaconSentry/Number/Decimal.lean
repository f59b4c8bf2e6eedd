import BeaconSentry.Number.Binary

/-!
This module contains unsigned decimals as they are written, with a point or an exponent, and the binary
numbers of double precision that they stand for.
-/

namespace BeaconSentry

/-- The number `digits * 10 ^ exponent`. -/
structure Decimal where
  digits : Nat
  exponent : Int
  deriving Repr, DecidableEq

namespace Decimal

def ofDigits (cs : List Char) : Nat := cs.foldl (fun n c => n * 10 + (c.toNat - '0'.toNat)) 0

/-- An exponent without its mark: an optional sign and at least one digit. -/
def exponent? (cs : List Char) : Option Int :=
  let (minus, cs) :=
    match cs with
    | '-' :: rest => (true, rest)
    | '+' :: rest => (false, rest)
    | cs => (false, cs)
  if cs.isEmpty || !cs.all Char.isDigit then none
  else some (if minus then -Int.ofNat (ofDigits cs) else Int.ofNat (ofDigits cs))

/-- Read a decimal: digits with at most one point among or beside them, and then at most one exponent. -/
def parse? (cs : List Char) : Option Decimal :=
  let whole := cs.takeWhile Char.isDigit
  let (fraction, rest) :=
    match cs.dropWhile Char.isDigit with
    | '.' :: rest => (rest.takeWhile Char.isDigit, rest.dropWhile Char.isDigit)
    | rest => ([], rest)
  if whole.isEmpty && fraction.isEmpty then none
  else
    let digits := ofDigits (whole ++ fraction)
    match rest with
    | [] => some ⟨digits, -fraction.length⟩
    | mark :: rest =>
      if mark == 'e' || mark == 'E' then
        (exponent? rest).map fun exponent => ⟨digits, exponent - fraction.length⟩
      else none

def scale (x : Decimal) : Int := Int.ofNat (Nat.toDigits 10 x.digits).length + x.exponent

def scaleBound : Int := 400

/-- The nearest binary number, unless the decimal is too large. -/
def toBinary? (x : Decimal) : Option Binary :=
  if x.digits = 0 || x.scale < -scaleBound then some .zero
  else if scaleBound < x.scale then none
  else
    let (a, b) := Binary.scale 10 x.digits 1 x.exponent
    let nearest := Binary.ofFraction a b
    if nearest.exponent ≤ Binary.greatestExponent then some nearest else none

end Decimal
end BeaconSentry
