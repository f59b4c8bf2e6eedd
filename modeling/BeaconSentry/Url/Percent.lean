import BeaconSentry.Text.Hex
import BeaconSentry.Text.Utf8

/-!
This module contains the writing of characters that a part of a URL does not admit: percent signs with two
digits per byte, and the form in which query pairs are written.
-/

namespace BeaconSentry
namespace Percent

def escape (b : UInt8) : List Char :=
  ['%', (Nat.digitChar (b.toNat / 16)).toUpper, (Nat.digitChar (b.toNat % 16)).toUpper]

def isControl (c : Char) : Bool := c.toNat < 0x20 || c.toNat == 0x7f

/-- Write a text, with controls, characters beyond ASCII and those of `extra` as escapes. -/
def encode (extra : String) (cs : List Char) : String :=
  String.ofList (cs.flatMap fun c =>
    if c.toNat ≥ 0x80 || isControl c || extra.toList.contains c then
      (Utf8.encode c.toString).flatMap escape
    else
      [c])

def userInfo : String := " \"<>\x60#?\x7b\x7d/:;=@[\\]^|"

def path : String := " \"<>\x60#?\x7b\x7d"

def query : String := " \"#<>"

def webQuery : String := query ++ "'"

def fragment : String := " \"<>\x60"

def decode : List Char → List UInt8
  | [] => []
  | '%' :: a :: b :: rest =>
    match Hex.digit? a, Hex.digit? b with
    | some high, some low => UInt8.ofNat (high * 16 + low) :: decode rest
    | _, _ => 37 :: decode (a :: b :: rest)
  | c :: rest => Utf8.encode c.toString ++ decode rest

def formEncode (s : String) : String :=
  String.ofList ((Utf8.encode s).flatMap fun b =>
    let c := Char.ofNat b.toNat
    if b < 0x80 && (c.isAlphanum || "*-._".toList.contains c) then [c]
    else if b == 32 then ['+']
    else escape b)

def formQuery (pairs : List (String × String)) : String :=
  "&".intercalate (pairs.map fun (name, value) => formEncode name ++ "=" ++ formEncode value)

end Percent
end BeaconSentry
