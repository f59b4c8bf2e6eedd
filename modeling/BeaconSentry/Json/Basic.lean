/-!
This module contains JSON documents: numbers as they are written, string literals, and values.
-/

namespace BeaconSentry
namespace Json

inductive Number where
  /-- Digits alone. -/
  | natural (n : Nat)
  /-- A minus sign and digits that are not all zero. -/
  | negative (n : Nat)
  /-- The number `digits * 10 ^ exponent`, negated after a `minus`: any literal with a fraction or an
  exponent, and minus zero. -/
  | decimal (minus : Bool) (digits : Nat) (exponent : Int)
  deriving Repr, DecidableEq, Inhabited

/--
What a string literal says: a text, or nothing if one of its escapes names half of a surrogate pair. Such a
literal is well formed but no text.
-/
abbrev Text := Option String

/-- A JSON document. Members keep their order and may repeat a key. -/
inductive Value where
  | null
  | bool (b : Bool)
  | number (n : Number)
  | string (text : Text)
  | array (items : List Value)
  | object (members : List (Text × Value))
  deriving Repr, Inhabited

namespace Value

def text (s : String) : Value := .string (some s)

def word (n : UInt64) : Value := .number (.natural n.toNat)

def record (members : List (String × Value)) : Value :=
  .object (members.map fun (key, value) => (some key, value))

end Value

end Json
end BeaconSentry
