import BeaconSentry.Json.Basic

/-!
This module contains the writing of JSON text without blanks.
-/

namespace BeaconSentry
namespace Json

/--
The form of a character inside a string literal: quotes, backslashes and controls are escaped, all else
stands for itself.
-/
def escapedChar (c : Char) : List Char :=
  if c == '"' then ['\\', '"']
  else if c == '\\' then ['\\', '\\']
  else if c == '\x08' then ['\\', 'b']
  else if c == '\x0c' then ['\\', 'f']
  else if c == '\n' then ['\\', 'n']
  else if c == '\r' then ['\\', 'r']
  else if c == '\t' then ['\\', 't']
  else if c.toNat < 0x20 then
    ['\\', 'u', '0', '0', Nat.digitChar (c.toNat / 16), Nat.digitChar (c.toNat % 16)]
  else [c]

/-- The string literal of a text. A literal that is no text is written with a lone surrogate. -/
def Text.print (text : Text) : List Char :=
  match text with
  | some s => '"' :: s.toList.flatMap escapedChar ++ ['"']
  | none => "\"\\ud800\"".toList

def Number.print (n : Number) : List Char :=
  match n with
  | .natural n => Nat.toDigits 10 n
  | .negative n => '-' :: Nat.toDigits 10 n
  | .decimal minus digits exponent =>
    (if minus then ['-'] else []) ++ Nat.toDigits 10 digits ++ 'e' ::
      (if exponent < 0 then ['-'] else []) ++ Nat.toDigits 10 exponent.natAbs

namespace Value

mutual

def print : Value → List Char
  | .null => ['n', 'u', 'l', 'l']
  | .bool true => ['t', 'r', 'u', 'e']
  | .bool false => ['f', 'a', 'l', 's', 'e']
  | .number n => n.print
  | .string text => Text.print text
  | .array items => '[' :: printItems items ++ [']']
  | .object members => '\x7b' :: printMembers members ++ ['\x7d']

def printItems : List Value → List Char
  | [] => []
  | [item] => item.print
  | item :: rest => item.print ++ ',' :: printItems rest

def printMembers : List (Text × Value) → List Char
  | [] => []
  | [(key, value)] => Text.print key ++ ':' :: value.print
  | (key, value) :: rest => Text.print key ++ ':' :: value.print ++ ',' :: printMembers rest

end

def toText (value : Value) : String := String.ofList value.print

end Value
end Json
end BeaconSentry
