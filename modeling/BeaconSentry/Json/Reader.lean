import BeaconSentry.Json.Token

/-!
This module contains the reading of JSON text. The lexemes of a document drive a machine whose stack holds
the arrays and objects that are still open, so that a document may be nested to any depth.
-/

namespace BeaconSentry
namespace Json

/-- An array or object that is still open; what it holds so far is in reverse order. -/
inductive Frame where
  | array (items : List Value)
  | object (members : List (Text × Value)) (key : Text)
  deriving Repr

inductive Expect where
  /-- A value. -/
  | value
  /-- The first item of an array or its end. -/
  | itemOrEnd
  /-- The first key of an object or its end. -/
  | keyOrEnd
  /-- A key, in an object with these members. -/
  | key (members : List (Text × Value))
  /-- The colon after a key. -/
  | colon (members : List (Text × Value)) (key : Text)
  /-- A comma or the end of the innermost open array or object; a value has just been read. -/
  | next (last : Value)
  deriving Repr

structure Machine where
  expect : Expect
  stack : List Frame
  deriving Repr

namespace Machine

def start : Machine := ⟨.value, []⟩

def holding (value : Value) (stack : List Frame) : Machine := ⟨.next value, stack⟩

def begin? (token : Token) (stack : List Frame) : Option Machine :=
  match token with
  | .null => some (holding .null stack)
  | .bool b => some (holding (.bool b) stack)
  | .number n => some (holding (.number n) stack)
  | .string text => some (holding (.string text) stack)
  | .openBracket => some ⟨.itemOrEnd, stack⟩
  | .openBrace => some ⟨.keyOrEnd, stack⟩
  | _ => none

def step? (machine : Machine) (token : Token) : Option Machine :=
  match machine.expect, token, machine.stack with
  | .value, token, stack => begin? token stack
  | .itemOrEnd, .closeBracket, stack => some (holding (.array []) stack)
  | .itemOrEnd, token, stack => begin? token (.array [] :: stack)
  | .keyOrEnd, .closeBrace, stack => some (holding (.object []) stack)
  | .keyOrEnd, .string key, stack => some ⟨.colon [] key, stack⟩
  | .key members, .string key, stack => some ⟨.colon members key, stack⟩
  | .colon members key, .colon, stack => some ⟨.value, .object members key :: stack⟩
  | .next last, .comma, .array items :: stack => some ⟨.value, .array (last :: items) :: stack⟩
  | .next last, .closeBracket, .array items :: stack =>
    some (holding (.array (last :: items).reverse) stack)
  | .next last, .comma, .object members key :: stack => some ⟨.key ((key, last) :: members), stack⟩
  | .next last, .closeBrace, .object members key :: stack =>
    some (holding (.object ((key, last) :: members).reverse) stack)
  | _, _, _ => none

def result? (machine : Machine) : Option Value :=
  match machine.expect, machine.stack with
  | .next value, [] => some value
  | _, _ => none

end Machine

def Value.ofTokens? (tokens : List Token) : Option Value :=
  (tokens.foldlM Machine.step? .start).bind Machine.result?

def Value.parse? (text : String) : Option Value :=
  (Token.scan text.toList).bind Value.ofTokens?

end Json
end BeaconSentry
