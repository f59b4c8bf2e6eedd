import BeaconSentry.Json.Reader
import BeaconSentry.Text.Numeral

/-!
This module contains the decoding of JSON documents as records. A record is given as an object, in which
unknown keys are passed over and known keys may not repeat, or as an array of its fields in order.
-/

namespace BeaconSentry
namespace Json

abbrev Decoder (α : Type) := Value → Option α

namespace Value

/-- Whether some names occur at most once each among the keys of an object. -/
def namesUnique (names : List String) (members : List (Text × Value)) : Bool :=
  names.all fun name => (members.filter fun (key, _) => key == some name).length ≤ 1

def member? (members : List (Text × Value)) (name : String) : Option Value :=
  (members.find? fun (key, _) => key == some name).map (·.2)

/--
The values that a document gives for the fields of a record, aligned with the field names; `none` stands for
a field that is not given.
-/
def fields? (names : List String) : Value → Option (List (Option Value))
  | .object members =>
    if members.all (·.1.isSome) && namesUnique names members then
      some (names.map (member? members))
    else
      none
  | .array items =>
    if items.length ≤ names.length then
      some (items.map some ++ List.replicate (names.length - items.length) none)
    else
      none
  | _ => none

def asText : Decoder String
  | .string text => text
  | _ => none

def asBool : Decoder Bool
  | .bool b => some b
  | _ => none

def asNat (size : Nat) : Decoder Nat
  | .number (.natural n) => if n < size then some n else none
  | _ => none

def asWord (value : Value) : Option UInt64 := (value.asNat UInt64.size).map UInt64.ofNat

def asList (decode : Decoder α) : Decoder (List α)
  | .array items => items.mapM decode
  | _ => none

def asMembers (decode : Decoder α) : Decoder (List (String × α))
  | .object members => members.mapM fun (key, value) => do pure (← key, ← decode value)
  | _ => none

end Value

/-- The value of a field that must be given. -/
def required (decode : Decoder α) (field : Option Value) : Option α := field.bind decode

def defaulted (default : α) (decode : Decoder α) (field : Option Value) : Option α :=
  match field with
  | none => some default
  | some value => decode value

def optional (decode : Decoder α) (field : Option Value) : Option (Option α) :=
  match field with
  | none => some none
  | some .null => some none
  | some value => (decode value).map some

def decode? (decode : Decoder α) (text : String) : Option α := (Value.parse? text).bind decode

end Json
end BeaconSentry
