import BeaconSentry.Text.Quoted
import BeaconSentry.Yaml.Number

/-!
This module contains the values of YAML, when two of them are the same, and how they are shown.
-/

namespace BeaconSentry
namespace Yaml

/-- A value. The entries of a mapping are in the order in which they are written. -/
inductive Value where
  | null
  | bool (b : Bool)
  | number (n : Number)
  | string (text : String)
  | sequence (items : List Value)
  | mapping (entries : List (Value × Value))
  /-- A value with a tag that means something only to the reader. -/
  | tagged (tag : String) (value : Value)

namespace Value

def untagged : Value → Value
  | tagged _ value => value.untagged
  | value => value

/-- A tag without its exclamation mark, unless it is nothing else. -/
def bareTag (tag : String) : String :=
  match tag.toList with
  | '!' :: c :: rest => String.ofList (c :: rest)
  | _ => tag

mutual

/-- Whether two values are the same. The order of the entries of a mapping does not matter. -/
def isSame : Value → Value → Bool
  | .null, .null => true
  | .bool a, .bool b => a == b
  | .number a, .number b => a.isSame b
  | .string a, .string b => a == b
  | .sequence a, .sequence b => sameItems a b
  | .mapping a, .mapping b => a.length = b.length && sameEntries a b
  | .tagged tag a, .tagged tag' b => bareTag tag == bareTag tag' && isSame a b
  | _, _ => false

def sameItems : List Value → List Value → Bool
  | [], [] => true
  | a :: as, b :: bs => isSame a b && sameItems as bs
  | _, _ => false

def sameEntries : List (Value × Value) → List (Value × Value) → Bool
  | [], _ => true
  | (key, value) :: rest, entries =>
    entries.any (fun (other, otherValue) => isSame key other && isSame value otherValue) &&
      sameEntries rest entries

end

mutual

/-- The description of a value, which names its kind. -/
def describe : Value → String
  | .null => "Null"
  | .bool b => s!"Bool({b})"
  | .number n => s!"Number({n.toText})"
  | .string text => s!"String({Text.quoted text})"
  | .sequence items => "Sequence [" ++ ", ".intercalate (describeItems items) ++ "]"
  | .mapping entries => "Mapping \x7b" ++ ", ".intercalate (describeEntries entries) ++ "\x7d"
  | .tagged tag value =>
    "TaggedValue \x7b tag: !" ++ bareTag tag ++ ", value: " ++ describe value ++ " \x7d"

/-- The description of a key in a mapping, which does not name the kind of plain values. -/
def describeKey : Value → String
  | .bool b => toString b
  | .number n => n.toText
  | .string text => Text.quoted text
  | value => describe value

def describeItems : List Value → List String
  | [] => []
  | item :: rest => describe item :: describeItems rest

def describeEntries : List (Value × Value) → List String
  | [] => []
  | (key, value) :: rest => (describeKey key ++ ": " ++ describe value) :: describeEntries rest

end

end Value
end Yaml
end BeaconSentry
