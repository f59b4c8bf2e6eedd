import BeaconSentry.Keys.Basic
import BeaconSentry.Text.Utf8
import BeaconSentry.Time.Instant
import BeaconSentry.Yaml.Schema

/-!
This module contains key files, which list the keys of the operators of each module, and the source of owned
keys that follows such a file. It reads the file only when its time of modification has changed.
-/

namespace BeaconSentry
namespace Keys

open Yaml

structure ListedOperator where
  name : String
  keys : List String
  deriving Repr, DecidableEq

namespace ListedOperator

def text? (value : Value) : Option String :=
  match value.untagged with
  | .string text => some text
  | _ => none

/-- A list of values, which may be left out. -/
def items? (value : Value) : Option (List Value) :=
  match value.untagged with
  | .sequence items => some items
  | .null => some []
  | _ => none

/-- The entries of a mapping by name, which may be left out. -/
def members? (value : Value) : Option (List (String × Value)) :=
  match value.untagged with
  | .mapping entries => entries.mapM fun (key, value) => (text? key).map (·, value)
  | .null => some []
  | _ => none

/-- The member with a name, which must not be given twice. -/
def member? (name : String) (members : List (String × Value)) : Option (Option Value) :=
  match members.filter (·.1 == name) with
  | [] => some none
  | [(_, value)] => some (some value)
  | _ => none

/-- Read an operator. It must have a name, and what else is said of it does not matter. -/
def ofValue? (value : Value) : Option ListedOperator := do
  let members ← members? value
  let name ← (← member? "name" members).bind text?
  match ← member? "keys" members with
  | some keys => pure ⟨name, ← (← items? keys).mapM text?⟩
  | none => pure ⟨name, []⟩

end ListedOperator

inductive FileError where
  /-- The file is not there. -/
  | absent
  /-- The file cannot be read. -/
  | unreadable
  /-- The file holds bytes that are no text. -/
  | notText
  /-- The text is no mapping of modules. -/
  | malformed
  /-- The operators of a module cannot be read. -/
  | badModule (name : Value)

namespace FileError

def message (path : String) : FileError → String
  | absent => s!"failed to stat {path}"
  | unreadable => s!"failed to read {path}"
  | notText => "stream did not contain valid UTF-8"
  | malformed | badModule _ => s!"failed to parse {path}"

def detail? : FileError → Option String
  | badModule name => some s!"invalid operators of module {name.describe}"
  | _ => none

end FileError

/-- The content of a key file: the operators of each module, in the order in which they are written. -/
abbrev KeyFile := List (List ListedOperator)

namespace KeyFile

def ofEntries (entries : List (Value × Value)) : Except FileError KeyFile :=
  entries.mapM fun (name, operators) =>
    match (ListedOperator.items? operators).bind (·.mapM ListedOperator.ofValue?) with
    | some operators => .ok operators
    | none => .error (.badModule name)

def parse (text : String) : Except FileError KeyFile :=
  match entriesOfText? text with
  | some entries => ofEntries entries
  | none => .error .malformed

def namedKey (moduleIndex operatorIndex : Nat) (operator : ListedOperator) (key : String) : NamedKey where
  key := NamedKey.normalize key
  operatorName := operator.name
  operatorIndex := UInt64.ofNat operatorIndex
  moduleIndex := UInt64.ofNat moduleIndex

/-- All keys in order. Modules count from one, and so do the operators of each module. -/
def namedKeys (file : KeyFile) : List NamedKey :=
  (file.zipIdx 1).flatMap fun (operators, moduleIndex) =>
    (operators.zipIdx 1).flatMap fun (operator, operatorIndex) =>
      operator.keys.map (namedKey moduleIndex operatorIndex operator)

def ownedKeys (file : KeyFile) : OwnedKeys := .ofKeys file.namedKeys

def ownedKeysOfBytes (bytes : List UInt8) : Except FileError OwnedKeys :=
  match Utf8.decode? bytes with
  | some text => (parse text).map ownedKeys
  | none => .error .notText

end KeyFile

structure FileVersion where
  modified : Instant
  /-- The bytes, if they can be read. -/
  content : Option (List UInt8)
  deriving Repr, DecidableEq

def ownedKeysOfVersion : Option FileVersion → Except FileError OwnedKeys
  | none | some ⟨_, none⟩ => .error .unreadable
  | some ⟨_, some bytes⟩ => KeyFile.ownedKeysOfBytes bytes

/-- What a source remembers of its file: when the version was modified that it has read last. -/
structure FileSource where
  lastModified : Option Instant
  deriving Repr, DecidableEq

namespace FileSource

def start : FileSource := ⟨none⟩

/--
Look for new keys. The source first looks when the file was modified and then, if need be, reads it; between
these two steps the file may be replaced. The result is the owned keys if the file was read. A failed update
leaves the source as it was.
-/
def update (seen found : Option FileVersion) (source : FileSource) :
    Except FileError (Option OwnedKeys) × FileSource :=
  match seen with
  | none => (.error .absent, source)
  | some version =>
    if source.lastModified = some version.modified then (.ok none, source)
    else
      match ownedKeysOfVersion found with
      | .ok keys => (.ok (some keys), ⟨some version.modified⟩)
      | .error error => (.error error, source)

end FileSource
end Keys
end BeaconSentry
