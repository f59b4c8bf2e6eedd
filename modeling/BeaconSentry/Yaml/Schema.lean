import BeaconSentry.Text.Utf8
import BeaconSentry.Yaml.Grammar
import BeaconSentry.Yaml.Lexer
import BeaconSentry.Yaml.Value

/-!
This module contains the schema by which nodes stand for values: the types of scalars, references to other
nodes, and the rule that no key of a mapping is repeated.
-/

namespace BeaconSentry
namespace Yaml
namespace Schema

def standardTag (name : String) : Tag := Utf8.encode ("tag:yaml.org,2002:" ++ name)

/-- The name of a tag that means something only to the reader: what follows its exclamation mark, if anything. -/
def localTag? (tag : Tag) : Option String :=
  match tag with
  | 0x21 :: [] => some "!"
  | 0x21 :: rest => Utf8.decode? rest
  | _ => none

def withTag (tag : Option Tag) (value : Value) : Value :=
  match tag.bind localTag? with
  | some name => .tagged name value
  | none => value

def isNull (text : String) : Bool := ["null", "Null", "NULL", "~"].contains text

def bool? (text : String) : Option Bool :=
  if ["true", "True", "TRUE"].contains text then some true
  else if ["false", "False", "FALSE"].contains text then some false
  else none

inductive Whole where
  | inRange (n : Int)
  /-- It is too large for a word, but not for two of them. -/
  | outOfRange
  /-- There is no integer, or one that does not count as such. -/
  | none
  deriving Repr, DecidableEq

def whole (text : String) : Whole :=
  match Number.integer? text.toList with
  | .none => .none
  | some n =>
    if -0x8000000000000000 ≤ n ∧ n < 0x10000000000000000 then .inRange n
    else if -0x80000000000000000000000000000000 ≤ n ∧ n < 0x100000000000000000000000000000000 then .outOfRange
    else .none

def float? (text : String) : Option Number :=
  if Number.isZeroPadded text.toList then none else Number.float? text.toList

/-- The value of a plain scalar. Integers out of range are refused. -/
def plain? (text : String) : Option Value :=
  if text.isEmpty || isNull text then some .null
  else
    match bool? text, whole text, float? text with
    | some b, _, _ => some (.bool b)
    | none, .inRange n, _ => some (.number (.whole n))
    | none, .outOfRange, _ => none
    | none, .none, some x => some (.number x)
    | none, .none, none => some (.string text)

def untagged? (isPlain : Bool) (text : String) : Option Value :=
  if isPlain then plain? text else some (.string text)

/-- The value of a scalar. Standard tags ask for a type, and other ones for a text. -/
def scalar? (tag : Option Tag) (isPlain : Bool) (text : String) : Option Value :=
  match tag with
  | none => untagged? isPlain text
  | some tag =>
    if (localTag? tag).isSome then (untagged? isPlain text).map (withTag (some tag))
    else if tag == standardTag "bool" then (bool? text).map .bool
    else if tag == standardTag "int" then
      match whole text with
      | .inRange n => some (.number (.whole n))
      | _ => none
    else if tag == standardTag "float" then (Number.float? text.toList).map .number
    else if tag == standardTag "null" then (if isNull text then some .null else none)
    else if tag.head? == some 0x21 then untagged? isPlain text
    else some (.string text)

/-- Look up what a node refers to. Each reference takes one of the steps that are left. -/
def follow (anchors : List (Nat × Node Nat)) (left : Nat) : Node Nat → Option (Node Nat × Nat)
  | .alias number => if left = 0 then none else (Node.target? anchors number).map (·, left - 1)
  | node => some (node, left)

def readAll {α β : Type} (read : Nat → α → Option (β × Nat)) (left : Nat) : List α → Option (List β × Nat)
  | [] => some ([], left)
  | item :: rest => do
    let (item, left) ← read left item
    let (rest, left) ← readAll read left rest
    pure (item :: rest, left)

def readEntry (read : Nat → Node Nat → Option (Value × Nat)) (left : Nat) (entry : Node Nat × Node Nat) :
    Option ((Value × Value) × Nat) := do
  let (key, left) ← read left entry.1
  let (value, left) ← read left entry.2
  pure ((key, value), left)

def hasRepetition : List Value → Bool
  | [] => false
  | value :: rest => rest.any (value.isSame ·) || hasRepetition rest

/-- Read the entries of a mapping, whose keys must differ. -/
def readEntries (read : Nat → Node Nat → Option (Value × Nat)) (left : Nat)
    (entries : List (Node Nat × Node Nat)) : Option (List (Value × Value) × Nat) :=
  (readAll (readEntry read) left entries).filter fun (entries, _) => !hasRepetition (entries.map (·.1))

def read (anchors : List (Nat × Node Nat)) : Nat → Nat → Node Nat → Option (Value × Nat)
  | depth, left, node => do
    let (node, left) ← follow anchors left node
    match node, depth with
    | .scalar properties isPlain text, _ => pure (← scalar? properties.tag isPlain text, left)
    | .sequence properties items, depth + 1 =>
      let (items, left) ← readAll (read anchors depth) left items
      pure (withTag properties.tag (.sequence items), left)
    | .mapping properties entries, depth + 1 =>
      let (entries, left) ← readEntries (read anchors depth) left entries
      pure (withTag properties.tag (.mapping entries), left)
    | _, _ => none

def depthLimit : Nat := 128

def stepsPerPart : Nat := 100

def entries? (document : Node Nat) : Option (List (Value × Value)) :=
  match document with
  | .scalar _ isPlain text => if isPlain && text.isEmpty then some [] else none
  | .mapping _ entries =>
    (readEntries (read document.anchors (depthLimit - 1)) (stepsPerPart * document.size) entries).map (·.1)
  | _ => none

end Schema

def entriesOfText? (text : String) : Option (List (Value × Value)) := do
  let (document, _) ← (← Node.ofTokens? (← Token.scan text)).number? []
  Schema.entries? document

end Yaml
end BeaconSentry
