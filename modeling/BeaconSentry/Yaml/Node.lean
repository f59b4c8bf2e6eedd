/-!
This module contains the nodes of a document before their scalars have types. References between nodes are
names as they are written, or numbers.
-/

namespace BeaconSentry
namespace Yaml

abbrev Tag := List UInt8

structure Properties (ρ : Type) where
  /-- What other nodes refer to the node by. -/
  anchor : Option ρ
  tag : Option Tag
  deriving Repr, DecidableEq

def Properties.none {ρ : Type} : Properties ρ := ⟨Option.none, Option.none⟩

def Properties.isNone {ρ : Type} (properties : Properties ρ) : Bool :=
  properties.anchor.isNone && properties.tag.isNone

/-- A node with references of type `ρ`. -/
inductive Node (ρ : Type) where
  | alias (reference : ρ)
  | scalar (properties : Properties ρ) (isPlain : Bool) (text : String)
  | sequence (properties : Properties ρ) (items : List (Node ρ))
  | mapping (properties : Properties ρ) (entries : List (Node ρ × Node ρ))

namespace Node

variable {ρ : Type}

def blank (properties : Properties ρ) : Node ρ := scalar properties true ""

mutual

/-- The size of a node: one for a reference or a scalar, and two for a collection with what it holds. -/
def size : Node ρ → Nat
  | .alias _ | .scalar .. => 1
  | .sequence _ items => 2 + sizeOfItems items
  | .mapping _ entries => 2 + sizeOfEntries entries

def sizeOfItems : List (Node ρ) → Nat
  | [] => 0
  | item :: rest => size item + sizeOfItems rest

def sizeOfEntries : List (Node ρ × Node ρ) → Nat
  | [] => 0
  | (key, value) :: rest => size key + size value + sizeOfEntries rest

end

abbrev Names := List (String × Nat)

/-- Give an anchor its number, which is how many different names there were before. -/
def Names.define (name : String) (names : Names) : Nat × Names :=
  (names.length, (name, names.length) :: names.filter (·.1 != name))

def numberProperties (properties : Properties String) (names : Names) : Properties Nat × Names :=
  match properties.anchor with
  | some name =>
    let (number, names) := names.define name
    (⟨some number, properties.tag⟩, names)
  | none => (⟨none, properties.tag⟩, names)

mutual

def number? (names : Names) : Node String → Option (Node Nat × Names)
  | .alias name => (names.lookup name).map fun number => (.alias number, names)
  | .scalar properties isPlain text =>
    let (properties, names) := numberProperties properties names
    some (.scalar properties isPlain text, names)
  | .sequence properties items => do
    let (properties, names) := numberProperties properties names
    let (items, names) ← numberItems? names items
    pure (.sequence properties items, names)
  | .mapping properties entries => do
    let (properties, names) := numberProperties properties names
    let (entries, names) ← numberEntries? names entries
    pure (.mapping properties entries, names)

def numberItems? (names : Names) : List (Node String) → Option (List (Node Nat) × Names)
  | [] => some ([], names)
  | item :: rest => do
    let (item, names) ← number? names item
    let (rest, names) ← numberItems? names rest
    pure (item :: rest, names)

def numberEntries? (names : Names) :
    List (Node String × Node String) → Option (List (Node Nat × Node Nat) × Names)
  | [] => some ([], names)
  | (key, value) :: rest => do
    let (key, names) ← number? names key
    let (value, names) ← number? names value
    let (rest, names) ← numberEntries? names rest
    pure ((key, value) :: rest, names)

end

def anchored (properties : Properties ρ) (node : Node ρ) : List (ρ × Node ρ) :=
  (properties.anchor.map (·, node)).toList

mutual

def anchors : Node ρ → List (ρ × Node ρ)
  | .alias _ => []
  | .scalar properties isPlain text => anchored properties (.scalar properties isPlain text)
  | .sequence properties items => anchored properties (.sequence properties items) ++ anchorsOfItems items
  | .mapping properties entries =>
    anchored properties (.mapping properties entries) ++ anchorsOfEntries entries

def anchorsOfItems : List (Node ρ) → List (ρ × Node ρ)
  | [] => []
  | item :: rest => anchors item ++ anchorsOfItems rest

def anchorsOfEntries : List (Node ρ × Node ρ) → List (ρ × Node ρ)
  | [] => []
  | (key, value) :: rest => anchors key ++ anchors value ++ anchorsOfEntries rest

end

/-- What a number refers to: the node with the last anchor of that number. -/
def target? [BEq ρ] (anchors : List (ρ × Node ρ)) (reference : ρ) : Option (Node ρ) :=
  anchors.reverse.lookup reference

end Node
end Yaml
end BeaconSentry
