import BeaconSentry.Text.Utf8
import BeaconSentry.Yaml.Node
import BeaconSentry.Yaml.Token

/-!
This module contains the grammar by which tokens make up the node of a document. A text holds at most one
document.
-/

namespace BeaconSentry
namespace Yaml

abbrev Handles := List (String × List UInt8)

def Handles.standard : Handles :=
  [("!", Utf8.encode "!"), ("!!", Utf8.encode "tag:yaml.org,2002:")]

def Handles.resolve? (handles : Handles) (handle : String) (suffix : List UInt8) : Option Tag :=
  if handle.isEmpty then some suffix else (handles.lookup handle).map (· ++ suffix)

namespace Grammar

/-- Read the properties of a node: an anchor and a tag in any order, as far as they are there. -/
def properties (handles : Handles) : List Token → Option (Properties String × List Token)
  | .anchor name :: .tag handle suffix :: rest | .tag handle suffix :: .anchor name :: rest => do
    pure (⟨some name, ← handles.resolve? handle suffix⟩, rest)
  | .anchor name :: rest => some (⟨some name, none⟩, rest)
  | .tag handle suffix :: rest => do pure (⟨none, ← handles.resolve? handle suffix⟩, rest)
  | rest => some (.none, rest)

/-- The tag of a scalar: a lone exclamation mark says nothing. -/
def scalarTag (tag : Option Tag) : Option Tag := tag.filter (· != Utf8.encode "!")

def atOneOf (tokens : List Token) : List Token → Bool
  | next :: _ => tokens.contains next
  | [] => false

def nothing : Node String := .blank .none

def comma? (isFirst : Bool) (tokens : List Token) : Option (List Token) :=
  if isFirst then some tokens
  else
    match tokens with
    | .flowEntry :: rest => some rest
    | _ => none

mutual

/-- Read a node. Only in blocks may it be a block itself, and only some sequences need no indentation. -/
def node (handles : Handles) (inBlock mayAlign : Bool) : Nat → List Token → Option (Node String × List Token)
  | 0, _ => none
  | _ + 1, .alias name :: rest => some (.alias name, rest)
  | fuel + 1, tokens => do
    let (properties, tokens) ← properties handles tokens
    let absent : Option (Node String × List Token) :=
      if properties.isNone then none else some (.blank properties, tokens)
    match tokens with
    | .scalar isPlain text :: rest =>
      some (.scalar ⟨properties.anchor, scalarTag properties.tag⟩ isPlain text, rest)
    | .flowSequenceStart :: rest =>
      let (items, rest) ← flowItems handles fuel true rest
      some (.sequence properties items, rest)
    | .flowMappingStart :: rest =>
      let (entries, rest) ← flowEntries handles fuel true rest
      some (.mapping properties entries, rest)
    | .blockSequenceStart :: rest =>
      if inBlock then
        let (items, rest) ← blockItems handles fuel rest
        some (.sequence properties items, rest)
      else absent
    | .blockMappingStart :: rest =>
      if inBlock then
        let (entries, rest) ← blockEntries handles fuel rest
        some (.mapping properties entries, rest)
      else absent
    | .blockEntry :: _ =>
      if mayAlign then
        let (items, rest) ← alignedItems handles fuel tokens
        some (.sequence properties items, rest)
      else absent
    | _ => absent

def flowNode (handles : Handles) (stops : List Token) : Nat → List Token → Option (Node String × List Token)
  | 0, _ => none
  | fuel + 1, tokens =>
    if atOneOf stops tokens then some (nothing, tokens) else node handles false false fuel tokens

def blockNode (handles : Handles) (mayAlign : Bool) (stops : List Token) :
    Nat → List Token → Option (Node String × List Token)
  | 0, _ => none
  | fuel + 1, tokens =>
    if atOneOf stops tokens then some (nothing, tokens) else node handles true mayAlign fuel tokens

def flowItems (handles : Handles) : Nat → Bool → List Token → Option (List (Node String) × List Token)
  | 0, _, _ => none
  | _ + 1, _, .flowSequenceEnd :: rest => some ([], rest)
  | fuel + 1, isFirst, tokens => do
    match ← comma? isFirst tokens with
    | .flowSequenceEnd :: rest => some ([], rest)
    | .key :: rest =>
      let (item, rest) ← flowPair handles fuel rest
      let (items, rest) ← flowItems handles fuel false rest
      some (item :: items, rest)
    | tokens =>
      let (item, rest) ← node handles false false fuel tokens
      let (items, rest) ← flowItems handles fuel false rest
      some (item :: items, rest)

/--
Read a mapping with one entry that stands in a flow sequence. The token that takes the place of its key is lost.
-/
def flowPair (handles : Handles) : Nat → List Token → Option (Node String × List Token)
  | 0, _ => none
  | fuel + 1, tokens => do
    let (key, tokens) ←
      if atOneOf [.value, .flowEntry, .flowSequenceEnd] tokens then some (nothing, tokens.drop 1)
      else node handles false false fuel tokens
    match tokens with
    | .value :: rest =>
      let (value, rest) ← flowNode handles [.flowEntry, .flowSequenceEnd] fuel rest
      some (.mapping .none [(key, value)], rest)
    | tokens => some (.mapping .none [(key, nothing)], tokens)

def flowEntries (handles : Handles) :
    Nat → Bool → List Token → Option (List (Node String × Node String) × List Token)
  | 0, _, _ => none
  | _ + 1, _, .flowMappingEnd :: rest => some ([], rest)
  | fuel + 1, isFirst, tokens => do
    match ← comma? isFirst tokens with
    | .flowMappingEnd :: rest => some ([], rest)
    | .key :: rest =>
      let (key, rest) ← flowNode handles [.value, .flowEntry, .flowMappingEnd] fuel rest
      let (value, rest) ←
        match rest with
        | .value :: rest => flowNode handles [.flowEntry, .flowMappingEnd] fuel rest
        | rest => some (nothing, rest)
      let (entries, rest) ← flowEntries handles fuel false rest
      some ((key, value) :: entries, rest)
    | tokens =>
      let (key, rest) ← node handles false false fuel tokens
      let (entries, rest) ← flowEntries handles fuel false rest
      some ((key, nothing) :: entries, rest)

def blockItems (handles : Handles) : Nat → List Token → Option (List (Node String) × List Token)
  | fuel + 1, .blockEntry :: rest => do
    let (item, rest) ← blockNode handles false [.blockEntry, .blockEnd] fuel rest
    let (items, rest) ← blockItems handles fuel rest
    some (item :: items, rest)
  | _ + 1, .blockEnd :: rest => some ([], rest)
  | _, _ => none

def alignedItems (handles : Handles) : Nat → List Token → Option (List (Node String) × List Token)
  | 0, _ => none
  | fuel + 1, .blockEntry :: rest => do
    let (item, rest) ← blockNode handles false [.blockEntry, .key, .value, .blockEnd] fuel rest
    let (items, rest) ← alignedItems handles fuel rest
    some (item :: items, rest)
  | _ + 1, rest => some ([], rest)

def blockEntries (handles : Handles) :
    Nat → List Token → Option (List (Node String × Node String) × List Token)
  | fuel + 1, .key :: rest => do
    let (key, rest) ← blockNode handles true [.key, .value, .blockEnd] fuel rest
    let (value, rest) ←
      match rest with
      | .value :: rest => blockNode handles true [.key, .value, .blockEnd] fuel rest
      | rest => some (nothing, rest)
    let (entries, rest) ← blockEntries handles fuel rest
    some ((key, value) :: entries, rest)
  | _ + 1, .blockEnd :: rest => some ([], rest)
  | _, _ => none

end

structure Directives where
  hasVersion : Bool
  handles : Handles
  deriving Repr, DecidableEq

def directives (found : Directives) : List Token → Option (Directives × List Token)
  | .versionDirective major minor :: rest =>
    if found.hasVersion || major ≠ 1 || (minor ≠ 1 && minor ≠ 2) then none
    else directives { found with hasVersion := true } rest
  | .tagDirective handle start :: rest =>
    if found.handles.any (·.1 == handle) then none
    else directives { found with handles := found.handles ++ [(handle, start)] } rest
  | rest => some (found, rest)

def atDocumentEdge : List Token → Bool
  | [] | .documentStart :: _ | .documentEnd :: _ | .versionDirective .. :: _ | .tagDirective .. :: _ => true
  | _ => false

/-- The steps that it takes at most to read some tokens: between two tokens no more than four readers meet. -/
def fuelFor (tokens : List Token) : Nat := 4 * (tokens.length + 1)

/-- Read a document. Its start must be marked only if directives come before it. -/
def document (tokens : List Token) : Option (Node String × List Token) :=
  match tokens with
  | [] => some (nothing, [])
  | .documentStart :: _ | .versionDirective .. :: _ | .tagDirective .. :: _ => do
    match ← directives ⟨false, []⟩ tokens with
    | (found, .documentStart :: rest) =>
      if atDocumentEdge rest then some (nothing, rest)
      else node (found.handles ++ .standard) true false (fuelFor rest) rest
    | _ => none
  | tokens => node .standard true false (fuelFor tokens) tokens

def isDocumentEnd : Token → Bool
  | .documentEnd => true
  | _ => false

end Grammar

def Node.ofTokens? (tokens : List Token) : Option (Node String) := do
  let (node, rest) ← Grammar.document tokens
  if rest.all Grammar.isDocumentEnd then some node else none

end Yaml
end BeaconSentry
