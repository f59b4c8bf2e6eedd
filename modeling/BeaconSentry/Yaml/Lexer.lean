import BeaconSentry.Yaml.Block
import BeaconSentry.Yaml.Flow
import BeaconSentry.Yaml.Marks

/-!
This module contains the recognition of tokens. The indentation of a line opens and closes blocks, and a node
turns out to be a key when a colon is found behind it.
-/

namespace BeaconSentry
namespace Yaml

structure KeyCandidate where
  /-- Whether a colon must follow. -/
  isRequired : Bool
  /-- The number of tokens before the node. -/
  index : Nat
  line : Nat
  column : Nat
  deriving Repr, DecidableEq

structure Lexer where
  rest : List Glyph
  tokens : Array Token
  /-- The column of the innermost block, or `-1` outside of all blocks. -/
  indent : Int
  /-- The columns of the blocks around it. -/
  outerIndents : List Int
  /-- Whether a key may begin here. -/
  allowsKey : Bool
  candidate : Option KeyCandidate
  /-- The candidates of the collections around, for each flow collection that is open. -/
  outerCandidates : List (Option KeyCandidate)

namespace Lexer

def start (glyphs : List Glyph) : Lexer := ⟨glyphs, #[], -1, [], true, none, []⟩

def inFlow (lexer : Lexer) : Bool := !lexer.outerCandidates.isEmpty

def push (token : Token) (lexer : Lexer) : Lexer := { lexer with tokens := lexer.tokens.push token }

/--
Drop blanks, comments and line ends. Outside of flow collections a line end lets a key begin, and no tab may
stand where a key may begin.
-/
def dropGap (inFlow allowsKey inComment : Bool) : List Glyph → Bool × List Glyph
  | [] => (allowsKey, [])
  | g :: rest =>
    if isBreak g.char then dropGap inFlow (allowsKey || !inFlow) false rest
    else if inComment || g.char == '#' then dropGap inFlow allowsKey true rest
    else if g.char == ' ' || (g.char == '\t' && (inFlow || !allowsKey)) ||
        (g.char == '\ufeff' && g.column == 0) then
      dropGap inFlow allowsKey false rest
    else (allowsKey, g :: rest)

def skipGap (lexer : Lexer) : Lexer :=
  let (allowsKey, rest) := dropGap lexer.inFlow lexer.allowsKey false lexer.rest
  { lexer with allowsKey, rest }

def longestKey : Nat := 1024

/-- A candidate as long as the colon may still come: on the same line and not too far away. -/
def fresh (g : Glyph) : Option KeyCandidate → Option (Option KeyCandidate)
  | none => some none
  | some candidate =>
    if candidate.line < g.line || candidate.column + longestKey < g.column then
      if candidate.isRequired then none else some none
    else some (some candidate)

def refresh (g : Glyph) (lexer : Lexer) : Option Lexer := do
  pure { lexer with
    candidate := ← fresh g lexer.candidate
    outerCandidates := ← lexer.outerCandidates.mapM (fresh g) }

def dropCandidate (lexer : Lexer) : Option Lexer :=
  if lexer.candidate.any (·.isRequired) then none else some { lexer with candidate := none }

def saveCandidate (g : Glyph) (lexer : Lexer) : Option Lexer := do
  if lexer.allowsKey then
    let lexer ← lexer.dropCandidate
    let isRequired := !lexer.inFlow && lexer.indent == g.column
    pure { lexer with candidate := some ⟨isRequired, lexer.tokens.size, g.line, g.column⟩ }
  else
    pure lexer

/-- Open a block at a column, unless the innermost block begins there. Its token comes at the index. -/
def roll (column index : Nat) (token : Token) (lexer : Lexer) : Lexer :=
  if lexer.inFlow || (column : Int) ≤ lexer.indent then lexer
  else { lexer with
    indent := column
    outerIndents := lexer.indent :: lexer.outerIndents
    tokens := lexer.tokens.insertIdxIfInBounds index token }

def unroll.go (column indent : Int) (tokens : Array Token) : List Int → Int × List Int × Array Token
  | [] => (indent, [], tokens)
  | outer :: rest =>
    if column < indent then go column outer (tokens.push .blockEnd) rest
    else (indent, outer :: rest, tokens)

def unroll (column : Int) (lexer : Lexer) : Lexer :=
  if lexer.inFlow then lexer
  else
    let (indent, outerIndents, tokens) := unroll.go column lexer.indent lexer.tokens lexer.outerIndents
    { lexer with indent, outerIndents, tokens }

def proceed (rest : List Glyph) (allowsKey : Bool) (token : Token) (lexer : Lexer) : Lexer :=
  { lexer with rest, allowsKey }.push token

def leaveBlocks (lexer : Lexer) : Option Lexer := (lexer.unroll (-1)).dropCandidate

def openFlow (g : Glyph) (rest : List Glyph) (token : Token) (lexer : Lexer) : Option Lexer := do
  let lexer ← lexer.saveCandidate g
  let lexer := { lexer with
    candidate := none
    outerCandidates := lexer.candidate :: lexer.outerCandidates }
  pure (lexer.proceed rest true token)

def closeFlow (rest : List Glyph) (token : Token) (lexer : Lexer) : Option Lexer := do
  let lexer ← lexer.dropCandidate
  let lexer :=
    match lexer.outerCandidates with
    | [] => lexer
    | candidate :: outerCandidates => { lexer with candidate, outerCandidates }
  pure (lexer.proceed rest false token)

/-- Open a block, unless it is open, for an indicator at the beginning of a key or an item. -/
def openBlock (g : Glyph) (token : Token) (lexer : Lexer) : Option Lexer :=
  if lexer.inFlow then some lexer
  else if lexer.allowsKey then some (lexer.roll g.column lexer.tokens.size token)
  else none

def blockEntry (g : Glyph) (rest : List Glyph) (lexer : Lexer) : Option Lexer := do
  let lexer ← (← lexer.openBlock g .blockSequenceStart).dropCandidate
  pure (lexer.proceed rest true .blockEntry)

def explicitKey (g : Glyph) (rest : List Glyph) (lexer : Lexer) : Option Lexer := do
  let lexer ← (← lexer.openBlock g .blockMappingStart).dropCandidate
  pure (lexer.proceed rest (!lexer.inFlow) .key)

/-- Begin a value. The candidate before it is a key. -/
def beginValue (g : Glyph) (rest : List Glyph) (lexer : Lexer) : Option Lexer :=
  match lexer.candidate with
  | some candidate =>
    let lexer := { lexer with
      candidate := none
      tokens := lexer.tokens.insertIdxIfInBounds candidate.index .key }
    let lexer := lexer.roll candidate.column candidate.index .blockMappingStart
    some (lexer.proceed rest false .value)
  | none => do
    let lexer ← lexer.openBlock g .blockMappingStart
    pure (lexer.proceed rest (!lexer.inFlow) .value)

def takeNode (g : Glyph) (result : Option (Token × List Glyph)) (lexer : Lexer) : Option Lexer := do
  let lexer ← lexer.saveCandidate g
  let (token, rest) ← result
  pure (lexer.proceed rest false token)

def quotedScalar (isSingle : Bool) (g : Glyph) (rest : List Glyph) (lexer : Lexer) : Option Lexer :=
  lexer.takeNode g ((Quoted.take isSingle [] .empty rest).map fun (text, rest) =>
    (.scalar false (String.ofList text), rest))

def blockScalar (isFolded : Bool) (rest : List Glyph) (lexer : Lexer) : Option Lexer := do
  let lexer ← lexer.dropCandidate
  let (text, rest) ← Block.take isFolded lexer.indent rest
  pure (lexer.proceed rest true (.scalar false text))

/-- Take a plain scalar. A line end behind it lets a key begin. -/
def plainScalar (g : Glyph) (rest : List Glyph) (lexer : Lexer) : Option Lexer := do
  let lexer ← lexer.saveCandidate g
  let (text, isBroken, rest) ← Plain.take lexer.inFlow (lexer.indent + 1) [] none (g :: rest)
  pure (lexer.proceed rest isBroken (.scalar true (String.ofList text)))

def neverPlain : List Char :=
  [',', '[', ']', '{', '}', '#', '&', '*', '!', '|', '>', '\'', '"', '%', '@', '\x60']

def beginsPlain (inFlow : Bool) (g : Glyph) (rest : List Glyph) : Bool :=
  if isBlank g.char || neverPlain.contains g.char then false
  else if g.char == '-' then !nextIs isBlank rest
  else if g.char == '?' || g.char == ':' then !inFlow && !atGap rest
  else true

def take (g : Glyph) (rest : List Glyph) (lexer : Lexer) : Option Lexer :=
  if g.column == 0 && g.char == '%' then do
    let lexer ← lexer.leaveBlocks
    let (token, rest) ← takeDirective rest
    pure (lexer.proceed rest false token)
  else if atMarker '-' (g :: rest) then do
    pure ((← lexer.leaveBlocks).proceed (rest.drop 2) false .documentStart)
  else if atMarker '.' (g :: rest) then do
    pure ((← lexer.leaveBlocks).proceed (rest.drop 2) false .documentEnd)
  else if g.char == '[' then lexer.openFlow g rest .flowSequenceStart
  else if g.char == '{' then lexer.openFlow g rest .flowMappingStart
  else if g.char == ']' then lexer.closeFlow rest .flowSequenceEnd
  else if g.char == '}' then lexer.closeFlow rest .flowMappingEnd
  else if g.char == ',' then do pure ((← lexer.dropCandidate).proceed rest true .flowEntry)
  else if g.char == '-' && atGap rest then lexer.blockEntry g rest
  else if g.char == '?' && (lexer.inFlow || atGap rest) then lexer.explicitKey g rest
  else if g.char == ':' && (lexer.inFlow || atGap rest) then lexer.beginValue g rest
  else if g.char == '*' then
    lexer.takeNode g ((takeAnchor rest).map fun (name, rest) => (.alias name, rest))
  else if g.char == '&' then
    lexer.takeNode g ((takeAnchor rest).map fun (name, rest) => (.anchor name, rest))
  else if g.char == '!' then lexer.takeNode g (takeTag lexer.inFlow rest)
  else if g.char == '|' && !lexer.inFlow then lexer.blockScalar false rest
  else if g.char == '>' && !lexer.inFlow then lexer.blockScalar true rest
  else if g.char == '\'' then lexer.quotedScalar true g rest
  else if g.char == '"' then lexer.quotedScalar false g rest
  else if beginsPlain lexer.inFlow g rest then lexer.plainScalar g rest
  else none

/-- Take all tokens. As each one takes at least one character, the length of the text is enough fuel. -/
def run : Nat → Lexer → Option (Array Token)
  | 0, _ => none
  | fuel + 1, lexer => do
    let lexer := lexer.skipGap
    match lexer.rest with
    | [] => (lexer.leaveBlocks).map (·.tokens)
    | g :: rest => run fuel (← ((← lexer.refresh g).unroll g.column).take g rest)

end Lexer

def Token.scan (text : String) : Option (List Token) := do
  let glyphs ← Glyph.ofText? text
  (Lexer.run (glyphs.length + 1) (.start glyphs)).map (·.toList)

end Yaml
end BeaconSentry
