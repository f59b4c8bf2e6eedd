import BeaconSentry.Yaml.Glyph

/-!
This module contains the scalars that may stand on a line with other things: plain ones and quoted ones. Line
ends in them are folded.
-/

namespace BeaconSentry
namespace Yaml

inductive Gap where
  /-- Blanks on one line, last one first. -/
  | blanks (chars : List Char)
  /-- Line ends with blanks around them: the first one, unless it is escaped, and the other ones, last one first. -/
  | breaks (first : Option Char) (others : List Char)
  deriving Repr, DecidableEq

namespace Gap

def empty : Gap := blanks []

def isBroken : Gap → Bool
  | blanks _ => false
  | breaks .. => true

def add (c : Char) : Gap → Gap
  | blanks chars => if isBreak c then breaks (some c) [] else blanks (c :: chars)
  | breaks first others => if isBreak c then breaks first (c :: others) else breaks first others

/-- What a gap counts for: a single line feed for a blank, and one of several is left out. -/
def folded : Gap → List Char
  | blanks chars => chars.reverse
  | breaks none others => others.reverse
  | breaks (some first) others =>
    if first == '\n' then (if others.isEmpty then [' '] else others.reverse)
    else first :: others.reverse

end Gap

def isFlowIndicator (c : Char) : Bool := c == ',' || c == '[' || c == ']' || c == '{' || c == '}'

namespace Plain

def hasStrayColon (inFlow : Bool) : List Glyph → Bool
  | g :: rest => inFlow && g.char == ':' && nextIs (fun c => c == '?' || isFlowIndicator c) rest
  | [] => false

def endsBefore (inFlow : Bool) : List Glyph → Bool
  | g :: rest => (g.char == ':' && atGap rest) || (inFlow && isFlowIndicator g.char)
  | [] => true

def extend (text : List Char) (gap : Gap) (c : Char) : List Char :=
  c :: (gap.folded.reverse ++ text)

/--
Take a plain scalar off the front. Outside of flow collections its further lines must be indented by at least
`indent` columns. The result also says whether the scalar is followed by a line end.
-/
def take (inFlow : Bool) (indent : Int) (text : List Char) (gap : Option Gap) :
    List Glyph → Option (List Char × Bool × List Glyph)
  | [] => some (text.reverse, gap.any (·.isBroken), [])
  | g :: rest =>
    let stop := some (text.reverse, gap.any (·.isBroken), g :: rest)
    if isBlank g.char || isBreak g.char then
      let sofar := gap.getD .empty
      if sofar.isBroken && g.char == '\t' && g.column < indent then none
      else take inFlow indent text (some (sofar.add g.char)) rest
    else if gap.isSome && (g.char == '#' || (!inFlow && g.column < indent)) then stop
    else if atDocumentMarker (g :: rest) then stop
    else if hasStrayColon inFlow (g :: rest) then none
    else if endsBefore inFlow (g :: rest) then stop
    else take inFlow indent (extend text (gap.getD .empty) g.char) none rest

end Plain

namespace Quoted

def namedEscapes : List (Char × Char) := [
  ('0', '\u0000'), ('a', '\u0007'), ('b', '\u0008'), ('t', '\t'), ('\t', '\t'), ('n', '\n'),
  ('v', '\u000b'), ('f', '\u000c'), ('r', '\r'), ('e', '\u001b'), (' ', ' '), ('"', '"'), ('/', '/'),
  ('\\', '\\'), ('N', '\u0085'), ('_', '\u00a0'), ('L', '\u2028'), ('P', '\u2029')]

def numberedEscapes : List (Char × Nat) := [('x', 2), ('u', 4), ('U', 8)]

def charOfCode? (code : Nat) : Option Char := if code.isValidChar then some (Char.ofNat code) else none

def escape? : List Glyph → Option (Char × Nat)
  | [] => none
  | g :: rest =>
    match numberedEscapes.lookup g.char with
    | some count =>
      if count ≤ rest.length then
        ((hexValue? (rest.take count)).bind charOfCode?).map fun c => (c, count + 1)
      else none
    | none => (namedEscapes.lookup g.char).map fun c => (c, 1)

/-- Take a quoted scalar off the front, from behind its first quote to its last one. -/
def take (isSingle : Bool) (text : List Char) (gap : Gap) (glyphs : List Glyph) :
    Option (List Char × List Glyph) :=
  match glyphs with
  | [] => none
  | g :: rest =>
    if isBlank g.char || isBreak g.char then take isSingle text (gap.add g.char) rest
    else if atDocumentMarker (g :: rest) then none
    else
      let text := gap.folded.reverse ++ text
      if isSingle && g.char == '\'' then
        match rest with
        | [] => some (text.reverse, [])
        | next :: rest =>
          if next.char == '\'' then take isSingle ('\'' :: text) .empty rest
          else some (text.reverse, next :: rest)
      else if !isSingle && g.char == '"' then some (text.reverse, rest)
      else if !isSingle && g.char == '\\' then
        if nextIs isBreak rest then take isSingle text (.breaks none []) (rest.drop 1)
        else
          match escape? rest with
          | some (c, length) => take isSingle (c :: text) .empty (rest.drop length)
          | none => none
      else take isSingle (g.char :: text) .empty rest
termination_by glyphs.length
decreasing_by all_goals simp only [List.length_cons, List.length_drop]; omega

end Quoted
end Yaml
end BeaconSentry
