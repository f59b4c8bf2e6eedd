import BeaconSentry.Yaml.Glyph

/-!
This module contains block scalars, whose extent is told by their indentation.
-/

namespace BeaconSentry
namespace Yaml
namespace Block

inductive Chomping where
  | strip
  | clip
  | keep
  deriving Repr, DecidableEq

def Chomping.ofChar? (c : Char) : Option Chomping :=
  if c == '+' then some .keep else if c == '-' then some .strip else none

def takeChomping : List Glyph → Option Chomping × List Glyph
  | [] => (none, [])
  | g :: rest =>
    match Chomping.ofChar? g.char with
    | some chomping => (some chomping, rest)
    | none => (none, g :: rest)

/-- Take an indentation indicator off the front; without one it is zero. It must not be written as zero. -/
def takeIndicator : List Glyph → Option (Nat × List Glyph)
  | [] => some (0, [])
  | g :: rest =>
    if !g.char.isDigit then some (0, g :: rest)
    else if g.char == '0' then none
    else some (g.char.toNat - '0'.toNat, rest)

def takeHeader (glyphs : List Glyph) : Option (Chomping × Nat × List Glyph) := do
  let (before, rest) := takeChomping glyphs
  let (indicator, rest) ← takeIndicator rest
  let (after, rest) :=
    if before.isNone && indicator ≠ 0 then takeChomping rest else (none, rest)
  let rest ← endLine? rest
  pure ((before <|> after).getD .clip, indicator, rest)

/--
Take empty lines and the indentation of the next line off the front. With an `indent` of zero the indentation
is not known yet, and all spaces belong to it. The result holds the line ends and the widest indentation.
-/
def takeEmptyLines (indent widest : Nat) : List Glyph → Option (List Char × Nat × List Glyph)
  | [] => some ([], widest, [])
  | g :: rest =>
    let widest := max widest g.column
    let isIndentation := indent = 0 || g.column < indent
    if isIndentation && g.char == ' ' then takeEmptyLines indent widest rest
    else if isIndentation && g.char == '\t' then none
    else if isBreak g.char then
      (takeEmptyLines indent widest rest).map fun (breaks, widest, rest) => (g.char :: breaks, widest, rest)
    else some ([], widest, g :: rest)

theorem length_takeEmptyLines {indent widest : Nat} {glyphs rest : List Glyph} {breaks : List Char}
    {found : Nat} (h : takeEmptyLines indent widest glyphs = some (breaks, found, rest)) :
    rest.length ≤ glyphs.length := by
  induction glyphs generalizing widest breaks found with
  | nil => simp_all [takeEmptyLines]
  | cons g glyphs ih =>
    simp only [takeEmptyLines] at h
    split at h
    · exact Nat.le_succ_of_le (ih h)
    · split at h
      · simp at h
      · split at h
        · obtain ⟨⟨_, _, _⟩, hrest, heq⟩ := Option.map_eq_some_iff.1 h
          simp only [Prod.mk.injEq] at heq
          obtain ⟨_, _, rfl⟩ := heq
          exact Nat.le_succ_of_le (ih hrest)
        · simp only [Option.some.injEq, Prod.mk.injEq] at h
          simp [← h.2.2]

structure Content where
  text : List Char
  /-- The end of the last line that is not empty. -/
  lineEnd : Option Char
  /-- The ends of the empty lines after it. -/
  emptyLines : List Char
  /-- Whether the last line that is not empty begins with a blank. -/
  isSpaced : Bool
  deriving Repr, DecidableEq

namespace Content

/-- The line ends between two lines: a single one of two lines that do not begin with a blank is folded. -/
def joint (isFolded nextIsSpaced : Bool) (content : Content) : List Char :=
  if isFolded && content.lineEnd == some '\n' && !content.isSpaced && !nextIsSpaced then
    if content.emptyLines.isEmpty then [' '] else content.emptyLines
  else content.lineEnd.toList ++ content.emptyLines

def addLine (isFolded : Bool) (line : List Glyph) (lineEnd : Option Char) (emptyLines : List Char)
    (content : Content) : Content :=
  let isSpaced := nextIs isBlank line
  let joint := content.joint isFolded isSpaced
  ⟨(line.map (·.char)).reverse ++ (joint.reverse ++ content.text), lineEnd, emptyLines, isSpaced⟩

def chomped (chomping : Chomping) (content : Content) : List Char :=
  content.text.reverse ++
    match chomping with
    | .strip => []
    | .clip => content.lineEnd.toList
    | .keep => content.lineEnd.toList ++ content.emptyLines

end Content

/-- Take lines with an indentation of exactly `indent` columns off the front, with the empty lines after them. -/
def takeLines (isFolded : Bool) (indent : Nat) (content : Content) (glyphs : List Glyph) :
    Option (Content × List Glyph) :=
  match glyphs with
  | [] => some (content, [])
  | g :: rest =>
    if g.column ≠ indent then some (content, g :: rest)
    else
      let line := (g :: rest).takeWhile fun g => !isBreak g.char
      let after := (g :: rest).drop line.length
      match _h : takeEmptyLines indent 0 (after.drop 1) with
      | none => none
      | some (emptyLines, _, next) =>
        takeLines isFolded indent (content.addLine isFolded line (after.head?.map (·.char)) emptyLines) next
termination_by glyphs.length
decreasing_by
  have := length_takeEmptyLines _h
  simp only [after, List.length_drop, List.length_cons] at this ⊢
  omega

/--
Take a block scalar off the front, from behind its indicator. Its indentation is at least one column more than
that of the block around it, which is `-1` outside of all blocks.
-/
def take (isFolded : Bool) (outer : Int) (glyphs : List Glyph) : Option (String × List Glyph) := do
  let (chomping, indicator, rest) ← takeHeader glyphs
  let given := if indicator = 0 then 0 else (max outer 0).toNat + indicator
  let (emptyLines, widest, rest) ← takeEmptyLines given 0 rest
  let indent := if given = 0 then max (max widest (outer + 1).toNat) 1 else given
  let (content, rest) ← takeLines isFolded indent ⟨[], none, emptyLines, false⟩ rest
  pure (String.ofList (content.chomped chomping), rest)

end Block
end Yaml
end BeaconSentry
