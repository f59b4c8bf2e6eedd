import BeaconSentry.Text.Hex

/-!
This module contains the characters of YAML text together with the places where they stand.
-/

namespace BeaconSentry
namespace Yaml

/-- A character and its place. Lines and columns count from zero. -/
structure Glyph where
  char : Char
  line : Nat
  column : Nat
  deriving Repr, DecidableEq

def isPrintable (c : Char) : Bool :=
  c == '\t' || c == '\n' || c == '\r' || (' ' ≤ c && c ≤ '~') || c == '\u0085' ||
    ('\u00a0' ≤ c && c ≤ '\ud7ff') || ('\ue000' ≤ c && c ≤ '\ufffd') || 0x10000 ≤ c.toNat

def isBreak (c : Char) : Bool := c == '\n' || c == '\u2028' || c == '\u2029'

def isBlank (c : Char) : Bool := c == ' ' || c == '\t'

def isWordChar (c : Char) : Bool := c.isAlphanum || c == '_' || c == '-'

def unifyBreaks : List Char → List Char
  | [] => []
  | '\r' :: '\n' :: rest => '\n' :: unifyBreaks rest
  | c :: rest => (if c == '\r' || c == '\u0085' then '\n' else c) :: unifyBreaks rest

def placed (line column : Nat) : List Char → List Glyph
  | [] => []
  | c :: rest =>
    ⟨c, line, column⟩ ::
      if isBreak c then placed (line + 1) 0 rest else placed line (column + 1) rest

/-- The placed characters of a text, all of which must be allowed. -/
def Glyph.ofText? (text : String) : Option (List Glyph) :=
  if text.toList.all isPrintable then some (placed 0 0 (unifyBreaks text.toList)) else none

def textOf (glyphs : List Glyph) : String := String.ofList (glyphs.map (·.char))

def nextIs (holds : Char → Bool) : List Glyph → Bool
  | g :: _ => holds g.char
  | [] => false

def atGap : List Glyph → Bool
  | g :: _ => isBlank g.char || isBreak g.char
  | [] => true

def atMarker (c : Char) : List Glyph → Bool
  | first :: second :: third :: rest =>
    first.column == 0 && first.char == c && second.char == c && third.char == c && atGap rest
  | _ => false

def atDocumentMarker (glyphs : List Glyph) : Bool := atMarker '-' glyphs || atMarker '.' glyphs

/-- Drop the blanks and the comment that end a line, and the line end. Nothing else may stand there. -/
def endLine? (glyphs : List Glyph) : Option (List Glyph) :=
  let rest := glyphs.dropWhile fun g => isBlank g.char
  let rest := if nextIs (· == '#') rest then rest.dropWhile fun g => !isBreak g.char else rest
  match rest with
  | [] => some []
  | g :: rest => if isBreak g.char then some rest else none

def hexValue? (glyphs : List Glyph) : Option Nat := Hex.value? 0 (glyphs.map (·.char))

end Yaml
end BeaconSentry
