import BeaconSentry.Yaml.Token
import BeaconSentry.Yaml.Glyph
import BeaconSentry.Text.Utf8

/-!
This module contains what marks nodes and documents without being a part of their content: anchors, tags and
directives.
-/

namespace BeaconSentry
namespace Yaml

def takeWord (glyphs : List Glyph) : String × List Glyph :=
  (textOf (glyphs.takeWhile fun g => isWordChar g.char), glyphs.dropWhile fun g => isWordChar g.char)

def endsAnchor (c : Char) : Bool := ['?', ':', ',', ']', '}', '%', '@', '\x60'].contains c

def takeAnchor (glyphs : List Glyph) : Option (String × List Glyph) :=
  let (name, rest) := takeWord glyphs
  if name.isEmpty || !(atGap rest || nextIs endsAnchor rest) then none else some (name, rest)

/-- Whether a tag may hold a character as it is. Some ones only belong into tags between angle brackets. -/
def isTagChar (isBracketed : Bool) (c : Char) : Bool :=
  isWordChar c || ";/?:@&=+$.!~*'()".toList.contains c ||
    (isBracketed && (c == ',' || c == '[' || c == ']'))

def followers? (first : Nat) : Option Nat :=
  if first < 0x80 then some 0
  else if first / 0x20 = 6 then some 1
  else if first / 0x10 = 14 then some 2
  else if first / 0x08 = 30 then some 3
  else none

def dueAfter? (due byte : Nat) : Option Nat :=
  if due = 0 then followers? byte
  else if byte / 0x40 = 2 then some (due - 1)
  else none

/-- Take a tag or a part of one off the front. A percent sign stands before the two digits of a byte. -/
def takeTagBytes (isBracketed : Bool) (due : Nat) : List Glyph → Option (List UInt8 × List Glyph)
  | ⟨'%', _, _⟩ :: high :: low :: rest => do
    let byte ← hexValue? [high, low]
    let due ← dueAfter? due byte
    let (bytes, rest) ← takeTagBytes isBracketed due rest
    pure (UInt8.ofNat byte :: bytes, rest)
  | [] => if due = 0 then some ([], []) else none
  | g :: rest =>
    if due ≠ 0 || g.char == '%' then none
    else if isTagChar isBracketed g.char then
      (takeTagBytes isBracketed 0 rest).map fun (bytes, rest) =>
        (Utf8.encode g.char.toString ++ bytes, rest)
    else some ([], g :: rest)

/-- Take a tag or a part of one off the front, which must not be empty. -/
def takeSomeTagBytes (isBracketed : Bool) (glyphs : List Glyph) : Option (List UInt8 × List Glyph) :=
  (takeTagBytes isBracketed 0 glyphs).filter fun (bytes, _) => !bytes.isEmpty

/--
Take a tag off the front, from behind its exclamation mark. A tag has a handle, which stands for the beginning
of the tag, and a suffix. Between angle brackets it is written out, and a lone exclamation mark is a tag as well.
-/
def takeTag (inFlow : Bool) (glyphs : List Glyph) : Option (Token × List Glyph) := do
  let (token, rest) ← body glyphs
  if atGap rest || (inFlow && nextIs (· == ',') rest) then pure (token, rest) else none
where
  body (glyphs : List Glyph) : Option (Token × List Glyph) := do
    if nextIs (· == '<') glyphs then
      let (bytes, rest) ← takeSomeTagBytes true (glyphs.drop 1)
      if nextIs (· == '>') rest then pure (.tag "" bytes, rest.drop 1) else none
    else
      let (word, rest) := takeWord glyphs
      if nextIs (· == '!') rest then
        let (bytes, rest) ← takeSomeTagBytes false (rest.drop 1)
        pure (.tag ("!" ++ word ++ "!") bytes, rest)
      else
        let (bytes, rest) ← takeTagBytes false 0 rest
        let suffix := Utf8.encode word ++ bytes
        pure (if suffix.isEmpty then (.tag "" (Utf8.encode "!"), rest) else (.tag "!" suffix, rest))

def dropBlanks (glyphs : List Glyph) : List Glyph := glyphs.dropWhile fun g => isBlank g.char

/-- Take a part of a version off the front: one to nine digits. -/
def takeVersionPart (glyphs : List Glyph) : Option (Nat × List Glyph) :=
  let digits := glyphs.takeWhile (·.char.isDigit)
  if digits.isEmpty || 9 < digits.length then none
  else
    let value := digits.foldl (fun n g => n * 10 + (g.char.toNat - '0'.toNat)) 0
    some (value, glyphs.drop digits.length)

def takeVersion (glyphs : List Glyph) : Option (Token × List Glyph) := do
  let (major, rest) ← takeVersionPart (dropBlanks glyphs)
  if nextIs (· == '.') rest then
    let (minor, rest) ← takeVersionPart (rest.drop 1)
    pure (.versionDirective major minor, rest)
  else
    none

def takeHandle (glyphs : List Glyph) : Option (Token × List Glyph) := do
  let glyphs := dropBlanks glyphs
  if nextIs (· == '!') glyphs then
    let (word, rest) := takeWord (glyphs.drop 1)
    let isClosed := nextIs (· == '!') rest
    if !isClosed && !word.isEmpty then none
    else
      let rest := if isClosed then rest.drop 1 else rest
      if nextIs isBlank rest then
        let (start, rest) ← takeSomeTagBytes true (dropBlanks rest)
        if atGap rest then
          pure (.tagDirective ("!" ++ word ++ (if isClosed then "!" else "")) start, rest)
        else
          none
      else
        none
  else
    none

def takeDirective (glyphs : List Glyph) : Option (Token × List Glyph) := do
  let (name, rest) := takeWord glyphs
  if !atGap rest then none
  else
    let (token, rest) ←
      if name == "YAML" then takeVersion rest
      else if name == "TAG" then takeHandle rest
      else none
    pure (token, ← endLine? rest)

end Yaml
end BeaconSentry
