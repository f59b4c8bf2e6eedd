import BeaconSentry.Text.CaseTable

/-!
This module contains the lowercasing of text in every script. Each character goes to its small letter by
itself, with one exception: a capital sigma that ends a word becomes the final sigma.
-/

namespace BeaconSentry
namespace Text

def lowerChar (c : Char) : List Char :=
  if c.toNat < 0x80 then [c.toLower]
  else if c.toNat == 0x130 then ['i', Char.ofNat 0x307]
  else
    match capitalRuns.find? (·.covers c.toNat) with
    | some run => [Char.ofNat (run.small c.toNat)]
    | none => [c]

def leadsToCased (cs : List Char) : Bool :=
  (cs.dropWhile isCaseIgnorable).head?.any isCased

/--
Lowercase a list of characters, where `afterCased` says whether the nearest preceding character that
casing does not look through is cased.
-/
def lowerList.go (afterCased : Bool) : List Char → List Char
  | [] => []
  | c :: rest =>
    let small :=
      if c == 'Σ' then
        if afterCased && !leadsToCased rest then ['ς'] else ['σ']
      else
        lowerChar c
    small ++ lowerList.go (if isCaseIgnorable c then afterCased else isCased c) rest

def lowerList (cs : List Char) : List Char := lowerList.go false cs

/-- The text in small letters. -/
def lower (s : String) : String := String.ofList (lowerList s.toList)

end Text
end BeaconSentry
