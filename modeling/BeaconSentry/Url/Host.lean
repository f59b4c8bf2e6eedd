import BeaconSentry.Text.Lower
import BeaconSentry.Url.Percent
import BeaconSentry.Url.Punycode

/-!
This module contains the hosts of URLs in their printed form: domain names in small ASCII letters, addresses
of four decimal bytes, and bracketed addresses of eight hexadecimal groups.
-/

namespace BeaconSentry
namespace Host

/-- Split a list at every element that satisfies `p`. -/
def splitWhere (p : α → Bool) : List α → List (List α)
  | [] => [[]]
  | a :: rest =>
    if p a then [] :: splitWhere p rest
    else
      match splitWhere p rest with
      | [] => [[a]]
      | piece :: pieces => (a :: piece) :: pieces

def isForbidden (c : Char) : Bool :=
  " #/:<>?@[\\]^|".toList.contains c || c.toNat == 0 || c.toNat == 9 || c.toNat == 10 || c.toNat == 13

/-- Whether a character cannot be in a domain name. The replacement character stands for malformed bytes. -/
def isForbiddenInDomain (c : Char) : Bool :=
  isForbidden c || Percent.isControl c || c == '%' || c == Utf8.replacement

/-- The narrow form of a character: wide forms become narrow, soft hyphens go. -/
def narrowChar (c : Char) : List Char :=
  if 0xff01 ≤ c.toNat && c.toNat ≤ 0xff5e then [Char.ofNat (c.toNat - 0xfee0)]
  else if c.toNat == 0x3002 || c.toNat == 0xff61 then ['.']
  else if c.toNat == 0xad || c.toNat == 0x200b || c.toNat == 0xfeff then []
  else [c]

/-- The plain form of a character in a domain name, which is narrow and small. -/
def plainChar (c : Char) : List Char := (narrowChar c).flatMap Text.lowerChar

def marker : List Char := "xn--".toList

def isAsciiForm (text : List Char) : Bool :=
  (Punycode.decode? text).any fun label =>
    label.any (0x80 ≤ ·.toNat) && label.flatMap plainChar == label

def asciiLabel? (label : List Char) : Option (List Char) :=
  if label.any (0x80 ≤ ·.toNat) then some (marker ++ Punycode.encode label)
  else if marker.isPrefixOf label && !isAsciiForm (label.drop marker.length) then none
  else some label

def domain? (name : List Char) : Option (List Char) := do
  let name := name.flatMap plainChar
  let labels ← (splitWhere (· == '.') name).mapM asciiLabel?
  if name.any isForbiddenInDomain then none else some (['.'].intercalate labels)

def inBase? (base : Nat) (cs : List Char) : Option Nat :=
  cs.foldlM (fun n c => do
    let d ← Hex.digit? c
    if d < base then some (n * base + d) else none) 0

/-- A part of an address: decimal, octal after a zero, or hexadecimal after `0x`. -/
def addressPart? : List Char → Option Nat
  | [] => none
  | ['0'] => some 0
  | '0' :: 'x' :: rest => inBase? 16 rest
  | '0' :: 'X' :: rest => inBase? 16 rest
  | '0' :: rest => inBase? 8 rest
  | cs => inBase? 10 cs

def labels (name : List Char) : List (List Char) :=
  let pieces := splitWhere (· == '.') name
  if 1 < pieces.length && pieces.getLast? == some [] then pieces.dropLast else pieces

/-- Whether the last label of a name says that it must be an address. -/
def endsInNumber (name : List Char) : Bool :=
  match (labels name).getLast? with
  | none => false
  | some last =>
    (!last.isEmpty && last.all fun c => '0' ≤ c && c ≤ '9') ||
      match last with
      | '0' :: x :: rest => (x == 'x' || x == 'X') && (inBase? 16 rest).isSome
      | _ => false

/-- The number of an address from its parts: the last part fills the bytes that are left. -/
def addressNumber? (parts : List Nat) : Option Nat :=
  if parts.isEmpty || 4 < parts.length || parts.dropLast.any (255 < ·) then none
  else
    let last := parts.getLast?.getD 0
    if last < Nat.pow 256 (5 - parts.length) then
      some (parts.dropLast.zipIdx.foldl (fun n (part, i) => n + part * Nat.pow 256 (3 - i)) last)
    else
      none

def printAddress (n : Nat) : String :=
  s!"{n / 16777216 % 256}.{n / 65536 % 256}.{n / 256 % 256}.{n % 256}"

def address? (name : List Char) : Option String := do
  let parts ← (labels name).mapM addressPart?
  (addressNumber? parts).map printAddress

def group? (cs : List Char) : Option Nat :=
  if cs.isEmpty || 4 < cs.length then none else inBase? 16 cs

def decimalByte? (cs : List Char) : Option Nat :=
  match cs with
  | ['0'] => some 0
  | '0' :: _ => none
  | cs =>
    if cs.isEmpty || 3 < cs.length then none
    else (inBase? 10 cs).bind fun n => if n ≤ 255 then some n else none

/-- Groups between colons; the last one may be an address of four decimal bytes. -/
def groups? : List (List Char) → Option (List Nat)
  | [] => some []
  | [last] =>
    if last.contains '.' then do
      let [a, b, c, d] ← (splitWhere (· == '.') last).mapM decimalByte? | none
      some [a * 256 + b, c * 256 + d]
    else
      (group? last).map ([·])
  | cs :: rest => do
    let group ← group? cs
    let groups ← groups? rest
    some (group :: groups)

def groupsOf? (cs : List Char) : Option (List Nat) :=
  if cs.isEmpty then some [] else groups? (splitWhere (· == ':') cs)

def splitDouble : List Char → Option (List Char × List Char)
  | ':' :: ':' :: rest => some ([], rest)
  | c :: rest => (splitDouble rest).map fun (before, after) => (c :: before, after)
  | [] => none

/-- The eight groups of a bracketed address; a double colon stands for the groups that are missing. -/
def longAddress? (cs : List Char) : Option (List Nat) :=
  match splitDouble cs with
  | none => do
    let groups ← groupsOf? cs
    if groups.length == 8 then some groups else none
  | some (before, after) => do
    let first ← if before.contains '.' then none else groupsOf? before
    let last ← groupsOf? after
    if first.length + last.length < 8 then
      some (first ++ List.replicate (8 - first.length - last.length) 0 ++ last)
    else
      none

def zeros (groups : List Nat) : Nat := (groups.takeWhile (· == 0)).length

def longestZeros (groups : List Nat) : Nat × Nat :=
  (List.range groups.length).foldl
    (fun best i => if best.2 < zeros (groups.drop i) then (i, zeros (groups.drop i)) else best)
    (0, 0)

def printGroups (groups : List Nat) : String :=
  ":".intercalate (groups.map fun n => String.ofList (Nat.toDigits 16 n))

/-- The printed form of eight groups: the longest run of two or more zeros becomes a double colon. -/
def printLongAddress (groups : List Nat) : String :=
  let (start, length) := longestZeros groups
  if length < 2 then printGroups groups
  else printGroups (groups.take start) ++ "::" ++ printGroups (groups.drop (start + length))

def bracketed? (cs : List Char) : Option String :=
  if cs.getLast? == some ']' then
    (longAddress? cs.dropLast).map fun groups => "[" ++ printLongAddress groups ++ "]"
  else
    none

def web? (cs : List Char) : Option String :=
  match cs with
  | '[' :: rest => bracketed? rest
  | cs => do
    let name ← domain? (Utf8.decodeLossy (Percent.decode cs)).toList
    if name.isEmpty then none
    else if endsInNumber name then address? name
    else some (String.ofList name)

/-- The host of any other address, which may be empty. -/
def other? (cs : List Char) : Option String :=
  match cs with
  | '[' :: rest => bracketed? rest
  | cs => if cs.any isForbidden then none else some (Percent.encode "" cs)

end Host
end BeaconSentry
