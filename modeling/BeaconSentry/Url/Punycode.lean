/-!
This module contains the writing of labels with letters beyond ASCII in ASCII letters: the ASCII letters come
first, then numbers that say which character goes in where. `decode?` reads what `encode` writes.
-/

namespace BeaconSentry
namespace Punycode

/-- The digits of the numbers: letters, then decimal digits. -/
def digit (n : Nat) : Char := if n < 26 then Char.ofNat (97 + n) else Char.ofNat (22 + n)

def adapt.go (k delta : Nat) : Nat :=
  if h : 455 < delta then adapt.go (k + 36) (delta / 35) else k + 36 * delta / (delta + 38)
termination_by delta

def adapt (delta points : Nat) (first : Bool) : Nat :=
  let delta := if first then delta / 700 else delta / 2
  adapt.go 0 (delta + delta / points)

/-- The least digit value that continues a number at place `k`. -/
def threshold (k bias : Nat) : Nat := if k ≤ bias then 1 else if bias + 26 ≤ k then 26 else k - bias

/-- Write a number whose next digit is at place `k`. -/
def number (bias k q : Nat) : Nat → List Char
  | 0 => []
  | fuel + 1 =>
    let t := threshold k bias
    if q < t then [digit q]
    else digit (t + (q - t) % (36 - t)) :: number bias (k + 36) ((q - t) / (36 - t)) fuel

structure State where
  delta : Nat
  bias : Nat
  handled : Nat
  output : List Char

/-- Pass over a character while code point `n` is being written. -/
def State.pass (basic n : Nat) (state : State) (code : Nat) : State :=
  if code < n then { state with delta := state.delta + 1 }
  else if code == n then
    { delta := 0
      bias := adapt state.delta (state.handled + 1) (state.handled == basic)
      handled := state.handled + 1
      output := state.output ++ number state.bias 36 state.delta (state.delta + 1) }
  else state

/-- Write the code points of a list from `n` on, smallest first. -/
def extend (basic : Nat) (codes : List Nat) (n : Nat) (state : State) : Nat → List Char
  | 0 => state.output
  | fuel + 1 =>
    match (codes.filter (n ≤ ·)).min? with
    | none => state.output
    | some m =>
      let state := { state with delta := state.delta + (m - n) * (state.handled + 1) }
      let state := codes.foldl (State.pass basic m) state
      extend basic codes (m + 1) { state with delta := state.delta + 1 } fuel

def encode (label : List Char) : List Char :=
  let basic := label.filter (·.toNat < 0x80)
  let start := if basic.isEmpty then [] else basic ++ ['-']
  extend basic.length (label.map (·.toNat)) 0x80 ⟨0, 72, basic.length, start⟩ (label.length + 1)

def value? (c : Char) : Option Nat :=
  if 'a' ≤ c && c ≤ 'z' then some (c.toNat - 97)
  else if '0' ≤ c && c ≤ '9' then some (c.toNat - 22)
  else none

/-- The state of a decoder: what it has read so far, and the number that is being read. -/
structure Reading where
  code : Nat
  bias : Nat
  position : Nat
  delta : Nat
  weight : Nat
  place : Nat
  output : List Char

def Reading.start (basic : List Char) : Reading := ⟨0x80, 72, 0, 0, 1, 36, basic⟩

def Reading.insert? (reading : Reading) (delta : Nat) : Option Reading :=
  let size := reading.output.length + 1
  let code := reading.code + (reading.position + delta) / size
  let position := (reading.position + delta) % size
  if code.isValidChar then
    some {
      code
      bias := adapt delta size (reading.position == 0)
      position := position + 1
      delta := 0
      weight := 1
      place := 36
      output := reading.output.take position ++ Char.ofNat code :: reading.output.drop position }
  else
    none

def Reading.take? (reading : Reading) (c : Char) : Option Reading := do
  let d ← value? c
  let t := threshold reading.place reading.bias
  let delta := reading.delta + d * reading.weight
  if d < t then
    reading.insert? delta
  else
    some { reading with delta, weight := reading.weight * (36 - t), place := reading.place + 36 }

/-- The label that a text writes, without its marker. The last hyphen ends the ASCII letters. -/
def decode? (text : List Char) : Option (List Char) := do
  let numbers := (text.reverse.takeWhile (· != '-')).reverse
  let basic := (text.take (text.length - numbers.length)).dropLast
  let reading ← numbers.foldlM Reading.take? (.start basic)
  if reading.place == 36 then some reading.output else none

end Punycode
end BeaconSentry
