import BeaconSentry.Json.Basic
import BeaconSentry.Text.Hex

/-!
This module contains the lexemes of JSON text and their recognition. Blanks between lexemes are dropped.
-/

namespace BeaconSentry
namespace Json

inductive Token where
  | openBrace
  | closeBrace
  | openBracket
  | closeBracket
  | colon
  | comma
  | null
  | bool (b : Bool)
  | number (n : Number)
  | string (text : Text)
  deriving Repr, DecidableEq

namespace Token

def isSpace (c : Char) : Bool := c == ' ' || c == '\t' || c == '\n' || c == '\r'

def isDigit (c : Char) : Bool := '0' ≤ c && c ≤ '9'

def digitsValue (cs : List Char) : Nat :=
  cs.foldl (fun n c => n * 10 + (c.toNat - '0'.toNat)) 0

def digits? (cs : List Char) : Option (List Char × List Char) :=
  if (cs.takeWhile isDigit).isEmpty then none else some (cs.takeWhile isDigit, cs.dropWhile isDigit)

theorem length_of_digits? {cs ds rest : List Char} (h : digits? cs = some (ds, rest)) :
    rest.length < cs.length := by
  unfold digits? at h
  split at h
  · simp at h
  · rename_i hne
    simp only [Option.some.injEq, Prod.mk.injEq] at h
    have hlen : cs.length = (cs.takeWhile isDigit).length + (cs.dropWhile isDigit).length := by
      rw [← List.length_append, List.takeWhile_append_dropWhile]
    have : (cs.takeWhile isDigit).length ≠ 0 := by
      simpa [List.isEmpty_iff, List.length_eq_zero_iff] using hne
    rw [← h.2]
    omega

/-- Take the whole part of a number: a zero alone, or digits that do not start with a zero. -/
def whole? (cs : List Char) : Option (List Char × List Char) :=
  match cs with
  | '0' :: rest => some (['0'], rest)
  | cs => digits? cs

theorem length_of_whole? {cs ds rest : List Char} (h : whole? cs = some (ds, rest)) :
    rest.length < cs.length := by
  unfold whole? at h
  split at h
  · simp only [Option.some.injEq, Prod.mk.injEq] at h
    simp [← h.2]
  · exact length_of_digits? h

/-- Take the fraction of a number, if there is one. A point must have a digit after it. -/
def fraction? (cs : List Char) : Option (List Char × List Char) :=
  match cs with
  | '.' :: rest => digits? rest
  | cs => some ([], cs)

theorem length_of_fraction? {cs ds rest : List Char} (h : fraction? cs = some (ds, rest)) :
    rest.length ≤ cs.length := by
  unfold fraction? at h
  split at h
  · have := length_of_digits? h
    simp only [List.length_cons]; omega
  · simp only [Option.some.injEq, Prod.mk.injEq] at h
    simp [← h.2]

def exponentSign (cs : List Char) : Bool × List Char :=
  match cs with
  | '-' :: rest => (true, rest)
  | '+' :: rest => (false, rest)
  | cs => (false, cs)

theorem length_exponentSign_le (cs : List Char) : (exponentSign cs).2.length ≤ cs.length := by
  unfold exponentSign
  split <;> simp

def exponent? (cs : List Char) : Option (Option Int × List Char) :=
  match cs with
  | c :: rest =>
    if c == 'e' || c == 'E' then
      match digits? (exponentSign rest).2 with
      | some (ds, after) =>
        let n := Int.ofNat (digitsValue ds)
        some (some (if (exponentSign rest).1 then -n else n), after)
      | none => none
    else
      some (none, cs)
  | [] => some (none, cs)

theorem length_of_exponent? {cs rest : List Char} {e : Option Int}
    (h : exponent? cs = some (e, rest)) : rest.length ≤ cs.length := by
  unfold exponent? at h
  split at h
  · rename_i c tail
    split at h
    · split at h
      · rename_i ds after hd
        simp only [Option.some.injEq, Prod.mk.injEq] at h
        have := length_of_digits? hd
        have := length_exponentSign_le tail
        rw [← h.2]
        simp only [List.length_cons]; omega
      · simp at h
    · simp only [Option.some.injEq, Prod.mk.injEq] at h
      simp [← h.2]
  · simp only [Option.some.injEq, Prod.mk.injEq] at h
    simp [← h.2]

def assemble (minus : Bool) (whole fraction : List Char) (exponent : Option Int) : Number :=
  match fraction, exponent with
  | [], none =>
    let n := digitsValue whole
    if !minus then .natural n else if n == 0 then .decimal true 0 0 else .negative n
  | fraction, exponent =>
    .decimal minus (digitsValue (whole ++ fraction)) (exponent.getD 0 - fraction.length)

def magnitude? (minus : Bool) (cs : List Char) : Option (Number × List Char) := do
  let (whole, cs) ← whole? cs
  let (fraction, cs) ← fraction? cs
  let (exponent, cs) ← exponent? cs
  pure (assemble minus whole fraction exponent, cs)

theorem length_of_magnitude? {minus : Bool} {cs rest : List Char} {n : Number}
    (h : magnitude? minus cs = some (n, rest)) : rest.length < cs.length := by
  simp only [magnitude?, Option.bind_eq_bind, Option.pure_def, Option.bind_eq_some_iff,
    Option.some.injEq, Prod.mk.injEq] at h
  obtain ⟨⟨w, r₁⟩, h₁, ⟨f, r₂⟩, h₂, ⟨e, r₃⟩, h₃, _, rfl⟩ := h
  have := length_of_whole? h₁
  have := length_of_fraction? h₂
  have := length_of_exponent? h₃
  simp only at *
  omega

def escapeCode? (a b c d : Char) : Option Nat := Hex.value? 0 [a, b, c, d]

def shortEscape? (c : Char) : Option Char :=
  match c with
  | '"' => some '"'
  | '\\' => some '\\'
  | '/' => some '/'
  | 'b' => some '\x08'
  | 'f' => some '\x0c'
  | 'n' => some '\n'
  | 'r' => some '\r'
  | 't' => some '\t'
  | _ => none

def isHigh (code : Nat) : Bool := 0xd800 ≤ code && code ≤ 0xdbff

def isLow (code : Nat) : Bool := 0xdc00 ≤ code && code ≤ 0xdfff

def lowEscape? (cs : List Char) : Option (Nat × List Char) :=
  match cs with
  | '\\' :: 'u' :: a :: b :: c :: d :: rest =>
    match escapeCode? a b c d with
    | some code => if isLow code then some (code, rest) else none
    | none => none
  | _ => none

theorem length_of_lowEscape? {cs rest : List Char} {code : Nat}
    (h : lowEscape? cs = some (code, rest)) : rest.length < cs.length := by
  unfold lowEscape? at h
  split at h
  · split at h
    · split at h
      · simp only [Option.some.injEq, Prod.mk.injEq] at h
        simp only [← h.2, List.length_cons]; omega
      · simp at h
    · simp at h
  · simp at h

def pairChar (high low : Nat) : Char :=
  Char.ofNat (0x10000 + (high - 0xd800) * 0x400 + (low - 0xdc00))

/--
Take the rest of a string literal up to its closing quote. The characters so far are `done`, latest first,
and `whole` says that no escape so far named half of a surrogate pair.
-/
def literal? (done : List Char) (whole : Bool) (cs : List Char) : Option (Text × List Char) :=
  match cs with
  | [] => none
  | '"' :: rest => some (if whole then some (String.ofList done.reverse) else none, rest)
  | '\\' :: 'u' :: a :: b :: c :: d :: rest =>
    match escapeCode? a b c d with
    | none => none
    | some code =>
      if isHigh code then
        match _h : lowEscape? rest with
        | some (low, after) => literal? (pairChar code low :: done) whole after
        | none => literal? done false rest
      else if isLow code then literal? done false rest
      else literal? (Char.ofNat code :: done) whole rest
  | '\\' :: c :: rest =>
    match shortEscape? c with
    | some c => literal? (c :: done) whole rest
    | none => none
  | c :: rest => if c < ' ' then none else literal? (c :: done) whole rest
termination_by cs.length
decreasing_by
  all_goals simp only [List.length_cons]
  · have := length_of_lowEscape? _h
    omega
  all_goals omega

theorem length_of_literal? {done : List Char} {whole : Bool} {cs rest : List Char} {text : Text}
    (h : literal? done whole cs = some (text, rest)) : rest.length < cs.length := by
  fun_induction literal? done whole cs <;> simp_all <;> try omega
  rename_i hlow ih
  have := length_of_lowEscape? hlow
  omega

/-- Take the lexeme that starts with `c` off the front. -/
def next? (c : Char) (cs : List Char) : Option (Token × List Char) :=
  match c, cs with
  | '\x7b', cs => some (.openBrace, cs)
  | '\x7d', cs => some (.closeBrace, cs)
  | '[', cs => some (.openBracket, cs)
  | ']', cs => some (.closeBracket, cs)
  | ':', cs => some (.colon, cs)
  | ',', cs => some (.comma, cs)
  | 'n', 'u' :: 'l' :: 'l' :: cs => some (.null, cs)
  | 't', 'r' :: 'u' :: 'e' :: cs => some (.bool true, cs)
  | 'f', 'a' :: 'l' :: 's' :: 'e' :: cs => some (.bool false, cs)
  | '"', cs => (literal? [] true cs).map fun (text, rest) => (.string text, rest)
  | '-', cs => (magnitude? true cs).map fun (n, rest) => (.number n, rest)
  | c, cs =>
    if isDigit c then (magnitude? false (c :: cs)).map fun (n, rest) => (.number n, rest) else none

theorem length_of_next? {c : Char} {cs rest : List Char} {token : Token}
    (h : next? c cs = some (token, rest)) : rest.length ≤ cs.length := by
  unfold next? at h
  split at h
  iterate 6
    · cases h
      exact Nat.le_refl _
  iterate 3
    · cases h
      simp only [List.length_cons]
      omega
  · simp only [Option.map_eq_some_iff, Prod.mk.injEq] at h
    obtain ⟨⟨_, _⟩, hl, _, rfl⟩ := h
    exact Nat.le_of_lt (length_of_literal? hl)
  · simp only [Option.map_eq_some_iff, Prod.mk.injEq] at h
    obtain ⟨⟨_, _⟩, hl, _, rfl⟩ := h
    exact Nat.le_of_lt (length_of_magnitude? hl)
  · split at h
    · simp only [Option.map_eq_some_iff, Prod.mk.injEq] at h
      obtain ⟨⟨_, _⟩, hl, _, rfl⟩ := h
      exact Nat.le_of_lt_succ (length_of_magnitude? hl)
    · simp at h

def scan : List Char → Option (List Token)
  | [] => some []
  | c :: cs =>
    if isSpace c then scan cs
    else
      match _h : next? c cs with
      | none => none
      | some (token, rest) => (scan rest).map (token :: ·)
termination_by cs => cs.length
decreasing_by
  all_goals simp only [List.length_cons]
  · omega
  · have := length_of_next? _h
    omega

end Token
end Json
end BeaconSentry
