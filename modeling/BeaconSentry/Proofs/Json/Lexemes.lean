import BeaconSentry.Json.Printer
import BeaconSentry.Json.Token
import BeaconSentry.Proofs.Text.Numeral

/-!
This module contains that a lexeme is recognized in JSON text where it has been written: string literals with their
escapes, and numbers.
-/

namespace BeaconSentry
namespace Json
namespace Token

theorem scan_cons {c : Char} {cs rest : List Char} {token : Token} (hc : isSpace c = false)
    (h : next? c cs = some (token, rest))
    : scan (c :: cs) = (scan rest).map (token :: ·) := by
  rw [scan, hc]
  simp only [Bool.false_eq_true, if_false]
  split
  next hnone => cases hnone.symm.trans h
  next hsome =>
    cases hsome.symm.trans h
    rfl

section Literals

theorem escapeCode?_control : ∀ code < 0x20,
    escapeCode? '0' '0' (Nat.digitChar (code / 16)) (Nat.digitChar (code % 16)) = some code := by
  decide

/-- A character that needs no escape stands for itself. -/
theorem literal?_plain {c : Char} (done : List Char) (whole : Bool) (rest : List Char) (hquote : c ≠ '"')
    (hslash : c ≠ '\\') (hcontrol : ¬c < ' ')
    : literal? done whole (c :: rest) = literal? (c :: done) whole rest := by
  rw [literal?.eq_def]
  split
  next heq => cases heq
  next heq => exact absurd (List.cons.inj heq).1 hquote
  next heq => exact absurd (List.cons.inj heq).1 hslash
  next heq => exact absurd (List.cons.inj heq).1 hslash
  next heq =>
    cases heq
    exact if_neg hcontrol

theorem literal?_short {c d : Char} (done : List Char) (whole : Bool) (rest : List Char)
    (h : shortEscape? c = some d)
    : literal? done whole ('\\' :: c :: rest) = literal? (d :: done) whole rest := by
  rw [literal?.eq_def]
  split
  next heq => cases heq
  next heq => cases (List.cons.inj heq).1
  next heq =>
    cases heq
    cases h
  next heq =>
    cases heq
    simp only [h]
  next hslash heq =>
    cases heq
    exact absurd rfl (hslash c rest rfl)

theorem literal?_code {a b c d : Char} {code : Nat} (done : List Char) (whole : Bool) (rest : List Char)
    (h : escapeCode? a b c d = some code) (hhigh : isHigh code = false) (hlow : isLow code = false)
    : literal? done whole ('\\' :: 'u' :: a :: b :: c :: d :: rest)
        = literal? (Char.ofNat code :: done) whole rest := by
  rw [literal?.eq_def]
  simp only [h, hhigh, hlow, Bool.false_eq_true, if_false]

/-- A character is escaped by a letter or by its code, or it stands for itself. -/
theorem escapedChar_cases (c : Char)
    : (∃ letter, escapedChar c = ['\\', letter] ∧ shortEscape? letter = some c)
      ∨ (c.toNat < 0x20 ∧ escapedChar c =
          ['\\', 'u', '0', '0', Nat.digitChar (c.toNat / 16), Nat.digitChar (c.toNat % 16)])
      ∨ (escapedChar c = [c] ∧ c ≠ '"' ∧ c ≠ '\\' ∧ ¬c < ' ') := by
  unfold escapedChar
  split
  next h => exact .inl ⟨'"', rfl, congrArg some (beq_iff_eq.mp h).symm⟩
  next hquote =>
  split
  next h => exact .inl ⟨'\\', rfl, congrArg some (beq_iff_eq.mp h).symm⟩
  next hslash =>
  split
  next h => exact .inl ⟨'b', rfl, congrArg some (beq_iff_eq.mp h).symm⟩
  split
  next h => exact .inl ⟨'f', rfl, congrArg some (beq_iff_eq.mp h).symm⟩
  split
  next h => exact .inl ⟨'n', rfl, congrArg some (beq_iff_eq.mp h).symm⟩
  split
  next h => exact .inl ⟨'r', rfl, congrArg some (beq_iff_eq.mp h).symm⟩
  split
  next h => exact .inl ⟨'t', rfl, congrArg some (beq_iff_eq.mp h).symm⟩
  split
  next h => exact .inr (.inl ⟨h, rfl⟩)
  next h =>
    rw [beq_iff_eq] at hquote hslash
    exact .inr (.inr ⟨rfl, hquote, hslash, h⟩)

/-- The first half of a surrogate pair without the second spoils the literal. -/
theorem literal?_half {a b c d : Char} {code : Nat} (done : List Char) (whole : Bool) {rest : List Char}
    (h : escapeCode? a b c d = some code) (hhigh : isHigh code = true) (hrest : lowEscape? rest = none)
    : literal? done whole ('\\' :: 'u' :: a :: b :: c :: d :: rest) = literal? done false rest := by
  rw [literal?.eq_def]
  simp only [h, hhigh, if_true]
  split
  next hsome => cases hsome.symm.trans hrest
  next => rfl

theorem literal?_escapedChar (done : List Char) (whole : Bool) (c : Char) (rest : List Char)
    : literal? done whole (escapedChar c ++ rest) = literal? (c :: done) whole rest := by
  rcases escapedChar_cases c with ⟨letter, heq, hletter⟩ | ⟨hlt, heq⟩ | ⟨heq, hquote, hslash, hcontrol⟩
  . rw [heq]
    exact literal?_short done whole rest hletter
  . have hcode := escapeCode?_control c.toNat hlt
    have hhigh : isHigh c.toNat = false := by simp [isHigh]; omega
    have hlow : isLow c.toNat = false := by simp [isLow]; omega
    simp only [heq, List.cons_append, List.nil_append]
    rw [literal?_code done whole rest hcode hhigh hlow, Char.ofNat_toNat]
  . rw [heq]
    exact literal?_plain done whole rest hquote hslash hcontrol

/-- The characters of a text, escaped, are read back up to the closing quote. -/
theorem literal?_flatMap_escapedChar (done : List Char) (whole : Bool) (cs rest : List Char)
    : literal? done whole (cs.flatMap escapedChar ++ rest) = literal? (cs.reverse ++ done) whole rest := by
  induction cs generalizing done with
  | nil => rfl
  | cons c cs ih =>
    rw [List.flatMap_cons, List.append_assoc, literal?_escapedChar, ih, List.reverse_cons, List.append_assoc]
    rfl

theorem literal?_quote (done : List Char) (whole : Bool) (rest : List Char)
    : literal? done whole ('"' :: rest)
        = some (if whole then some (String.ofList done.reverse) else none, rest) := by
  rw [literal?]

theorem print_some_append (s : String) (rest : List Char)
    : Text.print (some s) ++ rest = '"' :: (s.toList.flatMap escapedChar ++ '"' :: rest) := by
  show ('"' :: s.toList.flatMap escapedChar ++ ['"']) ++ rest = _
  rw [List.append_assoc, List.cons_append, List.singleton_append]

theorem print_none : Text.print none = ['"', '\\', 'u', 'd', '8', '0', '0', '"'] := by decide

/-- A string literal is recognized, also one that is no text. -/
theorem scan_print_text (text : Text) (rest : List Char)
    : scan (Text.print text ++ rest) = (scan rest).map (.string text :: ·) := by
  cases text with
  | some s =>
    rw [print_some_append]
    refine scan_cons rfl ?_
    rw [next?, literal?_flatMap_escapedChar, literal?_quote]
    simp
  | none =>
    have hcode : escapeCode? 'd' '8' '0' '0' = some 0xd800 := by decide
    have hhalf : literal? [] true _ = literal? [] false ('"' :: rest) := literal?_half [] true hcode rfl rfl
    simp only [print_none, List.cons_append, List.nil_append]
    refine scan_cons rfl ?_
    rw [next?, hhalf, literal?_quote]
    rfl

end Literals

section Numbers

/-- Whether a number cannot go on with what follows. -/
def EndsNumber (rest : List Char) : Prop :=
  ∀ c ∈ rest.head?, isDigit c = false ∧ c ≠ '.' ∧ c ≠ 'e' ∧ c ≠ 'E'

theorem endsNumber_nil : EndsNumber [] := by
  intro c hc
  cases hc

theorem endsNumber_cons (c : Char) (rest : List Char) (h : isDigit c = false ∧ c ≠ '.' ∧ c ≠ 'e' ∧ c ≠ 'E')
    : EndsNumber (c :: rest) := by
  intro d hd
  cases hd
  exact h

variable {rest : List Char}

theorem isDigit_eq (c : Char) : isDigit c = c.isDigit := by
  rw [isDigit, Char.isDigit]
  rfl

theorem isDigit_of_mem {n : Nat} {c : Char} (h : c ∈ Nat.toDigits 10 n) : isDigit c = true :=
  (isDigit_eq c).trans (Numeral.isDigit_of_mem_toDigits h)

theorem exists_toDigits_eq_cons (n : Nat) : ∃ c cs, Nat.toDigits 10 n = c :: cs ∧ isDigit c = true := by
  obtain ⟨c, cs, hcs, hc⟩ := Numeral.exists_toDigits_eq_cons n
  exact ⟨c, cs, hcs, (isDigit_eq c).trans hc⟩

theorem digitsValue_toDigits (n : Nat) : digitsValue (Nat.toDigits 10 n) = n := by
  have hvalue (cs : List Char) : digitsValue cs = Nat.ofDigitChars 10 cs 0 := by
    simp only [digitsValue, Nat.ofDigitChars, Nat.mul_comm]
  rw [hvalue]
  exact Nat.ofDigitChars_toDigits (by decide) (by decide)

theorem digits?_toDigits (n : Nat) (hrest : ∀ c ∈ rest.head?, isDigit c = false)
    : digits? (Nat.toDigits 10 n ++ rest) = some (Nat.toDigits 10 n, rest) := by
  have hstop : rest.takeWhile isDigit = [] ∧ rest.dropWhile isDigit = rest := by
    cases rest with
    | nil => exact ⟨rfl, rfl⟩
    | cons c rest => simp [hrest c rfl]
  have htake : (Nat.toDigits 10 n ++ rest).takeWhile isDigit = Nat.toDigits 10 n := by
    rw [List.takeWhile_append_of_pos (fun c => isDigit_of_mem), hstop.1, List.append_nil]
  have hdrop : (Nat.toDigits 10 n ++ rest).dropWhile isDigit = rest := by
    rw [List.dropWhile_append_of_pos (fun c => isDigit_of_mem), hstop.2]
  rw [digits?, htake, hdrop]
  simp [Nat.toDigits_ne_nil]

/-- A number is written without a leading zero, so its whole part takes all its digits. -/
theorem whole?_toDigits (n : Nat) (hrest : ∀ c ∈ rest.head?, isDigit c = false)
    : whole? (Nat.toDigits 10 n ++ rest) = some (Nat.toDigits 10 n, rest) := by
  by_cases hn : n = 0
  . subst hn
    rfl
  . rw [whole?.eq_def]
    split
    next heq =>
      obtain ⟨c, cs, hcs, _⟩ := exists_toDigits_eq_cons n
      rw [hcs] at heq
      have hzero : Nat.toDigits 10 n = '0' :: cs := (List.cons.inj heq).1 ▸ hcs
      exact absurd hzero (Numeral.toDigits_ne_zero_cons (Nat.pos_of_ne_zero hn) cs)
    next => exact digits?_toDigits n hrest

theorem fraction?_none (h : ∀ c ∈ rest.head?, c ≠ '.') : fraction? rest = some ([], rest) := by
  rw [fraction?.eq_def]
  split
  next => exact absurd rfl (h '.' rfl)
  next => rfl

theorem exponent?_none (h : ∀ c ∈ rest.head?, c ≠ 'e' ∧ c ≠ 'E') : exponent? rest = some (none, rest) := by
  cases rest with
  | nil => rfl
  | cons c rest =>
    have hc := h c rfl
    simp [exponent?, hc.1, hc.2]

theorem exponentSign_print (exponent : Int)
    : exponentSign ((if exponent < 0 then ['-'] else []) ++ Nat.toDigits 10 exponent.natAbs ++ rest)
        = (decide (exponent < 0), Nat.toDigits 10 exponent.natAbs ++ rest) := by
  by_cases hneg : exponent < 0
  . simp [hneg, exponentSign]
  . obtain ⟨c, cs, hcs, hc⟩ := exists_toDigits_eq_cons exponent.natAbs
    rw [exponentSign.eq_def]
    simp only [hcs, hneg, if_false, List.nil_append, List.cons_append, decide_false]
    split
    next heq => exact absurd ((List.cons.inj heq).1 ▸ hc) (by decide)
    next heq => exact absurd ((List.cons.inj heq).1 ▸ hc) (by decide)
    next => rfl

theorem exponent?_print (exponent : Int) (hrest : ∀ c ∈ rest.head?, isDigit c = false)
    : exponent? ('e' :: (if exponent < 0 then ['-'] else []) ++ Nat.toDigits 10 exponent.natAbs ++ rest)
        = some (some exponent, rest) := by
  have hdigits := digits?_toDigits exponent.natAbs hrest
  have hvalue : (if exponent < 0 then -Int.ofNat exponent.natAbs else Int.ofNat exponent.natAbs) = exponent := by
    split
    all_goals
      rw [Int.ofNat_eq_natCast]
      omega
  simp only [List.cons_append, exponent?, exponentSign_print, hdigits, digitsValue_toDigits]
  simpa using hvalue

theorem magnitude?_whole (minus : Bool) (n : Nat) (h : EndsNumber rest)
    : magnitude? minus (Nat.toDigits 10 n ++ rest) = some (assemble minus (Nat.toDigits 10 n) [] none, rest) := by
  have hwhole := whole?_toDigits n fun c hc => (h c hc).1
  have hfraction := fraction?_none fun c hc => (h c hc).2.1
  have hexponent := exponent?_none fun c hc => (h c hc).2.2
  simp [magnitude?, hwhole, hfraction, hexponent]

theorem magnitude?_exponent (minus : Bool) (n : Nat) (exponent : Int) (h : EndsNumber rest)
    : magnitude? minus (Nat.toDigits 10 n ++ ('e' :: (if exponent < 0 then ['-'] else []) ++
          Nat.toDigits 10 exponent.natAbs ++ rest))
        = some (.decimal minus n exponent, rest) := by
  have hexponent := exponent?_print exponent fun c hc => (h c hc).1
  generalize htail : 'e' :: (if exponent < 0 then ['-'] else []) ++ Nat.toDigits 10 exponent.natAbs ++ rest = tail
  rw [htail] at hexponent
  have hhead : tail.head? = some 'e' := by
    rw [← htail]
    rfl
  have hwhole : whole? (Nat.toDigits 10 n ++ tail) = some (Nat.toDigits 10 n, tail) := by
    refine whole?_toDigits n ?_
    simp only [hhead, Option.mem_some_iff, forall_eq']
    decide
  have hfraction : fraction? tail = some ([], tail) := by
    refine fraction?_none ?_
    simp [hhead]
  simp [magnitude?, hwhole, hfraction, hexponent, assemble, digitsValue_toDigits]

theorem next?_of_isDigit {c : Char} (cs : List Char) (hc : isDigit c = true)
    : next? c cs = (magnitude? false (c :: cs)).map fun (n, rest) => (.number n, rest) := by
  rw [next?.eq_def]
  split
  iterate 11
    next => exact absurd hc (by decide)
  next => exact if_pos hc

theorem isSpace_of_isDigit {c : Char} (hc : isDigit c = true) : isSpace c = false := by
  cases hspace : isSpace c with
  | false => rfl
  | true =>
    simp only [isSpace, Bool.or_eq_true, beq_iff_eq] at hspace
    rcases hspace with ((rfl | rfl) | rfl) | rfl
    all_goals exact absurd hc (by decide)

theorem scan_magnitude {minus : Bool} {n : Nat} {cs : List Char} {number : Number}
    (h : magnitude? minus (Nat.toDigits 10 n ++ cs) = some (number, rest))
    : scan ((if minus then ['-'] else []) ++ Nat.toDigits 10 n ++ cs) = (scan rest).map (.number number :: ·) := by
  cases minus with
  | true =>
    simp only [if_true, List.cons_append, List.nil_append]
    refine scan_cons rfl ?_
    rw [next?, h, Option.map_some]
  | false =>
    obtain ⟨c, ds, hds, hc⟩ := exists_toDigits_eq_cons n
    rw [hds, List.cons_append] at h
    simp only [hds, Bool.false_eq_true, if_false, List.cons_append, List.nil_append]
    refine scan_cons (isSpace_of_isDigit hc) ?_
    rw [next?_of_isDigit _ hc, h, Option.map_some]

/-- A number is recognized where it cannot go on, except that minus zero is no negative natural number. -/
theorem scan_print_number (n : Number) (hn : n ≠ .negative 0) (h : EndsNumber rest)
    : scan (n.print ++ rest) = (scan rest).map (.number n :: ·) := by
  cases n with
  | natural n =>
    have hread := scan_magnitude (magnitude?_whole false n h)
    rwa [assemble, digitsValue_toDigits] at hread
  | negative n =>
    have hzero : n ≠ 0 := fun heq => hn (heq ▸ rfl)
    have hread := scan_magnitude (magnitude?_whole true n h)
    rw [assemble, digitsValue_toDigits] at hread
    simpa [Number.print, hzero] using hread
  | decimal minus n exponent =>
    have hread := scan_magnitude (magnitude?_exponent minus n exponent h)
    simpa [Number.print] using hread

end Numbers
end Token
end Json
end BeaconSentry
