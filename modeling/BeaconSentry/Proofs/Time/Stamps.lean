import BeaconSentry.Proofs.Time.Calendar
import BeaconSentry.Proofs.Json.Lexemes
import BeaconSentry.Time.Timestamp
import Mathlib.Data.Nat.Digits.Defs

/-!
This module contains that instants are read back from their timestamps, down to the microsecond. The years must have
four digits, and a leap second must be at the end of a minute.
-/

namespace BeaconSentry

namespace Timestamp

section Digits

theorem isDigit_of_mem_toDigits {n : Nat} {c : Char} (h : c ∈ Nat.toDigits 10 n) : isDigit c = true :=
  Json.Token.isDigit_of_mem h

theorem digitsValue_toDigits (n : Nat) : digitsValue (Nat.toDigits 10 n) = n := Json.Token.digitsValue_toDigits n

theorem digitsValue_zeros (count : Nat) (ds : List Char)
    : digitsValue (List.replicate count '0' ++ ds) = digitsValue ds := by
  induction count with
  | zero => rfl
  | succ count ih => exact ih

theorem toList_zeroPadded (width n : Nat)
    : (zeroPadded width n).toList = List.replicate (width - (Nat.toDigits 10 n).length) '0' ++ Nat.toDigits 10 n := by
  simp [zeroPadded]

theorem isDigit_of_mem_zeroPadded {width n : Nat} {c : Char} (h : c ∈ (zeroPadded width n).toList)
    : isDigit c = true := by
  rw [toList_zeroPadded, List.mem_append] at h
  rcases h with h | h
  . rw [List.eq_of_mem_replicate h]
    rfl
  . exact isDigit_of_mem_toDigits h

@[simp]
theorem digitsValue_zeroPadded (width n : Nat) : digitsValue (zeroPadded width n).toList = n := by
  rw [toList_zeroPadded, digitsValue_zeros, digitsValue_toDigits]

theorem length_zeroPadded {width n : Nat} (hwidth : 0 < width) (h : n < 10 ^ width)
    : (zeroPadded width n).toList.length = width := by
  have hlength := Nat.toDigits_length 10 n width hwidth h
  rw [toList_zeroPadded, List.length_append, List.length_replicate]
  omega

end Digits

theorem number?_zeroPadded {width n : Nat} (hwidth : 0 < width) (h : n < 10 ^ width) (rest : List Char)
    : number? width ((zeroPadded width n).toList ++ rest) = some (n, rest) := by
  have hlength := length_zeroPadded hwidth h
  have hdigits : (zeroPadded width n).toList.all isDigit = true := by
    rw [List.all_eq_true]
    intro c
    exact isDigit_of_mem_zeroPadded
  simp only [number?]
  rw [List.take_left' hlength, List.drop_left' hlength, hlength, hdigits, digitsValue_zeroPadded]
  simp

theorem char?_cons (c : Char) (rest : List Char) : char? c (c :: rest) = some rest :=
  if_pos BEq.rfl

theorem fraction?_zeroPadded {n : Nat} (h : n < 10 ^ 6)
    : fraction? ('.' :: ((zeroPadded 6 n).toList ++ ['Z'])) = some (n * 1000, ['Z']) := by
  have hlength := length_zeroPadded (by decide) h
  have hdigits : ∀ c ∈ (zeroPadded 6 n).toList, isDigit c = true := fun c => isDigit_of_mem_zeroPadded
  have htake : (((zeroPadded 6 n).toList ++ ['Z']).takeWhile isDigit).take 9 = (zeroPadded 6 n).toList := by
    rw [List.takeWhile_append_of_pos hdigits, List.takeWhile_cons_of_neg (by decide), List.append_nil]
    apply List.take_of_length_le
    omega
  have hdrop : ((zeroPadded 6 n).toList ++ ['Z']).dropWhile isDigit = ['Z'] := by
    rw [List.dropWhile_append_of_pos hdigits]
    rfl
  have hne : (zeroPadded 6 n).toList.isEmpty = false := by
    rw [List.isEmpty_eq_false_iff, ← List.length_pos_iff, hlength]
    decide
  simp only [fraction?]
  rw [htake, hdrop, hne, hlength, digitsValue_zeroPadded]
  rfl

theorem monthLength_le (year : Int) (month : Nat) : Date.monthLength year month ≤ 31 := by
  unfold Date.monthLength
  split
  . split <;> decide
  all_goals decide

/-- The characters of a timestamp of universal time. -/
def ofFields (year month day hour minute second micros : Nat) : List Char :=
  (zeroPadded 4 year).toList ++ '-' :: ((zeroPadded 2 month).toList ++ '-' :: ((zeroPadded 2 day).toList ++ 'T' ::
    ((zeroPadded 2 hour).toList ++ ':' :: ((zeroPadded 2 minute).toList ++ ':' ::
    ((zeroPadded 2 second).toList ++ '.' :: ((zeroPadded 6 micros).toList ++ ['Z']))))))

theorem parse?_of_fields {s : String} {date : Date} {year hour minute second micros : Nat}
    (h : s.toList = ofFields year date.month date.day hour minute second micros)
    (hyear : date.year = year) (hlt : year < 10 ^ 4) (hvalid : date.isValid = true) (hhour : hour ≤ 23)
    (hminute : minute ≤ 59) (hsecond : second ≤ 60) (hmicros : micros < 10 ^ 6)
    : parse? s = some {
        seconds := date.toDays * Instant.daySeconds
          + (hour * 3600 + minute * 60 + (if second = 60 then 59 else second) : Nat)
        nanos := micros * 1000 + (if second = 60 then Instant.secondNanos else 0) } := by
  have hmonth : date.month < 10 ^ 2 := by
    simp only [Date.isValid, Bool.and_eq_true, decide_eq_true_eq] at hvalid
    omega
  have hday : date.day < 10 ^ 2 := by
    simp only [Date.isValid, Bool.and_eq_true, decide_eq_true_eq] at hvalid
    have := monthLength_le date.year date.month
    omega
  have hdate : (⟨year, date.month, date.day⟩ : Date) = date := by
    rw [← hyear]
  have hguard : (date.isValid && decide (hour ≤ 23) && decide (minute ≤ 59) && decide (second ≤ 60)) = true := by
    simp [hvalid, hhour, hminute, hsecond]
  have hoffset : offset? ['Z'] = some 0 := rfl
  unfold parse?
  rw [h, ofFields]
  -- The fields are read one after the other, with a mark behind each.
  refine Option.bind_eq_some_iff.mpr ⟨_, number?_zeroPadded (by decide) hlt _, ?_⟩
  refine Option.bind_eq_some_iff.mpr ⟨_, char?_cons .., ?_⟩
  refine Option.bind_eq_some_iff.mpr ⟨_, number?_zeroPadded (by decide) hmonth _, ?_⟩
  refine Option.bind_eq_some_iff.mpr ⟨_, char?_cons .., ?_⟩
  refine Option.bind_eq_some_iff.mpr ⟨_, number?_zeroPadded (by decide) hday _, ?_⟩
  refine Option.bind_eq_some_iff.mpr ⟨_, rfl, ?_⟩
  refine Option.bind_eq_some_iff.mpr ⟨_, number?_zeroPadded (by decide) (by omega) _, ?_⟩
  refine Option.bind_eq_some_iff.mpr ⟨_, char?_cons .., ?_⟩
  refine Option.bind_eq_some_iff.mpr ⟨_, number?_zeroPadded (by decide) (by omega) _, ?_⟩
  refine Option.bind_eq_some_iff.mpr ⟨_, char?_cons .., ?_⟩
  refine Option.bind_eq_some_iff.mpr ⟨_, number?_zeroPadded (by decide) (by omega) _, ?_⟩
  refine Option.bind_eq_some_iff.mpr ⟨_, fraction?_zeroPadded hmicros, ?_⟩
  refine Option.bind_eq_some_iff.mpr ⟨_, hoffset, ?_⟩
  simp only [hdate, hguard, if_true, Int.sub_zero, beq_iff_eq, Int.ofNat_eq_natCast, Option.pure_def]

end Timestamp

namespace Instant

/-- Whether the nanoseconds belong to the second, or to a leap second that ends its minute. -/
def IsProper (instant : Instant) : Prop :=
  instant.nanos < secondNanos ∨ instant.seconds % 60 = 59 ∧ instant.nanos < 2 * secondNanos

instance (instant : Instant) : Decidable instant.IsProper := inferInstanceAs (Decidable (_ ∨ _))

/-- The last whole microsecond. -/
def toMicros (instant : Instant) : Instant := { instant with nanos := instant.nanos / 1000 * 1000 }

/-- Whether the year of an instant has four digits and no sign. -/
def HasPlainYear (instant : Instant) : Prop := 0 ≤ instant.date.year ∧ instant.date.year ≤ 9999

instance (instant : Instant) : Decidable instant.HasPlainYear := inferInstanceAs (Decidable (_ ∧ _))

theorem toList_print {instant : Instant} (h : instant.HasPlainYear)
    : instant.print.toList = Timestamp.ofFields instant.date.year.toNat instant.date.month instant.date.day
        (instant.timeOfDay / 3600) (instant.timeOfDay / 60 % 60) instant.secondOfMinute
        (instant.nanos % secondNanos / 1000) := by
  have hyear : printYear instant.date.year = zeroPadded 4 instant.date.year.toNat := by
    unfold HasPlainYear at h
    simp [printYear, h]
  simp [print, hyear, Timestamp.ofFields, toString]

theorem timeOfDay_lt (instant : Instant) : instant.timeOfDay < 86400 := by
  simp only [timeOfDay, daySeconds]
  omega

/-- The second 60 is the leap second, and then the time of day is that of the last second before it. -/
theorem secondOfMinute_cases {instant : Instant} (h : instant.IsProper)
    : instant.nanos < secondNanos ∧ instant.secondOfMinute = instant.timeOfDay % 60
      ∨ instant.nanos / secondNanos = 1 ∧ instant.secondOfMinute = 60 ∧ instant.timeOfDay % 60 = 59 := by
  simp only [IsProper, secondOfMinute, timeOfDay, daySeconds, secondNanos] at *
  omega

theorem seconds_eq (instant : Instant)
    : instant.date.toDays * daySeconds + instant.timeOfDay = instant.seconds := by
  simp only [date, timeOfDay, Date.toDays_ofDays, daySeconds]
  omega

/-- An instant is read back from its timestamp but for the last nanoseconds. -/
theorem parse?_print {instant : Instant} (hproper : instant.IsProper) (hyear : instant.HasPlainYear)
    : Timestamp.parse? instant.print = some instant.toMicros := by
  have htime := instant.timeOfDay_lt
  have hsecond := secondOfMinute_cases hproper
  have hvalid : instant.date.isValid = true := Date.isValid_ofDays (instant.seconds / daySeconds)
  have hnat : instant.date.year = instant.date.year.toNat := by
    have := hyear.1
    omega
  have hlt : instant.date.year.toNat < 10 ^ 4 := by
    have := hyear.2
    omega
  have hmicros : instant.nanos % secondNanos / 1000 < 10 ^ 6 := by
    unfold secondNanos
    omega
  rw [Timestamp.parse?_of_fields (toList_print hyear) hnat hlt hvalid (by omega) (by omega) (by omega) hmicros,
    toMicros, Option.some.injEq, mk.injEq]
  have hseconds := instant.seconds_eq
  unfold secondNanos at *
  rcases hsecond with ⟨_, hplain⟩ | ⟨_, hleap, _⟩
  . have hne : instant.secondOfMinute ≠ 60 := by omega
    rw [if_neg hne, if_neg hne]
    omega
  . rw [if_pos hleap, if_pos hleap]
    omega

/-- An instant that is later by seconds is in no leap second. -/
theorem isProper_later (instant : Instant) (seconds : Nat) : (instant.later seconds).IsProper := by
  left
  apply Nat.mod_lt
  decide

theorem later?_of_hasPlainYear {instant : Instant} {seconds : Nat} (h : (instant.later seconds).HasPlainYear)
    : instant.later? seconds = .ok (instant.later seconds) := by
  have hcycle := Date.cycle_le_year ((instant.later seconds).seconds / daySeconds)
  have hle : (Date.ofDays ((instant.later seconds).seconds / daySeconds)).year ≤ 9999 := h.2
  have hsecond : instant.seconds + seconds ≤ lastSecond := by
    simp only [later, Date.epochOffset, Date.cycleDays, daySeconds, lastSecond] at *
    omega
  rw [later?, if_pos hsecond]

end Instant
end BeaconSentry
