import BeaconSentry.Time.Date
import Mathlib.Tactic.IntervalCases

/-!
This module contains that the calendar counts every day once: a count of days is the count of its date, and the date of
any count of days is one of the calendar.
-/

namespace BeaconSentry
namespace Date

/--
A day of a cycle of 400 years: centuries, periods of four years and years have passed before its year, in which it has
a number. A year begins in March, so that only the last year of a period has a day of number 365, and only the last
period of a cycle has one if it ends a century.
-/
structure InCycle (day century period year number : Int) : Prop where
  day_eq : day = 36524 * century + 1461 * period + 365 * year + number
  century_mem : 0 ≤ century ∧ century ≤ 3
  period_mem : 0 ≤ period ∧ period ≤ 24
  year_mem : 0 ≤ year ∧ year ≤ 3
  number_mem : 0 ≤ number ∧ number ≤ 365
  leap : number = 365 → year = 3 ∧ (period = 24 → century = 3)

theorem exists_inCycle {day : Int} (h : 0 ≤ day) (hlt : day < cycleDays)
    : ∃ century period year number, InCycle day century period year number := by
  unfold cycleDays at hlt
  let century := min (day / 36524) 3
  let inCentury := day - 36524 * century
  let period := min (inCentury / 1461) 24
  let inPeriod := inCentury - 1461 * period
  let year := min (inPeriod / 365) 3
  refine ⟨century, period, year, inPeriod - 365 * year, ?_, ?_, ?_, ?_, ?_, ?_⟩
  all_goals omega

namespace InCycle

variable {day century period year number : Int}

theorem centuries_eq (h : InCycle day century period year number)
    : day / 36524 - day / 146096 = century := by
  obtain ⟨hday, hcentury, hperiod, hyear, hnumber, hleap⟩ := h
  have hle : 1461 * period + 365 * year + number ≤ 36524 := by omega
  have hfull : 1461 * period + 365 * year + number = 36524 → century = 3 := by omega
  generalize hrest : 1461 * period + 365 * year + number = rest at hle hfull
  have hpos : 0 ≤ rest := by omega
  have heq : day = 36524 * century + rest := by omega
  have hlast : rest < 36524 ∨ century = 3 ∧ rest = 36524 := by omega
  clear hday hrest
  rcases hlast with hlt | ⟨rfl, rfl⟩
  . have hcenturies : day / 36524 = century := by omega
    omega
  . omega

theorem yearOfCycle_eq (h : InCycle day century period year number)
    : (day - day / 1460 + day / 36524 - day / 146096) / 365 = 100 * century + 4 * period + year := by
  have hcenturies := h.centuries_eq
  obtain ⟨hday, hcentury, hperiod, hyear, hnumber, hleap⟩ := h
  have hperiods : day / 1460 = 25 * century + period + (24 * century + period + 365 * year + number) / 1460 := by
    omega
  omega

theorem dayOfYear_eq (h : InCycle day century period year number)
    : let yearOfCycle := 100 * century + 4 * period + year
      day - (365 * yearOfCycle + yearOfCycle / 4 - yearOfCycle / 100) = number := by
  obtain ⟨hday, hcentury, hperiod, hyear, hnumber, hleap⟩ := h
  omega

/-- A year that has a day of number 365 ends with the February of a leap year. -/
theorem isLeapYear (h : InCycle day century period year number) (hnumber : number = 365) (cycle : Int)
    : isLeapYear (100 * century + 4 * period + year + cycle * 400 + 1) = true := by
  obtain ⟨hday, hcentury, hperiod, hyear, -, hleap⟩ := h
  obtain ⟨rfl, hperiod'⟩ := hleap hnumber
  simp only [Date.isLeapYear, Bool.and_eq_true, Bool.or_eq_true, beq_iff_eq, bne_iff_ne]
  omega

end InCycle

/-- A date by its year and its month from March on. -/
def ofMarch (year month day : Int) : Date where
  year := if month < 10 then year else year + 1
  month := (if month < 10 then month + 3 else month - 9).toNat
  day := day.toNat

theorem toDays_ofMarch {month day : Int} (year : Int) (hmonth : 0 ≤ month ∧ month ≤ 11) (hday : 0 ≤ day)
    : (ofMarch year month day).toDays
        = year / 400 * cycleDays + year % 400 * 365 + year % 400 / 4 - year % 400 / 100
          + ((153 * month + 2) / 5 + day - 1) - epochOffset := by
  have hyear : (if (ofMarch year month day).month ≤ 2 then (ofMarch year month day).year - 1
      else (ofMarch year month day).year) = year := by
    simp only [ofMarch]
    omega
  have hindex : (if (ofMarch year month day).month ≤ 2 then ((ofMarch year month day).month : Int) + 9
      else (ofMarch year month day).month - 3) = month := by
    simp only [ofMarch]
    omega
  have hnumber : ((ofMarch year month day).day : Int) = day := Int.toNat_of_nonneg hday
  simp only [toDays]
  rw [hyear, hindex, hnumber]

theorem isValid_ofMarch {year month day : Int} (hmonth : 0 ≤ month ∧ month ≤ 11) (hday : 1 ≤ day)
    (hlast : (153 * month + 2) / 5 + day ≤ (153 * (month + 1) + 2) / 5)
    (hleap : month = 11 → day ≤ 28 ∨ day = 29 ∧ isLeapYear (year + 1) = true)
    : (ofMarch year month day).isValid = true := by
  obtain ⟨hmonth, hmonth'⟩ := hmonth
  interval_cases month
  all_goals simp [isValid, ofMarch, monthLength]
  -- Only the length of February hangs on the year.
  case «11» =>
    rcases hleap rfl with hle | ⟨rfl, hyear⟩
    . split <;> omega
    . simp [hyear]
  all_goals omega

theorem exists_ofDays (days : Int)
    : ∃ cycle century period year number, InCycle ((days + epochOffset) % cycleDays) century period year number
      ∧ days + epochOffset = cycle * cycleDays + (days + epochOffset) % cycleDays
      ∧ ofDays days = ofMarch (100 * century + 4 * period + year + cycle * 400) ((5 * number + 2) / 153)
          (number - (153 * ((5 * number + 2) / 153) + 2) / 5 + 1) := by
  have hpos : 0 < cycleDays := by decide
  have ⟨century, period, year, number, h⟩ :=
    exists_inCycle (Int.emod_nonneg (days + epochOffset) hpos.ne') (Int.emod_lt_of_pos _ hpos)
  refine ⟨(days + epochOffset) / cycleDays, century, period, year, number, h, ?_, ?_⟩
  . rw [Int.mul_comm]
    exact (Int.mul_ediv_add_emod _ _).symm
  . simp only [ofDays]
    rw [h.yearOfCycle_eq, h.dayOfYear_eq]
    rfl

/-- The months from March on, by the numbers of their first days. -/
theorem month_bounds {number : Int} (h : 0 ≤ number ∧ number ≤ 365)
    : let month := (5 * number + 2) / 153
      (0 ≤ month ∧ month ≤ 11) ∧ (153 * month + 2) / 5 ≤ number ∧ number < (153 * (month + 1) + 2) / 5 := by
  omega

theorem toDays_ofDays (days : Int) : (ofDays days).toDays = days := by
  have ⟨cycle, century, period, year, number, h, hcycle, hdate⟩ := exists_ofDays days
  have ⟨hmonth, hfirst, _⟩ := month_bounds h.number_mem
  obtain ⟨hday, hcentury, hperiod, hyear, hnumber, hleap⟩ := h
  rw [hdate, toDays_ofMarch _ hmonth (by omega)]
  have hquot : (100 * century + 4 * period + year + cycle * 400) / 400 = cycle := by omega
  have hrem : (100 * century + 4 * period + year + cycle * 400) % 400 = 100 * century + 4 * period + year := by omega
  rw [hquot, hrem]
  omega

theorem isValid_ofDays (days : Int) : (ofDays days).isValid = true := by
  have ⟨cycle, century, period, year, number, h, hcycle, hdate⟩ := exists_ofDays days
  have ⟨hmonth, hfirst, hnext⟩ := month_bounds h.number_mem
  rw [hdate]
  apply isValid_ofMarch hmonth (by omega) (by omega)
  intro hlast
  by_cases hnumber : number = 365
  . right
    exact ⟨by omega, h.isLeapYear hnumber cycle⟩
  . left
    have := h.number_mem
    omega

/-- A year comes after the 400-year cycles before it. -/
theorem cycle_le_year (days : Int) : (days + epochOffset) / cycleDays * 400 ≤ (ofDays days).year := by
  have ⟨cycle, century, period, year, number, h, hcycle, hdate⟩ := exists_ofDays days
  have hpassed : (days + epochOffset) / cycleDays = cycle := by
    unfold cycleDays at *
    omega
  obtain ⟨_, hcentury, hperiod, hyear, _, _⟩ := h
  rw [hpassed, hdate, ofMarch]
  dsimp only
  omega

end Date
end BeaconSentry
