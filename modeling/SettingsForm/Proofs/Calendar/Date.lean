import SettingsForm.Calendar.Instant
import Mathlib.Algebra.Order.Ring.Int
import Mathlib.Tactic.IntervalCases

/-!
# Days and dates

A day number is split into an era of 400 years, a year of the era and a day of that year, and the
years begin in March, so that a leap day is the last of its year (`ofDays_cases`). The date of a day
leads back to the day (`toDays_ofDays`), and it is a date of the calendar (`isValid_ofDays`).
-/

namespace SettingsForm.Date

/-- The next year of an era begins a century or lies in the same one. -/
theorem century_succ {y : Int} (hy : 0 ≤ y ∧ y ≤ 399) :
    (y + 1) % 100 = 0 ∨ (y + 1) / 100 = y / 100 ∧ (y + 1) / 400 = 0 := by
  omega

/-- The year of an era in which a day of the era lies, and the day of that year. -/
theorem yearOfEra_bounds {d y : Int} (hd : 0 ≤ d ∧ d ≤ 146096)
    (hy : y = (d - d / 1460 + d / 36524 - d / 146096) / 365) :
    0 ≤ y ∧ y ≤ 399 ∧ 365 * y + y / 4 - y / 100 ≤ d ∧
      d < 365 * (y + 1) + (y + 1) / 4 - (y + 1) / 100 + (y + 1) / 400 := by
  rcases Int.lt_or_eq_of_le hd.2 with hlt | rfl
  · have hera : d / 146096 = 0 := by omega
    have hcentury : d / 36524 = 0 ∨ d / 36524 = 1 ∨ d / 36524 = 2 ∨ d / 36524 = 3 := by omega
    have hyear : y / 100 = d / 36524 := by omega
    rw [hera] at hy
    rcases century_succ (y := y) (by omega) with hnext | ⟨hnext, hera'⟩
    · rcases hcentury with h | h | h | h <;> rw [h] at hy hyear <;> omega
    · rcases hcentury with h | h | h | h <;> rw [h] at hy hyear <;> omega
  · omega

theorem isLeapYear_iff (y : Int) :
    isLeapYear y = true ↔ (y % 4 = 0 ∧ y % 100 ≠ 0) ∨ y % 400 = 0 := by
  simp [isLeapYear]

/-- Only the year that ends in the February of a leap year has a day 365. -/
theorem dayOfYear_le {y era day : Int} (hy : 0 ≤ y ∧ y ≤ 399)
    (hday : 365 * y + y / 4 - y / 100 + day <
      365 * (y + 1) + (y + 1) / 4 - (y + 1) / 100 + (y + 1) / 400) :
    day ≤ 364 ∨ day = 365 ∧ isLeapYear (y + era * 400 + 1) = true := by
  rw [isLeapYear_iff]
  have h4 : (y + era * 400 + 1) % 4 = (y + 1) % 4 := by omega
  have h100 : (y + era * 400 + 1) % 100 = (y + 1) % 100 := by omega
  have h400 : (y + era * 400 + 1) % 400 = (y + 1) % 400 := by omega
  rw [h4, h100, h400]
  by_cases hfour : (y + 1) % 4 = 0
  · rcases century_succ hy with hnext | ⟨hnext, hera⟩
    · have : (y + 1) % 400 = 0 ∨ (y + 1) / 400 = 0 := by omega
      omega
    · omega
  · have : (y + 1) / 4 = y / 4 ∧ (y + 1) / 100 = y / 100 ∧ (y + 1) / 400 = 0 := by omega
    omega

/-- The date of a day number, by its era, the year of the era and the day of that year, both counted
from March. -/
theorem ofDays_cases (days : Int) : ∃ era year day : Int,
    days + 719468 = era * 146097 + (365 * year + year / 4 - year / 100) + day ∧
    (0 ≤ year ∧ year ≤ 399) ∧ 0 ≤ day ∧
    (day ≤ 364 ∨ day = 365 ∧ isLeapYear (year + era * 400 + 1) = true) ∧
    ofDays days =
      let monthFromMarch := (5 * day + 2) / 153
      let month := if monthFromMarch < 10 then monthFromMarch + 3 else monthFromMarch - 9
      ⟨year + era * 400 + (if month ≤ 2 then 1 else 0), month.toNat,
        (day - (153 * monthFromMarch + 2) / 5 + 1).toNat⟩ := by
  obtain ⟨h0, h399, hlow, hhigh⟩ :=
    yearOfEra_bounds (d := (days + 719468) % 146097) (by omega) rfl
  refine ⟨(days + 719468) / 146097, _,
    (days + 719468) % 146097 - (365 * _ + _ / 4 - _ / 100), ?_, ⟨h0, h399⟩, ?_,
    dayOfYear_le ⟨h0, h399⟩ (by omega), rfl⟩
  · omega
  · omega

/-- A date leads back to the day number that it was made from. -/
theorem toDays_ofDays (days : Int) : (ofDays days).toDays = days := by
  obtain ⟨era, year, day, hdays, hyear, hday, hlength, hdate⟩ := ofDays_cases days
  have hlt : day ≤ 365 := by omega
  clear hlength
  rw [hdate]
  simp only [toDays]
  generalize hm : (5 * day + 2) / 153 = m
  have hrange : 0 ≤ m ∧ m ≤ 11 := by omega
  have hcast : ((day - (153 * m + 2) / 5 + 1).toNat : Int) = day - (153 * m + 2) / 5 + 1 := by omega
  rw [hcast]
  have hyears : (year + era * 400) % 400 = year ∧ (year + era * 400) / 400 = era := by omega
  by_cases hmonth : m < 10
  · have hback : (((m + 3).toNat : Int) + 9) % 12 = m := by omega
    rw [if_pos hmonth, if_neg (by omega), if_neg (by omega), add_zero, hyears.1, hyears.2, hback]
    omega
  · have hback : (((m - 9).toNat : Int) + 9) % 12 = m := by omega
    rw [if_neg hmonth, if_pos (by omega), if_pos (by omega), add_sub_cancel_right, hyears.1,
      hyears.2, hback]
    omega

/-- The last day of a month that begins in March with the number 0, February apart. -/
theorem dayOfMonth_le {m day year : Int} (hm : 0 ≤ m ∧ m ≤ 10) (hday : (5 * day + 2) / 153 = m) :
    (day - (153 * m + 2) / 5 + 1).toNat ≤
      daysInMonth year (if m < 10 then m + 3 else m - 9).toNat := by
  obtain ⟨hlow, hhigh⟩ := hm
  interval_cases m <;> simp [daysInMonth] <;> omega

theorem dayOfFebruary_le {day year : Int}
    (hlength : day ≤ 364 ∨ day = 365 ∧ isLeapYear year = true) :
    (day - 337 + 1).toNat ≤ daysInMonth year 2 := by
  unfold daysInMonth
  rcases hlength with hlength | ⟨rfl, hleap⟩
  · split
    · split <;> omega
    · contradiction
  · rw [if_pos rfl, if_pos hleap]
    decide

theorem day_le_of_isValid {d : Date} (hd : d.isValid = true) : d.day ≤ 31 := by
  simp only [isValid, Bool.and_eq_true, decide_eq_true_eq] at hd
  refine hd.2.trans ?_
  unfold daysInMonth
  split
  · split <;> decide
  · split <;> decide

/-- The date of a day number exists, as long as its year does. -/
theorem isValid_ofDays {days : Int} (hrange : inRange (ofDays days).year = true) :
    (ofDays days).isValid = true := by
  obtain ⟨era, year, day, hdays, hyear, hday, hlength, hdate⟩ := ofDays_cases days
  have hmonths : 1 ≤ (ofDays days).month ∧ (ofDays days).month ≤ 12 := by
    rw [hdate]
    simp only
    split <;> omega
  have hpos : 1 ≤ (ofDays days).day := by
    rw [hdate]
    simp only
    omega
  have hle : (ofDays days).day ≤ daysInMonth (ofDays days).year (ofDays days).month := by
    rw [hdate]
    simp only
    generalize hm : (5 * day + 2) / 153 = m
    by_cases hfebruary : m = 11
    · subst hfebruary
      exact dayOfFebruary_le hlength
    · exact dayOfMonth_le (by omega) hm
  simp [isValid, hrange, hmonths, hpos, hle]

end SettingsForm.Date
