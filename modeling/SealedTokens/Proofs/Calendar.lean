import Mathlib.Tactic.IntervalCases
import SealedTokens.Time.Calendar
/-!
# Days and dates

Days and dates are two names of one thing: every day number has a date that exists, and the date
leads back to the number.

## Main results

- `Date.days_ofDays`: the date of a day leads back to the day
- `Date.exists_ofDays`: the date of a day has a month and a day that exist
- `Date.year_ofDays`: the dates of the calendar have its years

## Proof strategy

The quotient that finds the year of a day is not one that a decision procedure sees through. Each
day of an era of 400 years is therefore first written as century, group of four years, year and
day (`EraDay`). In these terms the quotient is linear, and so is everything that follows.
-/
namespace SealedTokens.Calendar

/-- A day of an era is the day of a year that is counted by centuries, by groups of four years and
by single years. The last day of a leap year belongs to the fourth year of its group. -/
structure EraDay (dayOfEra : Int) where
  century : Int
  group : Int
  single : Int
  day : Int
  sum : dayOfEra = 36524 * century + 1461 * group + 365 * single + day
  century_range : 0 ≤ century ∧ century ≤ 3
  group_range : 0 ≤ group ∧ group ≤ 24
  single_range : 0 ≤ single ∧ single ≤ 3
  day_range : 0 ≤ day ∧ day ≤ 365
  leap_day : day = 365 → single = 3 ∧ (group = 24 → century = 3)

namespace EraDay

theorem exists_of_range (n : Int) (low : 0 ≤ n) (high : n ≤ 146096) : Nonempty (EraDay n) := by
  -- The minima keep the last day of a leap year, and of an era, in the year before.
  let century := min (n / 36524) 3
  let inCentury := n - 36524 * century
  let single := min (inCentury % 1461 / 365) 3
  refine ⟨⟨century, inCentury / 1461, single, inCentury % 1461 - 365 * single,
    ?_, ?_, ?_, ?_, ?_, ?_⟩⟩
  all_goals simp only [century, inCentury, single]; omega

variable {n : Int} (e : EraDay n)

def year : Int := 100 * e.century + 4 * e.group + e.single

theorem year_range : 0 ≤ e.year ∧ e.year ≤ 399 := by
  have hc := e.century_range
  have hg := e.group_range
  have hs := e.single_range
  simp only [year]
  omega

theorem sum_year : n = e.year * 365 + e.year / 4 - e.year / 100 + e.day := by
  have hn := e.sum
  have hc := e.century_range
  have hg := e.group_range
  have hs := e.single_range
  simp only [year]
  omega

/-- The quotient by which a date finds the year of the era. -/
theorem year_eq : (n - n / 1460 + n / 36524 - n / 146096) / 365 = e.year := by
  obtain ⟨c, g, s, d, sum, hc, hg, hs, hd, leap⟩ := e
  -- The last day of the era is the only one that a fifth century would hold.
  have inCentury : 1461 * g + 365 * s + d < 36524 ∨ 1461 * g + 365 * s + d = 36524 ∧ c = 3 := by
    omega
  have centuries : n / 36524 - n / 146096 = c := by
    rcases inCentury with short | last
    · have : n / 36524 = c := by omega
      have : n / 146096 = 0 := by omega
      omega
    · omega
  -- A group has 1461 days, so its quotient by 1460 runs ahead, by at most one, and that only in the
  -- fourth year of a group, where it does not reach the next year.
  have groups : n / 1460 = 25 * c + g + (24 * c + g + 365 * s + d) / 1460 := by omega
  have carry : (24 * c + g + 365 * s + d) / 1460 = 0 ∨
      (24 * c + g + 365 * s + d) / 1460 = 1 ∧ s = 3 ∧ 1 ≤ d := by omega
  simp only [year]
  omega

/-- Years begin in March here, so their day 365 is a 29th of February. -/
theorem isLeapYear_of_day (era : Int) (last : e.day = 365) :
    isLeapYear (e.year + era * 400 + 1) = true := by
  have hs := e.leap_day last
  have hc := e.century_range
  have hg := e.group_range
  simp only [isLeapYear, year, Bool.and_eq_true, Bool.or_eq_true, beq_iff_eq, bne_iff_ne]
  omega

end EraDay

theorem Date.ofDays_eq (days : Int) (e : EraDay ((days + 719468) % 146097)) :
    Date.ofDays days =
      let month := (5 * e.day + 2) / 153
      let day := (e.day - (153 * month + 2) / 5 + 1).toNat
      let year := e.year + (days + 719468) / 146097 * 400
      if month < 10 then ⟨year, (month + 3).toNat, day⟩ else ⟨year + 1, (month - 9).toNat, day⟩ := by
  have dayOfYear :
      (days + 719468) % 146097 - (365 * e.year + e.year / 4 - e.year / 100) = e.day := by
    have := e.sum_year
    omega
  simp only [Date.ofDays, e.year_eq, dayOfYear]

theorem Date.days_ofDays (days : Int) : (Date.ofDays days).days = days := by
  obtain ⟨e⟩ := EraDay.exists_of_range ((days + 719468) % 146097) (by omega) (by omega)
  have hd := e.day_range
  have hy := e.year_range
  have sum := e.sum_year
  rw [Date.ofDays_eq days e]
  generalize e.year = y at *
  generalize e.day = d at *
  simp only
  -- March to December belong to the year itself, January and February to the next one.
  split
  next early =>
    have month : ¬ (((5 * d + 2) / 153 + 3).toNat ≤ 2) := by omega
    have era : (y + (days + 719468) / 146097 * 400) / 400 = (days + 719468) / 146097 := by omega
    have yearOfEra : (y + (days + 719468) / 146097 * 400) % 400 = y := by omega
    simp only [Date.days, month, ite_false, era, yearOfEra]
    omega
  next late =>
    have month : ((5 * d + 2) / 153 - 9).toNat ≤ 2 := by omega
    have year :
        y + (days + 719468) / 146097 * 400 + 1 - 1 = y + (days + 719468) / 146097 * 400 := by
      omega
    have era : (y + (days + 719468) / 146097 * 400) / 400 = (days + 719468) / 146097 := by omega
    have yearOfEra : (y + (days + 719468) / 146097 * 400) % 400 = y := by omega
    simp only [Date.days, month, ite_true, year, era, yearOfEra]
    omega

theorem Date.exists_ofDays (days : Int) :
    1 ≤ (Date.ofDays days).month ∧ (Date.ofDays days).month ≤ 12 ∧
      (Date.ofDays days).exists? = true := by
  obtain ⟨e⟩ := EraDay.exists_of_range ((days + 719468) % 146097) (by omega) (by omega)
  have hd := e.day_range
  have leap := e.isLeapYear_of_day ((days + 719468) / 146097)
  rw [Date.ofDays_eq days e]
  generalize e.year + (days + 719468) / 146097 * 400 = y at *
  generalize e.day = d at *
  have months : 0 ≤ (5 * d + 2) / 153 ∧ (5 * d + 2) / 153 ≤ 11 := by omega
  generalize month : (5 * d + 2) / 153 = m at *
  obtain ⟨low, high⟩ := months
  simp only [Date.exists?, Bool.and_eq_true, decide_eq_true_eq]
  -- One case for each month, from March on. Only the last one, February, depends on the year.
  interval_cases m
  all_goals simp only [Int.reduceLT, ite_true, ite_false, daysInMonth, Int.reduceAdd, Int.reduceSub,
    Int.reduceToNat, Int.reduceMul, Int.reduceDiv]
  case «11» =>
    by_cases last : d = 365
    · simp [leap last]
      omega
    · split <;> omega
  all_goals omega

theorem Date.year_ofDays (days : Int) (low : -96465292 ≤ days) (high : days ≤ 95026236) :
    -262143 ≤ (Date.ofDays days).year ∧ (Date.ofDays days).year ≤ 262142 := by
  obtain ⟨e⟩ := EraDay.exists_of_range ((days + 719468) % 146097) (by omega) (by omega)
  have hd := e.day_range
  have hy := e.year_range
  have sum := e.sum_year
  rw [Date.ofDays_eq days e]
  generalize e.year = y at *
  generalize e.day = d at *
  -- Only in the first and in the last era of the calendar does it matter which year it is.
  have century : y / 100 = 0 ∨ y / 100 = 1 ∨ y / 100 = 2 ∨ y / 100 = 3 := by omega
  have era : (days + 719468) / 146097 = -656 ∨ (days + 719468) / 146097 = 655 ∨
      -655 ≤ (days + 719468) / 146097 ∧ (days + 719468) / 146097 ≤ 654 := by omega
  simp only
  split
  all_goals
    rcases era with first | last | ⟨low, high⟩
    · rcases century with h | h | h | h <;> simp only <;> omega
    · rcases century with h | h | h | h <;> simp only <;> omega
    · simp only
      omega

end SealedTokens.Calendar
