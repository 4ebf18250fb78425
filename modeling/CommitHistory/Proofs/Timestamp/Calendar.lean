/-
# The calendar and the count of days

Counting days from March makes the leap day the last day of a year, so that a cycle of 400 years
falls into centuries, periods of four years, years and days, and only the last of each is
shorter or longer than the others. From this the year, the month and the day of every count of
days can be read off, and counting the days up to them gives the count again.

## Main definitions

* `CalendarDay.Within` — the place of a day in a cycle.

## Main results

* `CalendarDay.toDays_ofDays` — the day that a count leads to has that count.
* `CalendarDay.isValid_ofDays` — between the first and the last year it is a day of the calendar.
-/

import CommitHistory.Timestamp
import Mathlib.Tactic.IntervalCases

namespace CommitHistory.CalendarDay

/-! ### A cycle of 400 years -/

/-- The place of a day in a cycle that begins in March: in which century, which period of four
years, which year of the period, and which day of that year. Day 365 is a leap day. -/
structure Within (dayOfCycle century period year day : Nat) : Prop where
  century_le : century ≤ 3
  period_le : period ≤ 24
  year_le : year ≤ 3
  day_le : day ≤ 365
  /-- The fourth year of a period ends in a leap day, but the last one of a century only if the
  century is the fourth. -/
  leap : day = 365 → year = 3 ∧ (period = 24 → century = 3)
  sum : dayOfCycle = 36524 * century + 1461 * period + 365 * year + day

theorem exists_within {dayOfCycle : Nat} (bounded : dayOfCycle < 146097) :
    ∃ century period year day, Within dayOfCycle century period year day := by
  -- The last day of the cycle, and of each period, belongs to the century or year before it.
  let century := min (dayOfCycle / 36524) 3
  let ofCentury := dayOfCycle - 36524 * century
  let year := min (ofCentury % 1461 / 365) 3
  refine ⟨century, ofCentury / 1461, year, ofCentury % 1461 - 365 * year, ?_, ?_, ?_, ?_, ?_, ?_⟩
  all_goals omega

variable {dayOfCycle century period year day : Nat}

/-- The number of the year in the cycle. -/
theorem Within.yearOfCycle_eq (within : Within dayOfCycle century period year day) :
    (dayOfCycle - dayOfCycle / 1460 + dayOfCycle / 36524 - dayOfCycle / 146096) / 365 =
      100 * century + 4 * period + year := by
  obtain ⟨centuries, periods, years, days, leap, sum⟩ := within
  -- Each division counts the leap days before the day, up to one at the very end of a period.
  have fours : dayOfCycle / 1460 =
      25 * century + period + (24 * century + period + 365 * year + day) / 1460 := by omega
  have hundreds : dayOfCycle / 36524 =
      century + if 1461 * period + 365 * year + day = 36524 then 1 else 0 := by
    split <;> omega
  have last : dayOfCycle / 146096 = if dayOfCycle = 146096 then 1 else 0 := by
    split <;> omega
  rw [fours, hundreds, last]
  split <;> split <;> omega

/-- The days of the cycle before the year. -/
theorem Within.daysBefore_eq (within : Within dayOfCycle century period year day) :
    365 * (100 * century + 4 * period + year) + (100 * century + 4 * period + year) / 4 -
      (100 * century + 4 * period + year) / 100 = dayOfCycle - day := by
  obtain ⟨centuries, periods, years, days, leap, sum⟩ := within
  omega

theorem Within.day_le_dayOfCycle (within : Within dayOfCycle century period year day) :
    day ≤ dayOfCycle := by
  have sum := within.sum
  omega

/-! ### The months of a year -/

/-- Where a day of a year that begins in March stands in its month; March is month 0. -/
theorem month_of_day (bounded : day ≤ 365) :
    (5 * day + 2) / 153 ≤ 11 ∧ daysBeforeMonth ((5 * day + 2) / 153) ≤ day := by
  unfold daysBeforeMonth
  omega

/-- No month before February has more days than the calendar says. -/
theorem lt_daysInMonth_of_early (bounded : day ≤ 365) (calendarYear : Int)
    (early : (5 * day + 2) / 153 < 10) :
    day - daysBeforeMonth ((5 * day + 2) / 153) <
      daysInMonth calendarYear ((5 * day + 2) / 153 + 3) := by
  generalize month : (5 * day + 2) / 153 = m at early ⊢
  interval_cases m <;> simp [daysBeforeMonth, daysInMonth] <;> omega

/-- January has 31 days, and February has 29 days only in a leap year. -/
theorem lt_daysInMonth_of_late (bounded : day ≤ 365) (calendarYear : Int)
    (leap : day = 365 → isLeapYear calendarYear = true) (late : 10 ≤ (5 * day + 2) / 153) :
    day - daysBeforeMonth ((5 * day + 2) / 153) <
      daysInMonth calendarYear ((5 * day + 2) / 153 - 9) := by
  obtain ⟨last, -⟩ := month_of_day bounded
  generalize month : (5 * day + 2) / 153 = m at late last ⊢
  interval_cases m
  · simp [daysBeforeMonth, daysInMonth]
    omega
  · cases isLeap : isLeapYear calendarYear with
    | true =>
      simp [daysBeforeMonth, daysInMonth, isLeap]
      omega
    | false =>
      have common : day ≠ 365 := fun same => by simp [leap same] at isLeap
      simp [daysBeforeMonth, daysInMonth, isLeap]
      omega

theorem daysInMonth_le (year : Int) (month : Nat) : daysInMonth year month ≤ 31 := by
  unfold daysInMonth
  split
  · split <;> decide
  · split <;> decide

/-! ### Days and their counts -/

/-- The day that a count of days leads to, from its place in a cycle. -/
theorem exists_ofDays (days : Int) :
    ∃ (cycle : Int) (dayOfCycle century period year day : Nat),
      Within dayOfCycle century period year day ∧
      days = cycle * 146097 + dayOfCycle - 719468 ∧
      ofDays days =
        if (5 * day + 2) / 153 < 10 then
          ⟨cycle * 400 + (100 * century + 4 * period + year : Nat), (5 * day + 2) / 153 + 3,
            day - daysBeforeMonth ((5 * day + 2) / 153) + 1⟩
        else
          ⟨cycle * 400 + (100 * century + 4 * period + year : Nat) + 1, (5 * day + 2) / 153 - 9,
            day - daysBeforeMonth ((5 * day + 2) / 153) + 1⟩ := by
  have split : (days + 719468).fdiv 146097 = (days + 719468) / 146097 :=
    Int.fdiv_eq_ediv_of_nonneg _ (by decide)
  have bounded : (days + 719468 - (days + 719468) / 146097 * 146097).toNat < 146097 := by omega
  obtain ⟨century, period, year, day, within⟩ := exists_within bounded
  refine ⟨(days + 719468) / 146097, _, century, period, year, day, within, by omega, ?_⟩
  have dayOfYear : (days + 719468 - (days + 719468) / 146097 * 146097).toNat -
      ((days + 719468 - (days + 719468) / 146097 * 146097).toNat - day) = day :=
    Nat.sub_sub_self within.day_le_dayOfCycle
  simp only [ofDays, split, within.yearOfCycle_eq, within.daysBefore_eq, dayOfYear]

/-- Counting the days up to the day that a count leads to gives the count. -/
theorem toDays_ofDays (days : Int) : (ofDays days).toDays = days := by
  obtain ⟨cycle, dayOfCycle, century, period, year, day, within, count, date⟩ := exists_ofDays days
  obtain ⟨last, before⟩ := month_of_day within.day_le
  have yearOfCycle := within.daysBefore_eq
  have small := within.day_le_dayOfCycle
  have bounded : 100 * century + 4 * period + year < 400 := by
    obtain ⟨centuries, periods, years, -, -, -⟩ := within
    omega
  generalize 100 * century + 4 * period + year = y at *
  generalize (5 * day + 2) / 153 = month at *
  -- The cycle and the year in it come back when the year is divided by 400.
  have divided : (cycle * 400 + y).fdiv 400 = cycle := by
    rw [Int.fdiv_eq_ediv_of_nonneg _ (by decide)]
    omega
  have rest : (cycle * 400 + (y : Int) - cycle * 400).toNat = y := by omega
  have after : (cycle * 400 + (y : Int) + 1 - 1) = cycle * 400 + y := by omega
  rw [date]
  split
  next early =>
    have march : ¬ month + 3 ≤ 2 := by omega
    simp only [toDays, march, if_false, divided, rest, Nat.add_sub_cancel]
    omega
  next late =>
    have january : month - 9 ≤ 2 := by omega
    have index : month - 9 + 9 = month := by omega
    simp only [toDays, january, if_true, after, divided, rest, index]
    omega

/-- Day 365 of a year that begins in March lies in a leap year. -/
theorem Within.isLeapYear (within : Within dayOfCycle century period year day) (cycle : Int)
    (leapDay : day = 365) :
    isLeapYear (cycle * 400 + (100 * century + 4 * period + year : Nat) + 1) = true := by
  obtain ⟨fourth, turn⟩ := within.leap leapDay
  obtain ⟨centuries, periods, -, -, -, -⟩ := within
  simp only [CalendarDay.isLeapYear, Bool.and_eq_true, Bool.or_eq_true, beq_iff_eq, bne_iff_ne]
  omega

/-- The first day of the first year, counted from 1970. -/
def firstDay : Int := -96465292

/-- The last day of the last year, counted from 1970. -/
def lastDay : Int := 95026236

/-- The first day lies in January of its year, so the March before it belongs to a year that the
calendar does not have. -/
theorem Within.firstYear_le (within : Within dayOfCycle century period year day) {cycle : Int}
    (first : firstDay ≤ cycle * 146097 + dayOfCycle - 719468) :
    firstYear ≤ cycle * 400 + (100 * century + 4 * period + year : Nat) +
      if day ≤ 305 then 0 else 1 := by
  obtain ⟨centuries, periods, years, days, -, sum⟩ := within
  rw [firstDay] at first
  rw [firstYear]
  -- Only in the very first cycle the day of the cycle matters.
  obtain later | rfl : -656 < cycle ∨ cycle = -656 := by omega
  · split <;> omega
  · interval_cases century <;> split <;> omega

/-- The last day lies in December of its year. -/
theorem Within.le_lastYear (within : Within dayOfCycle century period year day) {cycle : Int}
    (last : cycle * 146097 + dayOfCycle - 719468 ≤ lastDay) :
    cycle * 400 + (100 * century + 4 * period + year : Nat) + (if day ≤ 305 then 0 else 1) ≤
      lastYear := by
  obtain ⟨centuries, periods, years, days, -, sum⟩ := within
  rw [lastDay] at last
  rw [lastYear]
  obtain earlier | rfl : cycle < 655 ∨ cycle = 655 := by omega
  · split <;> omega
  · interval_cases century <;> split <;> omega

/-- From the first to the last day the calendar has every day that a count leads to. -/
theorem isValid_ofDays {days : Int} (first : firstDay ≤ days) (last : days ≤ lastDay) :
    (ofDays days).isValid = true := by
  obtain ⟨cycle, dayOfCycle, century, period, year, day, within, rfl, date⟩ := exists_ofDays days
  obtain ⟨months, -⟩ := month_of_day within.day_le
  have low := within.firstYear_le first
  have high := within.le_lastYear last
  rw [date]
  simp only [isValid, Bool.and_eq_true, decide_eq_true_eq]
  -- The first ten months from March on belong to the year in which that March lies.
  split
  next early =>
    have short := lt_daysInMonth_of_early within.day_le
      (cycle * 400 + (100 * century + 4 * period + year : Nat)) early
    rw [if_pos (by omega), Int.add_zero] at low high
    refine ⟨⟨⟨⟨⟨low, high⟩, ?_⟩, ?_⟩, ?_⟩, short⟩ <;> dsimp only <;> omega
  next late =>
    have short := lt_daysInMonth_of_late within.day_le _ (within.isLeapYear cycle) (by omega)
    rw [if_neg (by omega)] at low high
    refine ⟨⟨⟨⟨⟨low, high⟩, ?_⟩, ?_⟩, ?_⟩, short⟩ <;> dsimp only <;> omega

end CommitHistory.CalendarDay
