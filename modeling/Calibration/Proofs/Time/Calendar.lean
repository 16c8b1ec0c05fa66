/-
# The calendar and the day numbers

The date of a day number exists (`isValid_ofDayNumber`) and has this day number (`dayNumber_ofDayNumber`).  A cycle
of 400 years has 146097 days, and a day of it lies in the year that the estimate gives (`yearOf_bounds`): after
the days of the years before it, and before the days of the next, of which the last is a leap day or none.
-/

import Calibration.Time.Date
import Mathlib.Tactic.SplitIfs

namespace Calibration
namespace Time
namespace Date

/-- The days of a cycle before a year of it. -/
def daysBefore (yearOfEra : Int) : Int := 365 * yearOfEra + yearOfEra / 4 - yearOfEra / 100

/-- The year of the cycle as it is estimated from a day of the cycle. -/
def yearOf (dayOfEra : Int) : Int :=
  (dayOfEra - dayOfEra / 1460 + dayOfEra / 36524 - dayOfEra / 146096) / 365

/-- The year of a day in a century, in a row of four years of it. -/
theorem yearOf_eq {c q s : Int} (hc : 0 ≤ c ∧ c < 4) (hq : 0 ≤ q) (hs : 0 ≤ s ∧ s < 1461)
    (hcentury : 1461 * q + s < 36524) :
    yearOf (36524 * c + (1461 * q + s)) = 100 * c + 4 * q + min (s / 365) 3 := by
  have hleap : (36524 * c + (1461 * q + s)) / 1460 = 25 * c + q + (24 * c + q + s) / 1460 := by omega
  have hcenturies : (36524 * c + (1461 * q + s)) / 36524 = c := by omega
  have hcycle : (36524 * c + (1461 * q + s)) / 146096 = 0 := by omega
  rw [yearOf, hleap, hcenturies, hcycle]
  omega

/-- The days before a year, by its century, its row of four years in it, and its place in the row. -/
theorem daysBefore_eq {c q v : Int} (hq : 0 ≤ q ∧ q < 25) (hv : 0 ≤ v ∧ v < 4) :
    daysBefore (100 * c + 4 * q + v) = 36524 * c + 1461 * q + 365 * v := by
  unfold daysBefore
  omega

/-- **A day lies in the year that is estimated**: not before its first day, and before the first day of the next,
where the last year of a cycle has one day more since its leap day is not counted before any year of the same cycle.
-/
theorem yearOf_bounds {d : Int} (h₀ : 0 ≤ d) (h₁ : d < 146097) :
    0 ≤ yearOf d ∧ yearOf d < 400 ∧ daysBefore (yearOf d) ≤ d ∧
      d < daysBefore (yearOf d + 1) + (if yearOf d = 399 then 1 else 0) := by
  by_cases hlast : d = 146096
  · subst hlast
    decide
  · obtain ⟨c, r, hr₀, hr₁, rfl⟩ : ∃ c r : Int, 0 ≤ r ∧ r < 36524 ∧ d = 36524 * c + r :=
      ⟨d / 36524, d % 36524, by omega, by omega, by omega⟩
    obtain ⟨q, s, hs₀, hs₁, rfl⟩ : ∃ q s : Int, 0 ≤ s ∧ s < 1461 ∧ r = 1461 * q + s :=
      ⟨r / 1461, r % 1461, by omega, by omega, by omega⟩
    have hc : 0 ≤ c ∧ c < 4 := by omega
    have hq : 0 ≤ q ∧ q < 25 := by omega
    rw [yearOf_eq hc hq.1 ⟨hs₀, hs₁⟩ hr₁]
    obtain ⟨v, hv⟩ : ∃ v, v = min (s / 365) 3 := ⟨_, rfl⟩
    have hv₀ : 0 ≤ v ∧ v < 4 := by omega
    rw [← hv, daysBefore_eq hq hv₀]
    refine ⟨by omega, by omega, by omega, ?_⟩
    -- The next year is the next of the four, or the first of the next four, or the first of the next century.
    by_cases hfour : v < 3
    · have := daysBefore_eq (c := c) hq (show 0 ≤ v + 1 ∧ v + 1 < 4 by omega)
      rw [← Int.add_assoc] at this
      omega
    · obtain rfl : v = 3 := by omega
      by_cases hcentury : q < 24
      · have := daysBefore_eq (c := c) (show 0 ≤ q + 1 ∧ q + 1 < 25 by omega) (v := 0) (by decide)
        rw [show 100 * c + 4 * (q + 1) + 0 = 100 * c + 4 * q + 3 + 1 by omega] at this
        omega
      · obtain rfl : q = 24 := by omega
        have := daysBefore_eq (c := c + 1) (q := 0) (v := 0) (by decide) (by decide)
        rw [show 100 * (c + 1) + 4 * 0 + 0 = 100 * c + 4 * 24 + 3 + 1 by omega] at this
        omega

/-- The day of the year that begins in March has the last number in a leap year only. -/
theorem isLeapYear_of_lt {y : Int} (h : daysBefore y + 365 < daysBefore (y + 1) + (if y = 399 then 1 else 0))
    (era : Int) : isLeapYear (y + era * 400 + 1) := by
  unfold daysBefore at h
  have hfour : (y + era * 400 + 1) % 4 = 0 := by omega
  have hcentury : (y + era * 400 + 1) % 100 ≠ 0 ∨ (y + era * 400 + 1) % 400 = 0 := by omega
  simp only [isLeapYear, hfour, decide_true, Bool.true_and, Bool.or_eq_true, decide_eq_true_iff]
  exact hcentury

/-- The date of a day of the year `y` of a cycle, years beginning in March. -/
def ofParts (era y : Int) (day : Nat) : Date :=
  let m := (5 * day + 2) / 153
  let month := if m < 10 then m + 3 else m - 9
  ⟨y + era * 400 + (if month ≤ 2 then 1 else 0), month, day - (153 * m + 2) / 5 + 1⟩

/-- **The parts of a day number**: the cycle, the year of the cycle, and the day of the year.  A year has a day with
the last number only if it is a leap year. -/
theorem exists_parts (n : Int) : ∃ (era y : Int) (day : Nat), 0 ≤ y ∧ y < 400 ∧ day ≤ 365 ∧
    (day = 365 → isLeapYear (y + era * 400 + 1)) ∧ n + 719468 = era * 146097 + (daysBefore y + day) ∧
    ofDayNumber n = ofParts era y day := by
  obtain ⟨hy₀, hy₁, hlow, hhigh⟩ := yearOf_bounds (d := (n + 719468) % 146097) (by omega) (by omega)
  have hlength : daysBefore (yearOf ((n + 719468) % 146097) + 1) ≤
      daysBefore (yearOf ((n + 719468) % 146097)) + 366 -
        (if yearOf ((n + 719468) % 146097) = 399 then 1 else 0) := by
    unfold daysBefore
    omega
  refine ⟨(n + 719468) / 146097, yearOf ((n + 719468) % 146097),
    ((n + 719468) % 146097 - daysBefore (yearOf ((n + 719468) % 146097))).toNat, hy₀, hy₁, by omega, fun h => ?_,
    by omega, rfl⟩
  exact isLeapYear_of_lt (by omega) _

/-- The day number of a date that is made of a cycle, a year of it and a day of the year.  It is linear in all three,
so that the date of a day number has this number once its year is the right one. -/
theorem dayNumber_ofParts {era y : Int} {day : Nat} (hy₀ : 0 ≤ y) (hy₁ : y < 400) (hday : day ≤ 365) :
    (ofParts era y day).dayNumber = era * 146097 + (daysBefore y + day) - 719468 := by
  obtain ⟨m, hm⟩ : ∃ m, m = (5 * day + 2) / 153 := ⟨_, rfl⟩
  have hstart : (153 * m + 2) / 5 ≤ day := by omega
  have hera : (y + era * 400) / 400 = era := by omega
  have hyear : (y + era * 400) % 400 = y := by omega
  unfold daysBefore
  simp only [ofParts, dayNumber, ← hm]
  by_cases hmarch : m < 10
  · have hlate : ¬m + 3 ≤ 2 := by omega
    rw [if_pos hmarch, if_neg hlate, if_neg hlate, if_neg hlate, Int.add_zero, hera, hyear]
    omega
  · have hjanuary : m - 9 ≤ 2 := by omega
    rw [if_neg hmarch, if_pos hjanuary, if_pos hjanuary, if_pos hjanuary, Int.add_sub_cancel, hera, hyear]
    omega

/-- **The date of a day number has this day number.**  So no two days have the same date, in whatever year. -/
theorem dayNumber_ofDayNumber (n : Int) : (ofDayNumber n).dayNumber = n := by
  obtain ⟨era, y, day, hy₀, hy₁, hday, -, hn, hdate⟩ := exists_parts n
  rw [hdate, dayNumber_ofParts hy₀ hy₁ hday, ← hn, Int.add_sub_cancel]

/-- **The date of a day number exists.**  Its month has as many days, and the 29th of February comes in leap years
only. -/
theorem isValid_ofDayNumber (n : Int) : (ofDayNumber n).isValid := by
  obtain ⟨era, y, day, hy₀, hy₁, hday, hleap, -, hdate⟩ := exists_parts n
  obtain ⟨m, hm⟩ : ∃ m, m = (5 * day + 2) / 153 := ⟨_, rfl⟩
  rw [hdate]
  simp only [ofParts, isValid, monthLength, Bool.and_eq_true, decide_eq_true_iff, ← hm]
  by_cases hmarch : m < 10
  · rw [if_pos hmarch, if_neg (by omega : ¬m + 3 = 2)]
    refine ⟨⟨⟨by omega, by omega⟩, by omega⟩, ?_⟩
    split_ifs <;> omega
  · rw [if_neg hmarch, if_pos (by omega : m - 9 ≤ 2)]
    refine ⟨⟨⟨by omega, by omega⟩, by omega⟩, ?_⟩
    by_cases hlast : day = 365
    · rw [if_pos (by omega), if_pos (hleap hlast)]
      omega
    · split_ifs <;> omega

end Date
end Time
end Calibration
