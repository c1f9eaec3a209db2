import Mathlib.Algebra.Order.BigOperators.Group.Finset
import Mathlib.Tactic.IntervalCases

/-
  The Gregorian calendar by its rules, for all years. `dayNumber` counts the days from the first of
  January 1970 to a date: those of the years between, leap years by the rule of 4, 100 and 400,
  those of the months before, and those of the month. No two dates have one number
  (`IsDate.unique`). In a year that starts in March, the leap day comes last, and the days before a
  month have a closed form (`march_eq`, `dayNumber_march`, `dayNumber_winter`).
-/
namespace PaneRunner.Build

/-- A year with a leap day: every fourth, but of the years that end a century only every fourth. -/
def isLeap (year : Int) : Bool := year % 4 = 0 ∧ (year % 100 ≠ 0 ∨ year % 400 = 0)

/-- The days of a month, January being number 1. -/
def monthLength (year : Int) : Nat → Nat
  | 2 => if isLeap year then 29 else 28
  | 4 | 6 | 9 | 11 => 30
  | _ => 31

/-- The days of a year before a month. -/
def daysBefore (year : Int) (month : Nat) : Nat :=
  ∑ i ∈ Finset.range (month - 1), monthLength year (i + 1)

def yearLength (year : Int) : Nat := daysBefore year 13

/-- The days of so many years, from a year on. -/
def yearsLength (year : Int) (n : Nat) : Nat := ∑ i ∈ Finset.range n, yearLength (year + i)

/-- The days from the first of January 1970 to that of a year, less than none for the years before.
One of the lengths is always that of no years. -/
def newYear (year : Int) : Int :=
  yearsLength 1970 (year - 1970).toNat - yearsLength year (1970 - year).toNat

/-- The days from the first of January 1970 to a date. -/
def dayNumber (year : Int) (month day : Nat) : Int :=
  newYear year + daysBefore year month + (day - 1)

/-- A day that the calendar has. -/
structure IsDate (year : Int) (month day : Nat) : Prop where
  month_pos : 1 ≤ month
  month_le : month ≤ 12
  day_pos : 1 ≤ day
  day_le : day ≤ monthLength year month

/-! ## Months -/

theorem daysBefore_one (year : Int) : daysBefore year 1 = 0 := rfl

theorem daysBefore_succ (year : Int) {month : Nat} (h : 1 ≤ month) :
    daysBefore year (month + 1) = daysBefore year month + monthLength year month := by
  obtain ⟨i, rfl⟩ := Nat.exists_eq_add_of_le' h
  exact Finset.sum_range_succ _ i

theorem daysBefore_mono (year : Int) {m n : Nat} (h : m ≤ n) :
    daysBefore year m ≤ daysBefore year n :=
  Finset.sum_le_sum_of_subset (Finset.range_subset_range.2 (Nat.sub_le_sub_right h 1))

theorem daysBefore_two (year : Int) : daysBefore year 2 = 31 := rfl

theorem monthLength_two (year : Int) :
    monthLength year 2 = 28 + if isLeap year then 1 else 0 := by
  rw [monthLength]
  split <;> rfl

theorem daysBefore_three (year : Int) :
    daysBefore year 3 = 59 + if isLeap year then 1 else 0 := by
  rw [daysBefore_succ year (by decide), daysBefore_two, monthLength_two]
  omega

theorem monthLength_le (year : Int) (month : Nat) : monthLength year month ≤ 31 := by
  unfold monthLength
  split
  · split <;> decide
  all_goals decide

/-- The lengths of the months from March on are the steps of a line, in whole days. -/
theorem monthLength_add_three (year : Int) {i : Nat} (h : i < 10) :
    monthLength year (i + 3) = (153 * (i + 1) + 2) / 5 - (153 * i + 2) / 5 := by
  interval_cases i <;> rfl

theorem daysBefore_add_three (year : Int) {i : Nat} (h : i ≤ 10) :
    daysBefore year (i + 3) = daysBefore year 3 + (153 * i + 2) / 5 := by
  induction i with
  | zero => rfl
  | succ i ih =>
    rw [Nat.add_right_comm, daysBefore_succ year (by omega), ih (by omega),
      monthLength_add_three year h]
    omega

/-! ## Years -/

theorem isLeap_iff {year : Int} :
    isLeap year = true ↔ year % 4 = 0 ∧ (year % 100 ≠ 0 ∨ year % 400 = 0) := by
  simp [isLeap]

theorem yearLength_eq (year : Int) : yearLength year = 365 + if isLeap year then 1 else 0 := by
  rw [yearLength, daysBefore_add_three year (Nat.le_refl 10), daysBefore_three]
  omega

theorem newYear_start : newYear 1970 = 0 := by
  simp [newYear]

theorem yearsLength_zero (year : Int) : yearsLength year 0 = 0 := rfl

theorem yearsLength_succ (year : Int) (n : Nat) :
    yearsLength year (n + 1) = yearsLength year n + yearLength (year + n) :=
  Finset.sum_range_succ _ n

theorem yearsLength_succ' (year : Int) (n : Nat) :
    yearsLength year (n + 1) = yearsLength (year + 1) n + yearLength year := by
  have hshift (i : Nat) : year + (i + 1 : Nat) = year + 1 + i := by omega
  have hstart : year + (0 : Nat) = year := Int.add_zero year
  rw [yearsLength, Finset.sum_range_succ', hstart]
  simp only [hshift]
  rfl

/-- After 1970 the years gone by are one more; before, the years to come are one less. -/
theorem newYear_succ (year : Int) : newYear (year + 1) = newYear year + yearLength year := by
  unfold newYear
  by_cases h : year < 1970
  · obtain ⟨n, hn⟩ : ∃ n, n = (1970 - (year + 1)).toNat := ⟨_, rfl⟩
    have hto : (1970 - year).toNat = n + 1 := by omega
    have hpast : (year - 1970).toNat = 0 := by omega
    have hpast' : (year + 1 - 1970).toNat = 0 := by omega
    rw [← hn, hto, hpast, hpast', yearsLength_zero, yearsLength_succ']
    omega
  · obtain ⟨n, hn⟩ : ∃ n, n = (year - 1970).toNat := ⟨_, rfl⟩
    have hpast : (year + 1 - 1970).toNat = n + 1 := by omega
    have hto : (1970 - year).toNat = 0 := by omega
    have hto' : (1970 - (year + 1)).toNat = 0 := by omega
    have hyear : 1970 + (n : Int) = year := by omega
    rw [← hn, hpast, hto, hto', yearsLength_zero, yearsLength_zero, yearsLength_succ, hyear]
    omega

theorem newYear_mono {y z : Int} (h : y ≤ z) : newYear y ≤ newYear z := by
  obtain ⟨n, rfl⟩ := Int.le.dest h
  induction n with
  | zero => exact (congrArg newYear (Int.add_zero y)).ge
  | succ n ih =>
    have hsucc := newYear_succ (y + n)
    have hle := ih (Int.le_add_of_nonneg_right (Int.natCast_nonneg n))
    rw [Int.natCast_succ, ← Int.add_assoc]
    omega

/-- The leap days before a year, from the year 1 on. -/
def leapDays (year : Int) : Int := (year - 1) / 4 - (year - 1) / 100 + (year - 1) / 400

theorem leapDays_succ (year : Int) :
    leapDays (year + 1) = leapDays year + if isLeap year then 1 else 0 := by
  unfold leapDays
  by_cases h : isLeap year = true
  · rw [if_pos h]
    rw [isLeap_iff] at h
    omega
  · rw [if_neg h]
    rw [isLeap_iff] at h
    omega

theorem newYear_eq (year : Int) : newYear year = 365 * year + leapDays year - 719527 := by
  have hstep (y : Int) : newYear (y + 1) - 365 * (y + 1) - leapDays (y + 1) =
      newYear y - 365 * y - leapDays y := by
    rw [newYear_succ, leapDays_succ, yearLength_eq]
    split <;> omega
  have hconst : newYear year - 365 * year - leapDays year = -719527 := by
    induction year using Int.inductionOn' (b := 1970) with
    | zero =>
      rw [newYear_start]
      decide
    | succ y _ ih => rw [hstep, ih]
    | pred y _ ih => rw [← ih, ← hstep (y - 1), sub_add_cancel]
  omega

/-! ## Dates -/

namespace IsDate

variable {year : Int} {month day : Nat}

theorem lt_month (h : IsDate year month day) :
    daysBefore year month + (day - 1) < daysBefore year (month + 1) := by
  have hpos := h.day_pos
  have hle := h.day_le
  rw [daysBefore_succ year h.month_pos]
  omega

theorem newYear_le (h : IsDate year month day) : newYear year ≤ dayNumber year month day := by
  have hpos := h.day_pos
  rw [dayNumber]
  omega

theorem lt_newYear (h : IsDate year month day) :
    dayNumber year month day < newYear (year + 1) := by
  have hday := h.lt_month
  have hmonth : daysBefore year (month + 1) ≤ yearLength year :=
    daysBefore_mono year (Nat.succ_le_succ h.month_le)
  have hpos := h.day_pos
  rw [newYear_succ, dayNumber]
  omega

theorem lt_of_year_lt (h : IsDate year month day) {year' : Int} {month' day' : Nat}
    (h' : IsDate year' month' day') (hyear : year < year') :
    dayNumber year month day < dayNumber year' month' day' :=
  h.lt_newYear.trans_le ((newYear_mono (Int.add_one_le_of_lt hyear)).trans h'.newYear_le)

theorem lt_of_month_lt (h : IsDate year month day) {month' day' : Nat}
    (h' : IsDate year month' day') (hmonth : month < month') :
    dayNumber year month day < dayNumber year month' day' := by
  have hday := h.lt_month
  have hle : daysBefore year (month + 1) ≤ daysBefore year month' :=
    daysBefore_mono year (Nat.succ_le_of_lt hmonth)
  have hpos := h.day_pos
  have hpos' := h'.day_pos
  rw [dayNumber, dayNumber]
  omega

/-- No two dates are the same number of days away. -/
theorem unique (h : IsDate year month day) {year' : Int} {month' day' : Nat}
    (h' : IsDate year' month' day')
    (he : dayNumber year month day = dayNumber year' month' day') :
    year = year' ∧ month = month' ∧ day = day' := by
  obtain hlt | rfl | hlt := Int.lt_trichotomy year year'
  · exact absurd he (h.lt_of_year_lt h' hlt).ne
  · obtain hlt | rfl | hlt := Nat.lt_trichotomy month month'
    · exact absurd he (h.lt_of_month_lt h' hlt).ne
    · have hpos := h.day_pos
      have hpos' := h'.day_pos
      rw [dayNumber, dayNumber] at he
      exact ⟨rfl, rfl, by omega⟩
    · exact absurd he.symm (h'.lt_of_month_lt h hlt).ne
  · exact absurd he.symm (h'.lt_of_year_lt h hlt).ne

end IsDate

/-! ## Years that start in March -/

/-- The days from the first of January 1970 to the first of March of a year. -/
def march (year : Int) : Int := dayNumber year 3 1

theorem newYear_after_march (year : Int) : newYear (year + 1) = march year + 306 := by
  rw [newYear_succ, yearLength, daysBefore_add_three year (Nat.le_refl 10), march, dayNumber]
  omega

theorem march_eq (year : Int) :
    march year = 365 * year + year / 4 - year / 100 + year / 400 - 719468 := by
  have hafter := newYear_after_march year
  rw [newYear_eq, leapDays, add_sub_cancel_right] at hafter
  omega

/-- From March to December. -/
theorem dayNumber_march (year : Int) {i : Nat} (h : i < 10) (day : Nat) :
    dayNumber year (i + 3) day = march year + (153 * i + 2) / 5 + (day - 1) := by
  rw [march, dayNumber, dayNumber, daysBefore_add_three year h.le]
  omega

/-- January and February of the year after. -/
theorem dayNumber_winter (year : Int) {i : Nat} (h : 10 ≤ i) (h' : i < 12) (day : Nat) :
    dayNumber (year + 1) (i - 9) day = march year + (153 * i + 2) / 5 + (day - 1) := by
  rw [dayNumber, newYear_after_march]
  have hi : i = 10 ∨ i = 11 := by omega
  rcases hi with rfl | rfl
  · rw [daysBefore_one]
    omega
  · rw [daysBefore_two]
    omega

end PaneRunner.Build
