import PaneRunner.Build.Calendar
import PaneRunner.Proofs.Build.Gregorian

/-
  The date of a day. A day of an era has a place in it: a century, a cycle of four years, a year of
  the cycle, and a day of the year, the leap day being the last of the fourth year of a cycle
  (`Place`). The divisors with which the year is found count the leap days up to there, whatever
  the place (`Place.yearOfEra_index`). So the date of a day is one that the calendar has
  (`Date.isDate_ofDays`), and the day is as far from the first of January 1970 as its number says
  (`Date.dayNumber_ofDays`); there is no other date of which that holds (`Date.eq_ofDays_iff`).
-/
namespace PaneRunner.Build

/-- The place of a day in an era of 400 years that start in March. -/
structure Place where
  century : Nat
  cycle : Nat
  year : Nat
  day : Nat
  century_lt : century < 4
  cycle_lt : cycle < 25
  year_lt : year < 4
  day_le : day < 365 ∨ day = 365 ∧ year = 3 ∧ (cycle < 24 ∨ century = 3)

namespace Place

/-- The days of the era before the year. -/
def yearStart (p : Place) : Nat := 36524 * p.century + 1461 * p.cycle + 365 * p.year

/-- The number of the day in its era. -/
def index (p : Place) : Nat := p.yearStart + p.day

/-- The number of the year in its era. -/
def eraYear (p : Place) : Nat := 100 * p.century + 4 * p.cycle + p.year

theorem exists_index {doe : Nat} (h : doe < eraDays) : ∃ p : Place, p.index = doe := by
  unfold eraDays at h
  -- the last day of an era would start a fifth century, and that of a cycle a fifth year
  obtain ⟨c, hc⟩ : ∃ c, c = min (doe / 36524) 3 := ⟨_, rfl⟩
  obtain ⟨inCentury, hin⟩ : ∃ n, n = doe - 36524 * c := ⟨_, rfl⟩
  obtain ⟨r, hr⟩ : ∃ r, r = min (inCentury % 1461 / 365) 3 := ⟨_, rfl⟩
  refine ⟨⟨c, inCentury / 1461, r, inCentury % 1461 - 365 * r, by omega, by omega, by omega,
    by omega⟩, ?_⟩
  simp only [index, yearStart]
  omega

variable (p : Place)

theorem index_lt : p.index < eraDays := by
  obtain ⟨c, q, r, d, hc, hq, hr, hd⟩ := p
  simp only [index, yearStart, eraDays]
  omega

theorem eraYear_lt : p.eraYear < 400 := by
  obtain ⟨c, q, r, d, hc, hq, hr, hd⟩ := p
  simp only [eraYear]
  omega

/-- The divisors drop a day of every 1460 and give one back of every 36524, and drop the last of the
era. The days dropped are not the leap days themselves, but there are as many of them before every
year. -/
theorem yearOfEra_index : yearOfEra p.index = p.eraYear := by
  obtain ⟨c, q, r, d, hc, hq, hr, hd⟩ := p
  obtain ⟨n, hn⟩ : ∃ n, n = 36524 * c + 1461 * q + 365 * r + d := ⟨_, rfl⟩
  have hcycles : n / 1460 = 25 * c + q + (24 * c + q + 365 * r + d) / 1460 := by omega
  simp only [index, yearStart, eraYear, ← hn]
  unfold yearOfEra
  by_cases hlast : n = 146096
  · omega
  · have hcenturies : n / 36524 = c := by omega
    have heras : n / 146096 = 0 := by omega
    rw [hcycles, hcenturies, heras]
    omega

theorem yearStart_eq :
    p.yearStart = 365 * p.eraYear + p.eraYear / 4 - p.eraYear / 100 := by
  obtain ⟨c, q, r, d, hc, hq, hr, hd⟩ := p
  simp only [yearStart, eraYear]
  omega

theorem dayOfYear_index : dayOfYear p.index = p.day := by
  rw [dayOfYear, yearOfEra_index, ← yearStart_eq, index, Nat.add_sub_cancel_left]

theorem march_eraYear (era : Int) :
    march (p.eraYear + era * 400) = era * 146097 + p.yearStart - 719468 := by
  obtain ⟨c, q, r, d, hc, hq, hr, hd⟩ := p
  simp only [march_eq, yearStart, eraYear]
  omega

/-- A 366th day from the first of March on is the leap day of the calendar year that has begun by
then. -/
theorem isLeap_of_day (h : p.day = 365) (era : Int) :
    isLeap (p.eraYear + era * 400 + 1) = true := by
  obtain ⟨c, q, r, d, hc, hq, hr, hd⟩ := p
  simp only at h
  rw [isLeap_iff]
  simp only [eraYear]
  omega

end Place

/-! ## Months -/

theorem monthIndex_bounds {doy : Nat} (h : doy ≤ 365) :
    monthIndex doy < 12 ∧ (153 * monthIndex doy + 2) / 5 ≤ doy ∧
      doy < (153 * (monthIndex doy + 1) + 2) / 5 := by
  unfold monthIndex
  omega

namespace Date

/-- The date of a day of a year that starts in March. -/
def ofMarch (year doy : Nat) : Date :=
  let i := monthIndex doy
  let month := if i < 10 then i + 3 else i - 9
  ⟨year + if month ≤ 2 then 1 else 0, month, doy - (153 * i + 2) / 5 + 1⟩

theorem ofMarch_of_lt {year doy : Nat} (h : monthIndex doy < 10) :
    ofMarch year doy = ⟨year, monthIndex doy + 3, doy - (153 * monthIndex doy + 2) / 5 + 1⟩ := by
  simp only [ofMarch, if_pos h]
  rw [if_neg (by omega), Nat.add_zero]

theorem ofMarch_of_le {year doy : Nat} (h : 10 ≤ monthIndex doy) (h' : monthIndex doy < 12) :
    ofMarch year doy =
      ⟨year + 1, monthIndex doy - 9, doy - (153 * monthIndex doy + 2) / 5 + 1⟩ := by
  simp only [ofMarch, if_neg (Nat.not_lt.2 h)]
  rw [if_pos (by omega)]

theorem dayNumber_ofMarch (year : Nat) {doy : Nat} (h : doy ≤ 365) :
    dayNumber (ofMarch year doy).year (ofMarch year doy).month (ofMarch year doy).day =
      march year + doy := by
  obtain ⟨hlt, hle, -⟩ := monthIndex_bounds h
  by_cases hi : monthIndex doy < 10
  · rw [ofMarch_of_lt hi]
    dsimp only
    rw [dayNumber_march _ hi]
    omega
  · rw [ofMarch_of_le (Nat.not_lt.1 hi) hlt]
    dsimp only
    rw [Int.natCast_add, Int.natCast_one, dayNumber_winter _ (Nat.not_lt.1 hi) hlt]
    omega

theorem isDate_ofMarch {year doy : Nat} (h : doy < 365 ∨ doy = 365 ∧ isLeap (year + 1) = true) :
    IsDate (ofMarch year doy).year (ofMarch year doy).month (ofMarch year doy).day := by
  have hdoy : doy ≤ 365 := by omega
  obtain ⟨hlt, hle, hnext⟩ := monthIndex_bounds hdoy
  by_cases hi : monthIndex doy < 10
  · rw [ofMarch_of_lt hi]
    dsimp only
    refine ⟨by omega, by omega, by omega, ?_⟩
    rw [monthLength_add_three _ hi]
    omega
  · rw [ofMarch_of_le (Nat.not_lt.1 hi) hlt]
    dsimp only
    refine ⟨by omega, by omega, by omega, ?_⟩
    rw [Int.natCast_add, Int.natCast_one]
    have hmonth : monthIndex doy = 10 ∨ monthIndex doy = 11 := by omega
    rcases hmonth with hm | hm
    · rw [hm] at hle hnext ⊢
      have hjanuary : monthLength (year + 1) (10 - 9) = 31 := rfl
      omega
    · rw [hm] at hle ⊢
      have hfebruary : monthLength (year + 1) (11 - 9) =
          28 + if isLeap (year + 1) then 1 else 0 := monthLength_two (year + 1)
      rcases h with h | ⟨h, hleap⟩
      · omega
      · rw [if_pos hleap] at hfebruary
        omega

theorem ofDays_eq_ofMarch {days : Nat} {p : Place} (hp : p.index = (days + 719468) % eraDays) :
    ofDays days = ofMarch (p.eraYear + (days + 719468) / eraDays * 400) p.day := by
  simp only [ofDays, ofMarch, ← hp, p.yearOfEra_index, p.dayOfYear_index]

theorem exists_place (days : Nat) : ∃ p : Place, p.index = (days + 719468) % eraDays :=
  Place.exists_index (Nat.mod_lt _ (by decide))

theorem exists_ofMarch (days : Nat) :
    ∃ year doy : Nat, ofDays days = ofMarch year doy ∧ march year + doy = days ∧
      (doy < 365 ∨ doy = 365 ∧ isLeap (year + 1) = true) := by
  obtain ⟨p, hp⟩ := exists_place days
  refine ⟨_, p.day, ofDays_eq_ofMarch hp, ?_, ?_⟩
  · have hsplit := Nat.div_add_mod (days + 719468) eraDays
    have hmarch := p.march_eraYear ((days + 719468) / eraDays : Nat)
    rw [← hp, Place.index, eraDays] at hsplit
    rw [eraDays] at hmarch ⊢
    push_cast at hmarch ⊢
    omega
  · rcases p.day_le with h | ⟨h, -⟩
    · exact Or.inl h
    · refine Or.inr ⟨h, ?_⟩
      push_cast
      exact p.isLeap_of_day h _

theorem year_ofDays_le (days : Nat) : (ofDays days).year ≤ days + 719868 := by
  obtain ⟨p, hp⟩ := exists_place days
  have hyear := p.eraYear_lt
  rw [ofDays_eq_ofMarch hp, ofMarch, eraDays]
  dsimp only
  split <;> split <;> omega

/-- A day is as far from the first of January 1970 as its number says. -/
theorem dayNumber_ofDays (days : Nat) :
    dayNumber (ofDays days).year (ofDays days).month (ofDays days).day = days := by
  obtain ⟨year, doy, he, hnumber, hdoy⟩ := exists_ofMarch days
  rw [he, dayNumber_ofMarch year (by omega), hnumber]

theorem isDate_ofDays (days : Nat) :
    IsDate (ofDays days).year (ofDays days).month (ofDays days).day := by
  obtain ⟨year, doy, he, -, hdoy⟩ := exists_ofMarch days
  rw [he]
  exact isDate_ofMarch hdoy

/-- The date of a day is the only one with its number. -/
theorem eq_ofDays_iff {days : Nat} {year : Int} {month day : Nat} :
    IsDate year month day ∧ dayNumber year month day = days ↔
      year = (ofDays days).year ∧ month = (ofDays days).month ∧ day = (ofDays days).day := by
  constructor
  · rintro ⟨hdate, hnumber⟩
    exact hdate.unique (isDate_ofDays days) (hnumber.trans (dayNumber_ofDays days).symm)
  · rintro ⟨rfl, rfl, rfl⟩
    exact ⟨isDate_ofDays days, dayNumber_ofDays days⟩

example : ofDays 11016 = ⟨2000, 2, 29⟩ := by decide

end Date

end PaneRunner.Build
