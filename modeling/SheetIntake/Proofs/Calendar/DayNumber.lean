import Mathlib.Tactic.IntervalCases
import SheetIntake.Calendar.Date

/-! # Day numbers

    Serial numbers of workbooks count days, and `ofDaysAfterMarch0` turns a count into a date.  An
    era of 146097 days is cut into centuries of 36524 days, these into spans of four years of 1461
    days, and these into years of 365 days (`yearOfEra_parts`, `daysBefore_parts`).  The days that
    are left over, one at the end of a span and one at the end of an era, are leap days
    (`dayOfYear_spec`), so the date that comes out is always one of the calendar
    (`exists_ofDaysAfterMarch0`). -/

namespace SheetIntake.Date

/-- The year of an era that a day falls in, counted from March. -/
def yearOfEra (day : Nat) : Nat := (day - day / 1460 + day / 36524 - day / 146096) / 365

/-- The days of an era in front of one of its years. -/
def daysBefore (year : Nat) : Nat := 365 * year + year / 4 - year / 100

/-! ## Years -/

section
variable {c q : Nat}

theorem yearOfEra_parts {s : Nat} (hc : c < 4) (hq : q < 25) (hs : s < 1461)
    (hlast : q = 24 → s < 1460) :
    yearOfEra (36524 * c + 1461 * q + s) = 100 * c + 4 * q + min (s / 365) 3 := by
  have hera : (36524 * c + 1461 * q + s) / 146096 = 0 := by omega
  have hcentury : (36524 * c + 1461 * q + s) / 36524 = c := by omega
  unfold yearOfEra
  rw [hera, hcentury]
  -- A century has 25 spans of 1460 days and some more, which may make up for another one.
  by_cases hmore : 24 * c + q + s < 1460
  · have hspans : (36524 * c + 1461 * q + s) / 1460 = 25 * c + q := by omega
    rw [hspans]
    omega
  · have hspans : (36524 * c + 1461 * q + s) / 1460 = 25 * c + q + 1 := by omega
    rw [hspans]
    omega

theorem daysBefore_parts {k : Nat} (hq : q < 25) (hk : k < 4) :
    daysBefore (100 * c + 4 * q + k) = 36524 * c + 1461 * q + 365 * k := by
  unfold daysBefore
  omega

end

/-- A year has 365 days, and one more only if its February, which comes last, has a leap day. -/
theorem dayOfYear_spec {day : Nat} (h : day < 146097) :
    daysBefore (yearOfEra day) ≤ day ∧ day - daysBefore (yearOfEra day) ≤ 365 ∧
      (day - daysBefore (yearOfEra day) = 365 →
        yearOfEra day % 4 = 3 ∧ (yearOfEra day % 100 ≠ 99 ∨ yearOfEra day % 400 = 399)) := by
  by_cases hlast : day = 146096
  · subst hlast
    decide
  · obtain ⟨c, q, s, rfl, hc, hq, hs, hcut⟩ :
        ∃ c q s, day = 36524 * c + 1461 * q + s ∧ c < 4 ∧ q < 25 ∧ s < 1461 ∧
          (q = 24 → s < 1460) :=
      ⟨day / 36524, day % 36524 / 1461, day % 36524 % 1461, by omega, by omega, by omega,
        by omega, by omega⟩
    have hyear := yearOfEra_parts hc hq hs hcut
    have hbefore : daysBefore (yearOfEra (36524 * c + 1461 * q + s)) =
        36524 * c + 1461 * q + 365 * min (s / 365) 3 := by
      rw [hyear]
      exact daysBefore_parts hq (by omega)
    rw [hbefore, hyear]
    omega

/-! ## Months -/

theorem isLeap_iff {year : Int} :
    isLeap year = true ↔ year % 4 = 0 ∧ (year % 100 ≠ 0 ∨ year % 400 = 0) := by
  simp [isLeap]

/-- Counted from March, the days of a year fall into its months. -/
theorem exists_month {dayOfYear march : Nat} {year : Int} (h : dayOfYear ≤ 365)
    (hleap : dayOfYear = 365 → isLeap (year + 1) = true)
    (hmarch : march = (5 * dayOfYear + 2) / 153) :
    1 ≤ (if march < 10 then march + 3 else march - 9) ∧
      (if march < 10 then march + 3 else march - 9) ≤ 12 ∧
      dayOfYear - (153 * march + 2) / 5 + 1 ≤
        daysIn (year + if (if march < 10 then march + 3 else march - 9) ≤ 2 then 1 else 0)
          (if march < 10 then march + 3 else march - 9) := by
  have hlast : march ≤ 11 := by omega
  have hdays : 153 * march ≤ 5 * dayOfYear + 2 ∧ 5 * dayOfYear + 2 < 153 * march + 153 := by omega
  clear hmarch
  by_cases hfebruary : march = 11
  · subst hfebruary
    by_cases hleapDay : dayOfYear = 365
    · have hdaysIn : daysIn (year + 1) 2 = 29 := by simp [daysIn, hleap hleapDay]
      simp [hdaysIn]
      omega
    · have hdaysIn : 28 ≤ daysIn (year + 1) 2 := by
        unfold daysIn
        split <;> split <;> omega
      simp
      omega
  · interval_cases march
    all_goals
      simp [daysIn]
      omega

/-- Every count of days within the calendar gives a date that exists. -/
theorem exists_ofDaysAfterMarch0 {n : Int} (hmin : minYear ≤ (ofDaysAfterMarch0 n).year)
    (hmax : (ofDaysAfterMarch0 n).year ≤ maxYear) : (ofDaysAfterMarch0 n).Exists := by
  have hday : (n % 146097).toNat < 146097 := by omega
  obtain ⟨-, hlength, hleap⟩ := dayOfYear_spec hday
  have hyear : (n % 146097).toNat - daysBefore (yearOfEra (n % 146097).toNat) = 365 →
      isLeap ((yearOfEra (n % 146097).toNat : Int) + n / 146097 * 400 + 1) = true := by
    intro hlast
    have hmod := hleap hlast
    rw [isLeap_iff]
    omega
  obtain ⟨hmonth, hmonth', hdays⟩ := exists_month hlength hyear rfl
  -- The date is made of this year, month and day by definition.
  exact ⟨hmin, hmax, hmonth, hmonth', Nat.succ_pos _, hdays⟩

end SheetIntake.Date
