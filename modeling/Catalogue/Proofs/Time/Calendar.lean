import Catalogue.Time.Timestamp
import Mathlib.Algebra.Order.Ring.Nat
import Mathlib.Algebra.Order.Ring.Int

/-! The calendar. Years begin in March here, so that a leap day is the last of its year,
and 400 of them make an era of 146097 days. Each day of an era lies in the year that it
is put in (`yearOfEra_spec`), so the date of a day is the date of that day alone
(`dayOf_dateOf`), and a date that there is (`date_dateOf`). -/
namespace Catalogue.Timestamp

/-! ### Years of an era -/

/-- The days of an era without its leap days, up to a day. -/
def commonDays (n : Nat) : Nat := n - n / 1460 + n / 36524 - n / 146096

/-- The year of an era that a day lies in. -/
def yearOfEra (n : Nat) : Nat := commonDays n / 365

/-- The first day of a year of an era. -/
def startOfYear (y : Nat) : Nat := 365 * y + y / 4 - y / 100

theorem commonDays_succ (n : Nat) : commonDays n ≤ commonDays (n + 1) := by
  have hfour : (n + 1) / 1460 ≤ n / 1460 + 1 := by omega
  have hcentury : (n + 1) / 36524 = n / 36524 ∨ (n + 1) / 36524 = n / 36524 + 1 ∧ (n + 1) % 36524 = 0 := by
    omega
  have hera : (n + 1) / 146096 = n / 146096 ∨ (n + 1) / 146096 = n / 146096 + 1 ∧ (n + 1) % 146096 = 0 := by
    omega
  have hle : n / 1460 ≤ n := Nat.div_le_self _ _
  have hle' : n / 146096 ≤ n / 36524 := Nat.div_le_div_left (by decide) (by decide)
  unfold commonDays
  rcases hera with hera | ⟨hera, hmod⟩
  · rcases hcentury with hcentury | ⟨hcentury, -⟩ <;> rw [hcentury, hera] <;> omega
  · rcases hcentury with hcentury | ⟨hcentury, -⟩
    · have : (n + 1) % 36524 = 0 := by omega
      omega
    · rw [hcentury, hera]
      omega

theorem commonDays_mono {m n : Nat} (h : m ≤ n) : commonDays m ≤ commonDays n := by
  induction h with
  | refl => exact Nat.le_refl _
  | step _ ih => exact ih.trans (commonDays_succ _)

/-- Before the first day of a year there are as many common days as years, and no more. -/
theorem commonDays_startOfYear : ∀ y < 400,
    365 * y ≤ commonDays (startOfYear y) ∧
      commonDays (startOfYear (y + 1) + (y + 1) / 400 - 1) < 365 * (y + 1) := by
  decide +kernel

/-- A year has 365 days, or 366 if a leap day ends it. -/
theorem length_year : ∀ y < 400, startOfYear (y + 1) + (y + 1) / 400 ≤ startOfYear y + 366 ∧
    (startOfYear y + 365 < startOfYear (y + 1) + (y + 1) / 400 →
      (y + 1) % 4 = 0 ∧ ((y + 1) % 100 ≠ 0 ∨ (y + 1) % 400 = 0)) := by
  decide +kernel

/-- A day of an era lies in its year. -/
theorem yearOfEra_spec {n : Nat} (h : n < 146097) :
    yearOfEra n < 400 ∧ startOfYear (yearOfEra n) ≤ n ∧
      n < startOfYear (yearOfEra n + 1) + (yearOfEra n + 1) / 400 := by
  have hlast : commonDays n < 365 * 400 :=
    Nat.lt_of_le_of_lt (commonDays_mono (show n ≤ 146096 by omega)) (by decide)
  have hyear : yearOfEra n < 400 := by
    unfold yearOfEra
    omega
  refine ⟨hyear, ?_, ?_⟩
  · by_contra hlt
    have hpos : 0 < yearOfEra n := by
      rcases Nat.eq_zero_or_pos (yearOfEra n) with hzero | hpos
      · rw [hzero] at hlt
        exact absurd (Nat.zero_le n) hlt
      · exact hpos
    have hprevious := (commonDays_startOfYear (yearOfEra n - 1) (by omega)).2
    have hmono := commonDays_mono (show n ≤ startOfYear (yearOfEra n - 1 + 1) +
      (yearOfEra n - 1 + 1) / 400 - 1 by
        rw [Nat.sub_add_cancel hpos]
        omega)
    have hvalue : yearOfEra n = commonDays n / 365 := rfl
    omega
  · by_contra hle
    by_cases hend : yearOfEra n = 399
    · rw [hend] at hle
      exact hle (Nat.lt_of_lt_of_le h (by decide))
    · have hnext := (commonDays_startOfYear (yearOfEra n + 1) (by omega)).1
      have hmono := commonDays_mono (show startOfYear (yearOfEra n + 1) ≤ n by omega)
      have hvalue : yearOfEra n = commonDays n / 365 := rfl
      omega

/-! ### Months of a year -/

/-- The month, counted from March, that a day of a year lies in. -/
def monthOfYear (d : Nat) : Nat := (5 * d + 2) / 153

/-- The days of a year before a month. -/
def startOfMonth (m : Nat) : Nat := (153 * m + 2) / 5

/-- A day of a year lies in its month, which is one of thirty-one days, one of thirty, or the last. -/
theorem monthOfYear_spec {d : Nat} (h : d < 366) :
    monthOfYear d < 12 ∧ startOfMonth (monthOfYear d) ≤ d ∧
      d < startOfMonth (monthOfYear d) + (if monthOfYear d = 11 then 29
        else if [1, 3, 6, 8].contains (monthOfYear d) then 30 else 31) := by
  have hall : ∀ d < 366, monthOfYear d < 12 ∧ startOfMonth (monthOfYear d) ≤ d ∧
      d < startOfMonth (monthOfYear d) + (if monthOfYear d = 11 then 29
        else if [1, 3, 6, 8].contains (monthOfYear d) then 30 else 31) := by decide +kernel
  exact hall d h

/-- The last two months of a year, which belong to the next year of the calendar. -/
theorem winter_iff {d : Nat} (h : d < 366) : (monthOfYear d + 2) % 12 + 1 ≤ 2 ↔ 306 ≤ d := by
  have hall : ∀ d < 366, (monthOfYear d + 2) % 12 + 1 ≤ 2 ↔ 306 ≤ d := by decide +kernel
  exact hall d h

/-! ### Dates -/

/-- The date of a day of a year of an era. -/
def dateIn (era : Int) (y d : Nat) : Int × Nat × Nat :=
  let month := (monthOfYear d + 2) % 12 + 1
  (y + era * 400 + (if month ≤ 2 then 1 else 0), month, d - startOfMonth (monthOfYear d) + 1)

/-- A day of a year of an era. The last day of a leap year is day 365. -/
structure IsDay (y d : Nat) : Prop where
  year : y < 400
  day : d < 366
  leap : d = 365 → (y + 1) % 4 = 0 ∧ ((y + 1) % 100 ≠ 0 ∨ (y + 1) % 400 = 0)

/-- The date of a day is found in its era. -/
theorem dateOf_eq (days : Int) : ∃ (era : Int) (y d : Nat), IsDay y d ∧
    days = era * 146097 + (startOfYear y + d : Nat) - 719468 ∧ dateOf days = dateIn era y d := by
  have hnonneg : 0 ≤ (days + 719468) - (days + 719468).fdiv 146097 * 146097 := by
    rw [Int.fdiv_eq_ediv_of_nonneg _ (by decide)]
    omega
  have hlt : (days + 719468) - (days + 719468).fdiv 146097 * 146097 < 146097 := by
    rw [Int.fdiv_eq_ediv_of_nonneg _ (by decide)]
    omega
  obtain ⟨n, hn⟩ := Int.eq_ofNat_of_zero_le hnonneg
  have hbound : n < 146097 := by omega
  obtain ⟨hyear, hstart, hend⟩ := yearOfEra_spec hbound
  obtain ⟨hlength, hleap⟩ := length_year _ hyear
  refine ⟨(days + 719468).fdiv 146097, yearOfEra n, n - startOfYear (yearOfEra n), ⟨hyear, ?_, ?_⟩, ?_, ?_⟩
  · omega
  · intro hday
    exact hleap (by omega)
  · omega
  · have htoNat : ((days + 719468) - (days + 719468).fdiv 146097 * 146097).toNat = n := by omega
    simp only [dateOf, htoNat]
    rfl

theorem dayOf_of_parts {year era : Int} {month day y m : Nat} (hy : y < 400)
    (hyear : (if month ≤ 2 then year - 1 else year) = y + era * 400) (hmonth : (month + 9) % 12 = m) :
    dayOf year month day = era * 146097 + (startOfYear y + startOfMonth m + day : Nat) - 719469 := by
  have hera : ((y : Int) + era * 400).fdiv 400 = era := by
    rw [Int.fdiv_eq_ediv_of_nonneg _ (by decide)]
    omega
  have hshift : ((month : Int) + 9) % 12 = m := by omega
  have hrest : (y : Int) + era * 400 - era * 400 = y := by omega
  have hle : y / 100 ≤ 365 * y + y / 4 := by omega
  simp only [dayOf, hyear, hera, hshift, hrest]
  unfold startOfYear startOfMonth
  omega

/-- The date of a day is the date of no other. -/
theorem dayOf_dateIn {era : Int} {y d : Nat} (h : IsDay y d) :
    dayOf (dateIn era y d).1 (dateIn era y d).2.1 (dateIn era y d).2.2 =
      era * 146097 + (startOfYear y + d : Nat) - 719468 := by
  obtain ⟨hmonth, hstart, -⟩ := monthOfYear_spec h.day
  have hyear : (if (dateIn era y d).2.1 ≤ 2 then (dateIn era y d).1 - 1 else (dateIn era y d).1) =
      y + era * 400 := by
    simp only [dateIn]
    split <;> omega
  have hshift : ((dateIn era y d).2.1 + 9) % 12 = monthOfYear d := by
    simp only [dateIn]
    omega
  rw [dayOf_of_parts h.year hyear hshift]
  simp only [dateIn]
  omega

theorem dayOf_dateOf (days : Int) : dayOf (dateOf days).1 (dateOf days).2.1 (dateOf days).2.2 = days := by
  obtain ⟨era, y, d, hday, hdays, hdate⟩ := dateOf_eq days
  rw [hdate, dayOf_dateIn hday, hdays]

/-! ### Dates that there are -/

theorem isLeapYear_iff {year : Int} :
    isLeapYear year = true ↔ year % 4 = 0 ∧ (year % 100 ≠ 0 ∨ year % 400 = 0) := by
  simp [isLeapYear]

theorem daysInMonth_eq (year : Int) {m : Nat} (h : m < 12) :
    daysInMonth year ((m + 2) % 12 + 1) = if m = 11 then (if isLeapYear year then 29 else 28)
      else if [1, 3, 6, 8].contains m then 30 else 31 := by
  have hm : m = 0 ∨ m = 1 ∨ m = 2 ∨ m = 3 ∨ m = 4 ∨ m = 5 ∨ m = 6 ∨ m = 7 ∨ m = 8 ∨ m = 9 ∨ m = 10 ∨ m = 11 := by
    omega
  rcases hm with rfl | rfl | rfl | rfl | rfl | rfl | rfl | rfl | rfl | rfl | rfl | rfl <;> rfl

/-- A date has a month of its year and a day of its month. -/
theorem date_dateIn {era : Int} {y d : Nat} (h : IsDay y d) :
    1 ≤ (dateIn era y d).2.1 ∧ (dateIn era y d).2.1 ≤ 12 ∧ 1 ≤ (dateIn era y d).2.2 ∧
      (dateIn era y d).2.2 ≤ daysInMonth (dateIn era y d).1 (dateIn era y d).2.1 := by
  obtain ⟨hmonth, hstart, hend⟩ := monthOfYear_spec h.day
  refine ⟨by simp only [dateIn]; omega, by simp only [dateIn]; omega, Nat.succ_pos _, ?_⟩
  simp only [dateIn]
  rw [daysInMonth_eq _ hmonth]
  by_cases hlast : monthOfYear d = 11
  · have hstartOf : startOfMonth 11 = 337 := rfl
    have hyear : (y + era * 400 + if (11 + 2) % 12 + 1 ≤ 2 then 1 else 0 : Int) = y + era * 400 + 1 := rfl
    rw [if_pos hlast] at hend ⊢
    rw [hlast] at hend hstart ⊢
    rw [hyear]
    by_cases hleap : isLeapYear (y + era * 400 + 1) = true
    · rw [if_pos hleap]
      omega
    · -- The last month has its last day in leap years only.
      have hday : d ≠ 365 := by
        intro hday
        obtain ⟨hfour, hcentury⟩ := h.leap hday
        refine hleap (isLeapYear_iff.mpr ?_)
        omega
      have := h.day
      rw [if_neg hleap]
      omega
  · rw [if_neg hlast] at hend ⊢
    omega

theorem date_dateOf (days : Int) :
    1 ≤ (dateOf days).2.1 ∧ (dateOf days).2.1 ≤ 12 ∧ 1 ≤ (dateOf days).2.2 ∧
      (dateOf days).2.2 ≤ daysInMonth (dateOf days).1 (dateOf days).2.1 := by
  obtain ⟨era, y, d, hday, -, hdate⟩ := dateOf_eq days
  rw [hdate]
  exact date_dateIn hday

/-- The days of the years that have points in time lie in those years. -/
theorem year_dateOf {days : Int} (hfirst : dayOf firstYear 1 1 ≤ days)
    (hlast : days < dayOf (lastYear + 1) 1 1) : firstYear ≤ (dateOf days).1 ∧ (dateOf days).1 ≤ lastYear := by
  obtain ⟨era, y, d, hday, hdays, hdate⟩ := dateOf_eq days
  have hlow : dayOf firstYear 1 1 = -96465292 := by decide +kernel
  have hhigh : dayOf (lastYear + 1) 1 1 = 95026237 := by decide +kernel
  have hyear := hday.year
  have hlength := hday.day
  have hwinter := winter_iff hday.day
  rw [hdate]
  rw [hlow, hdays] at hfirst
  rw [hhigh, hdays] at hlast
  unfold startOfYear at hfirst hlast
  simp only [dateIn, firstYear, lastYear, hwinter]
  have hera : -656 ≤ era ∧ era ≤ 655 := by omega
  constructor
  · by_contra hlt
    obtain rfl : era = -656 := by omega
    by_cases h : 306 ≤ d
    · rw [if_pos h] at hlt
      omega
    · rw [if_neg h] at hlt
      omega
  · by_contra hlt
    obtain rfl : era = 655 := by omega
    by_cases h : 306 ≤ d
    · rw [if_pos h] at hlt
      omega
    · rw [if_neg h] at hlt
      omega

end Catalogue.Timestamp
