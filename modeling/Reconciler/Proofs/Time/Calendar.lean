import Mathlib
import Reconciler.Time.Instant
/-!
The calendar.  Every day has a date that exists, and the date determines the day.
-/
namespace Reconciler.Date

/-- The number of a day if the leap days of its era are not counted. -/
private def commonDays (day : Int) : Int :=
  day - day / 1460 + day / 36524 - day / 146096

private theorem commonDays_mono {day other : Int} (hle : day ≤ other) :
    commonDays day ≤ commonDays other := by
  have hquads : day - day / 1460 ≤ other - other / 1460 := by omega
  have hcenturies : day / 36524 - day / 36524 / 4 ≤ other / 36524 - other / 36524 / 4 := by omega
  unfold commonDays
  omega

private theorem commonDays_check : ∀ year : Fin 400,
    commonDays (daysBeforeYear year) = 365 * year ∧
      (0 < year.val → commonDays (daysBeforeYear year - 1) < 365 * year) := by
  decide +kernel

private theorem commonDays_daysBeforeYear {year : Int} (hlow : 0 ≤ year) (hhigh : year < 400) :
    commonDays (daysBeforeYear year) = 365 * year ∧
      (0 < year → commonDays (daysBeforeYear year - 1) < 365 * year) := by
  obtain ⟨index, rfl⟩ := Int.eq_ofNat_of_zero_le hlow
  obtain ⟨hfirst, hbefore⟩ := commonDays_check ⟨index, by omega⟩
  exact ⟨hfirst, fun hpos => hbefore (Int.natCast_pos.1 hpos)⟩

private theorem yearOfDay_eq (day : Int) : yearOfDay day = commonDays day / 365 := rfl

theorem yearOfDay_bounds {day : Int} (hlow : 0 ≤ day) (hhigh : day < 146097) :
    0 ≤ yearOfDay day ∧ yearOfDay day < 400 := by
  unfold yearOfDay
  omega

/-- A day does not come before its year. -/
theorem daysBeforeYear_le {day : Int} (hlow : 0 ≤ day) (hhigh : day < 146097) :
    daysBeforeYear (yearOfDay day) ≤ day := by
  obtain ⟨hyear, hyears⟩ := yearOfDay_bounds hlow hhigh
  rcases Int.lt_or_le 0 (yearOfDay day) with hpos | hzero
  · refine Int.not_lt.1 fun hlt => ?_
    have hbefore := (commonDays_daysBeforeYear hyear hyears).2 hpos
    have hmono : commonDays day ≤ commonDays (daysBeforeYear (yearOfDay day) - 1) :=
      commonDays_mono (by omega)
    rw [yearOfDay_eq] at hbefore hmono
    omega
  · have hfirst : yearOfDay day = 0 := by omega
    rw [hfirst]
    exact hlow

/-- A day comes before the year after its own, and the last day of an era belongs to its last
year. -/
theorem lt_daysBeforeYear {day : Int} (hlow : 0 ≤ day) (hhigh : day < 146097) :
    day < daysBeforeYear (yearOfDay day + 1) + if yearOfDay day = 399 then 1 else 0 := by
  obtain ⟨hyear, hyears⟩ := yearOfDay_bounds hlow hhigh
  split
  · rename_i hlast
    rw [hlast]
    exact hhigh
  · refine Int.not_le.1 fun hle => ?_
    have hnext := (@commonDays_daysBeforeYear (yearOfDay day + 1) (by omega) (by omega)).1
    have hmono : commonDays (daysBeforeYear (yearOfDay day + 1)) ≤ commonDays day :=
      commonDays_mono (by omega)
    rw [hnext, yearOfDay_eq] at hmono
    omega

theorem isLeapYear_iff (year : Int) :
    isLeapYear year = true ↔ year % 4 = 0 ∧ (year % 100 ≠ 0 ∨ year % 400 = 0) := by
  simp [isLeapYear]

theorem isLeapYear_add_era (year era : Int) :
    isLeapYear (year + era * 400) = isLeapYear year := by
  have hfour : (year + era * 400) % 4 = year % 4 := by omega
  have hhundred : (year + era * 400) % 100 = year % 100 := by omega
  have hera : (year + era * 400) % 400 = year % 400 := by omega
  rw [isLeapYear, isLeapYear, hfour, hhundred, hera]

/-- A year has 365 days, and one more if the calendar year that it ends in is a leap year. -/
theorem dayOfYear_le {day : Int} (hlow : 0 ≤ day) (hhigh : day < 146097) :
    day - daysBeforeYear (yearOfDay day) ≤
      364 + if isLeapYear (yearOfDay day + 1) then 1 else 0 := by
  obtain ⟨hyear, hyears⟩ := yearOfDay_bounds hlow hhigh
  have hlt := lt_daysBeforeYear hlow hhigh
  generalize yearOfDay day = year at *
  have hfour : (year + 1) / 4 = year / 4 + if (year + 1) % 4 = 0 then 1 else 0 := by
    split <;> omega
  have hhundred : (year + 1) / 100 = year / 100 + if (year + 1) % 100 = 0 then 1 else 0 := by
    split <;> omega
  unfold daysBeforeYear at *
  by_cases hleap : isLeapYear (year + 1) = true
  · rw [if_pos hleap]
    split at hlt <;> omega
  · rw [if_neg hleap]
    rw [isLeapYear_iff] at hleap
    split at hlt <;> omega

theorem monthOfDay_bounds {day : Int} (hlow : 0 ≤ day) (hhigh : day ≤ 365) :
    0 ≤ monthOfDay day ∧ monthOfDay day < 12 := by
  unfold monthOfDay
  omega

/-- A day falls into its month. -/
theorem daysBeforeMonth_bounds (day : Int) :
    daysBeforeMonth (monthOfDay day) ≤ day ∧ day < daysBeforeMonth (monthOfDay day + 1) := by
  unfold daysBeforeMonth monthOfDay
  omega

/-- A year of an era, a month of it counted from March and a day of the month. -/
structure Parts where
  era : Int
  year : Int
  month : Int
  day : Int

namespace Parts

/-- The parts stand for a day that exists. -/
structure Proper (parts : Parts) : Prop where
  year_bounds : 0 ≤ parts.year ∧ parts.year < 400
  month_bounds : 0 ≤ parts.month ∧ parts.month < 12
  day_pos : 1 ≤ parts.day
  day_le : daysBeforeMonth parts.month + parts.day ≤ daysBeforeMonth (parts.month + 1)
  dayOfYear_le : daysBeforeMonth parts.month + parts.day ≤
    365 + if isLeapYear (parts.year + 1 + parts.era * 400) then 1 else 0

/-- The calendar date. -/
def date (parts : Parts) : Date :=
  if parts.month < 10 then
    ⟨parts.year + parts.era * 400, (parts.month + 3).toNat, parts.day.toNat⟩
  else ⟨parts.year + parts.era * 400 + 1, (parts.month - 9).toNat, parts.day.toNat⟩

variable {parts : Parts}

theorem Proper.isValid_date (h : parts.Proper) : parts.date.isValid = true := by
  obtain ⟨-, ⟨hlow, hhigh⟩, hpos, hday, hyear⟩ := h
  cases parts with
  | mk era year month day =>
      simp only at hlow hhigh hpos hday hyear
      obtain ⟨index, rfl⟩ := Int.eq_ofNat_of_zero_le hlow
      obtain ⟨number, rfl⟩ := Int.eq_ofNat_of_zero_le (a := day) (by omega)
      have hcalendar : year + 1 + era * 400 = year + era * 400 + 1 := by omega
      rw [hcalendar] at hyear
      have hindex : index < 12 := by omega
      match index, hindex with
      | 11, _ =>
          cases hleap : isLeapYear (year + era * 400 + 1) <;>
            simp [date, isValid, daysInMonth, daysBeforeMonth, hleap] at * <;> omega
      | 0, _ | 1, _ | 2, _ | 3, _ | 4, _ | 5, _ | 6, _ | 7, _ | 8, _ | 9, _ | 10, _ =>
          simp [date, isValid, daysInMonth, daysBeforeMonth] at *
          omega

theorem Proper.toDays_date (h : parts.Proper) :
    parts.date.toDays = parts.era * 146097 + daysBeforeYear parts.year +
      daysBeforeMonth parts.month + parts.day - 1 - 719468 := by
  obtain ⟨⟨hyear, hyears⟩, ⟨hlow, hhigh⟩, hpos, -, -⟩ := h
  have hera : (parts.year + parts.era * 400).fdiv 400 = parts.era := by
    rw [Int.fdiv_eq_ediv_of_nonneg _ (by decide)]
    omega
  unfold date
  split
  · have hmonth : ¬ (parts.month + 3).toNat ≤ 2 := by omega
    simp only [toDays, if_neg hmonth, hera]
    have hcast : ((parts.month + 3).toNat : Int) - 3 = parts.month := by omega
    have hyear : parts.year + parts.era * 400 - parts.era * 400 = parts.year := by omega
    rw [hcast, hyear, Int.toNat_of_nonneg (by omega)]
  · have hmonth : (parts.month - 9).toNat ≤ 2 := by omega
    have hback : parts.year + parts.era * 400 + 1 - 1 = parts.year + parts.era * 400 := by omega
    simp only [toDays, if_pos hmonth, hback, hera]
    have hcast : ((parts.month - 9).toNat : Int) + 9 = parts.month := by omega
    have hyear : parts.year + parts.era * 400 - parts.era * 400 = parts.year := by omega
    rw [hcast, hyear, Int.toNat_of_nonneg (by omega)]

end Parts

/-- Months and days have two digits. -/
theorem lt_of_isValid {date : Date} (h : date.isValid = true) :
    date.month < 10 ^ 2 ∧ date.day < 10 ^ 2 := by
  have hmonth : ∀ year month, daysInMonth year month ≤ 31 := by
    intro year month
    unfold daysInMonth
    split
    · split <;> decide
    all_goals decide
  simp only [isValid, Bool.and_eq_true, decide_eq_true_eq] at h
  have hdays := hmonth date.year date.month
  omega

/-- The parts that `ofDays` computes. -/
theorem ofDays_parts (days : Int) :
    ∃ parts : Parts, parts.Proper ∧ ofDays days = parts.date ∧
      days = parts.era * 146097 + daysBeforeYear parts.year +
        daysBeforeMonth parts.month + parts.day - 1 - 719468 := by
  have hera : (days + 719468).fdiv 146097 = (days + 719468) / 146097 :=
    Int.fdiv_eq_ediv_of_nonneg _ (by decide)
  let era := (days + 719468).fdiv 146097
  let dayOfEra := days + 719468 - era * 146097
  have hlow : 0 ≤ dayOfEra := by omega
  have hhigh : dayOfEra < 146097 := by omega
  let year := yearOfDay dayOfEra
  let dayOfYear := dayOfEra - daysBeforeYear year
  have hfirst : 0 ≤ dayOfYear := Int.sub_nonneg.2 (daysBeforeYear_le hlow hhigh)
  have hlast : dayOfYear ≤ 364 + if isLeapYear (year + 1) then 1 else 0 :=
    dayOfYear_le hlow hhigh
  let month := monthOfDay dayOfYear
  have hmonth : 0 ≤ month ∧ month < 12 := monthOfDay_bounds hfirst (by split at hlast <;> omega)
  have hwithin : daysBeforeMonth month ≤ dayOfYear ∧ dayOfYear < daysBeforeMonth (month + 1) :=
    daysBeforeMonth_bounds dayOfYear
  refine ⟨⟨era, year, month, dayOfYear - daysBeforeMonth month + 1⟩, ?_, rfl, ?_⟩
  · refine ⟨yearOfDay_bounds hlow hhigh, hmonth, ?_, ?_, ?_⟩
    · change 1 ≤ dayOfYear - daysBeforeMonth month + 1
      omega
    · change daysBeforeMonth month + (dayOfYear - daysBeforeMonth month + 1) ≤
        daysBeforeMonth (month + 1)
      omega
    · rw [isLeapYear_add_era]
      change daysBeforeMonth month + (dayOfYear - daysBeforeMonth month + 1) ≤
        365 + if isLeapYear (year + 1) then 1 else 0
      omega
  · change days = era * 146097 + daysBeforeYear year + daysBeforeMonth month +
      (dayOfYear - daysBeforeMonth month + 1) - 1 - 719468
    omega

/-- The date of a day exists. -/
theorem isValid_ofDays (days : Int) : (ofDays days).isValid = true := by
  obtain ⟨parts, hproper, hdate, -⟩ := ofDays_parts days
  rw [hdate]
  exact hproper.isValid_date

/-- The date of a day determines the day. -/
theorem toDays_ofDays (days : Int) : (ofDays days).toDays = days := by
  obtain ⟨parts, hproper, hdate, hdays⟩ := ofDays_parts days
  rw [hdate, hproper.toDays_date]
  exact hdays.symm

end Reconciler.Date
