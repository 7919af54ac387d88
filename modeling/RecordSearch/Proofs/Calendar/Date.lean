import RecordSearch.Calendar.Date
import Mathlib.Tactic.IntervalCases

/-!
# Days and dates

Days of an era are counted from the first of March. A year of the era starts after the days of the years
before it, a month after those of the months before it, and both are found by dividing. So each day has a
date, and the date exists and has that day.

## Main definitions

* `Date.firstDay`, `Date.yearOfEra` — the first day of a year in its era, and the year of a day.
* `Date.inMarchYear` — a date whose year starts in March.

## Main results

* `Date.firstDay_yearOfEra` — the year of a day has it among its days.
* `Date.toDays_ofDays`, `Date.isValid_ofDays` — the date of a day has that day, and exists.
-/

namespace RecordSearch

namespace Date

/-- How many days of an era are before a year of it. -/
def firstDay (year : Int) : Int :=
  365 * year + year / 4 - year / 100

/-- The year of the era in which a day of it lies. -/
def yearOfEra (dayOfEra : Int) : Int :=
  (dayOfEra - dayOfEra / 1460 + dayOfEra / 36524 - dayOfEra / 146096) / 365

theorem firstDay_eq {c w v : Int} (hv : 0 ≤ v ∧ v ≤ 3) (hw : 0 ≤ w ∧ w ≤ 24) :
    firstDay (100 * c + 4 * w + v) = 36524 * c + 1461 * w + 365 * v := by
  unfold firstDay
  omega

/-- In a century a day lies in a cycle of four years, and in a year of the cycle. Only the last year of a
cycle has another day, and not that of the last cycle. -/
theorem exists_cycle {c r : Int} (hc : 0 ≤ c ∧ c ≤ 3) (hr : 0 ≤ r ∧ r < 36524) :
    ∃ w v, (0 ≤ v ∧ v ≤ 3) ∧ (0 ≤ w ∧ w ≤ 24) ∧
      yearOfEra (36524 * c + r) = 100 * c + 4 * w + v ∧
      1461 * w + 365 * v ≤ r ∧
      (r < 1461 * w + 365 * v + 365 ∨ r = 1461 * w + 365 * v + 365 ∧ v = 3 ∧ w < 24) := by
  -- Without the leap days of the cycles before it, a day is found by years of 365 days.
  refine ⟨(r - (24 * c + r) / 1460) / 365 / 4, (r - (24 * c + r) / 1460) / 365 % 4, ?_⟩
  unfold yearOfEra
  obtain rfl | rfl | rfl | rfl : c = 0 ∨ c = 1 ∨ c = 2 ∨ c = 3 := by omega
  all_goals omega

/-- The year of a day has it among its days: it has 365, or one more if a leap day ends it. -/
theorem firstDay_yearOfEra {d : Int} (hd : 0 ≤ d ∧ d < 146097) :
    (0 ≤ yearOfEra d ∧ yearOfEra d < 400) ∧ firstDay (yearOfEra d) ≤ d ∧
      (d < firstDay (yearOfEra d) + 365 ∨
        d = firstDay (yearOfEra d) + 365 ∧ isLeapYear (yearOfEra d + 1) = true) := by
  obtain rfl | hlt : d = 146096 ∨ d < 146096 := by omega
  · decide
  obtain ⟨w, v, hv, hw, hyear, hfirst, hlast⟩ :=
    exists_cycle (c := d / 36524) (r := d % 36524) (by omega) (by omega)
  rw [Int.mul_ediv_add_emod] at hyear
  rw [hyear, firstDay_eq hv hw]
  refine ⟨by omega, by omega, ?_⟩
  rcases hlast with hlast | ⟨hlast, rfl, hcycle⟩
  · exact .inl (by omega)
  · refine .inr ⟨by omega, ?_⟩
    simp only [isLeapYear, Bool.and_eq_true, decide_eq_true_eq, Bool.or_eq_true, bne_iff_ne]
    omega

/-- The month of the calendar that comes so many months after March. -/
def ofMarch (monthFromMarch : Int) : Int :=
  if monthFromMarch < 10 then monthFromMarch + 3 else monthFromMarch - 9

/-- The date with a day of a month of a year that starts in March. -/
def inMarchYear (year monthFromMarch day : Int) : Date :=
  let month := ofMarch monthFromMarch
  ⟨if month ≤ 2 then year + 1 else year, month.toNat, day.toNat⟩

theorem toDays_inMarchYear {year mp day : Int} (hmp : 0 ≤ mp ∧ mp ≤ 11) (hday : 0 ≤ day) :
    (inMarchYear year mp day).toDays =
      year / 400 * 146097 + firstDay (year % 400) + ((153 * mp + 2) / 5 + day - 1) - 719468 := by
  have hmonth : (((ofMarch mp).toNat : Int) + 9) % 12 = mp := by
    unfold ofMarch
    split <;> omega
  have hyear : (if (ofMarch mp).toNat ≤ 2 then (if ofMarch mp ≤ 2 then year + 1 else year) - 1
      else if ofMarch mp ≤ 2 then year + 1 else year) = year := by
    split <;> split <;> omega
  unfold toDays inMarchYear firstDay
  dsimp only
  rw [hmonth, hyear]
  omega

/-- A month ends where the next one starts, except for the last one, February. -/
theorem daysInMonth_ofMarch (year : Int) {mp : Int} (hmp : 0 ≤ mp ∧ mp ≤ 10) :
    (daysInMonth year (ofMarch mp).toNat : Int) = (153 * (mp + 1) + 2) / 5 - (153 * mp + 2) / 5 := by
  obtain ⟨h0, h10⟩ := hmp
  interval_cases mp <;> rfl

theorem isValid_iff {d : Date} :
    d.isValid = true ↔
      1 ≤ d.month ∧ d.month ≤ 12 ∧ 1 ≤ d.day ∧ d.day ≤ daysInMonth d.year d.month := by
  simp [isValid, and_assoc]

theorem daysInMonth_le (year : Int) (month : Nat) : daysInMonth year month ≤ 31 := by
  unfold daysInMonth
  split
  · split <;> decide
  · split <;> decide

/-- The days of a year that starts in March have dates, the leap day if it ends in a leap year. -/
theorem isValid_inMarchYear {year dayOfYear : Int} (h : 0 ≤ dayOfYear)
    (hlast : dayOfYear < 365 ∨ dayOfYear = 365 ∧ isLeapYear (year + 1) = true) :
    let mp := (5 * dayOfYear + 2) / 153
    (inMarchYear year mp (dayOfYear - (153 * mp + 2) / 5 + 1)).isValid = true := by
  intro mp
  have hmp : 0 ≤ mp ∧ 153 * mp ≤ 5 * dayOfYear + 2 ∧ 5 * dayOfYear + 2 < 153 * (mp + 1) := by omega
  clear_value mp
  rw [isValid_iff]
  simp only [inMarchYear]
  obtain hmp11 | rfl : mp ≤ 10 ∨ mp = 11 := by omega
  · have hmonth := daysInMonth_ofMarch (if ofMarch mp ≤ 2 then year + 1 else year) ⟨hmp.1, hmp11⟩
    have hrange : 1 ≤ ofMarch mp ∧ ofMarch mp ≤ 12 := by
      unfold ofMarch
      omega
    omega
  · -- February has 28 days at least, and a day more if that is the leap day.
    have hfebruary : (daysInMonth (year + 1) 2 : Int) = if isLeapYear (year + 1) then 29 else 28 := by
      simp only [daysInMonth, if_true]
      split <;> rfl
    change 1 ≤ 2 ∧ 2 ≤ 12 ∧ _ ∧ _ ≤ daysInMonth (year + 1) 2
    rcases hlast with hlast | ⟨rfl, hleap⟩
    · split at hfebruary <;> omega
    · rw [if_pos hleap] at hfebruary
      omega

/-- Leap years come again in every era. -/
theorem isLeapYear_add_era (year era : Int) :
    isLeapYear (year + era * 400) = isLeapYear year := by
  have h4 : (year + era * 400) % 4 = year % 4 := by omega
  have h100 : (year + era * 400) % 100 = year % 100 := by omega
  have h400 : (year + era * 400) % 400 = year % 400 := by omega
  rw [isLeapYear, h4, h100, h400]
  rfl

/-- Every day is one of a year of an era, and its date is in that year. -/
theorem exists_ofDays (days : Int) : ∃ era year dayOfYear : Int,
    days = era * 146097 + firstDay year + dayOfYear - 719468 ∧ (0 ≤ year ∧ year < 400) ∧
    0 ≤ dayOfYear ∧ (dayOfYear < 365 ∨ dayOfYear = 365 ∧ isLeapYear (year + 1) = true) ∧
    let mp := (5 * dayOfYear + 2) / 153
    ofDays days = inMarchYear (year + era * 400) mp (dayOfYear - (153 * mp + 2) / 5 + 1) := by
  let era := (days + 719468) / 146097
  let d := (days + 719468) % 146097
  obtain ⟨hyear, hfirst, hlast⟩ := firstDay_yearOfEra (d := d) (by omega)
  refine ⟨era, yearOfEra d, d - firstDay (yearOfEra d), by omega, hyear, by omega, ?_, rfl⟩
  exact hlast.imp (by omega) fun hleap => ⟨by omega, hleap.2⟩

/-- The date of a day has that day. -/
theorem toDays_ofDays (days : Int) : (ofDays days).toDays = days := by
  obtain ⟨era, year, dayOfYear, hdays, hyear, hfirst, hlast, hdate⟩ := exists_ofDays days
  have hera : (year + era * 400) / 400 = era := by omega
  have hyearOfEra : (year + era * 400) % 400 = year := by omega
  rw [hdate, toDays_inMarchYear (by omega) (by omega), hera, hyearOfEra]
  omega

/-- The date of a day exists. -/
theorem isValid_ofDays (days : Int) : (ofDays days).isValid = true := by
  obtain ⟨era, year, dayOfYear, -, -, hfirst, hlast, hdate⟩ := exists_ofDays days
  rw [hdate]
  apply isValid_inMarchYear hfirst
  rwa [Int.add_right_comm, isLeapYear_add_era]

end Date

end RecordSearch
