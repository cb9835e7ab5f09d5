import LogVault.Proofs.Time.Calendar

/-!
# LogVault.Proofs.Time.Gregorian — dates by the rules of the calendar

The Gregorian calendar as its rules have it: months of 28 to 31 days, a leap day in every fourth year
but for three centuries out of four, and the days of earlier years and months counted one after
another (`dayNumber`). The date of a day, for which years are counted from March and cut into eras, is
a date by these rules, and its number is the day: `dayNumber_dateOfDay`.
-/

namespace LogVault.Calendar

/-! ## The rules -/

/-- A year with a leap day. -/
def isLeapYear (year : Nat) : Bool := year % 4 = 0 && (year % 100 ≠ 0 || year % 400 = 0)

/-- The days of a month, by whether it is one of a leap year. -/
def daysInMonth (leap : Bool) : Nat → Nat
  | 1 | 3 | 5 | 7 | 8 | 10 | 12 => 31
  | 4 | 6 | 9 | 11 => 30
  | 2 => if leap then 29 else 28
  | _ => 0

/-- The days of the months before a month. -/
def daysBeforeMonth (leap : Bool) : Nat → Nat
  | 0 => 0
  | month + 1 => daysBeforeMonth leap month + daysInMonth leap month

/-- The days of the years before a year, from the year 0 on. -/
def daysBeforeYear : Nat → Nat
  | 0 => 0
  | year + 1 => daysBeforeYear year + (if isLeapYear year then 366 else 365)

/-- **The number of a date**, counted from 1970-01-01. -/
def dayNumber (year month day : Nat) : Int :=
  (daysBeforeYear year + daysBeforeMonth (isLeapYear year) month + day : Int) -
    (daysBeforeYear 1970 + 1)

/-- **A date by the rules**, of a year from 0 to 9999. -/
structure Valid (year month day : Nat) : Prop where
  year_le : year ≤ 9999
  month_pos : 1 ≤ month
  month_le : month ≤ 12
  day_pos : 1 ≤ day
  day_le : day ≤ daysInMonth (isLeapYear year) month

instance (year month day : Nat) : Decidable (Valid year month day) :=
  decidable_of_iff (year ≤ 9999 ∧ 1 ≤ month ∧ month ≤ 12 ∧ 1 ≤ day ∧
      day ≤ daysInMonth (isLeapYear year) month)
    ⟨fun ⟨hy, hm, hm', hd, hd'⟩ => ⟨hy, hm, hm', hd, hd'⟩,
      fun ⟨hy, hm, hm', hd, hd'⟩ => ⟨hy, hm, hm', hd, hd'⟩⟩

/-! ## Counting -/

theorem isLeapYear_iff {year : Nat} :
    isLeapYear year = true ↔ year % 4 = 0 ∧ (year % 100 ≠ 0 ∨ year % 400 = 0) := by
  simp [isLeapYear]

/-- The days of a year, rule by rule. -/
theorem days_add_centuries (year : Nat) :
    (if isLeapYear year then 366 else 365) + (if 100 ∣ year then 1 else 0) =
      365 + (if 4 ∣ year then 1 else 0) + (if 400 ∣ year then 1 else 0) := by
  have hrule : isLeapYear year = true ↔ _ := isLeapYear_iff
  grind

/-- The leap days up to a year are those of every fourth year, less those of the centuries, and again
those of every fourth century. -/
theorem daysBeforeYear_succ (year : Nat) :
    daysBeforeYear (year + 1) + year / 100 = 365 * (year + 1) + year / 4 + year / 400 + 1 := by
  induction year with
  | zero => rfl
  | succ year ih =>
    have hdays := days_add_centuries (year + 1)
    rw [daysBeforeYear, Nat.succ_div (b := 100), Nat.succ_div (b := 4), Nat.succ_div (b := 400)]
    generalize (if isLeapYear (year + 1) then 366 else 365) = days at hdays ⊢
    generalize (if 100 ∣ year + 1 then 1 else 0) = century at hdays ⊢
    generalize (if 4 ∣ year + 1 then 1 else 0) = fourth at hdays ⊢
    generalize (if 400 ∣ year + 1 then 1 else 0) = fourthCentury at hdays ⊢
    omega

theorem daysBeforeYear_succ_eq {year days : Nat}
    (h : 365 * (year + 1) + year / 4 + year / 400 + 1 = days + year / 100) :
    daysBeforeYear (year + 1) = days := by
  have hcount := daysBeforeYear_succ year
  omega

theorem daysBeforeYear_1970 : daysBeforeYear 1970 = 719528 :=
  daysBeforeYear_succ_eq (by decide : 365 * (1969 + 1) + 1969 / 4 + 1969 / 400 + 1 = _ + 1969 / 100)

section Years

variable {era : Int} {year y : Nat}

/-- **The first of January** behind a year that begins in March. -/
theorem daysBeforeYear_of_next (hyear : year < 400) (hy : (y : Int) = era * 400 + year + 1) :
    (daysBeforeYear y : Int) = era * daysPerEra + daysBefore year + 366 := by
  cases y with
  | zero =>
    obtain rfl : year = 399 := by omega
    obtain rfl : era = -1 := by omega
    rfl
  | succ y =>
    have hcount := daysBeforeYear_succ y
    have hfour : (y : Int) / 4 = era * 100 + year / 4 := by omega
    have hhundred : (y : Int) / 100 = era * 4 + year / 100 := by omega
    have hcentury : (y : Int) / 400 = era := by omega
    have hle : year / 100 ≤ 365 * year + year / 4 := by omega
    simp only [daysPerEra, daysBefore]
    omega

/-- **The first of January** within a year that begins in March the year before, and the leap day
behind it. -/
theorem daysBeforeYear_of_same (hyear : year < 400) (hy : (y : Int) = era * 400 + year) :
    (daysBeforeYear y + (if isLeapYear y then 1 else 0) : Int) =
      era * daysPerEra + daysBefore year + 1 := by
  have hnext : (daysBeforeYear (y + 1) : Int) = era * daysPerEra + daysBefore year + 366 :=
    daysBeforeYear_of_next hyear (by omega)
  rw [daysBeforeYear] at hnext
  split at hnext
  · next hleap =>
    rw [if_pos hleap]
    omega
  · next hleap =>
    rw [if_neg hleap]
    omega

end Years

/-- From March on, the days before a month are those of January and February and, with the months in
fives of 153 days, those from March. -/
theorem daysBeforeMonth_add_three : ∀ leap : Bool, ∀ march, march < 10 →
    daysBeforeMonth leap (march + 3) = 59 + (if leap then 1 else 0) + (153 * march + 2) / 5 := by
  decide

/-- From March on, a month ends where the next one begins. -/
theorem daysInMonth_add_three : ∀ leap : Bool, ∀ march, march < 10 →
    (153 * march + 2) / 5 + daysInMonth leap (march + 3) = (153 * (march + 1) + 2) / 5 := by
  decide

theorem daysInMonth_le : ∀ leap : Bool, ∀ month, month ≤ 12 → daysInMonth leap month ≤ 31 := by
  decide

/-! ## The date of a day -/

section DateAt

variable {era : Int} {year dayOfYear y : Nat}

/-- Beyond 365 days a year that begins in March has the leap day of the next year. -/
def FitsYear (year dayOfYear : Nat) : Prop :=
  dayOfYear < 365 ∨ dayOfYear = 365 ∧ (year + 1) % 4 = 0 ∧ ((year + 1) % 100 ≠ 0 ∨ year = 399)

theorem FitsYear.le (h : FitsYear year dayOfYear) : dayOfYear ≤ 365 := by
  unfold FitsYear at h
  omega

/-- Before a year without a leap day there are 365 days. -/
theorem FitsYear.lt_of_not_leap (h : FitsYear year dayOfYear) (hy : (y : Int) = era * 400 + year + 1)
    (hleap : ¬ isLeapYear y = true) : dayOfYear < 365 := by
  rcases h with hlt | ⟨-, hfour, hhundred⟩
  · exact hlt
  · refine absurd (isLeapYear_iff.mpr ⟨by omega, ?_⟩) hleap
    rcases hhundred with hhundred | rfl
    · exact .inl (by omega)
    · exact .inr (by omega)

theorem dateAt_of_march (h : monthFromMarch dayOfYear < 10) :
    dateAt era year dayOfYear = ⟨era * 400 + year, monthFromMarch dayOfYear + 3,
      dayOfYear - (153 * monthFromMarch dayOfYear + 2) / 5 + 1⟩ := by
  have hlate : ¬ monthFromMarch dayOfYear + 3 ≤ 2 := by omega
  simp only [dateAt, if_pos h, if_neg hlate, Int.add_zero]

theorem dateAt_of_winter (hle : dayOfYear ≤ 365) (h : 10 ≤ monthFromMarch dayOfYear) :
    dateAt era year dayOfYear = ⟨era * 400 + year + 1, monthFromMarch dayOfYear - 9,
      dayOfYear - (153 * monthFromMarch dayOfYear + 2) / 5 + 1⟩ := by
  have hearly : monthFromMarch dayOfYear - 9 ≤ 2 := by
    unfold monthFromMarch
    omega
  simp only [dateAt, if_neg (Nat.not_lt.mpr h), if_pos hearly]

/-- The date of a day from March to December. -/
theorem valid_of_march (hyear : year < 400) (hy : (y : Int) = era * 400 + year) (hle : y ≤ 9999)
    (hmarch : monthFromMarch dayOfYear < 10) :
    Valid y (monthFromMarch dayOfYear + 3)
      (dayOfYear - (153 * monthFromMarch dayOfYear + 2) / 5 + 1) ∧
    dayNumber y (monthFromMarch dayOfYear + 3)
        (dayOfYear - (153 * monthFromMarch dayOfYear + 2) / 5 + 1) =
      era * daysPerEra + (daysBefore year + dayOfYear : Nat) - epoch := by
  have hmonth : monthFromMarch dayOfYear = (5 * dayOfYear + 2) / 153 := rfl
  have hfirst : (153 * monthFromMarch dayOfYear + 2) / 5 ≤ dayOfYear := by omega
  have hlength := daysInMonth_add_three (isLeapYear y) _ hmarch
  have hyears := daysBeforeYear_of_same hyear hy
  constructor
  · exact ⟨hle, by omega, by omega, by omega, by omega⟩
  · rw [dayNumber, daysBeforeMonth_add_three _ _ hmarch, daysBeforeYear_1970, epoch]
    generalize (153 * monthFromMarch dayOfYear + 2) / 5 = first at hfirst ⊢
    generalize era * daysPerEra = start at hyears ⊢
    by_cases hleap : isLeapYear y = true
    · rw [if_pos hleap] at hyears ⊢
      omega
    · rw [if_neg hleap] at hyears ⊢
      omega

/-- The date of a day in January or February. -/
theorem valid_of_winter (hyear : year < 400) (hy : (y : Int) = era * 400 + year + 1)
    (hle : y ≤ 9999) (hfits : FitsYear year dayOfYear) (hmarch : 10 ≤ monthFromMarch dayOfYear) :
    Valid y (monthFromMarch dayOfYear - 9)
      (dayOfYear - (153 * monthFromMarch dayOfYear + 2) / 5 + 1) ∧
    dayNumber y (monthFromMarch dayOfYear - 9)
        (dayOfYear - (153 * monthFromMarch dayOfYear + 2) / 5 + 1) =
      era * daysPerEra + (daysBefore year + dayOfYear : Nat) - epoch := by
  have hmonth : monthFromMarch dayOfYear = (5 * dayOfYear + 2) / 153 := rfl
  have hyears := daysBeforeYear_of_next hyear hy
  have hday := hfits.le
  have hjanuary : daysBeforeMonth (isLeapYear y) 1 = 0 := by cases isLeapYear y <;> rfl
  have hfebruary : daysBeforeMonth (isLeapYear y) 2 = 31 := by cases isLeapYear y <;> rfl
  rcases (by omega : monthFromMarch dayOfYear = 10 ∨ monthFromMarch dayOfYear = 11) with h | h
  · rw [h] at hmonth ⊢
    refine ⟨⟨hle, by decide, by decide, by omega, ?_⟩, ?_⟩
    · show _ ≤ 31
      omega
    · rw [dayNumber, hjanuary, daysBeforeYear_1970, epoch]
      omega
  · rw [h] at hmonth ⊢
    refine ⟨⟨hle, by decide, by decide, by omega, ?_⟩, ?_⟩
    · show _ ≤ if isLeapYear y then 29 else 28
      by_cases hleap : isLeapYear y = true
      · rw [if_pos hleap]
        omega
      · rw [if_neg hleap]
        have hshort := hfits.lt_of_not_leap hy hleap
        omega
    · rw [dayNumber, hfebruary, daysBeforeYear_1970, epoch]
      omega

/-- **The date of a day in a year of an era** is one by the rules, of the day's number. -/
theorem dayNumber_dateAt (hyear : year < 400) (hfits : FitsYear year dayOfYear)
    (hpos : 0 ≤ (dateAt era year dayOfYear).year) (hle : (dateAt era year dayOfYear).year ≤ 9999) :
    Valid (dateAt era year dayOfYear).year.toNat (dateAt era year dayOfYear).month
      (dateAt era year dayOfYear).day ∧
    dayNumber (dateAt era year dayOfYear).year.toNat (dateAt era year dayOfYear).month
        (dateAt era year dayOfYear).day =
      era * daysPerEra + (daysBefore year + dayOfYear : Nat) - epoch := by
  obtain ⟨y, hy⟩ := Int.eq_ofNat_of_zero_le hpos
  rcases Nat.lt_or_ge (monthFromMarch dayOfYear) 10 with hmarch | hmarch
  · rw [dateAt_of_march hmarch] at *
    simp only at hy hle
    simp only [hy]
    exact valid_of_march hyear hy.symm (by omega) hmarch
  · rw [dateAt_of_winter hfits.le hmarch] at *
    simp only at hy hle
    simp only [hy]
    exact valid_of_winter hyear hy.symm (by omega) hfits hmarch

/-- The days of an era before its last year, and before those in front of it. -/
theorem daysBefore_le (hyear : year < 400) :
    year = 399 ∧ daysBefore year = 145731 ∨ year < 399 ∧ daysBefore year ≤ 145366 := by
  unfold daysBefore
  omega

/-- The days of the years 0 to 9999 have dates in these years. -/
theorem year_dateAt (hyear : year < 400) (hle : dayOfYear ≤ 365)
    (hfirst : -719528 ≤ era * daysPerEra + (daysBefore year + dayOfYear : Nat) - epoch)
    (hlast : era * daysPerEra + (daysBefore year + dayOfYear : Nat) - epoch < 2932897) :
    0 ≤ (dateAt era year dayOfYear).year ∧ (dateAt era year dayOfYear).year ≤ 9999 := by
  have hbefore := daysBefore_le hyear
  have hmonth : monthFromMarch dayOfYear = (5 * dayOfYear + 2) / 153 := rfl
  simp only [daysPerEra, epoch] at hfirst hlast
  rcases Nat.lt_or_ge (monthFromMarch dayOfYear) 10 with hmarch | hmarch
  · rw [dateAt_of_march hmarch]
    dsimp only
    omega
  · rw [dateAt_of_winter hle hmarch]
    dsimp only
    omega

theorem fitsYear_of_day {day : Nat} (h : day < 146097) :
    FitsYear (yearOfEra day) (day - daysBefore (yearOfEra day)) := by
  obtain ⟨hyear, hstart, hlength⟩ := yearOfEra_spec h
  have hbound := lt_daysBefore_succ h
  generalize yearOfEra day = year at *
  unfold FitsYear
  by_cases hlast : year = 399
  · omega
  · have hday := hbound (by omega)
    have hfour : (year + 1) % 4 = 0 ∧ (year + 1) / 4 = year / 4 + 1 ∨
        (year + 1) / 4 = year / 4 := by omega
    have hhundred : (year + 1) % 100 = 0 ∧ (year + 1) / 100 = year / 100 + 1 ∨
        (year + 1) % 100 ≠ 0 ∧ (year + 1) / 100 = year / 100 := by omega
    unfold daysBefore at *
    omega

/-- The first day of the year 0. -/
theorem dayNumber_first : dayNumber 0 1 1 = -719528 := by
  rw [dayNumber, daysBeforeYear_1970]
  rfl

/-- The day behind the last day of the year 9999. -/
theorem dayNumber_last : dayNumber 10000 1 1 = 2932897 := by
  have hyears : daysBeforeYear 10000 = 3652425 :=
    daysBeforeYear_succ_eq (by decide : 365 * (9999 + 1) + 9999 / 4 + 9999 / 400 + 1 = _ + 9999 / 100)
  rw [dayNumber, daysBeforeYear_1970, hyears]
  rfl

/-- **The date of a day is a date by the rules**, and its number is the day. -/
theorem dayNumber_dateOfDay {day : Int} (hfirst : dayNumber 0 1 1 ≤ day)
    (hlast : day < dayNumber 10000 1 1) :
    0 ≤ (dateOfDay day).year ∧
      Valid (dateOfDay day).year.toNat (dateOfDay day).month (dateOfDay day).day ∧
      dayNumber (dateOfDay day).year.toNat (dateOfDay day).month (dateOfDay day).day = day := by
  rw [dayNumber_first] at hfirst
  rw [dayNumber_last] at hlast
  have hera : ((day + epoch) % daysPerEra).toNat < 146097 := by
    simp only [daysPerEra]
    omega
  obtain ⟨hyear, hstart, -⟩ := yearOfEra_spec hera
  have hfits := fitsYear_of_day hera
  have hday : (day + epoch) / daysPerEra * daysPerEra +
      (((day + epoch) % daysPerEra).toNat : Nat) - epoch = day := by
    simp only [daysPerEra]
    omega
  have hle := hfits.le
  rw [dateOfDay_eq]
  dsimp only
  generalize ((day + epoch) % daysPerEra).toNat = dayOfEra at *
  generalize (day + epoch) / daysPerEra = era at *
  rw [← Nat.add_sub_cancel' hstart] at hday
  generalize dayOfEra - daysBefore (yearOfEra dayOfEra) = dayOfYear at *
  generalize yearOfEra dayOfEra = year at *
  rw [← hday] at hfirst hlast
  obtain ⟨hpos, hyears⟩ := year_dateAt hyear hle hfirst hlast
  obtain ⟨hvalid, hnumber⟩ := dayNumber_dateAt hyear hfits hpos hyears
  exact ⟨hpos, hvalid, hnumber.trans hday⟩

end DateAt

end LogVault.Calendar
