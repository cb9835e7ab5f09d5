import LogVault.Time.Calendar

/-!
# LogVault.Proofs.Time.Calendar — every day has a date of its own

Four hundred years are one era, and within it a year is found from a day by a quotient that never
decreases. It is right at the first and the last day of each of the four hundred years, hence on all
days between (`yearOfEra_spec`). The month is found from the day of the year in the same way, so a
date gives its day back: `dayOfDate_dateOfDay`.
-/

namespace LogVault.Calendar

/-- The year of a day in an era. -/
def yearOfEra (day : Nat) : Nat := (day - day / 1460 + day / 36524 - day / 146096) / 365

/-- The days of an era before a year. -/
def daysBefore (year : Nat) : Nat := 365 * year + year / 4 - year / 100

theorem yearOfEra_mono {d e : Nat} (h : d ≤ e) (he : e < 146097) : yearOfEra d ≤ yearOfEra e := by
  have hstep : ∀ d, d + 1 < 146097 →
      d - d / 1460 + d / 36524 - d / 146096 ≤
        (d + 1) - (d + 1) / 1460 + (d + 1) / 36524 - (d + 1) / 146096 := by
    intro d hd
    omega
  induction h with
  | refl => exact Nat.le_refl _
  | @step e _ ih => exact Nat.le_trans (ih (by omega)) (Nat.div_le_div_right (hstep e he))

/-- The quotient is right at both ends of each year. -/
theorem yearOfEra_ends : ∀ year, year < 400 →
    yearOfEra (daysBefore year) = year ∧ yearOfEra (daysBefore (year + 1) - 1) = year := by
  decide +kernel

/-- A day lies before the next year, if there is one in its era. -/
theorem lt_daysBefore_succ {day : Nat} (h : day < 146097) (hless : yearOfEra day + 1 < 400) :
    day < daysBefore (yearOfEra day + 1) := by
  generalize hyear : yearOfEra day = year at hless ⊢
  refine Nat.lt_of_not_le fun hafter => ?_
  have hmono := yearOfEra_mono hafter h
  rw [(yearOfEra_ends (year + 1) hless).1] at hmono
  omega

/-- **The year of a day** is the one in which the day lies, and has no more than 366 of them. -/
theorem yearOfEra_spec {day : Nat} (h : day < 146097) :
    yearOfEra day < 400 ∧ daysBefore (yearOfEra day) ≤ day ∧
      day - daysBefore (yearOfEra day) ≤ 365 := by
  have hlt : yearOfEra day < 400 := by
    unfold yearOfEra
    omega
  have hnext : ∀ year, daysBefore (year + 1) ≤ daysBefore year + 366 := fun year => by
    unfold daysBefore
    omega
  have hbound := lt_daysBefore_succ h
  generalize hyear : yearOfEra day = year at hlt hbound ⊢
  refine ⟨hlt, Nat.le_of_not_lt fun hbefore => ?_, ?_⟩
  · cases year with
    | zero => exact Nat.not_lt_zero day hbefore
    | succ last =>
      -- then the day is at most the last day of the year before
      have hmono := yearOfEra_mono (d := day) (e := daysBefore (last + 1) - 1) (by omega)
        (by unfold daysBefore at *; omega)
      rw [(yearOfEra_ends last (by omega)).2] at hmono
      omega
  · rcases Nat.lt_or_ge (year + 1) 400 with hless | hlast
    · have hgap := hnext year
      have hday := hbound hless
      omega
    · obtain rfl : year = 399 := by omega
      have hlastStart : daysBefore 399 = 145731 := by decide
      omega

/-- The month of a day in a year that starts in March. -/
def monthFromMarch (day : Nat) : Nat := (5 * day + 2) / 153

theorem monthFromMarch_spec {day : Nat} (h : day ≤ 365) :
    monthFromMarch day < 12 ∧ (153 * monthFromMarch day + 2) / 5 ≤ day := by
  unfold monthFromMarch
  omega

/-- The date of a day in a year of an era. -/
def dateAt (era : Int) (year dayOfYear : Nat) : Date :=
  let month := if monthFromMarch dayOfYear < 10 then monthFromMarch dayOfYear + 3
    else monthFromMarch dayOfYear - 9
  { year := era * 400 + year + (if month ≤ 2 then 1 else 0)
    month
    day := dayOfYear - (153 * monthFromMarch dayOfYear + 2) / 5 + 1 }

theorem dateOfDay_eq (day : Int) :
    dateOfDay day =
      let dayOfEra := ((day + epoch) % daysPerEra).toNat
      dateAt ((day + epoch) / daysPerEra) (yearOfEra dayOfEra)
        (dayOfEra - daysBefore (yearOfEra dayOfEra)) := rfl

theorem dayOfDate_dateAt (era : Int) {year dayOfYear : Nat} (hyear : year < 400)
    (hday : dayOfYear ≤ 365) :
    dayOfDate (dateAt era year dayOfYear) =
      era * daysPerEra + (daysBefore year + dayOfYear : Nat) - epoch := by
  obtain ⟨hmonth, hfirst⟩ := monthFromMarch_spec hday
  unfold dateAt dayOfDate
  generalize monthFromMarch dayOfYear = march at *
  -- January and February belong to the year that began in March before them
  rcases Nat.lt_or_ge march 10 with hmarch | hmarch
  · have hlate : ¬ march + 3 ≤ 2 := by omega
    have hspring : 2 < march + 3 := by omega
    simp only [if_pos hmarch, if_neg hlate, if_pos hspring, daysBefore, daysPerEra]
    omega
  · have hearly : march - 9 ≤ 2 := by omega
    have hwinter : ¬ 2 < march - 9 := by omega
    simp only [if_neg (Nat.not_lt.mpr hmarch), if_pos hearly, if_neg hwinter, daysBefore,
      daysPerEra]
    omega

/-- **A date gives its day back.** -/
theorem dayOfDate_dateOfDay (day : Int) : dayOfDate (dateOfDay day) = day := by
  have hera : ((day + epoch) % daysPerEra).toNat < 146097 := by
    simp only [daysPerEra]
    omega
  rw [dateOfDay_eq]
  obtain ⟨hyear, hstart, hlength⟩ := yearOfEra_spec hera
  rw [dayOfDate_dateAt _ hyear hlength, Nat.add_sub_cancel' hstart]
  simp only [daysPerEra]
  omega

/-- **No two days have one date.** -/
theorem dateOfDay_injective {d e : Int} (h : dateOfDay d = dateOfDay e) : d = e := by
  rw [← dayOfDate_dateOfDay d, h, dayOfDate_dateOfDay]

end LogVault.Calendar
