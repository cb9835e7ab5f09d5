import LogVault.Proofs.Time.Gregorian
import LogVault.Proofs.Time.Instant

/-!
# LogVault.Proofs.Time.Timestamp — documents say when

Timestamps of RFC 3339 in UTC are read here as that format has it, by the rules of the calendar:
four digits of a year, then numbers of two digits that are a date and a time of day, perhaps a
fraction, and a `Z`. Reading knows nothing of how an instant is written, and gives it back:
`nanos?_write`. A fraction stands there just if the second is not whole (`dot_mem_write_iff`).
-/

namespace LogVault.Timestamp

open Decimal (padded length_padded value_padded isDigit_of_mem_padded)
open Instant (documentStyle fractionDigits)

/-! ## The format -/

/-- A number of so many digits at the front of a text, and what follows it. -/
def number? (width : Nat) (l : List Char) : Option (Nat × List Char) :=
  let digits := l.take width
  if digits.length = width ∧ digits.all Char.isDigit = true then
    some (Decimal.value digits, l.drop width)
  else none

/-- A number with a mark behind it, and what follows the mark. -/
def field? (width : Nat) (mark : Char) (l : List Char) : Option (Nat × List Char) :=
  match number? width l with
  | some (n, c :: rest) => if c = mark then some (n, rest) else none
  | _ => none

/-- The nanoseconds of a fraction of at most nine digits, or of none, with a `Z` behind it. -/
def fraction? : List Char → Option Nat
  | ['Z'] => some 0
  | '.' :: rest =>
    let digits := rest.takeWhile Char.isDigit
    if 1 ≤ digits.length ∧ digits.length ≤ 9 ∧ rest.dropWhile Char.isDigit = ['Z'] then
      some (Decimal.value digits * 10 ^ (9 - digits.length))
    else none
  | _ => none

/-- **The nanoseconds since 1970 that a timestamp denotes**, in UTC. -/
def nanos? (l : List Char) : Option Int := do
  let (year, l) ← field? 4 '-' l
  let (month, l) ← field? 2 '-' l
  let (day, l) ← field? 2 'T' l
  let (hour, l) ← field? 2 ':' l
  let (minute, l) ← field? 2 ':' l
  let (second, l) ← number? 2 l
  let nano ← fraction? l
  if Calendar.Valid year month day ∧ hour < 24 ∧ minute < 60 ∧ second < 60 then
    return (((Calendar.dayNumber year month day * 24 + hour) * 60 + minute) * 60 + second) *
      1000000000 + nano
  else none

/-! ## What is written is read -/

theorem number?_padded (width n : Nat) (hwidth : 0 < width) (h : n < 10 ^ width)
    (rest : List Char) : number? width (padded width n ++ rest) = some (n, rest) := by
  have hlength := length_padded hwidth h
  have hdigits : (padded width n).all Char.isDigit = true :=
    List.all_eq_true.mpr fun _ => isDigit_of_mem_padded
  rw [number?, List.take_left' hlength, List.drop_left' hlength, if_pos ⟨hlength, hdigits⟩,
    value_padded]

theorem field?_padded (width n : Nat) (hwidth : 0 < width) (h : n < 10 ^ width) (mark : Char)
    (rest : List Char) : field? width mark (padded width n ++ mark :: rest) = some (n, rest) := by
  rw [field?, number?_padded width n hwidth h]
  exact if_pos rfl

theorem fraction?_fractionDigits {n : Nat} (h : n < nanosPerSecond) :
    fraction? (fractionDigits n ++ ['Z']) = some n := by
  rcases Instant.cases_of_fractionDigits h with
    ⟨rfl, htext⟩ | ⟨width, value, htext, hlength, hone, hnine, -, hvalue⟩
  · rw [htext]
    rfl
  · have hdigits : ∀ c ∈ padded width value, c.isDigit = true := fun _ => isDigit_of_mem_padded
    have hmark : Char.isDigit 'Z' = false := by decide
    rw [htext, List.cons_append, fraction?, Text.takeWhile_append_cons_of_neg hdigits hmark,
      Text.dropWhile_append_cons_of_neg hdigits hmark, hlength, value_padded,
      if_pos ⟨hone, hnine, rfl⟩, ← hvalue]

/-- The instant lies in the years 0 to 9999. -/
def FourDigits (t : Instant) : Prop :=
  Calendar.dayNumber 0 1 1 * 86400 ≤ t.second ∧ t.second < Calendar.dayNumber 10000 1 1 * 86400

section Written

variable {t : Instant}

/-- The year of an instant is written without a sign. -/
theorem yearDigits_eq_padded {y : Int} (hpos : 0 ≤ y) (hle : y ≤ 9999) :
    Instant.yearDigits y = padded 4 y.toNat := if_pos ⟨hpos, hle⟩

/-- The date of an instant is one by the rules. -/
theorem valid_date (h : FourDigits t) :
    0 ≤ t.date.year ∧ Calendar.Valid t.date.year.toNat t.date.month t.date.day ∧
      Calendar.dayNumber t.date.year.toNat t.date.month t.date.day = t.second / 86400 := by
  obtain ⟨hfirst, hlast⟩ := h
  have hday : Calendar.dayNumber 0 1 1 ≤ t.second / 86400 := by omega
  have hday' : t.second / 86400 < Calendar.dayNumber 10000 1 1 := by omega
  exact Calendar.dayNumber_dateOfDay hday hday'

/-- **A written instant is read back.** -/
theorem nanos?_write (hleap : t.isLeap = false) (hyears : FourDigits t) :
    nanos? (t.write documentStyle) = some t.nanos := by
  obtain ⟨hpos, hvalid, hday⟩ := valid_date hyears
  have hnano := Instant.isLeap_eq_false.mp hleap
  have hsecond : t.secondOfDay < 86400 ∧ (t.secondOfDay : Int) = t.second % 86400 := by
    simp only [Instant.secondOfDay, Instant.secondsPerDay]
    omega
  have hyear := hvalid.year_le
  have hmonth := hvalid.month_le
  have hmonthEnd := hvalid.day_le.trans (Calendar.daysInMonth_le _ _ hmonth)
  have hnone : t.nano / nanosPerSecond = 0 := Nat.div_eq_of_lt hnano
  have hfraction : t.nano % nanosPerSecond = t.nano := Nat.mod_eq_of_lt hnano
  rw [Instant.write_documentStyle, yearDigits_eq_padded hpos (by omega), hnone, hfraction,
    Nat.add_zero]
  generalize t.date.year.toNat = year at *
  generalize t.date.month = month at *
  generalize t.date.day = day at *
  generalize t.secondOfDay = second at *
  have hsum : (((t.second / 86400 * 24 + (second / 3600 : Nat)) * 60 + (second / 60 % 60 : Nat)) *
      60 + (second % 60 : Nat)) * 1000000000 + t.nano = t.nanos := by
    simp only [Instant.nanos, nanosPerSecond]
    omega
  have hclock : second / 3600 < 24 ∧ second / 60 % 60 < 60 ∧ second % 60 < 60 := by omega
  simp only [nanos?, Option.bind_eq_bind, Option.bind_some,
    field?_padded 4 year (by decide) (by omega), field?_padded 2 month (by decide) (by omega),
    field?_padded 2 day (by decide) (by omega),
    field?_padded 2 (second / 3600) (by decide) (by omega),
    field?_padded 2 (second / 60 % 60) (by decide) (by omega),
    number?_padded 2 (second % 60) (by decide) (by omega), fraction?_fractionDigits hnano,
    Option.pure_def, if_pos (And.intro hvalid hclock), hday]
  exact congrArg some hsum

/-- **A fraction is written** just if the second is not whole. -/
theorem dot_mem_write_iff (hleap : t.isLeap = false) (hyears : FourDigits t) :
    '.' ∈ t.write documentStyle ↔ t.nano ≠ 0 := by
  obtain ⟨hpos, hvalid, -⟩ := valid_date hyears
  have hnano := Instant.isLeap_eq_false.mp hleap
  have hnumber : ∀ width n, '.' ∉ padded width n := fun width n hmem =>
    absurd (isDigit_of_mem_padded hmem) (by decide)
  have hfraction : '.' ∈ fractionDigits t.nano ↔ t.nano ≠ 0 := by
    rcases Instant.cases_of_fractionDigits hnano with ⟨hzero, htext⟩ | ⟨_, _, htext, _, _, _, hpos, _⟩
    · rw [htext, hzero]
      exact iff_of_false List.not_mem_nil (not_not.mpr rfl)
    · rw [htext]
      exact iff_of_true List.mem_cons_self (Nat.ne_of_gt hpos)
  rw [Instant.write_documentStyle, yearDigits_eq_padded hpos (by have := hvalid.year_le; omega),
    Nat.mod_eq_of_lt hnano]
  simp only [List.mem_append, List.mem_cons, hnumber, hfraction, Char.reduceEq, false_or, or_false,
    List.not_mem_nil]

end Written

end LogVault.Timestamp
