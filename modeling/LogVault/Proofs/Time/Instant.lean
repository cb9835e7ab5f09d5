import LogVault.Proofs.Text.Decimal
import LogVault.Proofs.Time.Calendar
import LogVault.Time.Instant

/-!
# LogVault.Proofs.Time.Instant — documents tell instants apart

An instant stands in a document as numbers with marks between them, and none of the marks is a digit.
So the text is taken apart from the left, number by number; the date gives the day, the clock the
second of the day and the nanoseconds, and the second 60 can only be a leap second. Hence
`documentText_injective`.
-/

namespace LogVault.Instant

open Decimal (padded padded_append_inj length_padded exists_cons_padded)

/-! ## The parts of a text -/

/-- A year has four digits and no sign, or a sign in front that tells whether it is before the
year 0. -/
theorem cases_of_yearDigits (y : Int) :
    (0 ≤ y ∧ yearDigits y = padded 4 y.toNat) ∨
      ∃ sign : Char, sign.isDigit = false ∧ (sign = '-' ↔ y < 0) ∧
        yearDigits y = sign :: padded 4 y.natAbs := by
  unfold yearDigits
  by_cases hfour : 0 ≤ y ∧ y ≤ 9999
  · rw [if_pos hfour]
    exact .inl ⟨hfour.1, rfl⟩
  · rw [if_neg hfour]
    refine .inr ⟨_, ?_, ?_, rfl⟩
    · split <;> decide
    · split
      · next hbefore => exact iff_of_true rfl hbefore
      · next hafter => exact iff_of_false (by decide) hafter

/-- **A year** ends where its digits end. -/
theorem yearDigits_append_inj {y z : Int} {l k : List Char}
    (h : yearDigits y ++ '-' :: l = yearDigits z ++ '-' :: k) : y = z ∧ l = k := by
  have hminus : Char.isDigit '-' = false := by decide
  -- a number begins with a digit, so no year with a sign is written like one without
  have hsigned : ∀ (sign : Char) (m n : Nat) (l k : List Char), sign.isDigit = false →
      padded 4 m ++ l ≠ sign :: padded 4 n ++ k := by
    intro sign m n l k hsign heq
    obtain ⟨c, rest, hcons, hdigit⟩ := exists_cons_padded 4 m
    rw [hcons, List.cons_append, List.cons_append, List.cons.injEq] at heq
    rw [heq.1, hsign] at hdigit
    cases hdigit
  rcases cases_of_yearDigits y with ⟨hy, hyText⟩ | ⟨sign, hsign, hbefore, hyText⟩
  · rcases cases_of_yearDigits z with ⟨hz, hzText⟩ | ⟨sign', hsign', -, hzText⟩
    · rw [hyText, hzText] at h
      obtain ⟨hyear, hrest⟩ := padded_append_inj hminus hminus h
      exact ⟨by omega, (List.cons.inj hrest).2⟩
    · rw [hyText, hzText] at h
      exact absurd h (hsigned _ _ _ _ _ hsign')
  · rcases cases_of_yearDigits z with ⟨hz, hzText⟩ | ⟨sign', hsign', hbefore', hzText⟩
    · rw [hyText, hzText] at h
      exact absurd h.symm (hsigned _ _ _ _ _ hsign)
    · rw [hyText, hzText, List.cons_append, List.cons_append, List.cons.injEq] at h
      obtain ⟨hyear, hrest⟩ := padded_append_inj hminus hminus h.2
      rw [h.1] at hbefore
      have hsame := hbefore.symm.trans hbefore'
      exact ⟨by omega, (List.cons.inj hrest).2⟩

/-- A fraction is nothing, or a point and up to nine digits that give the nanoseconds. -/
theorem cases_of_fractionDigits {n : Nat} (h : n < nanosPerSecond) :
    (n = 0 ∧ fractionDigits n = []) ∨
      ∃ width value, fractionDigits n = '.' :: padded width value ∧
        (padded width value).length = width ∧ 1 ≤ width ∧ width ≤ 9 ∧ 0 < n ∧
        n = value * 10 ^ (9 - width) := by
  unfold fractionDigits
  simp only [nanosPerSecond] at h
  split
  · exact .inl ⟨‹_›, rfl⟩
  · split
    · exact .inr ⟨3, _, rfl, length_padded (by decide) (by omega), by decide, by decide, by omega,
        by omega⟩
    · split
      · exact .inr ⟨6, _, rfl, length_padded (by decide) (by omega), by decide, by decide, by omega,
          by omega⟩
      · exact .inr ⟨9, _, rfl, length_padded (by decide) (by omega), by decide, by decide, by omega,
          by omega⟩

/-- The number of digits and their value tell a fraction. -/
theorem fractionDigits_injective {m n : Nat} (hm : m < nanosPerSecond) (hn : n < nanosPerSecond)
    (h : fractionDigits m = fractionDigits n) : m = n := by
  rcases cases_of_fractionDigits hm with
    ⟨rfl, hmText⟩ | ⟨width, value, hmText, hmLength, -, -, -, hmValue⟩
  · rcases cases_of_fractionDigits hn with ⟨rfl, -⟩ | ⟨_, _, hnText, -⟩
    · rfl
    · rw [hmText, hnText] at h
      cases h
  · rcases cases_of_fractionDigits hn with
      ⟨rfl, hnText⟩ | ⟨width', value', hnText, hnLength, -, -, -, hnValue⟩
    · rw [hmText, hnText] at h
      cases h
    · rw [hmText, hnText, List.cons.injEq] at h
      have hwidth : width = width' := by rw [← hmLength, ← hnLength, h.2]
      have hvalue : value = value' := by
        rw [← Decimal.value_padded width value, h.2, Decimal.value_padded]
      rw [hmValue, hnValue, hwidth, hvalue]

/-- What stands behind the seconds begins with no digit. -/
theorem exists_cons_fractionDigits (n : Nat) :
    ∃ c l, fractionDigits n ++ ['Z'] = c :: l ∧ c.isDigit = false := by
  unfold fractionDigits
  split
  · exact ⟨'Z', [], rfl, by decide⟩
  split
  · exact ⟨'.', _, rfl, by decide⟩
  split
  · exact ⟨'.', _, rfl, by decide⟩
  · exact ⟨'.', _, rfl, by decide⟩

/-! ## Whole texts -/

/-- The second of its day in which an instant lies. -/
def secondOfDay (t : Instant) : Nat := (t.second % secondsPerDay).toNat

/-- The date of an instant. -/
def date (t : Instant) : Calendar.Date := Calendar.dateOfDay (t.second / secondsPerDay)

/-- **The text of an instant**, number by number. -/
theorem write_documentStyle (t : Instant) :
    t.write documentStyle =
      yearDigits t.date.year ++ '-' :: (padded 2 t.date.month ++ '-' :: (padded 2 t.date.day ++
        'T' :: (padded 2 (t.secondOfDay / 3600) ++ ':' :: (padded 2 (t.secondOfDay / 60 % 60) ++
          ':' :: (padded 2 (t.secondOfDay % 60 + t.nano / nanosPerSecond) ++
            (fractionDigits (t.nano % nanosPerSecond) ++ ['Z'])))))) := by
  simp only [write, dateDigits, clockDigits, documentStyle, date, secondOfDay, List.append_assoc,
    List.cons_append]

/-- **No two instants are written alike** in documents. -/
theorem documentText_injective {s t : Instant} (h : s.documentText = t.documentText) : s = t := by
  have hwrite : s.write documentStyle = t.write documentStyle := String.ofList_injective h
  rw [write_documentStyle, write_documentStyle] at hwrite
  -- from the left: every number ends at the mark behind it
  obtain ⟨hyear, hwrite⟩ := yearDigits_append_inj hwrite
  obtain ⟨hmonth, hwrite⟩ := padded_append_inj (by decide) (by decide) hwrite
  obtain ⟨hday, hwrite⟩ := padded_append_inj (by decide) (by decide) (List.cons.inj hwrite).2
  obtain ⟨hhour, hwrite⟩ := padded_append_inj (by decide) (by decide) (List.cons.inj hwrite).2
  obtain ⟨hminute, hwrite⟩ := padded_append_inj (by decide) (by decide) (List.cons.inj hwrite).2
  obtain ⟨c, l, hs, hc⟩ := exists_cons_fractionDigits (s.nano % nanosPerSecond)
  obtain ⟨d, k, ht, hd⟩ := exists_cons_fractionDigits (t.nano % nanosPerSecond)
  have hclock := (List.cons.inj hwrite).2
  rw [hs, ht] at hclock
  obtain ⟨hsecond, hfraction⟩ := padded_append_inj hc hd hclock
  rw [← hs, ← ht] at hfraction
  have hnano := fractionDigits_injective (Nat.mod_lt _ (by decide)) (Nat.mod_lt _ (by decide))
    (List.append_cancel_right hfraction)
  have hdate : s.date = t.date := by
    generalize s.date = d at hyear hmonth hday
    generalize t.date = e at hyear hmonth hday
    cases d
    cases e
    obtain rfl := hyear
    obtain rfl := hmonth
    obtain rfl := hday
    rfl
  have hdays := Calendar.dateOfDay_injective hdate
  -- the day, the hour, the minute and the second together give the second of the instant
  have hfitsS := s.fits
  have hfitsT := t.fits
  obtain ⟨second, nano, _, _, _⟩ := s
  obtain ⟨second', nano', _, _, _⟩ := t
  simp only [Fits, secondOfDay, secondsPerDay, nanosPerSecond] at *
  obtain ⟨rfl, rfl⟩ : second = second' ∧ nano = nano' := by omega
  rfl

end LogVault.Instant
