import LogVault.Time.Instant

/-!
# LogVault.Proofs.Time.Span — where a span ends, to the millisecond

Instants outside leap seconds are counted by their nanoseconds, from the earliest to the latest
without a gap (`exists_ofNanos?_iff`), so a span ends at an instant just if the sum is not after the
latest (`exists_add?_iff`). The milliseconds that have passed in full always make an instant, before
1970 too, and it is less than a millisecond behind (`exists_ofMillis?_millis`). A span of a
millisecond or more always has a whole one in it (`milliWithin_of_le`).

A span of whole seconds is counted from the second, whether or not that is a leap second
(`exists_add?_ofSeconds_iff`).
-/

namespace LogVault.Instant

/-! ## The order -/

theorem lt_of_le_of_lt {s t u : Instant} (hst : s ≤ t) (htu : t < u) : s < u := by
  rw [lt_iff_not_le, le_def] at *
  omega

theorem lt_of_lt_of_le {s t u : Instant} (hst : s < t) (htu : t ≤ u) : s < u := by
  rw [lt_iff_not_le, le_def] at *
  omega

/-! ## The range -/

/-- The first instant. -/
def earliest : Instant := ⟨leastSecond, 0, by decide, by decide, by decide⟩

/-- The last instant outside leap seconds. -/
def latest : Instant := ⟨greatestSecond, 999999999, by decide, by decide, by decide⟩

theorem nanos_earliest_le (t : Instant) : earliest.nanos ≤ t.nanos := by
  have hleast := t.least_le
  simp only [earliest, nanos, nanosPerSecond, leastSecond] at *
  omega

/-- **No number of nanoseconds between the first and the last instant** is left out. -/
theorem exists_ofNanos?_iff {n : Int} :
    (∃ t, ofNanos? n = some t) ↔ earliest.nanos ≤ n ∧ n ≤ latest.nanos := by
  constructor
  · rintro ⟨t, ht⟩
    obtain ⟨rfl, hleap⟩ := ofNanos?_eq_some.mp ht
    refine ⟨nanos_earliest_le t, ?_⟩
    have hnano := isLeap_eq_false.mp hleap
    have hgreatest := t.le_greatest
    simp only [latest, nanos, nanosPerSecond, greatestSecond] at *
    omega
  · rintro ⟨hleast, hgreatest⟩
    have hfits : leastSecond ≤ n / nanosPerSecond ∧ n / nanosPerSecond ≤ greatestSecond ∧
        Fits (n / nanosPerSecond) (n % nanosPerSecond).toNat := by
      simp only [earliest, latest, nanos, nanosPerSecond, leastSecond, greatestSecond, Fits] at *
      omega
    exact ⟨_, dif_pos hfits⟩

/-! ## Ends of spans -/

section Span

variable {t e : Instant} {d : Duration}

theorem add?_eq_ofNanos? (h : t.isLeap = false) : t.add? d = ofNanos? (t.nanos + d.nanos) := by
  rw [add?, h, if_neg Bool.false_ne_true]

/-- **A span ends at an instant** unless it would end after the last one. -/
theorem exists_add?_iff (h : t.isLeap = false) :
    (∃ e, t.add? d = some e) ↔ t.nanos + d.nanos ≤ latest.nanos := by
  have hearliest := nanos_earliest_le t
  rw [add?_eq_ofNanos? h, exists_ofNanos?_iff]
  omega

theorem nanos_of_add? (h : t.isLeap = false) (he : t.add? d = some e) :
    e.nanos = t.nanos + d.nanos ∧ e.isLeap = false := by
  rw [add?_eq_ofNanos? h] at he
  exact ofNanos?_eq_some.mp he

/-- A span of whole seconds is counted from a nanosecond of the second, and a leap second counts as
the one before it. -/
theorem exists_add?_ofSeconds {n : Nat} (hn : 0 < n) : ∃ nano : Nat, nano < nanosPerSecond ∧
    t.add? (.ofSeconds n) = ofNanos? ((t.second + n) * nanosPerSecond + nano) := by
  have hfits := t.fits
  by_cases hleap : t.isLeap = true
  · have hnano : nanosPerSecond ≤ t.nano := of_decide_eq_true hleap
    have hleaves : ¬ t.nano + (Duration.ofSeconds n).nanos < 2 * nanosPerSecond := by
      simp only [Duration.ofSeconds, nanosPerSecond] at *
      omega
    refine ⟨t.nano - nanosPerSecond, ?_, ?_⟩
    · simp only [Fits, nanosPerSecond] at *
      omega
    · rw [add?, if_pos hleap, if_neg hleaves]
      congr 1
      simp only [nanos, Duration.ofSeconds, nanosPerSecond] at *
      omega
  · have hleap := Bool.eq_false_iff.mpr hleap
    refine ⟨t.nano, isLeap_eq_false.mp hleap, ?_⟩
    rw [add?_eq_ofNanos? hleap]
    congr 1
    simp only [nanos, Duration.ofSeconds, nanosPerSecond]
    omega

/-- **A span of whole seconds** ends at an instant unless it would end after the last second. -/
theorem exists_add?_ofSeconds_iff {n : Nat} (hn : 0 < n) :
    (∃ e, t.add? (.ofSeconds n) = some e) ↔ t.second + n ≤ greatestSecond := by
  have hleast := t.least_le
  obtain ⟨nano, hnano, hadd⟩ := exists_add?_ofSeconds (t := t) hn
  rw [hadd, exists_ofNanos?_iff]
  simp only [earliest, latest, nanos, nanosPerSecond, leastSecond, greatestSecond] at *
  omega

/-- It does not end in a leap second, even if it began in one. -/
theorem isLeap_of_add?_ofSeconds {n : Nat} (hn : 0 < n) (he : t.add? (.ofSeconds n) = some e) :
    e.isLeap = false := by
  obtain ⟨nano, -, hadd⟩ := exists_add?_ofSeconds (t := t) hn
  rw [hadd] at he
  exact (ofNanos?_eq_some.mp he).2

/-! ## Whole milliseconds -/

/-- **The milliseconds that have passed in full** make an instant, less than a millisecond before. -/
theorem exists_ofMillis?_millis (h : t.isLeap = false) : ∃ e, ofMillis? t.millis = some e ∧
    e.nanos = t.millis * nanosPerMilli ∧ e.nanos ≤ t.nanos ∧ t.nanos < e.nanos + nanosPerMilli := by
  have hgreatest := exists_ofNanos?_iff.mp ⟨t, ofNanos?_eq_some.mpr ⟨rfl, h⟩⟩
  -- the first instant is at a whole millisecond, so rounding down does not go below it
  have hrange : earliest.nanos ≤ t.millis * nanosPerMilli ∧
      t.millis * nanosPerMilli ≤ latest.nanos := by
    simp only [millis, earliest, latest, nanos, nanosPerSecond, nanosPerMilli, leastSecond,
      greatestSecond] at *
    omega
  obtain ⟨e, he⟩ := exists_ofNanos?_iff.mpr hrange
  obtain ⟨hnanos, -⟩ := ofNanos?_eq_some.mp he
  refine ⟨e, he, hnanos, ?_⟩
  rw [hnanos, millis, nanosPerMilli]
  omega

/-- A whole millisecond lies between an instant and the end of a span from it. -/
def MilliWithin (t : Instant) (d : Duration) : Prop :=
  ∃ ms : Int, t.nanos ≤ ms * nanosPerMilli ∧ ms * nanosPerMilli ≤ t.nanos + d.nanos

/-- A millisecond is long enough for that. -/
theorem milliWithin_of_le (h : nanosPerMilli ≤ d.nanos) : t.MilliWithin d := by
  refine ⟨(t.nanos + d.nanos) / nanosPerMilli, ?_, ?_⟩
  · simp only [nanosPerMilli] at *
    omega
  · simp only [nanosPerMilli]
    omega

end Span

end LogVault.Instant
