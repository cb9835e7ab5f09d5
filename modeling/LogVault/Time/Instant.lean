import LogVault.Time.Calendar
import LogVault.Text.Decimal

/-!
# LogVault.Time.Instant — points in time and how they are written

An instant is a second since 1970, in the years -262143 to 262142, and nanoseconds into it. The last
second of a minute may be followed by a leap second, which has no number of its own: its nanoseconds
are counted on from those of the second before it. Instants are compared by their seconds first, so a
leap second comes before the next minute, and time that goes on from a leap second takes it for the
second before it.

A link expires at an instant of whole milliseconds. `ofNanos?` and `ofMillis?` refuse what is out of
range, and `add?` refuses a sum that is.

An instant is written as a date and a time of day with the shortest of no, three, six or nine digits
for the fraction of a second; `Style` says what stands between the two and what follows them.
-/

namespace LogVault

/-- Nanoseconds in a second. -/
def nanosPerSecond : Nat := 1000000000

/-- Nanoseconds in a millisecond. -/
def nanosPerMilli : Nat := 1000000

/-! ## Spans -/

/-- A span of time. -/
structure Duration where
  nanos : Nat
  deriving Repr, DecidableEq, Inhabited

namespace Duration

/-- A span of whole seconds. -/
def ofSeconds (n : Nat) : Duration := ⟨n * nanosPerSecond⟩

/-- The whole seconds of a span. -/
def seconds (d : Duration) : Nat := d.nanos / nanosPerSecond

end Duration

/-! ## Instants -/

namespace Instant

/-- The first second of the year -262143. -/
def leastSecond : Int := -8334601228800

/-- The last second of the year 262142. -/
def greatestSecond : Int := 8210266876799

/-- A second may have nanoseconds: up to a second's worth, or two at the end of a minute. -/
def Fits (second : Int) (nano : Nat) : Prop :=
  nano < nanosPerSecond ∨ (second % 60 = 59 ∧ nano < 2 * nanosPerSecond)

instance (second : Int) (nano : Nat) : Decidable (Fits second nano) :=
  inferInstanceAs (Decidable (_ ∨ _))

end Instant

/-- **A point in time.** -/
structure Instant where
  second : Int
  nano : Nat
  least_le : Instant.leastSecond ≤ second
  le_greatest : second ≤ Instant.greatestSecond
  fits : Instant.Fits second nano
  deriving DecidableEq

namespace Instant

/-- The instant lies in a leap second. -/
def isLeap (t : Instant) : Bool := nanosPerSecond ≤ t.nano

/-- Earlier or the same: by the second, then by the nanosecond. -/
protected def Le (s t : Instant) : Prop :=
  s.second < t.second ∨ (s.second = t.second ∧ s.nano ≤ t.nano)

instance : LE Instant := ⟨Instant.Le⟩

instance : LT Instant := ⟨fun s t => ¬ t ≤ s⟩

instance (s t : Instant) : Decidable (s ≤ t) := inferInstanceAs (Decidable (_ ∨ _))

instance (s t : Instant) : Decidable (s < t) := inferInstanceAs (Decidable (¬ t ≤ s))

theorem le_def {s t : Instant} :
    s ≤ t ↔ s.second < t.second ∨ (s.second = t.second ∧ s.nano ≤ t.nano) := Iff.rfl

theorem lt_iff_not_le {s t : Instant} : s < t ↔ ¬ t ≤ s := Iff.rfl

/-- The start of 1970. -/
def zero : Instant := ⟨0, 0, by decide, by decide, by decide⟩

instance : Inhabited Instant := ⟨zero⟩

/-- The instant of a second and nanoseconds into it, if there is one. -/
def ofSeconds? (second : Int) (nano : Nat) : Option Instant :=
  if h : leastSecond ≤ second ∧ second ≤ greatestSecond ∧ Fits second nano then
    some ⟨second, nano, h.1, h.2.1, h.2.2⟩
  else none

/-- The nanoseconds since 1970. -/
def nanos (t : Instant) : Int := t.second * nanosPerSecond + t.nano

/-- The instant of a count of nanoseconds, outside leap seconds, if it is in range. -/
def ofNanos? (n : Int) : Option Instant :=
  ofSeconds? (n / nanosPerSecond) (n % nanosPerSecond).toNat

/-- The instant of a count of milliseconds, if it is in range. -/
def ofMillis? (ms : Int) : Option Instant := ofNanos? (ms * nanosPerMilli)

/-- The milliseconds that have passed in full, counted downwards before 1970. -/
def millis (t : Instant) : Int := t.nanos / nanosPerMilli

/-- The instant a span later, if it is in range. A span that does not end in the leap second where it
began is counted from the second before that. -/
def add? (t : Instant) (d : Duration) : Option Instant :=
  if t.isLeap then
    if t.nano + d.nanos < 2 * nanosPerSecond then ofSeconds? t.second (t.nano + d.nanos)
    else ofNanos? (t.nanos - nanosPerSecond + d.nanos)
  else ofNanos? (t.nanos + d.nanos)

theorem isLeap_eq_false {t : Instant} : t.isLeap = false ↔ t.nano < nanosPerSecond := by
  simp [isLeap]

theorem ofSeconds?_eq_some {second : Int} {nano : Nat} {t : Instant} :
    ofSeconds? second nano = some t ↔ t.second = second ∧ t.nano = nano := by
  unfold ofSeconds?
  constructor
  · intro h
    split at h
    · cases h
      exact ⟨rfl, rfl⟩
    · cases h
  · rintro ⟨rfl, rfl⟩
    rw [dif_pos ⟨t.least_le, t.le_greatest, t.fits⟩]

theorem ofNanos?_eq_some {n : Int} {t : Instant} :
    ofNanos? n = some t ↔ t.nanos = n ∧ t.isLeap = false := by
  rw [ofNanos?, ofSeconds?_eq_some, isLeap_eq_false]
  simp only [nanos, nanosPerSecond]
  omega

theorem le_iff_nanos_le {s t : Instant} (hs : s.isLeap = false) (ht : t.isLeap = false) :
    s ≤ t ↔ s.nanos ≤ t.nanos := by
  rw [isLeap_eq_false, nanosPerSecond] at hs ht
  simp only [le_def, nanos, nanosPerSecond]
  omega

/-! ## Writing -/

/-- What stands between the date and the time of an instant, and what follows them. -/
structure Style where
  between : Char
  zone : List Char

/-- The form in documents. -/
def documentStyle : Style := ⟨'T', ['Z']⟩

/-- The form in the health report. -/
def reportStyle : Style := ⟨'T', ['+', '0', '0', ':', '0', '0']⟩

/-- The form in messages. -/
def messageStyle : Style := ⟨' ', [' ', 'U', 'T', 'C']⟩

/-- A year: four digits from 0 to 9999, and a sign with at least four digits outside. -/
def yearDigits (y : Int) : List Char :=
  if 0 ≤ y ∧ y ≤ 9999 then Decimal.padded 4 y.toNat
  else (if y < 0 then '-' else '+') :: Decimal.padded 4 y.natAbs

/-- A fraction of a second in as many groups of three digits as it needs. -/
def fractionDigits (nanos : Nat) : List Char :=
  if nanos = 0 then []
  else if nanos % 1000000 = 0 then '.' :: Decimal.padded 3 (nanos / 1000000)
  else if nanos % 1000 = 0 then '.' :: Decimal.padded 6 (nanos / 1000)
  else '.' :: Decimal.padded 9 nanos

/-- A date. -/
def dateDigits (d : Calendar.Date) : List Char :=
  yearDigits d.year ++ '-' :: Decimal.padded 2 d.month ++ '-' :: Decimal.padded 2 d.day

/-- A time of day, from the seconds since midnight and the nanoseconds into the last of them. -/
def clockDigits (second nano : Nat) : List Char :=
  Decimal.padded 2 (second / 3600) ++ ':' :: Decimal.padded 2 (second / 60 % 60) ++
    ':' :: Decimal.padded 2 (second % 60 + nano / nanosPerSecond) ++
    fractionDigits (nano % nanosPerSecond)

/-- Seconds in a day. -/
def secondsPerDay : Nat := 86400

/-- An instant in a style. -/
def write (style : Style) (t : Instant) : List Char :=
  dateDigits (Calendar.dateOfDay (t.second / secondsPerDay)) ++
    style.between :: clockDigits (t.second % secondsPerDay).toNat t.nano ++ style.zone

/-- The text in documents, as in `2024-05-01T12:10:00Z`. -/
def documentText (t : Instant) : String := String.ofList (t.write documentStyle)

/-- The text in the health report, as in `2024-05-01T12:10:00+00:00`. -/
def reportText (t : Instant) : String := String.ofList (t.write reportStyle)

/-- The text in messages, as in `2024-05-01 12:10:00 UTC`. -/
def messageText (t : Instant) : String := String.ofList (t.write messageStyle)

end Instant

end LogVault
