import LogVault.Proofs.Link.RoundTrip
import LogVault.Proofs.Time.Span

/-!
# LogVault.Proofs.Link.Expiry — when links are issued and when they end

A link is issued just if its time to live is positive and not above the issuer's maximum and ends
within the range of instants (`exists_expiry_iff`). It expires at the last whole millisecond that is
not after that end (`endsAt_of_issue`), so rounding never lengthens a link, before 1970 no more than
after: `issue_bounded_by_ttl`.

Rounding does shorten a link, by less than a millisecond. A link that is to live for less than that
may have ended before it is issued; from a millisecond on it grants its blob at once
(`fresh_grants_iff`).
-/

namespace LogVault

/-- **A link that ends `n` nanoseconds after 1970**: it expires at the last whole millisecond that is
not later, and its URL says so. -/
structure SignedLink.EndsAt (l : SignedLink) (n : Int) : Prop where
  whole : l.expires.nanos = l.expires.millis * nanosPerMilli
  le : l.expires.nanos ≤ n
  lt : n < l.expires.nanos + nanosPerMilli
  written : ∃ url query, Url.parse l.url = .ok url ∧ url.query = some query ∧
    LinkQuery.valuesOf "expires" (Form.read (String.ofList query)) =
      [Decimal.intText l.expires.millis]

namespace Issuer

variable {i : Issuer} {key : StorageKey} {snapshot : Option String} {mode : Mode}
  {ttl : Duration} {now : Instant} {link : SignedLink}

/-! ## Whether there is an expiry -/

/-- **What an expiry is**: the end of the time to live, which the issuer allows, in whole
milliseconds. -/
theorem of_expiry {expires : Instant} (h : i.expiry ttl now = .ok expires) :
    0 < ttl.nanos ∧ ttl.nanos ≤ i.maxTtl.nanos ∧
      ∃ e, now.add? ttl = some e ∧ Instant.ofMillis? e.millis = some expires := by
  unfold expiry at h
  split at h
  · cases h
  · next hzero =>
    split at h
    · cases h
    · next hlong =>
      split at h
      · next hend =>
        cases h
        exact ⟨by omega, by omega, Option.bind_eq_some_iff.mp hend⟩
      · cases h

/-- **There is an expiry** for every time to live that the issuer allows, if it ends at an instant:
the second check of the range, for the milliseconds, never fails. -/
theorem exists_expiry_iff
    (hend : 0 < ttl.nanos → ∀ e, now.add? ttl = some e → e.isLeap = false) :
    (∃ expires, i.expiry ttl now = .ok expires) ↔
      0 < ttl.nanos ∧ ttl.nanos ≤ i.maxTtl.nanos ∧ ∃ e, now.add? ttl = some e := by
  constructor
  · rintro ⟨expires, h⟩
    obtain ⟨hpositive, hmax, e, he, -⟩ := of_expiry h
    exact ⟨hpositive, hmax, e, he⟩
  · rintro ⟨hpositive, hmax, e, he⟩
    obtain ⟨expires, hexpires, -⟩ := Instant.exists_ofMillis?_millis (hend hpositive e he)
    have hzero : ¬ ttl.nanos = 0 := by omega
    have hlong : ¬ i.maxTtl.nanos < ttl.nanos := by omega
    refine ⟨expires, ?_⟩
    rw [expiry, if_neg hzero, if_neg hlong, he, Option.bind_some, hexpires]

/-- For a time to live of whole seconds the seconds decide, in a leap second too. -/
theorem exists_expiry_ofSeconds_iff {n m : Nat} (hmax : i.maxTtl = .ofSeconds m) :
    (∃ expires, i.expiry (.ofSeconds n) now = .ok expires) ↔
      0 < n ∧ n ≤ m ∧ now.second + n ≤ Instant.greatestSecond := by
  have hpositive : 0 < (Duration.ofSeconds n).nanos ↔ 0 < n := by
    simp only [Duration.ofSeconds, nanosPerSecond]
    omega
  have hle : (Duration.ofSeconds n).nanos ≤ i.maxTtl.nanos ↔ n ≤ m := by
    simp only [hmax, Duration.ofSeconds, nanosPerSecond]
    omega
  rw [exists_expiry_iff fun h e he => Instant.isLeap_of_add?_ofSeconds (hpositive.mp h) he,
    hpositive, hle]
  exact and_congr_right fun h => and_congr_right fun _ => Instant.exists_add?_ofSeconds_iff h

theorem exists_issue_iff : (∃ link, i.issue key snapshot mode ttl now = .ok link) ↔
    ∃ expires, i.expiry ttl now = .ok expires := by
  constructor
  · rintro ⟨link, h⟩
    exact ⟨_, (of_issue h).1⟩
  · rintro ⟨expires, h⟩
    exact ⟨_, issue_eq_ok_iff.mpr ⟨expires, h, rfl⟩⟩

/-- Where there is no link, the argument is to blame. -/
theorem exists_invalidArgument_of_issue
    (h : ¬ ∃ link, i.issue key snapshot mode ttl now = .ok link) :
    ∃ reason, (i.issue key snapshot mode ttl now).mapError TtlFlaw.fault =
      .error (.invalidArgument reason) := by
  cases hissue : i.issue key snapshot mode ttl now with
  | error flaw => exact ⟨flaw.message, rfl⟩
  | ok link => exact absurd ⟨link, hissue⟩ h

/-! ## The end of a link -/

/-- **A link ends with its time to live**, up to the millisecond. -/
theorem endsAt_of_issue (hbase : i.HasBase) (hleap : now.isLeap = false)
    (h : i.issue key snapshot mode ttl now = .ok link) :
    link.EndsAt (now.nanos + ttl.nanos) := by
  obtain ⟨hexpiry, -, -, hmillis, hlink⟩ := of_issue h
  obtain ⟨-, -, e, he, hexpires⟩ := of_expiry hexpiry
  obtain ⟨hsum, heLeap⟩ := Instant.nanos_of_add? hleap he
  obtain ⟨rounded, hrounded, -, hle, hlt⟩ := Instant.exists_ofMillis?_millis heLeap
  obtain rfl := Option.some.inj (hrounded.symm.trans hexpires)
  obtain ⟨url, hurl, hquery⟩ := exists_parse_urlOf_of_hasBase hbase
    ⟨key.text, snapshot, mode, link.expires.millis⟩
  refine ⟨(Instant.ofNanos?_eq_some.mp hmillis).1, ?_, ?_, url, _, hlink ▸ hurl, hquery, ?_⟩
  · omega
  · omega
  · -- the name stands once among the pairs of the query
    obtain ⟨-, -, -, hvalue, -⟩ :=
      LinkQuery.valuesOf_pairs (i.queryOf ⟨key.text, snapshot, mode, link.expires.millis⟩)
    rw [LinkQuery.write, Form.read_text (LinkQuery.pairs_ne_nil _)]
    exact hvalue

/-- After the end of any span that is not shorter than its time to live a link is over. -/
theorem expires_lt_of_issue (hbase : i.HasBase) (hleap : now.isLeap = false)
    (h : i.issue key snapshot mode ttl now = .ok link) {d : Duration} (hd : ttl.nanos ≤ d.nanos)
    {e t : Instant} (he : now.add? d = some e) (ht : e < t) : link.expires < t := by
  obtain ⟨hnanos, heLeap⟩ := Instant.nanos_of_add? hleap he
  have hexpiresLeap := (Instant.ofNanos?_eq_some.mp (of_issue h).2.2.2.1).2
  have hends := (endsAt_of_issue hbase hleap h).le
  have hle : link.expires ≤ e := (Instant.le_iff_nanos_le hexpiresLeap heLeap).mpr (by omega)
  exact Instant.lt_of_le_of_lt hle ht

/-- **Issuing is bounded by the time to live.** Outside leap seconds a link is issued just if its time
to live is positive, not above the maximum, and ends at an instant, and otherwise the argument is
refused. An issued link expires at the last whole millisecond that is not after the end of that
time, as its URL says. After the end it is expired, and after the end of the issuer's maximum it
grants nothing in any mode. -/
theorem issue_bounded_by_ttl (hbase : i.HasBase) (hleap : now.isLeap = false) (key : StorageKey)
    (snapshot : Option String) (mode : Mode) (ttl : Duration) :
    ((∃ link, i.issue key snapshot mode ttl now = .ok link) ↔
      0 < ttl.nanos ∧ ttl.nanos ≤ i.maxTtl.nanos ∧
        now.nanos + ttl.nanos ≤ Instant.latest.nanos) ∧
    ((¬ ∃ link, i.issue key snapshot mode ttl now = .ok link) →
      ∃ reason, (i.issue key snapshot mode ttl now).mapError TtlFlaw.fault =
        .error (.invalidArgument reason)) ∧
    ∀ link, i.issue key snapshot mode ttl now = .ok link →
      link.EndsAt (now.nanos + ttl.nanos) ∧
      (∀ e t, now.add? ttl = some e → e < t →
        i.validate link.url mode t = .error (.expired key.text link.expires) ∧
          i.validateQuery link.query mode t = .error (.expired key.text link.expires)) ∧
      (∀ e t, now.add? i.maxTtl = some e → e < t → ∀ requested claims,
        i.validate link.url requested t ≠ .ok claims) := by
  refine ⟨?_, exists_invalidArgument_of_issue, fun link h => ?_⟩
  · rw [exists_issue_iff, exists_expiry_iff fun _ e he => (Instant.nanos_of_add? hleap he).2,
      Instant.exists_add?_iff hleap]
  · have hchecked := validateQuery_of_issue (j := i) hbase rfl h
    have hurl := validate_of_issue (j := i) hbase h
    have hmax := (of_expiry (of_issue h).1).2.1
    refine ⟨endsAt_of_issue hbase hleap h, fun e t he ht => ?_,
      fun e t he ht requested claims => ?_⟩
    · have hexpired := expires_lt_of_issue hbase hleap h le_rfl he ht
      rw [hurl, hchecked, if_pos rfl, if_pos hexpired]
      exact ⟨rfl, rfl⟩
    · have hexpired := expires_lt_of_issue hbase hleap h hmax he ht
      rw [hurl, hchecked, if_pos hexpired]
      split
      · exact nofun
      · exact nofun

/-- In a scheme outside the web, for a nanosecond before 1970: the milliseconds are counted
downwards, not towards 1970. -/
theorem issue_bounded_by_ttl_before_1970 :
    ∃ i : Issuer, ∃ now later : Instant, ∃ link : SignedLink,
      i.HasBase ∧ now.isLeap = false ∧ now.nanos = -999500000 ∧ later.nanos = -999499998 ∧
        i.issue ⟨"acct1/logA"⟩ none .upload ⟨1⟩ now = .ok link ∧ link.expires.millis = -1000 ∧
        link.EndsAt (-999499999) ∧
        i.validate link.url .upload later = .error (.expired "acct1/logA" link.expires) := by
  let base : Url := ⟨"logs+ssh".toList, some ⟨"bob@".toList, "Host".toList, some 22⟩, false,
    .segments ["blob".toList, "signed".toList], none⟩
  let now : Instant := ⟨-1, 500000, by decide, by decide, by decide⟩
  let later : Instant := ⟨-1, 500002, by decide, by decide, by decide⟩
  let i : Issuer := ⟨[1, 2, 3], base, ⟨1⟩, false⟩
  have hbase : i.HasBase := ⟨"Logs+SSH://bob@Host:22/", rfl⟩
  have hleap : now.isLeap = false := by decide
  obtain ⟨hissued, -, hends⟩ := issue_bounded_by_ttl hbase hleap ⟨"acct1/logA"⟩ none .upload ⟨1⟩
  obtain ⟨link, hlink⟩ := hissued.mpr (by decide)
  obtain ⟨hat, hexpired, -⟩ := hends link hlink
  have hsum : now.nanos + (⟨1⟩ : Duration).nanos = -999499999 := by decide
  rw [hsum] at hat
  have hmillis : link.expires.millis = -1000 := by
    have hle := hat.le
    have hlt := hat.lt
    rw [hat.whole, nanosPerMilli] at hle hlt
    omega
  refine ⟨i, now, later, link, hbase, hleap, by decide, by decide, hlink, hmillis, hat, ?_⟩
  exact (hexpired ⟨-1, 500001, by decide, by decide, by decide⟩ later rfl (by decide)).1

/-! ## The instant of issue -/

/-- At the instant of its issue a link is over just if no whole millisecond is left: its expiry is
the last one that could be. -/
theorem expires_lt_now_iff (hbase : i.HasBase) (hleap : now.isLeap = false)
    (h : i.issue key snapshot mode ttl now = .ok link) :
    link.expires < now ↔ ¬ now.MilliWithin ttl := by
  obtain ⟨hwhole, hle, hlt, -⟩ := endsAt_of_issue hbase hleap h
  have hexpiresLeap := (Instant.ofNanos?_eq_some.mp (of_issue h).2.2.2.1).2
  rw [Instant.lt_iff_not_le, Instant.le_iff_nanos_le hleap hexpiresLeap, not_iff_not]
  constructor
  · intro hnow
    exact ⟨link.expires.millis, by omega, by omega⟩
  · rintro ⟨ms, hnow, hms⟩
    simp only [nanosPerMilli] at *
    omega

/-- **A fresh link grants its blob** at the instant of its issue just if a whole millisecond lies
between that instant and the end of its time to live, and otherwise it is expired. With a
millisecond or more to live it always grants. -/
theorem fresh_grants_iff (hbase : i.HasBase) (hleap : now.isLeap = false)
    (h : i.issue key snapshot mode ttl now = .ok link) :
    (i.validate link.url mode now = .ok ⟨key, snapshot, mode, link.expires⟩ ↔
      now.MilliWithin ttl) ∧
    (i.validate link.url mode now = .error (.expired key.text link.expires) ↔
      ¬ now.MilliWithin ttl) ∧
    (nanosPerMilli ≤ ttl.nanos →
      i.validate link.url mode now = .ok ⟨key, snapshot, mode, link.expires⟩) := by
  have hclock := expires_lt_now_iff hbase hleap h
  have hchecked : i.validate link.url mode now =
      if link.expires < now then .error (.expired key.text link.expires)
      else .ok ⟨key, snapshot, mode, link.expires⟩ := by
    rw [validate_of_issue hbase h, validateQuery_of_issue hbase rfl h, if_pos rfl]
  rw [hchecked]
  by_cases hwithin : now.MilliWithin ttl
  · rw [if_neg (mt hclock.mp (not_not.mpr hwithin))]
    exact ⟨iff_of_true rfl hwithin, iff_of_false nofun (not_not.mpr hwithin), fun _ => rfl⟩
  · rw [if_pos (hclock.mpr hwithin)]
    exact ⟨iff_of_false nofun hwithin, iff_of_true rfl hwithin,
      fun hmilli => absurd (Instant.milliWithin_of_le hmilli) hwithin⟩

/-- An issuer under `https://logs.example` whose links live for an hour at most. -/
def hourly : Issuer where
  secret := [1, 2, 3]
  base := ⟨"https".toList, some ⟨[], "logs.example".toList, none⟩, false,
    .segments ["blob".toList, "signed".toList], none⟩
  maxTtl := .ofSeconds 3600
  ephemeral := false

theorem onWeb_hourly : hourly.OnWeb := ⟨⟨"https://logs.example", rfl⟩, by decide, by decide⟩

/-- Half a millisecond is enough where the next one begins in it. -/
theorem fresh_grants_across_a_milli :
    ∃ now : Instant, ∃ link : SignedLink, now.second = 1714564800 ∧ now.nano = 999600000 ∧
      hourly.issue ⟨"acct1/logA"⟩ none .download ⟨500000⟩ now = .ok link ∧
      hourly.validate link.url .download now =
        .ok ⟨⟨"acct1/logA"⟩, none, .download, link.expires⟩ := by
  have hexpiry : hourly.expiry ⟨500000⟩ ⟨1714564800, 999600000, by decide, by decide, by decide⟩ =
      .ok ⟨1714564801, 0, by decide, by decide, by decide⟩ := rfl
  have hissue : hourly.issue ⟨"acct1/logA"⟩ none .download ⟨500000⟩ _ = .ok _ :=
    issue_eq_ok_iff.mpr ⟨_, hexpiry, rfl⟩
  obtain ⟨hgrants, -, -⟩ := fresh_grants_iff onWeb_hourly.1 (by decide) hissue
  exact ⟨_, _, by rfl, by rfl, hissue, hgrants.mpr ⟨1714564801000, by decide, by decide⟩⟩

/-- Half a millisecond within one is not: the time to live is positive and not above the maximum, the
link is issued, and it has expired. -/
theorem fresh_link_may_be_expired :
    ∃ now : Instant, ∃ link : SignedLink, hourly.OnWeb ∧ now.isLeap = false ∧
      now.second = 1714564800 ∧ now.nano = 250000 ∧ 500000 ≤ hourly.maxTtl.nanos ∧
      hourly.issue ⟨"acct1/logA"⟩ none .download ⟨500000⟩ now = .ok link ∧
      hourly.validate link.url .download now = .error (.expired "acct1/logA" link.expires) := by
  have hexpiry : hourly.expiry ⟨500000⟩ ⟨1714564800, 250000, by decide, by decide, by decide⟩ =
      .ok ⟨1714564800, 0, by decide, by decide, by decide⟩ := rfl
  have hissue : hourly.issue ⟨"acct1/logA"⟩ none .download ⟨500000⟩ _ = .ok _ :=
    issue_eq_ok_iff.mpr ⟨_, hexpiry, rfl⟩
  refine ⟨_, _, onWeb_hourly, by decide, by rfl, by rfl, by decide, hissue, ?_⟩
  rw [validate_of_issue onWeb_hourly.1 hissue, validateQuery_of_issue onWeb_hourly.1 rfl hissue,
    if_pos rfl, if_pos (by decide)]

end Issuer

end LogVault
