import LogVault.Proofs.Digest.Signature
import LogVault.Proofs.Link.Expiry

/-!
# LogVault.Proofs.Link.Grammar — which queries are accepted, and how the others are refused

A query is signed under an issuer's secret if its pairs carry a link and the signature among them is,
in either case, the digits of the code of that link's payload. `Answers` says from the pairs alone
how a query is answered, and `validateQuery_follows_grammar` that checking says just that: one fault
for all queries that are not signed, whatever the mode and the clock; then the mode; then the
instant of expiry.

So what a query says is a matter of the pairs whose names count: `read?_eq_of_perm`.
-/

namespace LogVault

/-! ## The pairs that count -/

namespace LinkQuery

/-- The names that count. -/
def fieldNames : List String := ["key", "snapshot", "mode", "expires", "signature"]

/-- The pairs whose names count. -/
def named (pairs : List (String × String)) : List (String × String) :=
  pairs.filter fun p => p.1 ∈ fieldNames

theorem valuesOf_named {name : String} (h : name ∈ fieldNames) (pairs : List (String × String)) :
    valuesOf name (named pairs) = valuesOf name pairs := by
  have hkeep : ∀ p : String × String,
      (decide (p.1 = name) && decide (p.1 ∈ fieldNames)) = decide (p.1 = name) := fun p => by
    rw [Bool.and_eq_left_iff_imp, decide_eq_true_iff, decide_eq_true_iff]
    exact fun hp => hp ▸ h
  rw [valuesOf, named, List.filter_filter, valuesOf]
  simp only [hkeep]

/-- In what order a name has its values does not matter where it has one at most. -/
theorem valuesOf_of_perm {pairs others : List (String × String)}
    (h : (named pairs).Perm (named others)) {name : String} (hname : name ∈ fieldNames)
    {values : List String} (hone : values.length ≤ 1) (hvalues : valuesOf name others = values) :
    valuesOf name pairs = values := by
  have hperm : (valuesOf name (named pairs)).Perm (valuesOf name (named others)) :=
    (h.filter _).map _
  rw [valuesOf_named hname, valuesOf_named hname, hvalues] at hperm
  match values with
  | [] => exact hperm.eq_nil
  | [value] => exact hperm.eq_singleton
  | _ :: _ :: _ => simp at hone

theorem carried_of_perm {pairs others : List (String × String)}
    (h : (named pairs).Perm (named others)) {q : LinkQuery} (hq : Carried others q) :
    Carried pairs q := by
  obtain ⟨e, hexpires, hspells⟩ := hq.expires
  exact {
    key := valuesOf_of_perm h (by decide) le_rfl hq.key
    snapshot := valuesOf_of_perm h (by decide) Option.length_toList_le hq.snapshot
    mode := valuesOf_of_perm h (by decide) le_rfl hq.mode
    expires := ⟨e, valuesOf_of_perm h (by decide) le_rfl hexpires, hspells⟩
    fits := hq.fits
    signature := valuesOf_of_perm h (by decide) le_rfl hq.signature }

/-- **The order of the pairs and all other names do not matter** to what a query carries. -/
theorem read?_eq_of_perm {query other : String}
    (h : (named (Form.read query)).Perm (named (Form.read other))) : read? query = read? other := by
  refine Option.ext fun q => ?_
  rw [read?, read?, ofPairs?_eq_some_iff, ofPairs?_eq_some_iff]
  exact ⟨carried_of_perm h.symm, carried_of_perm h⟩

end LinkQuery

namespace Issuer

variable {i : Issuer} {pairs : List (String × String)} {query : String} {mode : Mode}
  {now : Instant}

/-- **Pairs are signed** for what they carry: the signature among them is that of the payload. -/
structure Signed (i : Issuer) (pairs : List (String × String)) (q : LinkQuery) : Prop where
  carried : LinkQuery.Carried pairs q
  signature : q.signature.toList.map Char.toLower =
    Hex.encode (Hmac.code i.secret q.payload.octets)

/-- **How a query is answered**, by its pairs, the wanted mode and the clock. -/
inductive Answers (i : Issuer) (pairs : List (String × String)) (mode : Mode) (now : Instant) :
    Except Fault Claims → Prop
  | unsigned : (¬ ∃ q, i.Signed pairs q) → Answers i pairs mode now (.error .signatureInvalid)
  | otherMode {q : LinkQuery} : i.Signed pairs q → q.payload.mode ≠ mode →
      Answers i pairs mode now (.error (.modeMismatch q.payload.mode mode))
  | noInstant {q : LinkQuery} : i.Signed pairs q → q.payload.mode = mode →
      ¬ (Instant.earliest.nanos ≤ q.payload.expires * nanosPerMilli ∧
        q.payload.expires * nanosPerMilli ≤ Instant.latest.nanos) →
      Answers i pairs mode now (.error .signatureInvalid)
  | expired {q : LinkQuery} {e : Instant} : i.Signed pairs q → q.payload.mode = mode →
      e.nanos = q.payload.expires * nanosPerMilli → e.isLeap = false → e < now →
      Answers i pairs mode now (.error .expired)
  | granted {q : LinkQuery} {e : Instant} : i.Signed pairs q → q.payload.mode = mode →
      e.nanos = q.payload.expires * nanosPerMilli → e.isLeap = false → now ≤ e →
      Answers i pairs mode now (.ok ⟨⟨q.payload.key⟩, q.payload.snapshot, q.payload.mode, e⟩)

/-- Every query is answered somehow. -/
theorem exists_answers (i : Issuer) (pairs : List (String × String)) (mode : Mode) (now : Instant) :
    ∃ r, i.Answers pairs mode now r := by
  by_cases hsigned : ∃ q, i.Signed pairs q
  · obtain ⟨q, hq⟩ := hsigned
    by_cases hmode : q.payload.mode = mode
    · by_cases hrange : Instant.earliest.nanos ≤ q.payload.expires * nanosPerMilli ∧
          q.payload.expires * nanosPerMilli ≤ Instant.latest.nanos
      · obtain ⟨e, he⟩ := Instant.exists_ofNanos?_iff.mpr hrange
        obtain ⟨hnanos, hleap⟩ := Instant.ofNanos?_eq_some.mp he
        by_cases hclock : now ≤ e
        · exact ⟨_, .granted hq hmode hnanos hleap hclock⟩
        · exact ⟨_, .expired hq hmode hnanos hleap hclock⟩
      · exact ⟨_, .noInstant hq hmode hrange⟩
    · exact ⟨_, .otherMode hq hmode⟩
  · exact ⟨_, .unsigned hsigned⟩

theorem Signed.verify {q : LinkQuery} (h : i.Signed pairs q) :
    Hmac.verify i.secret q.payload.octets q.signature = true :=
  Hmac.verify_eq_true_iff.mpr h.signature

/-- Signed queries are read as what they carry. -/
theorem validateQuery_of_signed {q : LinkQuery} (h : i.Signed (Form.read query) q) (mode : Mode)
    (now : Instant) : i.validateQuery query mode now = i.validateFields q mode now := by
  have hread : LinkQuery.read? query = some q := LinkQuery.ofPairs?_eq_some_iff.mpr h.carried
  rw [validateQuery, hread]

/-- All other queries are refused with one fault, whatever the mode and the clock. -/
theorem fault_of_not_signed (h : ¬ ∃ q, i.Signed (Form.read query) q) (mode : Mode)
    (now : Instant) :
    (i.validateQuery query mode now).mapError Rejection.fault = .error .signatureInvalid := by
  rw [validateQuery]
  cases hread : LinkQuery.read? query with
  | none => rfl
  | some q =>
    have hverify : ¬ Hmac.verify i.secret q.payload.octets q.signature = true := fun hverify =>
      h ⟨q, LinkQuery.ofPairs?_eq_some_iff.mp hread, Hmac.verify_eq_true_iff.mp hverify⟩
    dsimp only
    rw [validateFields, if_neg hverify]
    rfl

/-- **Checking gives the answer.** -/
theorem fault_of_answers {r : Except Fault Claims} (h : i.Answers (Form.read query) mode now r) :
    (i.validateQuery query mode now).mapError Rejection.fault = r := by
  cases h with
  | unsigned hsigned => exact fault_of_not_signed hsigned mode now
  | otherMode hq hmode =>
    rw [validateQuery_of_signed hq, validateFields, if_pos hq.verify, if_neg hmode]
    rfl
  | @noInstant q hq hmode hrange =>
    have hnone : Instant.ofMillis? q.payload.expires = none := by
      rw [Option.eq_none_iff_forall_ne_some]
      exact fun e he => hrange (Instant.exists_ofNanos?_iff.mp ⟨e, he⟩)
    rw [validateQuery_of_signed hq, validateFields, if_pos hq.verify, if_pos hmode, hnone]
    rfl
  | @expired q e hq hmode hnanos hleap hclock =>
    have hmillis : Instant.ofMillis? q.payload.expires = some e :=
      Instant.ofNanos?_eq_some.mpr ⟨hnanos, hleap⟩
    rw [validateQuery_of_signed hq, validateFields, if_pos hq.verify, if_pos hmode, hmillis]
    dsimp only
    rw [if_pos hclock]
    rfl
  | @granted q e hq hmode hnanos hleap hclock =>
    have hmillis : Instant.ofMillis? q.payload.expires = some e :=
      Instant.ofNanos?_eq_some.mpr ⟨hnanos, hleap⟩
    rw [validateQuery_of_signed hq, validateFields, if_pos hq.verify, if_pos hmode, hmillis]
    dsimp only
    rw [if_neg fun hlt => hlt hclock]
    rfl

theorem fault_eq_iff_answers {r : Except Fault Claims} :
    (i.validateQuery query mode now).mapError Rejection.fault = r ↔
      i.Answers (Form.read query) mode now r := by
  refine ⟨fun h => ?_, fault_of_answers⟩
  obtain ⟨answer, hanswer⟩ := exists_answers i (Form.read query) mode now
  rwa [← h, fault_of_answers hanswer]

/-- What has expired stays so. -/
theorem answers_expired_of_le {later : Instant} (h : i.Answers pairs mode now (.error .expired))
    (hlater : now ≤ later) : i.Answers pairs mode later (.error .expired) := by
  cases h with
  | expired hq hmode hnanos hleap hclock =>
    exact .expired hq hmode hnanos hleap (Instant.lt_of_lt_of_le hclock hlater)

end Issuer

end LogVault
