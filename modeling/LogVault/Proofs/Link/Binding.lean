import LogVault.Proofs.Link.Grammar
import LogVault.Proofs.Link.Payload

/-!
# LogVault.Proofs.Link.Binding — a signature binds all that its link says

The octets under a signature are canonical: two payloads have the same just if they agree in the key,
the snapshot, the mode and the expiry (`Payload.octets_eq_iff`), whatever characters stand in them.
So there is one way only for one signature to be good for two links that do not say the same: their
payloads are a collision, two messages with one code (`Issuer.signature_binds_payload`).

That there are no collisions is nowhere assumed. The collision is what a forged link would have to
bring along.
-/

namespace LogVault

/-- **A collision under a secret**: two messages with one code. -/
structure Hmac.Collision (secret a b : Bytes) : Prop where
  distinct : a ≠ b
  code : Hmac.code secret a = Hmac.code secret b

/-- One text is accepted as the signature of messages with one code only. -/
theorem Hmac.code_eq_of_verify {secret a b : Bytes} {signature : String}
    (ha : verify secret a signature = true) (hb : verify secret b signature = true) :
    Hmac.code secret a = Hmac.code secret b :=
  Hex.encode_injective ((verify_eq_true_iff.mp ha).symm.trans (verify_eq_true_iff.mp hb))

/-- **Signed octets are canonical.** -/
theorem Payload.octets_eq_iff {p q : Payload} : p.octets = q.octets ↔
    p.key = q.key ∧ p.snapshot = q.snapshot ∧ p.mode = q.mode ∧ p.expires = q.expires := by
  constructor
  · intro h
    obtain rfl := octets_injective h
    exact ⟨rfl, rfl, rfl, rfl⟩
  · obtain ⟨key, snapshot, mode, expires⟩ := p
    obtain ⟨key', snapshot', mode', expires'⟩ := q
    rintro ⟨rfl, rfl, rfl, rfl⟩
    rfl

namespace Issuer

/-- **A query passes for what it carries**: it is read as a link, and the signature of that link
verifies for its payload. -/
structure Passes (i : Issuer) (query : String) (q : LinkQuery) : Prop where
  carries : LinkQuery.read? query = some q
  verifies : Hmac.verify i.secret q.payload.octets q.signature = true

/-- Where one signature is good for two links, their payloads have one code. -/
theorem Passes.code_eq {i : Issuer} {query other : String} {q r : LinkQuery}
    (hq : i.Passes query q) (hr : i.Passes other r) (h : q.signature = r.signature) :
    Hmac.code i.secret q.payload.octets = Hmac.code i.secret r.payload.octets :=
  Hmac.code_eq_of_verify hq.verifies (h ▸ hr.verifies)

/-- **A signature binds the payload.** Signed octets are the same just for the same key, snapshot,
mode and expiry; so if one signature is good under one secret for what two queries carry, they carry
the same payload, or two different messages with the same code. -/
theorem signature_binds_payload (i : Issuer) :
    (∀ p p' : Payload, p.octets = p'.octets ↔
      p.key = p'.key ∧ p.snapshot = p'.snapshot ∧ p.mode = p'.mode ∧ p.expires = p'.expires) ∧
    ∀ query other q r, i.Passes query q → i.Passes other r → q.signature = r.signature →
      q.payload = r.payload ∨ Hmac.Collision i.secret q.payload.octets r.payload.octets := by
  refine ⟨fun p p' => Payload.octets_eq_iff, fun query other q r hq hr hsame => ?_⟩
  by_cases hoctets : q.payload.octets = r.payload.octets
  · exact .inl (Payload.octets_injective hoctets)
  · exact .inr ⟨hoctets, hq.code_eq hr hsame⟩

/-- A key that looks like the document that is signed: no snapshot is not the snapshot `null`, and the
link and another arrangement of its pairs carry the same payload, if not a collision. -/
theorem signature_binds_payload_of_quoted_key :
    ∃ (p : Payload) (query other : String) (q r : LinkQuery),
      p = ⟨"acct1/a\",\"snapshot\":null", none, .upload, -5⟩ ∧
      p.octets ≠ { p with snapshot := some "null" }.octets ∧
      (Form.read query).map (·.1) = ["key", "mode", "expires", "signature"] ∧
      (Form.read other).map (·.1) = ["signature", "expires", "mode", "key"] ∧
      hourly.Passes query q ∧ hourly.Passes other r ∧ q.signature = r.signature ∧
      (q.payload = r.payload ∨
        Hmac.Collision hourly.secret q.payload.octets r.payload.octets) := by
  let p : Payload := ⟨"acct1/a\",\"snapshot\":null", none, .upload, -5⟩
  let q : LinkQuery := hourly.queryOf p
  let query := Form.text q.pairs
  let other := Form.text q.pairs.reverse
  have hread : Form.read query = q.pairs := Form.read_text q.pairs_ne_nil
  have hother : Form.read other = q.pairs.reverse :=
    Form.read_text (List.reverse_ne_nil_iff.mpr q.pairs_ne_nil)
  have hcarries : LinkQuery.read? query = some q := LinkQuery.read?_write ⟨by decide, by decide⟩
  have hverifies : Hmac.verify hourly.secret p.octets (hourly.sign p) = true :=
    Hmac.verify_sign hourly.secret p.octets
  have hpasses : hourly.Passes query q := ⟨hcarries, hverifies⟩
  have hreversed : hourly.Passes other q := by
    refine ⟨?_, hverifies⟩
    rw [← hcarries]
    refine LinkQuery.read?_eq_of_perm ?_
    rw [hread, hother]
    exact (List.reverse_perm q.pairs).filter _
  obtain ⟨hcanonical, hbinds⟩ := signature_binds_payload hourly
  refine ⟨p, query, other, q, q, rfl, fun h => ?_, by rw [hread]; rfl, by rw [hother]; rfl,
    hpasses, hreversed, rfl, hbinds query other q q hpasses hreversed rfl⟩
  obtain ⟨-, hsnapshot, -⟩ := (hcanonical _ _).mp h
  cases hsnapshot

end Issuer

end LogVault
