import LogVault.Proofs.Http.Run

/-!
# LogVault.Proofs.Http.Frame — what a request may change

Two requests write, `POST /blob` and `PUT /blob/signed`, and they write only when they succeed: then
one blob has the body of the request, which came to its end within the limit, and every other blob is
as it was. All other requests, and all that are refused, leave the blobs alone (`framed_and_within`).

It comes from what a request needs of the store (`need`): a request that writes needs its body to be
put or has been refused, and no other request needs anything to be put.
-/

namespace LogVault.Http.Router

variable {σ : Type}

/-- **A request that writes**: `POST /blob` or `PUT /blob/signed`. -/
def Writes (r : Request) : Prop :=
  r.method = "POST" ∧ r.target.path = "/blob".toList ∨
    r.method = "PUT" ∧ r.target.path = "/blob/signed".toList

/-! ## Needs of requests that write and of others -/

section Needs

variable {v : Vault σ} {limit : Nat} {now : Instant} {r : Request}

theorem writes_iff : Writes r ↔ r.LeadsTo .upload ∨ r.LeadsTo .redeemUpload := by
  constructor
  · rintro (⟨hmethod, hpath⟩ | ⟨hmethod, hpath⟩)
    · exact .inl ⟨hpath, List.mem_singleton.mpr hmethod⟩
    · exact .inr ⟨hpath, List.mem_singleton.mpr hmethod⟩
  · rintro (h | h)
    · exact .inl ⟨List.mem_singleton.mp h.method, h.path⟩
    · exact .inr ⟨List.mem_singleton.mp h.method, h.path⟩

/-- **A request that writes** needs its body to be put, or is refused. -/
theorem need_of_writes (v : Vault σ) (limit : Nat) (now : Instant) (h : Writes r) :
    (∃ key, need v limit now r = .put key r.body.octets ∧
        r.body.take limit = .ok r.body.octets) ∨
      ∃ response, need v limit now r = .nothing response ∧ response.status ≠ 200 := by
  obtain ⟨endpoint, hleads, hneeded⟩ : ∃ endpoint, r.LeadsTo endpoint ∧
      ∀ need, needed v limit now r endpoint = .ok need →
        ∃ key, need = .put key r.body.octets ∧ r.body.take limit = .ok r.body.octets := by
    rcases writes_iff.mp h with hleads | hleads
    · refine ⟨_, hleads, fun need hneed => ?_⟩
      obtain ⟨-, key, -, -, htaken, rfl⟩ := of_needed hneed
      exact ⟨key, rfl, htaken⟩
    · refine ⟨_, hleads, fun need hneed => ?_⟩
      obtain ⟨claims, -, htaken, rfl⟩ := of_needed hneed
      exact ⟨claims.key, rfl, htaken⟩
  rw [need_of_leadsTo hleads]
  cases hneed : needed v limit now r endpoint with
  | error fault =>
    refine .inr ⟨_, rfl, ?_⟩
    rw [status_sent]
    exact fault.status_ne_ok
  | ok need =>
    obtain ⟨key, rfl, htaken⟩ := hneeded need hneed
    exact .inl ⟨key, rfl, htaken⟩

/-- **No other request** needs anything to be put. -/
theorem writes_of_need {key : StorageKey} {data : Bytes}
    (h : need v limit now r = .put key data) : Writes r := by
  obtain ⟨endpoint, hleads, hneeded⟩ := exists_endpoint_of_need (congrArg Need.key? h)
  rw [h] at hneeded
  have hput := of_needed hneeded
  cases endpoint with
  | upload => exact writes_iff.mpr (.inl hleads)
  | redeemUpload => exact writes_iff.mpr (.inr hleads)
  | download =>
    obtain ⟨-, key, -, -, hget⟩ := hput
    cases hget
  | link mode =>
    obtain ⟨-, link, -, -, hnothing⟩ := hput
    cases hnothing
  | redeemDownload =>
    obtain ⟨claims, -, hget⟩ := hput
    cases hget
  | health =>
    obtain ⟨document, hnothing⟩ := hput
    cases hnothing

end Needs

/-! ## In memory -/

/-- **An exchange changes no more than it may**: nothing, unless it is a request that writes and
succeeds, and then the one blob that its answer names. Its body has come to its end. -/
structure Framed (limit : Nat) (r : Request) (b : Blobs) (e : Exchange Blobs) : Prop where
  kept : e.response.status ≠ 200 ∨ ¬ Writes r → e.state = b
  written : e.response.status = 200 → Writes r → ∃ data, r.body = .whole data ∧
    data.length ≤ limit ∧ ∃ key,
      e.response.body =
        documentOctets (.object [("key", .text key.text), ("size", .whole data.length)]) ∧
      e.state = b.insert key data ∧
      ∀ other, e.state.get? other = if other = key then some data else b.get? other

section Memory

variable {r : Request}

/-- Of a request that writes the answer is sent with its body. -/
theorem body_sent_of_writes (h : Writes r) (response : Response) :
    (sent r.method response).body = response.body := by
  have hmethod : r.method ≠ "HEAD" := by
    rcases h with ⟨hmethod, -⟩ | ⟨hmethod, -⟩ <;> rw [hmethod] <;> decide
  rw [sent, if_neg hmethod]
  rfl

variable (issuer : Issuer) (ttl : Duration) (limit : Nat)

/-- Every exchange changes no more than it may. -/
theorem framed_answer (now : Instant) (r : Request) (b : Blobs) :
    Framed limit r b (answer (Vault.inMemory issuer ttl) limit now r b) := by
  have hseen := seen_inMemory issuer ttl limit now r b
  generalize answer (Vault.inMemory issuer ttl) limit now r b = e at hseen
  by_cases hwrites : Writes r
  · rcases need_of_writes (Vault.inMemory issuer ttl) limit now hwrites with
      ⟨key, hneed, htaken⟩ | ⟨response, hneed, hstatus⟩
    · -- its body was put, and the answer says under which key
      rw [hneed] at hseen
      obtain ⟨hresponse, hstate⟩ := Prod.mk.inj hseen
      have hok : e.response.status = 200 := by
        rw [hresponse, status_sent]
        rfl
      obtain ⟨-, hlength, hwhole⟩ := Body.take_eq_ok_iff.mp htaken
      refine ⟨fun h => ?_, fun _ _ =>
        ⟨r.body.octets, Body.eq_whole_of_broken_eq_none hwhole, hlength, key, ?_, hstate,
          fun other => ?_⟩⟩
      · rcases h with h | h
        · exact absurd hok h
        · exact absurd hwrites h
      · rw [hresponse, body_sent_of_writes hwrites]
        rfl
      · rw [hstate, Blobs.get?_insert]
    · -- it was refused
      rw [hneed] at hseen
      obtain ⟨hresponse, hstate⟩ := Prod.mk.inj hseen
      exact ⟨fun _ => hstate, fun hok => absurd (hresponse ▸ hok) hstatus⟩
  · refine ⟨fun _ => ?_, fun _ h => absurd h hwrites⟩
    cases hneed : need (Vault.inMemory issuer ttl) limit now r with
    | put key data => exact absurd (writes_of_need hneed) hwrites
    | nothing response =>
      rw [hneed] at hseen
      exact (Prod.mk.inj hseen).2
    | get key =>
      rw [hneed] at hseen
      exact (Prod.mk.inj hseen).2

/-! ## Runs -/

/-- **No blob is longer than the limit** for bodies. -/
def Within (limit : Nat) (b : Blobs) : Prop :=
  ∀ key data, b.get? key = some data → data.length ≤ limit

theorem within_empty : Within limit .empty := fun _ _ hget => by cases hget

variable {limit} in
theorem Framed.within {b : Blobs} {e : Exchange Blobs} (h : Framed limit r b e)
    (hb : Within limit b) : Within limit e.state := by
  by_cases hok : e.response.status = 200 ∧ Writes r
  · obtain ⟨written, -, hlength, key, -, -, hget⟩ := h.written hok.1 hok.2
    intro other data hother
    rw [hget] at hother
    split at hother
    · cases hother
      exact hlength
    · exact hb other data hother
  · rw [h.kept (not_and_or.mp hok)]
    exact hb

theorem within_stateAfter {b : Blobs} (hb : Within limit b) (run : List (Instant × Request)) :
    Within limit (stateAfter (Vault.inMemory issuer ttl) limit b run) := by
  induction run generalizing b with
  | nil => exact hb
  | cons asked rest ih => exact ih ((framed_answer issuer ttl limit asked.1 asked.2 b).within hb)

end Memory

end LogVault.Http.Router
