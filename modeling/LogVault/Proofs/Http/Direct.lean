import LogVault.Proofs.Http.Params
import LogVault.Proofs.Http.Redemption

/-!
# LogVault.Proofs.Http.Direct — which blobs are written and read directly

Writing with `POST /blob` and reading with `GET /blob` take the same queries: those that name a
blob, with no name repeated (`Names`). `Uploaded` and `Downloaded` say how each is answered, from
the query, the body and the blobs alone; of several things that stand against a request a repeated
name comes first, then a body that is too long, then everything else, a body that broke off
included. `direct_follows_grammar` is that requests are answered so.
-/

namespace LogVault.Http

/-! ## The target -/

/-- **A path and a query that are a target** are read letter by letter. -/
theorem Target.eq_of_parse_blob {q : String} (hnumber : '#' ∉ q.toList) {target : Target}
    (h : Target.parse ("/blob?" ++ q) = .ok target) : target = ⟨"/blob".toList, some q.toList⟩ := by
  have htext : ("/blob?" ++ q).toList = "/blob".toList ++ '?' :: q.toList := by
    rw [String.toList_append]
    rfl
  rw [parse_append_query htext (by decide) (by decide) hnumber] at h
  split at h
  · cases h
  · split at h
    · cases h
      rfl
    · cases h

namespace Router

variable {σ : Type} {v : Vault σ} {limit : Nat} {now : Instant} {r : Request}

/-! ## What stands against a request -/

/-- The storage key that the query of a request names. -/
def readKey (r : Request) : Except Fault StorageKey := readBlob r >>= BlobRef.resolve

theorem readParams_eq_ok_iff {p : Params} :
    readParams r = .ok p ↔ Params.ofQuery (queryText r) = .ok p := by
  rw [readParams]
  cases Params.ofQuery (queryText r) <;> simp [Except.mapError]

theorem readKey_eq_ok_iff {key : StorageKey} :
    readKey r = .ok key ↔ Names (queryText r) key := by
  rw [Params.names_iff]
  constructor
  · intro h
    obtain ⟨blob, hblob, hkey⟩ := Except.exists_of_bind_eq_ok h
    obtain ⟨p, hp, hblob⟩ := Except.exists_of_bind_eq_ok hblob
    exact ⟨p, blob, readParams_eq_ok_iff.mp hp, hblob, hkey⟩
  · rintro ⟨p, blob, hp, hblob, hkey⟩
    rw [readKey, readBlob, readParams_eq_ok_iff.mpr hp]
    show p.blobRef >>= BlobRef.resolve = _
    rw [hblob]
    exact hkey

/-- A query that names nothing is the fault of its caller. -/
theorem status_of_readKey {fault : Fault} (h : readKey r = .error fault) : fault.status = 400 := by
  rcases Except.cases_of_bind_eq_error h with h | ⟨blob, -, h⟩
  · rcases Except.cases_of_bind_eq_error h with h | ⟨p, -, h⟩
    · obtain ⟨repeated, -, rfl⟩ := Except.exists_of_mapError_eq_error h
      rfl
    · exact Params.status_of_blobRef h
  · exact BlobRef.status_of_resolve h

/-- **Reading** needs the blob that the query names. -/
theorem needed_download :
    needed v limit now r .download = readKey r >>= fun key => pure (.get key) := by
  simp only [needed, readKey, readBlob, bind_assoc]

/-- A query that repeats a name stands against writing before the body is looked at. -/
theorem needed_upload_of_repeats (v : Vault σ) (limit : Nat) (now : Instant)
    (h : Repeats (queryText r)) :
    ∃ fault, needed v limit now r .upload = .error fault ∧ fault.status = 400 := by
  cases hparams : readParams r with
  | error fault =>
    obtain ⟨repeated, -, rfl⟩ := Except.exists_of_mapError_eq_error hparams
    refine ⟨repeated.fault, ?_, rfl⟩
    rw [needed, hparams]
    rfl
  | ok p => exact absurd h (Params.not_repeats_iff.mpr ⟨p, readParams_eq_ok_iff.mp hparams⟩)

/-- **Writing** needs the body to be put under the key that the query names. A body that cannot be
taken is noticed once the query has been read, and before it is known to name a blob. -/
theorem needed_upload (h : ¬ Repeats (queryText r)) : needed v limit now r .upload =
    r.body.take limit >>= fun data => readKey r >>= fun key => pure (.put key data) := by
  obtain ⟨p, hp⟩ := Params.not_repeats_iff.mp h
  have hparams : readParams r = .ok p := readParams_eq_ok_iff.mpr hp
  have hkey : readKey r = p.blobRef >>= BlobRef.resolve := by
    rw [readKey, readBlob, hparams]
    rfl
  simp only [needed, hkey, hparams, bind_assoc]
  rfl

/-! ## In memory -/

/-- **How writing is answered**, by the query, the body and the blobs. -/
structure Uploaded (limit : Nat) (query : String) (body : Body) (b : Blobs) (e : Exchange Blobs) :
    Prop where
  ok_iff : e.response.status = 200 ↔
    (∃ key, Names query key) ∧ body.octets.length ≤ limit ∧ body.broken = none
  stored : ∀ key data, Names query key → body = .whole data → data.length ≤ limit →
    e.response = (Response.document 200 (receipt key data.length)).measured ∧
      ∀ other, e.state.get? other = if other = key then some data else b.get? other
  repeated : Repeats query → e.response.status = 400
  tooLong : ¬ Repeats query → limit < body.octets.length → e.response.status = 413
  brokenOff : ∀ cause, ¬ Repeats query → body.octets.length ≤ limit → body.broken = some cause →
    e.response = (Response.ofFault (Body.brokenOff cause)).measured ∧ e.response.status = 400
  unnamed : ¬ Repeats query → body.octets.length ≤ limit → (¬ ∃ key, Names query key) →
    e.response.status = 400
  kept : e.response.status ≠ 200 → e.state = b

/-- **How reading is answered**, by the query and the blobs. -/
structure Downloaded (query : String) (b : Blobs) (e : Exchange Blobs) : Prop where
  refused_iff : e.response.status = 400 ↔ ¬ ∃ key, Names query key
  found : ∀ key data, Names query key → b.get? key = some data →
    e.response = (Response.blob 200 data).measured
  missing : ∀ key, Names query key → b.get? key = none → e.response.status = 404
  kept : e.state = b

section Refused

variable {query : String} {key : StorageKey} {body : Body} {b : Blobs} {e : Exchange Blobs}
  {fault : Fault}

/-- A query that names a blob repeats no name. -/
theorem not_repeats_of_names (h : Names query key) : ¬ Repeats query := by
  obtain ⟨p, -, hp, -⟩ := Params.names_iff.mp h
  exact Params.not_repeats_iff.mpr ⟨p, hp⟩

/-- A refusal is answered with the status of its fault, and nothing is written. -/
theorem of_seen_refused {method : String} (h : e.seen = (sent method (.ofFault fault), b)) :
    e.response.status = fault.status ∧ e.state = b := by
  obtain ⟨hresponse, hstate⟩ := Prod.mk.inj h
  rw [hresponse, status_sent]
  exact ⟨rfl, hstate⟩

/-- Writing that is refused, with the fault that comes first. -/
theorem uploaded_of_refused (h : e.seen = (sent "POST" (.ofFault fault), b))
    (hmet : ¬ ((∃ key, Names query key) ∧ body.octets.length ≤ limit ∧ body.broken = none))
    (hlong : ¬ Repeats query → limit < body.octets.length → fault = Body.tooLarge)
    (hbroken : ∀ cause, ¬ Repeats query → body.octets.length ≤ limit →
      body.broken = some cause → fault = Body.brokenOff cause)
    (hother : Repeats query ∨ body.octets.length ≤ limit → fault.status = 400) :
    Uploaded limit query body b e := by
  obtain ⟨hstatus, hstate⟩ := of_seen_refused h
  exact {
    ok_iff := iff_of_false (hstatus ▸ fault.status_ne_ok) hmet
    stored := by
      rintro key data hkey rfl hlength
      exact absurd ⟨⟨key, hkey⟩, hlength, rfl⟩ hmet
    repeated := fun hrepeats => hstatus.trans (hother (.inl hrepeats))
    tooLong := fun hrepeats hlength => by
      rw [hstatus, hlong hrepeats hlength]
      rfl
    brokenOff := fun cause hrepeats hlength hcause => by
      refine ⟨?_, hstatus.trans (hother (.inr hlength))⟩
      rw [← hbroken cause hrepeats hlength hcause]
      exact (Prod.mk.inj h).1
    unnamed := fun _ hlength _ => hstatus.trans (hother (.inr hlength))
    kept := fun _ => hstate }

/-- Writing whose body cannot be taken, which is too long or broke off. -/
theorem uploaded_of_untaken (h : e.seen = (sent "POST" (.ofFault fault), b))
    (hrepeats : ¬ Repeats query) (htaken : body.take limit = .error fault) :
    Uploaded limit query body b e := by
  rcases Body.cases_of_take_eq_error htaken with ⟨hlong, rfl⟩ | ⟨hlength, cause, hcause, rfl⟩
  · have hnot : ¬ body.octets.length ≤ limit := Nat.not_le.mpr hlong
    exact uploaded_of_refused h (fun hmet => hnot hmet.2.1) (fun _ _ => rfl)
      (fun _ _ hshort => absurd hshort hnot) fun hother => absurd (hother.resolve_left hrepeats) hnot
  · refine uploaded_of_refused h (fun hmet => ?_)
      (fun _ hlong => absurd hlength (Nat.not_le.mpr hlong))
      (fun other _ _ hother => ?_) fun _ => rfl
    · cases hcause.symm.trans hmet.2.2
    · rw [Option.some.inj (hcause.symm.trans hother)]

section Taken

variable {data : Bytes} (htaken : body.take limit = .ok data)

include htaken

/-- A body that is taken did not break off. -/
theorem not_broken_of_take (cause : String) : body.broken ≠ some cause := by
  rw [(Body.take_eq_ok_iff.mp htaken).2.2]
  exact (Option.some_ne_none cause).symm

/-- Writing under a query that names nothing. -/
theorem uploaded_of_unnamed (h : e.seen = (sent "POST" (.ofFault fault), b))
    (hunnamed : ¬ ∃ key, Names query key) (hstatus : fault.status = 400) :
    Uploaded limit query body b e := by
  obtain ⟨-, hlength, -⟩ := Body.take_eq_ok_iff.mp htaken
  exact uploaded_of_refused h (fun hmet => hunnamed hmet.1)
    (fun _ hlong => absurd hlength (Nat.not_le.mpr hlong))
    (fun cause _ _ hcause => absurd hcause (not_broken_of_take htaken cause)) fun _ => hstatus

/-- Writing that is done. -/
theorem uploaded_of_put (hnames : Names query key)
    (h : e.seen = ((Response.document 200 (receipt key data.length)).measured, b.insert key data)) :
    Uploaded limit query body b e := by
  obtain ⟨rfl, hlength, hwhole⟩ := Body.take_eq_ok_iff.mp htaken
  obtain ⟨hresponse, hstate⟩ := Prod.mk.inj h
  have hstatus : e.response.status = 200 := hresponse ▸ rfl
  exact {
    ok_iff := iff_of_true hstatus ⟨⟨key, hnames⟩, hlength, hwhole⟩
    stored := by
      rintro key' data hkey' rfl -
      obtain rfl := Params.eq_of_names hnames hkey'
      exact ⟨hresponse, fun other => hstate ▸ b.get?_insert key other data⟩
    repeated := fun hrepeats => absurd hrepeats (not_repeats_of_names hnames)
    tooLong := fun _ hlong => absurd hlength (Nat.not_le.mpr hlong)
    brokenOff := fun cause _ _ hcause => absurd hcause (not_broken_of_take htaken cause)
    unnamed := fun _ _ hunnamed => absurd ⟨key, hnames⟩ hunnamed
    kept := fun hother => absurd hstatus hother }

end Taken

end Refused

section Memory

variable (issuer : Issuer) (ttl : Duration) (limit : Nat) (now : Instant) (b : Blobs)

/-- What is seen of a direct request to a vault in memory. -/
theorem seen_directRequest (mode : Mode) (query : Option (List Char)) (body : Body) :
    (answer (Vault.inMemory issuer ttl) limit now (directRequest mode query body) b).seen =
      (Need.ofNeeded (directRequest mode query body).method
        (needed (Vault.inMemory issuer ttl) limit now (directRequest mode query body)
          (directEndpoint mode))).inMemory (directRequest mode query body).method b := by
  rw [seen_inMemory, need_of_leadsTo leadsTo_directRequest]

/-- **Writing** is answered as it should be. -/
theorem uploaded_answer (q : String) (body : Body) :
    Uploaded limit q body b (answer (Vault.inMemory issuer ttl) limit now
      (directRequest .upload (some q.toList) body) b) := by
  have hseen := seen_directRequest issuer ttl limit now b .upload (some q.toList) body
  have hquery : queryText (directRequest .upload (some q.toList) body) = q := String.ofList_toList
  have hbody : (directRequest .upload (some q.toList) body).body = body := rfl
  rw [directEndpoint] at hseen
  generalize answer _ _ _ _ _ = e at hseen ⊢
  by_cases hrepeats : Repeats q
  · -- the query is refused, whatever the body is
    obtain ⟨fault, hneeded, hstatus⟩ := needed_upload_of_repeats (Vault.inMemory issuer ttl) limit
      now (hquery.symm ▸ hrepeats)
    rw [hneeded] at hseen
    refine uploaded_of_refused hseen ?_ (absurd hrepeats) (fun _ => absurd hrepeats)
      fun _ => hstatus
    rintro ⟨⟨key, hnames⟩, -⟩
    exact not_repeats_of_names hnames hrepeats
  rw [needed_upload (hquery.symm ▸ hrepeats), hbody] at hseen
  cases htaken : body.take limit with
  | error fault =>
    rw [htaken] at hseen
    exact uploaded_of_untaken hseen hrepeats htaken
  | ok data =>
    rw [htaken] at hseen
    cases hkey : readKey (directRequest .upload (some q.toList) body) with
    | error fault =>
      rw [hkey] at hseen
      refine uploaded_of_unnamed htaken hseen ?_ (status_of_readKey hkey)
      rintro ⟨key, hnames⟩
      rw [← hquery, ← readKey_eq_ok_iff, hkey] at hnames
      cases hnames
    | ok key =>
      rw [hkey] at hseen
      rw [readKey_eq_ok_iff, hquery] at hkey
      exact uploaded_of_put htaken hkey hseen

/-- **Reading** is answered as it should be. -/
theorem downloaded_answer (q : String) (body : Body) :
    Downloaded q b (answer (Vault.inMemory issuer ttl) limit now
      (directRequest .download (some q.toList) body) b) := by
  have hseen := seen_directRequest issuer ttl limit now b .download (some q.toList) body
  have hquery : queryText (directRequest .download (some q.toList) body) = q := String.ofList_toList
  rw [directEndpoint, needed_download] at hseen
  generalize answer _ _ _ _ _ = e at hseen ⊢
  cases hkey : readKey (directRequest .download (some q.toList) body) with
  | error fault =>
    rw [hkey] at hseen
    obtain ⟨hstatus, hstate⟩ := of_seen_refused hseen
    have hnone : ¬ ∃ key, Names q key := by
      rintro ⟨key, hnames⟩
      rw [← hquery, ← readKey_eq_ok_iff, hkey] at hnames
      cases hnames
    exact {
      refused_iff := iff_of_true (hstatus.trans (status_of_readKey hkey)) hnone
      found := fun key _ hnames => absurd ⟨key, hnames⟩ hnone
      missing := fun key hnames => absurd ⟨key, hnames⟩ hnone
      kept := hstate }
  | ok key =>
    rw [hkey] at hseen
    rw [readKey_eq_ok_iff, hquery] at hkey
    obtain ⟨hresponse, hstate⟩ := Prod.mk.inj hseen
    have hgotten : e.response = (gotten b key).measured := hresponse
    have hstatus : e.response.status = 200 ∨ e.response.status = 404 := by
      rw [hgotten, gotten]
      cases b.get? key with
      | none => exact .inr rfl
      | some data => exact .inl rfl
    exact {
      refused_iff := iff_of_false (by omega) (not_not.mpr ⟨key, hkey⟩)
      found := fun key' data hkey' hdata => by
        obtain rfl := Params.eq_of_names hkey hkey'
        rw [hgotten, gotten, hdata]
      missing := fun key' hkey' hnone => by
        obtain rfl := Params.eq_of_names hkey hkey'
        rw [hgotten, gotten, hnone]
        rfl
      kept := hstate }

end Memory

end Router

end LogVault.Http
