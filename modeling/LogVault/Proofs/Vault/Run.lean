import LogVault.Proofs.Link.RoundTrip
import LogVault.Storage.Memory
import LogVault.Vault

/-!
# LogVault.Proofs.Vault.Run — what one operation does, and a run of many

The operations of a vault as data, so that a run is a list of calls. For each operation one equation
says everything it does: how it ends, what state it leaves and what it writes to the journal
(`run_upload` and its neighbours). Everything further on about runs is read off these equations, and
no operation is unfolded again.
-/

namespace LogVault

/-- The entries that tell why a link was refused. -/
def Issuer.Rejection.entries (r : Rejection) : List Event :=
  (r.note?.map (Event.note .debug)).toList

namespace Vault

variable {σ κ α β : Type}

/-! ## The phases -/

/-- An operation that was refused before it came to the store. -/
def refused (operation : Operation) (entries : List Event) (fault : Fault) (s : σ) : Outcome σ α :=
  ⟨.error fault, s, .reached operation .received :: (entries ++ [.failed operation fault])⟩

/-- The entries of an operation that comes to the store. -/
def underway (operation : Operation) : List Event :=
  [.reached operation .received, .reached operation .keyResolved,
    .reached operation .transferInFlight]

/-- An operation that came to the store, from what the store did. -/
def transferred (operation : Operation) (text : α → String) (answer : α → β)
    (o : Outcome σ α) : Outcome σ β :=
  match o.result with
  | .ok x =>
    ⟨.ok (answer x), o.state, underway operation ++
      (o.events ++ [.note .info (text x), .reached operation .completed])⟩
  | .error fault =>
    ⟨.error fault, o.state, underway operation ++ (o.events ++ [.failed operation fault])⟩

@[simp] theorem refused_result (operation : Operation) (entries : List Event) (fault : Fault)
    (s : σ) : (refused operation entries fault s : Outcome σ α).result = .error fault := rfl

@[simp] theorem refused_state (operation : Operation) (entries : List Event) (fault : Fault)
    (s : σ) : (refused operation entries fault s : Outcome σ α).state = s := rfl

@[simp] theorem transferred_result (operation : Operation) (text : α → String) (answer : α → β)
    (o : Outcome σ α) : (transferred operation text answer o).result = o.result.map answer := by
  unfold transferred
  split
  · next h => rw [h, Except.map]
  · next h => rw [h, Except.map]

@[simp] theorem transferred_state (operation : Operation) (text : α → String) (answer : α → β)
    (o : Outcome σ α) : (transferred operation text answer o).state = o.state := by
  unfold transferred
  split <;> rfl

/-- **The four operations that come to the store** have one course: a key is found, then something
is done at it. -/
def course (operation : Operation) (find : Action σ κ) (move : κ → Action σ α)
    (text : κ → α → String) (answer : κ → α → β) : Action σ β := do
  reach operation .received
  let key ← step operation find
  reach operation .keyResolved
  reach operation .transferInFlight
  let x ← step operation (move key)
  Action.note .info (text key x)
  reach operation .completed
  return answer key x

section Course

variable {operation : Operation} {find : Action σ κ} {move : κ → Action σ α}
  {text : κ → α → String} {answer : κ → α → β} {s : σ}

theorem run_course_of_error {fault : Fault} {entries : List Event}
    (h : find.run s = ⟨.error fault, s, entries⟩) :
    (course operation find move text answer).run s = refused operation entries fault s := by
  -- actions are functions of the state, so what the finding does can be put in its place
  change find s = _ at h
  simp only [course, step, reach, Action.run, bind, Action.bind, Action.onFault, Action.record, h]
  rfl

theorem run_course_of_ok {key : κ} (h : find.run s = ⟨.ok key, s, []⟩) :
    (course operation find move text answer).run s =
      transferred operation (text key) (answer key) ((move key).run s) := by
  change find s = _ at h
  cases hmove : (move key).run s with
  | mk result t events =>
    change move key s = _ at hmove
    cases result with
    | ok x =>
      simp only [course, step, reach, Action.run, bind, Action.bind, Action.onFault,
        Action.record, Action.note, h, hmove]
      rfl
    | error fault =>
      simp only [course, step, reach, Action.run, bind, Action.bind, Action.onFault,
        Action.record, h, hmove]
      rfl

end Course

/-! ## Each operation -/

section Operations

variable (v : Vault σ) (s : σ)

theorem run_upload (blob : BlobRef) (data : Bytes) :
    (v.upload blob data).run s =
      match blob.resolve with
      | .ok key =>
        transferred .upload (fun _ => transferNote "Uploaded" data.length "to" key "")
          (fun _ => key) ((v.store.put key data).run s)
      | .error fault => refused .upload [] fault s := by
  have hcourse : v.upload blob data =
      course .upload (Action.ofExcept blob.resolve) (v.store.put · data)
        (fun key _ => transferNote "Uploaded" data.length "to" key "") (fun key _ => key) := rfl
  rw [hcourse]
  split
  · next key h => exact run_course_of_ok (by rw [h]; rfl)
  · next fault h => exact run_course_of_error (by rw [h]; rfl)

theorem run_download (blob : BlobRef) :
    (v.download blob).run s =
      match blob.resolve with
      | .ok key =>
        transferred .download (fun data => transferNote "Downloaded" data.length "from" key "") id
          ((v.store.get key).run s)
      | .error fault => refused .download [] fault s := by
  have hcourse : v.download blob =
      course .download (Action.ofExcept blob.resolve) v.store.get
        (fun key data => transferNote "Downloaded" data.length "from" key "") (fun _ => id) := rfl
  rw [hcourse]
  split
  · next key h => exact run_course_of_ok (by rw [h]; rfl)
  · next fault h => exact run_course_of_error (by rw [h]; rfl)

theorem run_judging_error (r : Issuer.Rejection) :
    (Issuer.judging (.error r) : Action σ Claims).run s = ⟨.error r.fault, s, r.entries⟩ := by
  rw [Issuer.judging, Issuer.Rejection.entries]
  cases r.note? <;> rfl

theorem run_redeemUpload (query : String) (data : Bytes) (now : Instant) :
    (v.redeemUpload query data now).run s =
      match v.issuer.validateQuery query .upload now with
      | .ok claims =>
        transferred .redeemUpload
          (fun _ => transferNote "Uploaded" data.length "to" claims.key " via signed link")
          (fun _ => claims.key) ((v.store.put claims.key data).run s)
      | .error rejection => refused .redeemUpload rejection.entries rejection.fault s := by
  have hcourse : v.redeemUpload query data now =
      course .redeemUpload (Issuer.judging (v.issuer.validateQuery query .upload now))
        (fun claims => v.store.put claims.key data)
        (fun claims _ => transferNote "Uploaded" data.length "to" claims.key " via signed link")
        (fun claims _ => claims.key) := rfl
  rw [hcourse]
  split
  · next claims h => exact run_course_of_ok (by rw [h]; rfl)
  · next rejection h => exact run_course_of_error (by rw [h]; exact run_judging_error s rejection)

theorem run_redeemDownload (query : String) (now : Instant) :
    (v.redeemDownload query now).run s =
      match v.issuer.validateQuery query .download now with
      | .ok claims =>
        transferred .redeemDownload
          (fun data => transferNote "Downloaded" data.length "from" claims.key " via signed link")
          id ((v.store.get claims.key).run s)
      | .error rejection => refused .redeemDownload rejection.entries rejection.fault s := by
  have hcourse : v.redeemDownload query now =
      course .redeemDownload (Issuer.judging (v.issuer.validateQuery query .download now))
        (fun claims => v.store.get claims.key)
        (fun claims data =>
          transferNote "Downloaded" data.length "from" claims.key " via signed link")
        (fun _ => id) := rfl
  rw [hcourse]
  split
  · next claims h => exact run_course_of_ok (by rw [h]; rfl)
  · next rejection h => exact run_course_of_error (by rw [h]; exact run_judging_error s rejection)

/-- The link that is issued for a blob, whatever the store holds. -/
def linkFor (mode : Mode) (blob : BlobRef) (ttl : Option Duration) (now : Instant) :
    Except Fault SignedLink :=
  blob.resolve.bind fun key =>
    (v.issuer.issue key blob.snapshot mode (ttl.getD v.defaultTtl) now).mapError
      Issuer.TtlFlaw.fault

/-- The entries of an operation that issues a link, or fails to. -/
def linkEntries (mode : Mode) (blob : BlobRef) (ttl : Option Duration) (now : Instant) :
    List Event :=
  .reached (linkOperation mode) .received ::
    match blob.resolve with
    | .error fault => [.failed (linkOperation mode) fault]
    | .ok key =>
      .reached (linkOperation mode) .keyResolved ::
        match v.issuer.issue key blob.snapshot mode (ttl.getD v.defaultTtl) now with
        | .error flaw => [.failed (linkOperation mode) flaw.fault]
        | .ok link =>
          [.note .debug (Issuer.issuedNote link), .reached (linkOperation mode) .linkIssued,
            .note .info (linkNote link), .reached (linkOperation mode) .completed]

theorem run_link (mode : Mode) (blob : BlobRef) (ttl : Option Duration) (now : Instant) :
    (v.link mode blob ttl now).run s =
      ⟨v.linkFor mode blob ttl now, s, v.linkEntries mode blob ttl now⟩ := by
  unfold linkFor linkEntries
  cases hkey : blob.resolve with
  | error fault =>
    simp only [link, hkey]
    rfl
  | ok key =>
    cases hissue : v.issuer.issue key blob.snapshot mode (ttl.getD v.defaultTtl) now with
    | error flaw =>
      simp only [link, step, reach, Action.run, bind, Action.bind, Action.onFault,
        Action.ofExcept, Action.record, hkey, Issuer.issuing, hissue, Except.bind]
      rfl
    | ok link =>
      simp only [Vault.link, step, reach, Action.run, bind, Action.bind, Action.onFault,
        Action.ofExcept, Action.record, hkey, Issuer.issuing, hissue, Except.bind]
      rfl

end Operations

/-! ## Links -/

section Links

variable {v : Vault σ} {mode : Mode} {blob : BlobRef} {ttl : Option Duration} {now : Instant}
  {link : SignedLink}

/-- The payload under the signature of a link that was issued for a blob. -/
def payloadOf (blob : BlobRef) (link : SignedLink) : Payload :=
  ⟨link.key.text, blob.snapshot, link.mode, link.expires.millis⟩

/-- **A vault issues a link** for the key of its blob, and leaves the rest to its issuer. -/
theorem issue_of_linkFor (h : v.linkFor mode blob ttl now = .ok link) :
    blob.resolve = .ok link.key ∧
      v.issuer.issue link.key blob.snapshot mode (ttl.getD v.defaultTtl) now = .ok link := by
  obtain ⟨key, hkey, hissued⟩ := Except.exists_of_bind_eq_ok h
  have hissue := Except.eq_ok_of_mapError_eq_ok hissued
  obtain ⟨-, rfl, -⟩ := Issuer.of_issue hissue
  exact ⟨hkey, hissue⟩

/-- **A link that was issued** is for the key of its blob and for its mode, and expires at a whole
millisecond. -/
theorem of_linkFor (h : v.linkFor mode blob ttl now = .ok link) :
    blob.resolve = .ok link.key ∧ link.mode = mode ∧
      Instant.ofMillis? link.expires.millis = some link.expires ∧
      link.url = v.issuer.urlOf (payloadOf blob link) := by
  obtain ⟨hkey, hissue⟩ := issue_of_linkFor h
  obtain ⟨-, -, rfl, hmillis, hurl⟩ := Issuer.of_issue hissue
  exact ⟨hkey, rfl, hmillis, hurl⟩

theorem read?_query_of_linkFor (hbase : v.issuer.HasBase)
    (h : v.linkFor mode blob ttl now = .ok link) :
    LinkQuery.read? link.query = some (v.issuer.queryOf (payloadOf blob link)) := by
  obtain ⟨-, -, hmillis, hurl⟩ := of_linkFor h
  have hfits : (v.issuer.queryOf (payloadOf blob link)).ExpiryFits :=
    Instant.expiryFits_of_ofMillis? hmillis
  rw [Issuer.query_of_url_eq hbase hurl, LinkQuery.read?_write hfits]

/-- **Checking the query of an issued link** looks at the mode, then at the clock. -/
theorem validateQuery_of_linkFor (hbase : v.issuer.HasBase)
    (h : v.linkFor mode blob ttl now = .ok link) (requested : Mode) (t : Instant) :
    v.issuer.validateQuery link.query requested t =
      if mode = requested then
        if link.expires < t then .error (.expired link.key.text link.expires)
        else .ok ⟨link.key, blob.snapshot, mode, link.expires⟩
      else .error (.otherMode mode requested) := by
  exact Issuer.validateQuery_of_issue hbase rfl (issue_of_linkFor h).2 requested t

end Links

/-! ## Runs -/

/-- **A call** of one of the operations. Issuing a link to write and issuing one to read are one
call with two modes. -/
inductive Call where
  | upload (blob : BlobRef) (data : Bytes)
  | download (blob : BlobRef)
  | link (mode : Mode) (blob : BlobRef) (ttl : Option Duration) (now : Instant)
  | redeemUpload (query : String) (data : Bytes) (now : Instant)
  | redeemDownload (query : String) (now : Instant)
  deriving DecidableEq

/-- What a call is answered with. -/
inductive Answer where
  | stored (key : StorageKey)
  | content (data : Bytes)
  | issued (link : SignedLink)
  deriving DecidableEq

/-- **What a call does.** -/
def perform (v : Vault σ) : Call → Action σ Answer
  | .upload blob data => Answer.stored <$> v.upload blob data
  | .download blob => Answer.content <$> v.download blob
  | .link mode blob ttl now => Answer.issued <$> v.link mode blob ttl now
  | .redeemUpload query data now => Answer.stored <$> v.redeemUpload query data now
  | .redeemDownload query now => Answer.content <$> v.redeemDownload query now

/-- How a call ends in a state. -/
def outcome (v : Vault σ) (s : σ) (call : Call) : Outcome σ Answer := (v.perform call).run s

theorem result_link (v : Vault σ) (s : σ) (mode : Mode) (blob : BlobRef) (ttl : Option Duration)
    (now : Instant) :
    (v.outcome s (.link mode blob ttl now)).result = (v.linkFor mode blob ttl now).map .issued := by
  rw [outcome, perform, Action.run_map, run_link, Outcome.map_result]

/-- **The state after a run** of calls. -/
def stateAfter (v : Vault σ) (s : σ) (calls : List Call) : σ :=
  calls.foldl (fun s call => (v.outcome s call).state) s

/-- **Something holds throughout a run**: of each call, given the calls before it. -/
def Throughout (P : List Call → Call → Prop) (calls : List Call) : Prop :=
  ∀ before call after, calls = before ++ call :: after → P before call

section Throughout

variable {P : List Call → Call → Prop} {calls : List Call}

theorem throughout_nil : Throughout P [] := by
  intro before call after h
  simp at h

theorem throughout_concat {call : Call} (h : Throughout P calls) (hcall : P calls call) :
    Throughout P (calls ++ [call]) := by
  intro before other after hsplit
  -- the call is the last one, or the split is one of the calls before it
  rcases List.eq_nil_or_concat after with rfl | ⟨rest, last, rfl⟩
  · obtain ⟨rfl, hlast⟩ := List.append_inj' hsplit rfl
    obtain rfl := List.singleton_inj.mp hlast
    exact hcall
  · rw [List.concat_eq_append, ← List.cons_append, ← List.append_assoc] at hsplit
    exact h before other rest (List.append_inj' hsplit rfl).1

theorem throughout_front {rest : List Call} (h : Throughout P (calls ++ rest)) :
    Throughout P calls := by
  intro before call after hsplit
  refine h before call (after ++ rest) ?_
  rw [hsplit, List.append_assoc, List.cons_append]

end Throughout

/-- A call is answered with a link for a blob. -/
def Issues (v : Vault σ) (call : Call) (blob : BlobRef) (link : SignedLink) : Prop :=
  ∃ mode ttl now, call = .link mode blob ttl now ∧ v.linkFor mode blob ttl now = .ok link

/-- What a call redeems: the mode and the query, and the clock's reading. -/
def Call.redemption? : Call → Option (Mode × String × Instant)
  | .redeemUpload query _ now => some (.upload, query, now)
  | .redeemDownload query now => some (.download, query, now)
  | _ => none

theorem stateAfter_concat (v : Vault σ) (s : σ) (calls : List Call) (call : Call) :
    v.stateAfter s (calls ++ [call]) = (v.outcome (v.stateAfter s calls) call).state := by
  rw [stateAfter, List.foldl_append]
  rfl

/-! ## A vault in memory -/

/-- The vault over blobs in memory. -/
def inMemory (issuer : Issuer) (defaultTtl : Duration) : Vault Blobs :=
  ⟨Blobs.backend, issuer, defaultTtl⟩

/-- An issuer under `https://logs.example`. -/
def sampleIssuer : Issuer where
  secret := [1, 2, 3]
  base := ⟨"https".toList, some ⟨[], "logs.example".toList, none⟩, false,
    .segments ["blob".toList, "signed".toList], none⟩
  maxTtl := .ofSeconds 3600
  ephemeral := false

theorem hasBase_sampleIssuer : sampleIssuer.HasBase := ⟨"https://logs.example", rfl⟩

/-- A snapshot of a log. -/
def sampleBlob : BlobRef := ⟨"acme", "app.log", some "2024-05"⟩

/-- A link to write it in the first ten minutes of 1970. -/
def sampleLink : SignedLink where
  url := sampleIssuer.urlOf ⟨"acme/app.log@2024-05", some "2024-05", .upload, 600000⟩
  mode := .upload
  expires := ⟨600, 0, by decide, by decide, by decide⟩
  key := ⟨"acme/app.log@2024-05"⟩

theorem linkFor_sampleBlob :
    (inMemory sampleIssuer (.ofSeconds 600)).linkFor .upload sampleBlob none .zero =
      .ok sampleLink := rfl

theorem validateQuery_sampleLink_upload :
    sampleIssuer.validateQuery sampleLink.query .upload .zero =
      .ok ⟨sampleLink.key, sampleBlob.snapshot, .upload, sampleLink.expires⟩ := by
  have hchecked := validateQuery_of_linkFor hasBase_sampleIssuer linkFor_sampleBlob .upload .zero
  have hclock : ¬ sampleLink.expires < .zero := by decide
  rw [if_pos rfl, if_neg hclock] at hchecked
  exact hchecked

theorem validateQuery_sampleLink_download :
    sampleIssuer.validateQuery sampleLink.query .download .zero =
      .error (.otherMode .upload .download) := by
  have hchecked := validateQuery_of_linkFor hasBase_sampleIssuer linkFor_sampleBlob .download .zero
  rw [if_neg (by decide)] at hchecked
  exact hchecked

end Vault

end LogVault
