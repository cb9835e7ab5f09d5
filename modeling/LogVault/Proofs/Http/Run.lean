import LogVault.Http.Router
import LogVault.Proofs.Vault.Run
import Mathlib.Data.List.Basic

/-!
# LogVault.Proofs.Http.Run — what one request does, and a run of many

Whatever a request says, its answer is settled without the store, or it is the answer to putting one
blob, or to getting one. Which of these it is (`need`) is up to the issuer, the limit for bodies,
the clock and the request; the store has no part in it, and only then says how the putting or
getting ends (`seen_answer`). So all refusals are made before the store is touched. Everything
further on about requests is read off `need`, and no handler is unfolded again.
-/

namespace LogVault

/-! ## Faults -/

/-- No fault is answered with success. -/
theorem Fault.status_ne_ok (fault : Fault) : fault.status ≠ 200 := by
  cases fault <;> exact Nat.ne_of_beq_eq_false rfl

/-! ## Actions up to the journal -/

namespace Action

variable {σ α β γ : Type}

/-- **Two actions are alike** when they end in the same way and leave the same state, whatever they
write to the journal. -/
def Alike (a b : Action σ α) : Prop :=
  ∀ s, (a.run s).result = (b.run s).result ∧ (a.run s).state = (b.run s).state

/-- What is known before an action runs can be known before another one that is like it. -/
theorem alike_bind {x : Except Fault α} {f : α → Action σ γ} {g : α → Except Fault β}
    {h : β → Action σ γ} (hf : ∀ y, Alike (f y) (ofExcept (g y) >>= h)) :
    Alike (ofExcept x >>= f) (ofExcept (x >>= g) >>= h) := by
  intro s
  cases x with
  | error fault => exact ⟨rfl, rfl⟩
  | ok y => exact hf y s

/-- A note changes nothing else. -/
theorem alike_note {level : Level} {message : String} {a b : Action σ α} (h : Alike a b) :
    Alike (note level message >>= fun _ => a) b := fun s => h s

end Action

/-! ## Where requests lead -/

namespace Http

/-- The path of a route. -/
def Route.path : Route → List Char
  | .blob => "/blob".toList
  | .link .upload => "/blob/link/upload".toList
  | .link .download => "/blob/link/download".toList
  | .signed => "/blob/signed".toList
  | .health => "/healthz".toList

theorem Route.ofPath?_eq_some_iff {path : List Char} {route : Route} :
    ofPath? path = some route ↔ path = route.path := by
  constructor
  · intro h
    unfold ofPath? at h
    split_ifs at h with hpath hpath hpath hpath hpath <;> cases h <;> exact hpath
  · rintro rfl
    cases route with
    | link mode => cases mode <;> rfl
    | _ => rfl

/-- The route of an endpoint. -/
def Endpoint.route : Endpoint → Route
  | .upload => .blob
  | .download => .blob
  | .link mode => .link mode
  | .redeemUpload => .signed
  | .redeemDownload => .signed
  | .health => .health

/-- The methods of an endpoint. -/
def Endpoint.methods : Endpoint → List String
  | .upload => ["POST"]
  | .link _ => ["POST"]
  | .redeemUpload => ["PUT"]
  | _ => ["GET", "HEAD"]

theorem Endpoint.of?_eq_some_iff {route : Route} {method : String} {endpoint : Endpoint} :
    of? route method = some endpoint ↔ route = endpoint.route ∧ method ∈ endpoint.methods := by
  have hreads : ∀ {m : String}, m = "GET" ∨ m = "HEAD" → m ∈ ["GET", "HEAD"] := List.mem_pair.mpr
  constructor
  · intro h
    cases route with
    | blob =>
      simp only [of?] at h
      split at h
      · next hget =>
        cases h
        exact ⟨rfl, hreads hget⟩
      · split at h
        · next hpost =>
          cases h
          exact ⟨rfl, List.mem_singleton.mpr hpost⟩
        · cases h
    | link mode =>
      simp only [of?] at h
      split at h
      · next hpost =>
        cases h
        exact ⟨rfl, List.mem_singleton.mpr hpost⟩
      · cases h
    | signed =>
      simp only [of?] at h
      split at h
      · next hget =>
        cases h
        exact ⟨rfl, hreads hget⟩
      · split at h
        · next hput =>
          cases h
          exact ⟨rfl, List.mem_singleton.mpr hput⟩
        · cases h
    | health =>
      simp only [of?] at h
      split at h
      · next hget =>
        cases h
        exact ⟨rfl, hreads hget⟩
      · cases h
  · rintro ⟨rfl, hmethod⟩
    cases endpoint with
    | upload | link | redeemUpload =>
      rw [List.mem_singleton.mp hmethod]
      rfl
    | download | redeemDownload | health => rcases List.mem_pair.mp hmethod with rfl | rfl <;> rfl

/-- **A request leads to an endpoint**, by its path and its method. -/
structure Request.LeadsTo (r : Request) (endpoint : Endpoint) : Prop where
  path : r.target.path = endpoint.route.path
  method : r.method ∈ endpoint.methods

theorem Request.LeadsTo.of? {r : Request} {endpoint : Endpoint} (h : r.LeadsTo endpoint) :
    Route.ofPath? r.target.path = some endpoint.route ∧
      Endpoint.of? endpoint.route r.method = some endpoint :=
  ⟨Route.ofPath?_eq_some_iff.mpr h.path, Endpoint.of?_eq_some_iff.mpr ⟨rfl, h.method⟩⟩

end Http

namespace Http.Router

open LogVault.Action (Alike alike_bind alike_note ofExcept)

variable {σ : Type}

/-! ## What a request needs of the store -/

/-- **What a request needs of the store**: nothing, because its answer is settled, or one blob to be
put, or one to be got. -/
inductive Need where
  | nothing (response : Response)
  | put (key : StorageKey) (data : Bytes)
  | get (key : StorageKey)

/-- The key that is to be put or got. -/
def Need.key? : Need → Option StorageKey
  | .nothing _ => none
  | .put key _ => some key
  | .get key => some key

/-- The parameters of a request, as far as they can be read. -/
def readParams (r : Request) : Except Fault Params :=
  (Params.ofQuery (queryText r)).mapError Params.Repeated.fault

/-- **What an endpoint needs of the store**, or the fault for which it never comes to it. -/
def needed (v : Vault σ) (limit : Nat) (now : Instant) (r : Request) : Endpoint → Except Fault Need
  | .upload => do
    let p ← readParams r
    let data ← r.body.take limit
    let blob ← p.blobRef
    let key ← blob.resolve
    return .put key data
  | .download => do
    let p ← readParams r
    let blob ← p.blobRef
    let key ← blob.resolve
    return .get key
  | .link mode => do
    let p ← readParams r
    let blob ← p.blobRef
    let link ← v.linkFor mode blob none now
    return .nothing (.document 200 link.document)
  | .redeemUpload => do
    let data ← r.body.take limit
    let claims ← (v.issuer.validateQuery (queryText r) .upload now).mapError Issuer.Rejection.fault
    return .put claims.key data
  | .redeemDownload => do
    let claims ←
      (v.issuer.validateQuery (queryText r) .download now).mapError Issuer.Rejection.fault
    return .get claims.key
  | .health => return .nothing (.document 200 (healthDocument "ok" now.reportText v.store.name))

/-- Giving a request what it needs. -/
def Need.meet (store : Backend σ) : Need → Action σ Response
  | .nothing response => pure response
  | .put key data => (fun _ => .document 200 (receipt key data.length)) <$> store.put key data
  | .get key => .blob 200 <$> store.get key

section Handle

variable (v : Vault σ) (limit : Nat) (now : Instant) (r : Request)

theorem params_eq : (params r : Action σ Params) = ofExcept (readParams r) := by
  unfold params readParams
  cases Params.ofQuery (queryText r) <;> rfl

/-- An operation that comes to the store ends as the store's own part in it does. -/
theorem alike_transferred {κ α β : Type} {found : Except Fault κ} {a : Action σ β}
    {move : κ → Action σ α} {operation : Operation} {text : κ → α → String} {answer : κ → α → β}
    {respond : β → Response} {need : κ → Need} {store : Backend σ}
    (herror : ∀ fault, found = .error fault → ∀ s, ∃ entries,
      a.run s = Vault.refused operation entries fault s)
    (hok : ∀ key, found = .ok key → ∀ s,
      a.run s = Vault.transferred operation (text key) (answer key) ((move key).run s))
    (hneed : ∀ key, (need key).meet store = (fun x => respond (answer key x)) <$> move key) :
    Alike (respond <$> a)
      (ofExcept (found >>= fun key => pure (need key)) >>= Need.meet store) := by
  intro s
  cases found with
  | error fault =>
    obtain ⟨entries, hrun⟩ := herror fault rfl s
    rw [Action.run_map, hrun]
    exact ⟨rfl, rfl⟩
  | ok key =>
    have hmeet :
        (ofExcept (Except.ok key >>= fun key => pure (need key)) >>= Need.meet store).run s =
          ((need key).meet store).run s := rfl
    rw [hmeet, hneed, Action.run_map, Action.run_map, hok key rfl s]
    simp only [Outcome.map_result, Outcome.map_state, Vault.transferred_result,
      Vault.transferred_state, and_true]
    cases ((move key).run s).result <;> rfl

/-- A link is issued or not, whatever the store holds. -/
theorem alike_link {v : Vault σ} {mode : Mode} {blob : BlobRef} {ttl : Option Duration}
    {now : Instant} {respond : SignedLink → Response} {store : Backend σ} :
    Alike (respond <$> v.link mode blob ttl now)
      (ofExcept (v.linkFor mode blob ttl now >>= fun link => pure (.nothing (respond link))) >>=
        Need.meet store) := by
  intro s
  rw [Action.run_map, Vault.run_link]
  cases v.linkFor mode blob ttl now <;> exact ⟨rfl, rfl⟩

/-- **A request comes down to what it needs**: it ends as the store's part in it does, and leaves
the state that the store leaves. -/
theorem alike_handle (endpoint : Endpoint) :
    Alike (handle v limit now r endpoint)
      (ofExcept (needed v limit now r endpoint) >>= Need.meet v.store) := by
  cases endpoint with
  | upload =>
    rw [handle, params_eq]
    refine alike_bind fun p => alike_bind fun data => alike_bind fun blob => ?_
    exact alike_transferred
      (fun fault h s => ⟨[], by rw [Vault.run_upload, h]⟩)
      (fun key h s => by rw [Vault.run_upload, h])
      (fun key => rfl)
  | download =>
    rw [handle, params_eq]
    refine alike_bind fun p => alike_bind fun blob => ?_
    exact alike_transferred
      (fun fault h s => ⟨[], by rw [Vault.run_download, h]⟩)
      (fun key h s => by rw [Vault.run_download, h]; rfl)
      (fun key => rfl)
  | link mode =>
    rw [handle, params_eq]
    exact alike_bind fun p => alike_bind fun blob => alike_link
  | redeemUpload =>
    rw [handle]
    refine alike_note (alike_bind fun data => ?_)
    exact alike_transferred
      (fun fault h s => by
        obtain ⟨rejection, hrejection, rfl⟩ := Except.exists_of_mapError_eq_error h
        exact ⟨rejection.entries, by rw [Vault.run_redeemUpload, hrejection]⟩)
      (fun claims h s => by
        rw [Vault.run_redeemUpload, Except.eq_ok_of_mapError_eq_ok h])
      (fun claims => rfl)
  | redeemDownload =>
    rw [handle]
    refine alike_note ?_
    exact alike_transferred
      (fun fault h s => by
        obtain ⟨rejection, hrejection, rfl⟩ := Except.exists_of_mapError_eq_error h
        exact ⟨rejection.entries, by rw [Vault.run_redeemDownload, hrejection]⟩)
      (fun claims h s => by
        rw [Vault.run_redeemDownload, Except.eq_ok_of_mapError_eq_ok h]; rfl)
      (fun claims => rfl)
  | health => exact fun s => ⟨rfl, rfl⟩

end Handle

/-! ## Answers -/

/-- What is seen of an exchange from outside: the answer, and the state that is left. -/
def Exchange.seen (e : Exchange σ) : Response × σ := (e.response, e.state)

/-- What is seen of a request that is answered with the outcome of an action. -/
def settle (method : String) (o : Outcome σ Response) : Response × σ :=
  (sent method (Exchange.ofOutcome o).response, o.state)

/-- What a request needs that may have been refused. A settled answer is put down as it is sent. -/
def Need.ofNeeded (method : String) : Except Fault Need → Need
  | .error fault => .nothing (sent method (.ofFault fault))
  | .ok (.nothing response) => .nothing (sent method response)
  | .ok need => need

/-- **What a request needs of the store.** -/
def need (v : Vault σ) (limit : Nat) (now : Instant) (r : Request) : Need :=
  match Route.ofPath? r.target.path with
  | none => .nothing notFound
  | some route =>
    match Endpoint.of? route r.method with
    | none => .nothing (sent r.method (notAllowed route))
    | some endpoint => .ofNeeded r.method (needed v limit now r endpoint)

/-- What is seen of a request that needs this of the store. -/
def Need.reply (store : Backend σ) (method : String) (s : σ) : Need → Response × σ
  | .nothing response => (response, s)
  | need => settle method ((need.meet store).run s)

/-- Outcomes that differ in the journal alone are answered alike. -/
theorem settle_eq_of_alike {method : String} {a b : Action σ Response} (h : Alike a b) (s : σ) :
    settle method (a.run s) = settle method (b.run s) := by
  obtain ⟨hresult, hstate⟩ := h s
  unfold settle Exchange.ofOutcome
  rw [hresult, hstate]
  cases (b.run s).result <;> rfl

theorem settle_needed (store : Backend σ) (method : String) (s : σ) (needed : Except Fault Need) :
    settle method ((ofExcept needed >>= Need.meet store).run s) =
      (Need.ofNeeded method needed).reply store method s := by
  cases needed with
  | error fault => rfl
  | ok need => cases need <;> rfl

section Answer

variable (v : Vault σ) (limit : Nat) (now : Instant) (r : Request) (s : σ)

theorem seen_of_endpoint {route : Route} {endpoint : Endpoint}
    (hroute : Route.ofPath? r.target.path = some route)
    (hendpoint : Endpoint.of? route r.method = some endpoint) :
    (answer v limit now r s).seen = settle r.method ((handle v limit now r endpoint).run s) := by
  unfold answer settle Exchange.seen Exchange.ofOutcome
  simp only [hroute, hendpoint]
  cases ((handle v limit now r endpoint).run s).result <;> rfl

/-- **The answer to a request** is settled, or is the store's answer to what the request needs. -/
theorem seen_answer :
    (answer v limit now r s).seen = (need v limit now r).reply v.store r.method s := by
  cases hroute : Route.ofPath? r.target.path with
  | none =>
    simp only [answer, need, hroute]
    rfl
  | some route =>
    cases hendpoint : Endpoint.of? route r.method with
    | none =>
      simp only [answer, need, hroute, hendpoint]
      rfl
    | some endpoint =>
      rw [seen_of_endpoint v limit now r s hroute hendpoint,
        settle_eq_of_alike (alike_handle v limit now r endpoint), settle_needed]
      simp only [need, hroute, hendpoint]

end Answer

/-! ## Where a request's need comes from -/

section Need

variable {v : Vault σ} {limit : Nat} {now : Instant} {r : Request} {endpoint : Endpoint}

theorem need_of_leadsTo (h : r.LeadsTo endpoint) :
    need v limit now r = .ofNeeded r.method (needed v limit now r endpoint) := by
  obtain ⟨hroute, hendpoint⟩ := h.of?
  simp only [need, hroute, hendpoint]

@[simp] theorem status_sent (method : String) (response : Response) :
    (sent method response).status = response.status := by
  unfold sent
  split <;> rfl

/-- A request that leads nowhere needs nothing, and is not answered with success. -/
theorem leadsTo_or (v : Vault σ) (limit : Nat) (now : Instant) (r : Request) :
    (∃ endpoint, r.LeadsTo endpoint) ∨
      ∃ response, need v limit now r = .nothing response ∧ response.status ≠ 200 := by
  cases hroute : Route.ofPath? r.target.path with
  | none =>
    refine .inr ⟨notFound, ?_, by decide⟩
    simp only [need, hroute]
  | some route =>
    cases hendpoint : Endpoint.of? route r.method with
    | none =>
      refine .inr ⟨sent r.method (notAllowed route), ?_, ?_⟩
      · simp only [need, hroute, hendpoint]
      · rw [status_sent]
        exact Nat.ne_of_beq_eq_false rfl
    | some endpoint =>
      obtain ⟨rfl, hmethod⟩ := Endpoint.of?_eq_some_iff.mp hendpoint
      exact .inl ⟨endpoint, Route.ofPath?_eq_some_iff.mp hroute, hmethod⟩

/-- **What comes to the store** has led to an endpoint and was not refused there. -/
theorem exists_endpoint_of_need {key : StorageKey} (h : (need v limit now r).key? = some key) :
    ∃ endpoint, r.LeadsTo endpoint ∧ needed v limit now r endpoint = .ok (need v limit now r) := by
  rcases leadsTo_or v limit now r with ⟨endpoint, hleads⟩ | ⟨response, hneed, -⟩
  · refine ⟨endpoint, hleads, ?_⟩
    rw [need_of_leadsTo hleads] at h ⊢
    cases hneeded : needed v limit now r endpoint with
    | error fault =>
      rw [hneeded] at h
      cases h
    | ok need =>
      rw [hneeded] at h
      cases need with
      | nothing response => cases h
      | put key data => rfl
      | get key => rfl
  · rw [hneed] at h
    cases h

/-- The blob that the parameters of a request name. -/
def readBlob (r : Request) : Except Fault BlobRef := readParams r >>= Params.blobRef

/-- **What a request has got right that is not refused**, and what it needs then. -/
theorem of_needed {need : Need} (h : needed v limit now r endpoint = .ok need) :
    match endpoint with
    | .upload => ∃ blob key, readBlob r = .ok blob ∧ blob.resolve = .ok key ∧
        r.body.take limit = .ok r.body.octets ∧ need = .put key r.body.octets
    | .download => ∃ blob key, readBlob r = .ok blob ∧ blob.resolve = .ok key ∧ need = .get key
    | .link mode => ∃ blob link, readBlob r = .ok blob ∧ v.linkFor mode blob none now = .ok link ∧
        need = .nothing (.document 200 link.document)
    | .redeemUpload => ∃ claims, v.issuer.validateQuery (queryText r) .upload now = .ok claims ∧
        r.body.take limit = .ok r.body.octets ∧ need = .put claims.key r.body.octets
    | .redeemDownload => ∃ claims,
        v.issuer.validateQuery (queryText r) .download now = .ok claims ∧ need = .get claims.key
    | .health => ∃ document, need = .nothing (.document 200 document) := by
  have hread : ∀ {p blob}, readParams r = .ok p → p.blobRef = .ok blob →
      readBlob r = .ok blob := fun hp hblob => by
    rw [readBlob, hp]
    exact hblob
  cases endpoint with
  | upload =>
    obtain ⟨p, hp, h⟩ := Except.exists_of_bind_eq_ok h
    obtain ⟨data, hdata, h⟩ := Except.exists_of_bind_eq_ok h
    obtain ⟨blob, hblob, h⟩ := Except.exists_of_bind_eq_ok h
    obtain ⟨key, hkey, h⟩ := Except.exists_of_bind_eq_ok h
    obtain ⟨rfl, -⟩ := Body.take_eq_ok_iff.mp hdata
    exact ⟨blob, key, hread hp hblob, hkey, hdata, (Except.ok.inj h).symm⟩
  | download =>
    obtain ⟨p, hp, h⟩ := Except.exists_of_bind_eq_ok h
    obtain ⟨blob, hblob, h⟩ := Except.exists_of_bind_eq_ok h
    obtain ⟨key, hkey, h⟩ := Except.exists_of_bind_eq_ok h
    exact ⟨blob, key, hread hp hblob, hkey, (Except.ok.inj h).symm⟩
  | link mode =>
    obtain ⟨p, hp, h⟩ := Except.exists_of_bind_eq_ok h
    obtain ⟨blob, hblob, h⟩ := Except.exists_of_bind_eq_ok h
    obtain ⟨link, hlink, h⟩ := Except.exists_of_bind_eq_ok h
    exact ⟨blob, link, hread hp hblob, hlink, (Except.ok.inj h).symm⟩
  | redeemUpload =>
    obtain ⟨data, hdata, h⟩ := Except.exists_of_bind_eq_ok h
    obtain ⟨claims, hclaims, h⟩ := Except.exists_of_bind_eq_ok h
    obtain ⟨rfl, -⟩ := Body.take_eq_ok_iff.mp hdata
    exact ⟨claims, Except.eq_ok_of_mapError_eq_ok hclaims, hdata, (Except.ok.inj h).symm⟩
  | redeemDownload =>
    obtain ⟨claims, hclaims, h⟩ := Except.exists_of_bind_eq_ok h
    exact ⟨claims, Except.eq_ok_of_mapError_eq_ok hclaims, (Except.ok.inj h).symm⟩
  | health => exact ⟨_, (Except.ok.inj h).symm⟩

end Need

/-! ## In memory -/

/-- The answer to getting a blob from memory. -/
def gotten (b : Blobs) (key : StorageKey) : Response :=
  match b.get? key with
  | some data => .blob 200 data
  | none => .ofFault (Backend.missing key)

/-- What is seen of a request to a vault in memory that needs this of it. -/
def Need.inMemory (method : String) (b : Blobs) : Need → Response × Blobs
  | .nothing response => (response, b)
  | .put key data => (sent method (.document 200 (receipt key data.length)), b.insert key data)
  | .get key => (sent method (gotten b key), b)

theorem settle_get (method : String) (b : Blobs) (key : StorageKey) :
    settle method ((Response.blob 200 <$> Blobs.backend.get key).run b) =
      (sent method (gotten b key), b) := by
  have hget : (Blobs.backend.get key).run b =
      match b.get? key with
      | some data => ⟨.ok data, b, []⟩
      | none => ⟨.error (Backend.missing key), b, []⟩ := rfl
  rw [Action.run_map, hget, gotten]
  cases b.get? key <;> rfl

theorem seen_inMemory (issuer : Issuer) (ttl : Duration) (limit : Nat) (now : Instant) (r : Request)
    (b : Blobs) :
    (answer (Vault.inMemory issuer ttl) limit now r b).seen =
      (need (Vault.inMemory issuer ttl) limit now r).inMemory r.method b := by
  rw [seen_answer]
  cases need (Vault.inMemory issuer ttl) limit now r with
  | nothing response => rfl
  | put key data => rfl
  | get key => exact settle_get r.method b key

/-! ## Runs -/

/-- **The exchanges of a run**: each request, at its instant, with its answer. -/
def exchanges (v : Vault σ) (limit : Nat) : σ → List (Instant × Request) →
    List ((Instant × Request) × Response)
  | _, [] => []
  | s, (now, r) :: rest =>
    ((now, r), (answer v limit now r s).response) ::
      exchanges v limit (answer v limit now r s).state rest

/-- **The state after a run.** -/
def stateAfter (v : Vault σ) (limit : Nat) (s : σ) (run : List (Instant × Request)) : σ :=
  run.foldl (fun s asked => (answer v limit asked.1 asked.2 s).state) s

end Http.Router

end LogVault
