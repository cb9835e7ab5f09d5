import LogVault.Proofs.Link.Payload
import LogVault.Proofs.Link.RoundTrip
import LogVault.Proofs.Storage.Access
import LogVault.Proofs.Storage.Key
import LogVault.Proofs.Vault.Run

/-!
# LogVault.Proofs.Vault.Redemption — no key reaches the store unbuilt

A redemption takes its storage key from the query that its caller sends, and nothing checks that key
again. It is safe because of the signature: if no caller can sign, a query that is accepted carries
a payload that a link call of the same run signed, the signed octets determine the payload, and so
key, snapshot, mode and expiry are those of that call (`redemption_sound`).

What the store is asked for is seen by watching it: `Backend.watched` keeps a record of the
accesses, and watching changes nothing else (`outcome_watched`).
-/

namespace LogVault

/-! ## Watching a store -/

namespace Backend

variable {σ α : Type}

/-- An action of a store, with a record of one access. -/
def watch (access : Access) (a : Action σ α) : Action (σ × List Access) α := fun s =>
  let o := a.run s.1
  ⟨o.result, (o.state, s.2 ++ [access]), o.events⟩

/-- **A store that is watched.** -/
def watched (b : Backend σ) : Backend (σ × List Access) where
  name := b.name
  put key data := watch (.put key data) (b.put key data)
  get key := watch (.get key) (b.get key)

end Backend

namespace Vault

variable {σ : Type}

/-- The vault over its store while that is watched. -/
def watched (v : Vault σ) : Vault (σ × List Access) := ⟨v.store.watched, v.issuer, v.defaultTtl⟩

/-- The accesses that a call asks for. -/
def handed (v : Vault σ) : Call → List Access
  | .upload blob data =>
    match blob.resolve with
    | .ok key => [.put key data]
    | .error _ => []
  | .download blob =>
    match blob.resolve with
    | .ok key => [.get key]
    | .error _ => []
  | .link _ _ _ _ => []
  | .redeemUpload query data now =>
    match v.issuer.validateQuery query .upload now with
    | .ok claims => [.put claims.key data]
    | .error _ => []
  | .redeemDownload query now =>
    match v.issuer.validateQuery query .download now with
    | .ok claims => [.get claims.key]
    | .error _ => []

/-- An outcome over a watched store, from the outcome over the store. -/
def withAccesses {α : Type} (seen : List Access) (o : Outcome σ α) : Outcome (σ × List Access) α :=
  ⟨o.result, (o.state, seen), o.events⟩

theorem transferred_watch {α β : Type} (operation : Operation) (text : α → String)
    (answer : α → β) (access : Access) (a : Action σ α) (s : σ) (seen : List Access) :
    transferred operation text answer ((Backend.watch access a).run (s, seen)) =
      withAccesses (seen ++ [access]) (transferred operation text answer (a.run s)) := by
  show transferred operation text answer
    ⟨(a.run s).result, ((a.run s).state, seen ++ [access]), (a.run s).events⟩ = _
  unfold transferred
  cases (a.run s).result <;> rfl

/-- **Watching changes nothing**: a call over the watched store ends as it would, and leaves the
same state with its accesses on record. -/
theorem outcome_watched (v : Vault σ) (s : σ) (seen : List Access) (call : Call) :
    v.watched.outcome (s, seen) call = withAccesses (seen ++ v.handed call) (v.outcome s call) := by
  cases call with
  | upload blob data =>
    simp only [outcome, perform, Action.run_map, run_upload, handed]
    cases blob.resolve with
    | ok key => exact congrArg (Outcome.map _) (transferred_watch ..)
    | error fault => rw [List.append_nil]; rfl
  | download blob =>
    simp only [outcome, perform, Action.run_map, run_download, handed]
    cases blob.resolve with
    | ok key => exact congrArg (Outcome.map _) (transferred_watch ..)
    | error fault => rw [List.append_nil]; rfl
  | link mode blob ttl now =>
    simp only [outcome, perform, Action.run_map, run_link, handed, List.append_nil]
    rfl
  | redeemUpload query data now =>
    simp only [outcome, perform, Action.run_map, run_redeemUpload, handed, watched]
    cases v.issuer.validateQuery query .upload now with
    | ok claims => exact congrArg (Outcome.map _) (transferred_watch ..)
    | error rejection => rw [List.append_nil]; rfl
  | redeemDownload query now =>
    simp only [outcome, perform, Action.run_map, run_redeemDownload, handed, watched]
    cases v.issuer.validateQuery query .download now with
    | ok claims => exact congrArg (Outcome.map _) (transferred_watch ..)
    | error rejection => rw [List.append_nil]; rfl

/-- Over a run the record holds the accesses of its calls, in order. -/
theorem stateAfter_watched (v : Vault σ) (s : σ) (seen : List Access) (calls : List Call) :
    v.watched.stateAfter (s, seen) calls =
      (v.stateAfter s calls, seen ++ calls.flatMap v.handed) := by
  induction calls generalizing s seen with
  | nil => simp [stateAfter]
  | cons call calls ih =>
    show v.watched.stateAfter (v.watched.outcome (s, seen) call).state calls = _
    rw [outcome_watched]
    show v.watched.stateAfter ((v.outcome s call).state, seen ++ v.handed call) calls = _
    rw [ih, List.append_assoc, List.flatMap_cons]
    rfl

/-! ## Signing and redeeming -/

/-- **Nobody forges signatures in a run**: what a redemption presents is only accepted as the
signature of octets that were signed for a link of an earlier call. -/
def Unforged (v : Vault σ) : List Call → Prop :=
  Throughout fun before call =>
    ∀ mode query now q, call.redemption? = some (mode, query, now) →
      LinkQuery.read? query = some q →
      Hmac.verify v.issuer.secret q.payload.octets q.signature = true →
      ∃ earlier ∈ before, ∃ blob link,
        v.Issues earlier blob link ∧ (payloadOf blob link).octets = q.payload.octets

/-- **A redemption at `now` that hands `key` to the store is accounted for**: its query is accepted,
and the key, the snapshot and the expiry are those of an earlier link call of its mode, which was
answered with a link. -/
def Accounted (v : Vault σ) (before : List Call) (mode : Mode) (query : String) (now : Instant)
    (key : StorageKey) : Prop :=
  ∃ claims blob ttl issuedAt link,
    v.issuer.validateQuery query mode now = .ok claims ∧
    Call.link mode blob ttl issuedAt ∈ before ∧
    (∀ s, (v.outcome s (.link mode blob ttl issuedAt)).result = .ok (.issued link)) ∧
    StorageKey.build blob.account blob.key blob.snapshot = .ok key ∧
    claims.key = key ∧ claims.snapshot = blob.snapshot ∧ now ≤ link.expires

theorem exists_claims_of_mem_handed {v : Vault σ} {call : Call} {mode : Mode} {query : String}
    {now : Instant} (hcall : call.redemption? = some (mode, query, now)) {access : Access}
    (h : access ∈ v.handed call) :
    ∃ claims, v.issuer.validateQuery query mode now = .ok claims ∧ access.key = claims.key := by
  cases call with
  | upload blob data => cases hcall
  | download blob => cases hcall
  | link mode blob ttl now => cases hcall
  | redeemUpload query data now =>
    cases hcall
    rw [handed] at h
    split at h
    · next claims hclaims =>
      rw [List.mem_singleton.mp h]
      exact ⟨claims, hclaims, rfl⟩
    · exact absurd h List.not_mem_nil
  | redeemDownload query now =>
    cases hcall
    rw [handed] at h
    split at h
    · next claims hclaims =>
      rw [List.mem_singleton.mp h]
      exact ⟨claims, hclaims, rfl⟩
    · exact absurd h List.not_mem_nil

/-- **One redemption.** An accepted query carries a payload that an earlier call signed, and no
other payload has the same octets. -/
theorem accounted_of_unforged {v : Vault σ} {calls before after : List Call} {call : Call}
    {mode : Mode} {query : String} {now : Instant} (h : v.Unforged calls)
    (hcalls : calls = before ++ call :: after)
    (hcall : call.redemption? = some (mode, query, now)) {access : Access}
    (haccess : access ∈ v.handed call) : v.Accounted before mode query now access.key := by
  obtain ⟨claims, hclaims, hkey⟩ := exists_claims_of_mem_handed hcall haccess
  obtain ⟨q, hread, hverify, hmode, hexpires, hclock, hclaimsKey, hsnapshot⟩ :=
    Issuer.exists_of_validateQuery_eq_ok hclaims
  obtain ⟨_, hearlier, blob, link, ⟨linkMode, ttl, issuedAt, rfl, hlinkFor⟩, hoctets⟩ :=
    h before call after hcalls mode query now q hcall hread hverify
  -- the octets that were signed decide the payload, so the query speaks of that link and no other
  have hpayload : payloadOf blob link = q.payload := Payload.octets_injective hoctets
  obtain ⟨hresolve, hlinkMode, hmillis, -⟩ := of_linkFor hlinkFor
  rw [← hpayload] at hmode hexpires hclaimsKey hsnapshot
  obtain rfl : linkMode = mode := hlinkMode.symm.trans hmode
  have hsameKey : claims.key = link.key := congrArg StorageKey.mk hclaimsKey
  have hsameExpires : claims.expires = link.expires :=
    Option.some.inj (hexpires.symm.trans hmillis)
  have hanswer : ∀ s, (v.outcome s (.link linkMode blob ttl issuedAt)).result =
      .ok (.issued link) := fun s => by
    rw [result_link, hlinkFor]
    rfl
  rw [hkey, hsameKey]
  exact ⟨claims, blob, ttl, issuedAt, link, hclaims, hearlier, hanswer,
    BlobRef.resolve_eq_ok_iff.mp hresolve, hsameKey, hsnapshot, hsameExpires ▸ hclock⟩

/-- A call that is no redemption hands a key to the store only if it was built for its blob. -/
theorem exists_build_of_mem_handed {v : Vault σ} {call : Call} (hcall : call.redemption? = none)
    {access : Access} (h : access ∈ v.handed call) :
    ∃ account key snapshot, StorageKey.build account key snapshot = .ok access.key := by
  cases call with
  | upload blob data =>
    rw [handed] at h
    split at h
    · next key hkey =>
      rw [List.mem_singleton.mp h]
      exact ⟨_, _, _, BlobRef.resolve_eq_ok_iff.mp hkey⟩
    · exact absurd h List.not_mem_nil
  | download blob =>
    rw [handed] at h
    split at h
    · next key hkey =>
      rw [List.mem_singleton.mp h]
      exact ⟨_, _, _, BlobRef.resolve_eq_ok_iff.mp hkey⟩
    · exact absurd h List.not_mem_nil
  | link mode blob ttl now => exact absurd h List.not_mem_nil
  | redeemUpload query data now => cases hcall
  | redeemDownload query now => cases hcall

/-- **Redemption is sound over whole runs.** In a run in which nobody forges signatures, whatever
the queries and the clocks, each redemption that comes to the store is accounted for by an earlier
link call, and every key that the store ever sees was built from an account, a log key and perhaps a
snapshot. -/
theorem redemption_sound {v : Vault σ} {calls : List Call} (h : v.Unforged calls) (s : σ) :
    Throughout (fun before call => ∀ mode query now,
      call.redemption? = some (mode, query, now) →
      ∀ access ∈ (v.watched.outcome (v.stateAfter s before, []) call).state.2,
        v.Accounted before mode query now access.key) calls ∧
      ∀ access ∈ (v.watched.stateAfter (s, []) calls).2,
        ∃ account key snapshot, StorageKey.build account key snapshot = .ok access.key := by
  constructor
  · intro before call after hcalls mode query now hcall access haccess
    rw [outcome_watched] at haccess
    exact accounted_of_unforged h hcalls hcall haccess
  · intro access haccess
    rw [stateAfter_watched] at haccess
    obtain ⟨call, hmem, hhanded⟩ := List.mem_flatMap.mp haccess
    -- a key that was not built for its own call was built for the link that it came from
    cases hcall : call.redemption? with
    | none => exact exists_build_of_mem_handed hcall hhanded
    | some redemption =>
      obtain ⟨mode, query, now⟩ := redemption
      obtain ⟨before, after, hcalls⟩ := List.append_of_mem hmem
      obtain ⟨_, blob, _, _, _, -, -, -, hbuild, -⟩ :=
        accounted_of_unforged h hcalls hcall hhanded
      exact ⟨_, _, _, hbuild⟩

/-- Nobody has to forge anything to redeem links that were issued earlier, or to send what is no
link's query. -/
theorem unforged_of_issued {v : Vault σ} (hbase : v.issuer.HasBase) {calls : List Call}
    (h : Throughout (fun before call => ∀ mode query now,
      call.redemption? = some (mode, query, now) →
      LinkQuery.read? query = none ∨
        ∃ earlier ∈ before, ∃ blob link, v.Issues earlier blob link ∧ query = link.query) calls) :
    v.Unforged calls := by
  intro before call after hcalls mode query now q hcall hread _
  rcases h before call after hcalls mode query now hcall with hnone | hissued
  · rw [hnone] at hread
    cases hread
  · obtain ⟨earlier, hearlier, blob, link, hissues, rfl⟩ := hissued
    obtain ⟨mode, ttl, issuedAt, hlink, hlinkFor⟩ := hissues
    rw [read?_query_of_linkFor hbase hlinkFor] at hread
    cases hread
    exact ⟨earlier, hearlier, blob, link, ⟨mode, ttl, issuedAt, hlink, hlinkFor⟩, rfl⟩

/-- A link to write is issued, a query that nobody signed is refused, and the link is redeemed. -/
theorem redemption_sound_of_issued_link :
    ∃ (v : Vault Blobs) (earlier : List Call) (redeem : Call),
      redeem = .redeemUpload sampleLink.query [1, 2] .zero ∧ v.Unforged (earlier ++ [redeem]) ∧
        (v.watched.outcome (v.stateAfter .empty earlier, []) redeem).state.2 =
          [.put sampleLink.key [1, 2]] ∧
        v.Accounted earlier .upload sampleLink.query .zero sampleLink.key := by
  let v := inMemory sampleIssuer (.ofSeconds 600)
  let issue : Call := .link .upload sampleBlob none .zero
  let guess : Call := .redeemDownload "mode=download&expires=0" .zero
  let redeem : Call := .redeemUpload sampleLink.query [1, 2] .zero
  have hunforged : v.Unforged ([issue, guess] ++ [redeem]) := by
    refine unforged_of_issued hasBase_sampleIssuer ?_
    show Throughout _ ([] ++ [issue] ++ [guess] ++ [redeem])
    refine throughout_concat (throughout_concat (throughout_concat throughout_nil ?_) ?_) ?_
    · intro _ _ _ hcall
      cases hcall
    · intro _ _ _ hcall
      cases hcall
      exact .inl (by decide +kernel)
    · intro _ _ _ hcall
      cases hcall
      exact .inr ⟨issue, List.mem_cons_self, sampleBlob, sampleLink,
        ⟨_, _, _, rfl, linkFor_sampleBlob⟩, rfl⟩
  have hseen : (v.watched.outcome (v.stateAfter .empty [issue, guess], []) redeem).state.2 =
      [.put sampleLink.key [1, 2]] := by
    rw [outcome_watched]
    show [] ++ v.handed redeem = _
    have haccepted : v.issuer.validateQuery sampleLink.query .upload .zero = _ :=
      validateQuery_sampleLink_upload
    rw [List.nil_append, handed, haccepted]
  refine ⟨v, [issue, guess], redeem, rfl, hunforged, hseen, ?_⟩
  exact (redemption_sound hunforged .empty).1 [issue, guess] redeem [] rfl .upload _ .zero rfl _
    (hseen ▸ List.mem_cons_self)

end Vault

end LogVault
