import LogVault.Proofs.Http.Params
import LogVault.Proofs.Http.Run
import LogVault.Proofs.Storage.Key

/-!
# LogVault.Proofs.Http.Isolation — accounts do not hear of each other

A request belongs to the account that it names, or for which the link is that it redeems. What
others ask for, and when, makes no difference to the answers that an account gets: they are the
answers it would get if it were alone (`exchanges_filter_account`).

The storage key that a request comes to lies in the account of the request (`account?_of_need`), on
the direct ways because an accepted account has no `/`, and through a link because the account is
read off the key itself. So a request of another account leaves the part of an account alone
(`agree_of_other`), and a request of its own depends on that part only (`answer_of_own`). Whether
the link was ever issued plays no part in it.
-/

namespace LogVault

/-! ## The first value of a name -/

namespace LinkQuery

theorem head?_valuesOf (name : String) (pairs : List (String × String)) :
    (valuesOf name pairs).head? = pairs.lookup name := by
  induction pairs with
  | nil => rfl
  | cons pair pairs ih =>
    obtain ⟨other, value⟩ := pair
    rw [valuesOf_cons, List.lookup_cons]
    by_cases h : other = name
    · simp [h]
    · have hne : (name == other) = false := beq_eq_false_iff_ne.mpr (Ne.symm h)
      simp [h, hne, ih]

theorem lookup_of_read? {query : String} {q : LinkQuery} (h : read? query = some q) :
    (Form.read query).lookup "key" = some q.payload.key := by
  rw [← head?_valuesOf, (ofPairs?_eq_some_iff.mp h).key]
  rfl

end LinkQuery

namespace Http

namespace Params

variable {p : Params}

/-- **The account of the parameters** is the first value of its name. -/
theorem account_of_ofQuery {query : String} (h : ofQuery query = .ok p) :
    p.account = (Form.read query).lookup "accountID" := by
  rw [← LinkQuery.head?_valuesOf, (ofQuery_eq_ok_iff.mp h).1, Option.head?_toList]

/-- The blob that parameters name is one of their account. -/
theorem account_of_blobRef {blob : BlobRef} (h : p.blobRef = .ok blob) :
    p.account = some blob.account := by
  obtain ⟨account, -, haccount, -, rfl⟩ := blobRef_eq_ok_iff.mp h
  exact haccount

end Params

namespace Router

variable {σ : Type}

/-! ## The account of a request -/

/-- The account of a storage key: its text before the first `/`. -/
def accountOf (key : String) : String := String.ofList (key.toList.takeWhile (· != '/'))

/-- **The account of a request**: the one that it names as `accountID`, or that of the `key` of the
link that it redeems. -/
def account? (r : Request) : Option String :=
  match Route.ofPath? r.target.path with
  | some .blob => (Form.read (queryText r)).lookup "accountID"
  | some (.link _) => (Form.read (queryText r)).lookup "accountID"
  | some .signed => ((Form.read (queryText r)).lookup "key").map accountOf
  | _ => none

section Account

variable {v : Vault σ} {limit : Nat} {now : Instant} {r : Request} {key : StorageKey}

theorem accountOf_of_resolve {blob : BlobRef} (h : blob.resolve = .ok key) :
    accountOf key.text = blob.account := by
  have hsplit := StorageKey.split_of_build (BlobRef.resolve_eq_ok_iff.mp h)
  exact (Prod.mk.inj hsplit).1

theorem lookup_of_readBlob {blob : BlobRef} (h : readBlob r = .ok blob) :
    (Form.read (queryText r)).lookup "accountID" = some blob.account := by
  obtain ⟨p, hp, hblob⟩ := Except.exists_of_bind_eq_ok h
  rw [← Params.account_of_ofQuery (Except.eq_ok_of_mapError_eq_ok hp),
    Params.account_of_blobRef hblob]

theorem lookup_of_validateQuery {issuer : Issuer} {query : String} {mode : Mode} {claims : Claims}
    (h : issuer.validateQuery query mode now = .ok claims) :
    (Form.read query).lookup "key" = some claims.key.text := by
  obtain ⟨q, hread, -, -, -, -, hkey, -⟩ := Issuer.exists_of_validateQuery_eq_ok h
  rw [LinkQuery.lookup_of_read? hread, hkey]

/-- **A request comes to a key of its own account**, or to none. -/
theorem account?_of_need (h : (need v limit now r).key? = some key) :
    account? r = some (accountOf key.text) := by
  obtain ⟨endpoint, hleads, hneeded⟩ := exists_endpoint_of_need h
  generalize need v limit now r = need at h hneeded
  have hgot := of_needed hneeded
  unfold account?
  rw [hleads.of?.1]
  cases endpoint with
  | upload =>
    obtain ⟨blob, key, hblob, hkey, -, rfl⟩ := hgot
    cases h
    rw [accountOf_of_resolve hkey]
    exact lookup_of_readBlob hblob
  | download =>
    obtain ⟨blob, key, hblob, hkey, rfl⟩ := hgot
    cases h
    rw [accountOf_of_resolve hkey]
    exact lookup_of_readBlob hblob
  | link mode =>
    obtain ⟨-, link, -, -, rfl⟩ := hgot
    cases h
  | redeemUpload =>
    obtain ⟨claims, hclaims, -, rfl⟩ := hgot
    cases h
    exact congrArg (Option.map accountOf) (lookup_of_validateQuery hclaims)
  | redeemDownload =>
    obtain ⟨claims, hclaims, rfl⟩ := hgot
    cases h
    exact congrArg (Option.map accountOf) (lookup_of_validateQuery hclaims)
  | health =>
    obtain ⟨document, rfl⟩ := hgot
    cases h

end Account

/-! ## The part of an account -/

/-- **Blobs that agree on an account.** -/
def Agree (account : String) (b c : Blobs) : Prop :=
  ∀ key : StorageKey, accountOf key.text = account → b.get? key = c.get? key

theorem Agree.insert {account : String} {b c : Blobs} (h : Agree account b c) (key : StorageKey)
    (data : Bytes) : Agree account (b.insert key data) (c.insert key data) := by
  intro other hother
  rw [Blobs.get?_insert, Blobs.get?_insert, h other hother]

section Steps

variable (issuer : Issuer) (ttl : Duration) (limit : Nat) (now : Instant) {r : Request}
  {account : String} {b c : Blobs}

/-- **A request of another account** leaves the part of an account alone. -/
theorem agree_of_other (h : account? r ≠ some account) (hagree : Agree account b c) :
    Agree account (answer (Vault.inMemory issuer ttl) limit now r b).state c := by
  have hstate := congrArg Prod.snd (seen_inMemory issuer ttl limit now r b)
  change (answer (Vault.inMemory issuer ttl) limit now r b).state = _ at hstate
  rw [hstate]
  cases hneed : need (Vault.inMemory issuer ttl) limit now r with
  | nothing response => exact hagree
  | get key => exact hagree
  | put key data =>
    have hkey : account? r = some (accountOf key.text) :=
      account?_of_need (congrArg Need.key? hneed)
    intro other hother
    have hne : other ≠ key := by
      rintro rfl
      exact h (hkey.trans (congrArg some hother))
    show (b.insert key data).get? other = c.get? other
    rw [Blobs.get?_insert, if_neg hne, hagree other hother]

/-- **A request of an account** is answered from its part of the blobs. -/
theorem answer_of_own (h : account? r = some account) (hagree : Agree account b c) :
    (answer (Vault.inMemory issuer ttl) limit now r b).response =
        (answer (Vault.inMemory issuer ttl) limit now r c).response ∧
      Agree account (answer (Vault.inMemory issuer ttl) limit now r b).state
        (answer (Vault.inMemory issuer ttl) limit now r c).state := by
  obtain ⟨hresponse, hstate⟩ := Prod.mk.inj (seen_inMemory issuer ttl limit now r b)
  obtain ⟨hresponse', hstate'⟩ := Prod.mk.inj (seen_inMemory issuer ttl limit now r c)
  rw [hresponse, hresponse', hstate, hstate']
  cases hneed : need (Vault.inMemory issuer ttl) limit now r with
  | nothing response => exact ⟨rfl, hagree⟩
  | put key data => exact ⟨rfl, hagree.insert key data⟩
  | get key =>
    have hkey : account? r = some (accountOf key.text) :=
      account?_of_need (congrArg Need.key? hneed)
    have hsame : b.get? key = c.get? key := hagree key (Option.some.inj (hkey.symm.trans h))
    refine ⟨?_, hagree⟩
    show sent r.method (gotten b key) = sent r.method (gotten c key)
    rw [gotten, gotten, hsame]

end Steps

/-! ## Runs -/

theorem exchanges_of_agree (issuer : Issuer) (ttl : Duration) (limit : Nat) {account : String}
    {b c : Blobs} (hagree : Agree account b c) (run : List (Instant × Request)) :
    (exchanges (Vault.inMemory issuer ttl) limit b run).filter
        (fun exchange => account? exchange.1.2 = some account) =
      exchanges (Vault.inMemory issuer ttl) limit c
        (run.filter fun asked => account? asked.2 = some account) := by
  induction run generalizing b c with
  | nil => rfl
  | cons asked rest ih =>
    obtain ⟨now, r⟩ := asked
    by_cases h : account? r = some account
    · obtain ⟨hresponse, hstates⟩ := answer_of_own issuer ttl limit now h hagree
      rw [exchanges, List.filter_cons_of_pos (by simpa using h),
        List.filter_cons_of_pos (by simpa using h), exchanges, ih hstates, hresponse]
    · have hother := agree_of_other issuer ttl limit now h hagree
      rw [exchanges, List.filter_cons_of_neg (by simpa using h),
        List.filter_cons_of_neg (by simpa using h), ih hother]

/-- **Accounts do not hear of each other.** From an empty store, the exchanges of an account in a
run are those of the run in which it is alone: the same requests at the same instants, with the same
answers. -/
theorem exchanges_filter_account (issuer : Issuer) (ttl : Duration) (limit : Nat) (account : String)
    (run : List (Instant × Request)) :
    (exchanges (Vault.inMemory issuer ttl) limit .empty run).filter
        (fun exchange => account? exchange.1.2 = some account) =
      exchanges (Vault.inMemory issuer ttl) limit .empty
        (run.filter fun asked => account? asked.2 = some account) :=
  exchanges_of_agree issuer ttl limit (fun _ _ => rfl) run

end Router

end Http

end LogVault
