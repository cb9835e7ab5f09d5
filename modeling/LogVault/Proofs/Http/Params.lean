import LogVault.Http.Params
import LogVault.Proofs.Link.Query
import LogVault.Proofs.Storage.Key

/-!
# LogVault.Proofs.Http.Params — which queries name a blob

The parameters are collected pair by pair, up to the first that comes twice. What is collected is
nevertheless a matter of the query as a whole: each parameter is the one value of its name, or there
is none (`ofQuery_eq_ok_iff`). So a query cannot be read just if it repeats a name (`Repeats`), and
what it names when it can be is said by `Names`.
-/

namespace LogVault.Http

open LinkQuery (valuesOf valuesOf_cons valuesOf_append toList_inj toList_append_singleton
  exists_toList_of_append)

/-! ## Collecting -/

namespace Params

variable {p q : Params} {pair : String × String} {pairs : List (String × String)}

/-- **Pairs lead from parameters to parameters** when each name has its values added. -/
def Leads (p : Params) (pairs : List (String × String)) (q : Params) : Prop :=
  p.account.toList ++ valuesOf "accountID" pairs = q.account.toList ∧
    p.key.toList ++ valuesOf "key" pairs = q.key.toList ∧
    p.snapshot.toList ++ valuesOf "snapshot" pairs = q.snapshot.toList

/-- **One pair** adds its value to those of its name, and there may be no other. -/
theorem add_eq_ok_iff : p.add pair = .ok q ↔ p.Leads [pair] q := by
  obtain ⟨name, value⟩ := pair
  obtain ⟨account, key, snapshot⟩ := p
  obtain ⟨account', key', snapshot'⟩ := q
  have hvalues : ∀ other : String,
      valuesOf other [(name, value)] = if name = other then [value] else [] := fun other => by
    rw [valuesOf_cons]
    rfl
  simp only [Leads, hvalues, add]
  by_cases haccount : name = "accountID"
  · subst haccount
    simp only [if_true, String.reduceEq, if_false, List.append_nil, toList_append_singleton,
      toList_inj]
    cases account <;> simp [eq_comm]
  by_cases hkey : name = "key"
  · subst hkey
    simp only [if_true, String.reduceEq, if_false, List.append_nil, toList_append_singleton,
      toList_inj]
    cases key <;> simp [eq_comm]
  by_cases hsnapshot : name = "snapshot"
  · subst hsnapshot
    simp only [if_true, String.reduceEq, if_false, List.append_nil, toList_append_singleton,
      toList_inj]
    cases snapshot <;> simp [eq_comm]
  · simp only [haccount, hkey, hsnapshot, if_false, List.append_nil, toList_inj, Except.ok.injEq,
      Params.mk.injEq]

/-- **All pairs together** add to each name its values, whatever stands between them. -/
theorem addAll_eq_ok_iff : p.addAll pairs = .ok q ↔ p.Leads pairs q := by
  induction pairs generalizing p with
  | nil =>
    obtain ⟨account, key, snapshot⟩ := p
    obtain ⟨account', key', snapshot'⟩ := q
    simp only [addAll, Leads, valuesOf, List.filter_nil, List.map_nil, List.append_nil, toList_inj,
      Except.ok.injEq, Params.mk.injEq]
  | cons pair rest ih =>
    have hcons : ∀ name, valuesOf name (pair :: rest) = valuesOf name [pair] ++ valuesOf name rest :=
      fun name => valuesOf_append name [pair] rest
    have hstep : p.addAll (pair :: rest) = .ok q ↔
        ∃ m, p.add pair = .ok m ∧ m.addAll rest = .ok q := by
      rw [addAll]
      cases p.add pair <;> simp
    simp only [hstep, add_eq_ok_iff, ih, Leads, hcons]
    constructor
    · rintro ⟨m, ⟨haccount, hkey, hsnapshot⟩, haccount', hkey', hsnapshot'⟩
      rw [← haccount', ← hkey', ← hsnapshot', ← haccount, ← hkey, ← hsnapshot, List.append_assoc,
        List.append_assoc, List.append_assoc]
      exact ⟨rfl, rfl, rfl⟩
    · simp only [← List.append_assoc]
      rintro ⟨haccount, hkey, hsnapshot⟩
      -- with the values that follow there is one at most, so there is with the first pair
      obtain ⟨account, haccount'⟩ := exists_toList_of_append haccount
      obtain ⟨key, hkey'⟩ := exists_toList_of_append hkey
      obtain ⟨snapshot, hsnapshot'⟩ := exists_toList_of_append hsnapshot
      rw [haccount'] at haccount
      rw [hkey'] at hkey
      rw [hsnapshot'] at hsnapshot
      exact ⟨⟨account, key, snapshot⟩, ⟨haccount', hkey', hsnapshot'⟩, haccount, hkey, hsnapshot⟩

/-- **The parameters of a query** are the values of their names, one for a name at most. -/
theorem ofQuery_eq_ok_iff {query : String} : ofQuery query = .ok p ↔
    valuesOf "accountID" (Form.read query) = p.account.toList ∧
      valuesOf "key" (Form.read query) = p.key.toList ∧
      valuesOf "snapshot" (Form.read query) = p.snapshot.toList := by
  simp only [ofQuery, addAll_eq_ok_iff, Leads, none, Option.toList_none, List.nil_append]

end Params

/-! ## What a query names -/

/-- The names of the parameters. -/
def paramNames : List String := ["accountID", "key", "snapshot"]

/-- **A query repeats a name**, of those that count. -/
def Repeats (query : String) : Prop :=
  ∃ name ∈ paramNames, 2 ≤ (valuesOf name (Form.read query)).length

instance (query : String) : Decidable (Repeats query) :=
  inferInstanceAs (Decidable (∃ name ∈ paramNames, _))

/-- **A query names a blob** by its account and its log key, each given once, and perhaps a snapshot,
and the storage key is built of them. An empty snapshot counts as none. -/
def Names (query : String) (key : StorageKey) : Prop :=
  ∃ account logKey snapshot, valuesOf "accountID" (Form.read query) = [account] ∧
    valuesOf "key" (Form.read query) = [logKey] ∧
    valuesOf "snapshot" (Form.read query) = Option.toList snapshot ∧
    StorageKey.build account logKey (snapshot.filter (· != "")) = .ok key

namespace Params

variable {p : Params} {query : String} {key : StorageKey}

/-- **A query can be read** unless it repeats a name. -/
theorem not_repeats_iff : ¬ Repeats query ↔ ∃ p, ofQuery query = .ok p := by
  have hone : ∀ {l : List String}, l.length < 2 → ∃ o : Option String, l = o.toList
    | [], _ => ⟨.none, rfl⟩
    | [value], _ => ⟨some value, rfl⟩
  simp only [Repeats, paramNames, List.mem_cons, List.not_mem_nil, or_false, not_exists, not_and,
    Nat.not_le, ofQuery_eq_ok_iff]
  constructor
  · intro h
    obtain ⟨account, haccount⟩ := hone (h "accountID" (.inl rfl))
    obtain ⟨key, hkey⟩ := hone (h "key" (.inr (.inl rfl)))
    obtain ⟨snapshot, hsnapshot⟩ := hone (h "snapshot" (.inr (.inr rfl)))
    exact ⟨⟨account, key, snapshot⟩, haccount, hkey, hsnapshot⟩
  · rintro ⟨p, haccount, hkey, hsnapshot⟩ name (rfl | rfl | rfl)
    · rw [haccount]
      exact Nat.lt_succ_of_le Option.length_toList_le
    · rw [hkey]
      exact Nat.lt_succ_of_le Option.length_toList_le
    · rw [hsnapshot]
      exact Nat.lt_succ_of_le Option.length_toList_le

theorem blobRef_eq_ok_iff {blob : BlobRef} : p.blobRef = .ok blob ↔ ∃ account key,
    p.account = some account ∧ p.key = some key ∧ blob = .of account key p.snapshot := by
  unfold blobRef
  cases p.account with
  | none => simp
  | some account => cases p.key <;> simp [eq_comm]

/-- **What a query names**, as its parameters have it. -/
theorem names_iff : Names query key ↔
    ∃ p blob, ofQuery query = .ok p ∧ p.blobRef = .ok blob ∧ blob.resolve = .ok key := by
  constructor
  · rintro ⟨account, logKey, snapshot, haccount, hkey, hsnapshot, hbuild⟩
    refine ⟨⟨some account, some logKey, snapshot⟩, _,
      ofQuery_eq_ok_iff.mpr ⟨haccount, hkey, hsnapshot⟩, rfl, ?_⟩
    exact BlobRef.resolve_eq_ok_iff.mpr hbuild
  · rintro ⟨p, blob, hquery, hblob, hkey⟩
    obtain ⟨haccount, hlogKey, hsnapshot⟩ := ofQuery_eq_ok_iff.mp hquery
    obtain ⟨account, logKey, hasAccount, hasKey, rfl⟩ := blobRef_eq_ok_iff.mp hblob
    rw [hasAccount, Option.toList_some] at haccount
    rw [hasKey, Option.toList_some] at hlogKey
    have hbuild := BlobRef.resolve_eq_ok_iff.mp hkey
    exact ⟨account, logKey, p.snapshot, haccount, hlogKey, hsnapshot, hbuild⟩

/-- A query names one key at most. -/
theorem eq_of_names {other : StorageKey} (h : Names query key) (h' : Names query other) :
    key = other := by
  obtain ⟨p, blob, hp, hblob, hkey⟩ := names_iff.mp h
  obtain ⟨p', blob', hp', hblob', hother⟩ := names_iff.mp h'
  obtain rfl := Except.ok.inj (hp.symm.trans hp')
  obtain rfl := Except.ok.inj (hblob.symm.trans hblob')
  exact Except.ok.inj (hkey.symm.trans hother)

/-- What stands against parameters is always the fault of the caller. -/
theorem status_of_blobRef {fault : Fault} (h : p.blobRef = .error fault) : fault.status = 400 := by
  unfold blobRef at h
  split at h
  · cases h
    rfl
  · cases h
    rfl
  · cases h

end Params

end LogVault.Http
