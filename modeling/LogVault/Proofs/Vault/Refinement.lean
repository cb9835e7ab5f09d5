import LogVault.Proofs.Storage.Key
import LogVault.Proofs.Vault.Run
import Mathlib.Data.List.Dedup
import Mathlib.Data.List.Induction

/-!
# LogVault.Proofs.Vault.Refinement — the last write wins

A vault in memory answers as a ledger does that files nothing under a storage key: it lists what was
written to which blob, the latest first, and which query was issued for which blob. A read finds the
latest write (`refines_ledger`).

The blobs in memory reflect the ledger (`Reflects`) because a storage key determines its blob, and
because an accepted query of an issued link grants the key of that link's blob. Each call keeps that
(`step_reflects`), whatever it is and however it ends.
-/

namespace LogVault

namespace BlobRef

/-- **No two blobs lie in one place.** -/
theorem resolve_injective {b c : BlobRef} {key : StorageKey} (hb : b.resolve = .ok key)
    (hc : c.resolve = .ok key) : b = c := by
  have hparts :=
    StorageKey.eq_of_build_eq (BlobRef.resolve_eq_ok_iff.mp hb) (BlobRef.resolve_eq_ok_iff.mp hc)
  obtain ⟨account, logKey, snapshot⟩ := b
  obtain ⟨account', logKey', snapshot'⟩ := c
  cases hparts
  rfl

/-- An empty snapshot counts as none. -/
theorem of_empty (account key : String) : of account key (some "") = of account key none := rfl

end BlobRef

/-! ## Blobs in memory -/

namespace Blobs

theorem length_insertEntry (key : StorageKey) (data : Bytes) (l : List (StorageKey × Bytes)) :
    (insertEntry key data l).length =
      if (findEntry key l).isSome then l.length else l.length + 1 := by
  induction l with
  | nil => rfl
  | cons e rest ih =>
    by_cases hkey : key = e.1
    · simp [insertEntry, findEntry, hkey]
    · simp only [insertEntry, findEntry, hkey, if_false, List.length_cons, ih]
      split <;> rfl

/-- A blob under a new key is one more. -/
theorem size_insert (b : Blobs) (key : StorageKey) (data : Bytes) :
    (b.insert key data).size = if (b.get? key).isSome then b.size else b.size + 1 :=
  length_insertEntry key data b.entries

/-- What getting a key ends with. -/
def got (b : Blobs) (key : StorageKey) : Except Fault Bytes :=
  match b.get? key with
  | some data => .ok data
  | none => .error (Backend.missing key)

theorem run_get (key : StorageKey) (b : Blobs) : (backend.get key).run b = ⟨b.got key, b, []⟩ := by
  show (match b.get? key with
    | some data => (⟨.ok data, b, []⟩ : Outcome Blobs Bytes)
    | none => ⟨.error (Backend.missing key), b, []⟩) = _
  rw [got]
  cases b.get? key <;> rfl

end Blobs

namespace Vault

/-! ## The ledger -/

/-- **What a run has done**: the writes, the latest first, each to its blob, and the queries of the
links that were issued, each for its blob. -/
structure Ledger where
  writes : List (BlobRef × Bytes)
  links : List (String × BlobRef)

namespace Ledger

/-- Nothing has been done. -/
def empty : Ledger := ⟨[], []⟩

/-- **Reading a blob**: what was written to it last. -/
def read (l : Ledger) (blob : BlobRef) : Except Fault Answer :=
  blob.resolve.bind fun key =>
    match l.writes.lookup blob with
    | some data => .ok (.content data)
    | none => .error (Backend.missing key)

/-- The blob that a query was issued for. -/
def named (l : Ledger) (query : String) : Except Fault BlobRef :=
  match l.links.lookup query with
  | some blob => .ok blob
  | none => .error .signatureInvalid

/-- A query is accepted, whatever it grants, or the fault that refuses it. -/
def accepted {σ : Type} (v : Vault σ) (query : String) (mode : Mode) (now : Instant) :
    Except Fault Unit :=
  match v.issuer.validateQuery query mode now with
  | .ok _ => .ok ()
  | .error rejection => .error rejection.fault

/-- **The answer that the ledger gives** to a call. -/
def answer {σ : Type} (v : Vault σ) (l : Ledger) : Call → Except Fault Answer
  | .upload blob _ => blob.resolve.map .stored
  | .download blob => l.read blob
  | .link mode blob ttl now => (v.linkFor mode blob ttl now).map .issued
  | .redeemUpload query _ now =>
    (accepted v query .upload now).bind fun _ =>
      (l.named query).bind fun blob => blob.resolve.map .stored
  | .redeemDownload query now =>
    (accepted v query .download now).bind fun _ => (l.named query).bind l.read

/-- **What a call adds**, from its answer: a write that succeeded, or a link that was issued. -/
def record (l : Ledger) (call : Call) (answer : Except Fault Answer) : Ledger :=
  match call, answer with
  | .upload blob data, .ok _ => { l with writes := (blob, data) :: l.writes }
  | .link _ blob _ _, .ok (.issued link) => { l with links := (link.query, blob) :: l.links }
  | .redeemUpload query data _, .ok _ =>
    match l.links.lookup query with
    | some blob => { l with writes := (blob, data) :: l.writes }
    | none => l
  | _, _ => l

end Ledger

/-- The ledger after a call. -/
def recorded {σ : Type} (v : Vault σ) (l : Ledger) (call : Call) : Ledger :=
  l.record call (l.answer v call)

/-- **The ledger of a run.** -/
def ledger {σ : Type} (v : Vault σ) (calls : List Call) : Ledger := calls.foldl v.recorded .empty

theorem ledger_concat {σ : Type} (v : Vault σ) (calls : List Call) (call : Call) :
    v.ledger (calls ++ [call]) = v.recorded (v.ledger calls) call := by
  rw [ledger, List.foldl_append]
  rfl

section Recorded

variable {σ : Type} {v : Vault σ} {l : Ledger} {blob : BlobRef} {key : StorageKey} {data : Bytes}

theorem recorded_upload (h : blob.resolve = .ok key) :
    v.recorded l (.upload blob data) = { l with writes := (blob, data) :: l.writes } := by
  rw [recorded, Ledger.answer, h]
  rfl

theorem recorded_link {mode : Mode} {ttl : Option Duration} {now : Instant} {link : SignedLink}
    (h : v.linkFor mode blob ttl now = .ok link) :
    v.recorded l (.link mode blob ttl now) =
      { l with links := (link.query, blob) :: l.links } := by
  rw [recorded, Ledger.answer, h]
  rfl

theorem answer_redeemUpload {query : String} {now : Instant} {claims : Claims}
    (hchecked : v.issuer.validateQuery query .upload now = .ok claims)
    (hblob : l.links.lookup query = some blob) (hkey : blob.resolve = .ok key) :
    l.answer v (.redeemUpload query data now) = .ok (.stored key) := by
  simp only [Ledger.answer, Ledger.accepted, Ledger.named, hchecked, hblob, hkey, Except.bind,
    Except.map]

theorem recorded_redeemUpload {query : String} {now : Instant} {claims : Claims}
    (hchecked : v.issuer.validateQuery query .upload now = .ok claims)
    (hblob : l.links.lookup query = some blob) (hkey : blob.resolve = .ok key) :
    v.recorded l (.redeemUpload query data now) =
      { l with writes := (blob, data) :: l.writes } := by
  rw [recorded, answer_redeemUpload hchecked hblob hkey, Ledger.record, hblob]

end Recorded

/-- A call that may write a blob. -/
def Call.writes : Call → Bool
  | .upload _ _ => true
  | .redeemUpload _ _ _ => true
  | _ => false

/-- **A run in which links are used as they were issued**: each query that is redeemed is that of a
link of an earlier call, or is refused. -/
def Faithful {σ : Type} (v : Vault σ) : List Call → Prop :=
  Throughout fun before call => ∀ mode query now, call.redemption? = some (mode, query, now) →
    (∃ earlier ∈ before, ∃ blob link, v.Issues earlier blob link ∧ query = link.query) ∨
      ∃ rejection, v.issuer.validateQuery query mode now = .error rejection

/-! ## Blobs that reflect a ledger -/

/-- **The blobs in memory reflect a ledger**: under the key of a blob lies what was written to it
last, there are as many as blobs that were written, and a query on the list grants nothing but its
blob. -/
structure Reflects (issuer : Issuer) (s : Blobs) (l : Ledger) : Prop where
  found : ∀ blob key, blob.resolve = .ok key → s.get? key = l.writes.lookup blob
  size : s.size = (l.writes.map (·.1)).dedup.length
  links : ∀ entry ∈ l.links, ∀ mode now claims,
    issuer.validateQuery entry.1 mode now = .ok claims → entry.2.resolve = .ok claims.key

section Reflects

variable {issuer : Issuer} {s : Blobs} {l : Ledger}

theorem reflects_empty : Reflects issuer .empty .empty :=
  ⟨fun _ _ _ => rfl, rfl, fun _ h => absurd h List.not_mem_nil⟩

/-- A write under the key of a blob is a write to that blob. -/
theorem Reflects.write (h : Reflects issuer s l) {blob : BlobRef} {key : StorageKey}
    (hkey : blob.resolve = .ok key) (data : Bytes) :
    Reflects issuer (s.insert key data) { l with writes := (blob, data) :: l.writes } := by
  refine ⟨?_, ?_, h.links⟩
  · intro other otherKey hother
    rw [Blobs.get?_insert, List.lookup_cons]
    by_cases hsame : other = blob
    · obtain rfl : otherKey = key := by
        rw [hsame, hkey] at hother
        exact (Except.ok.inj hother).symm
      rw [hsame, if_pos rfl, beq_self_eq_true]
    · -- another blob has another key, so what lies under it is not touched
      have hdiffer : otherKey ≠ key := fun heq =>
        hsame (BlobRef.resolve_injective (heq ▸ hother) hkey)
      rw [if_neg hdiffer, beq_eq_false_iff_ne.mpr hsame]
      exact h.found other otherKey hother
  · -- a key is new to the store when its blob is new to the ledger
    have hknown : (s.get? key).isSome = true ↔ blob ∈ l.writes.map (·.1) := by
      rw [h.found blob key hkey, List.lookup_isSome_iff, List.mem_map]
      constructor
      · rintro ⟨p, hp, hblob⟩
        exact ⟨p, hp, (eq_of_beq hblob).symm⟩
      · rintro ⟨p, hp, rfl⟩
        exact ⟨p, hp, beq_self_eq_true _⟩
    rw [Blobs.size_insert, h.size, List.map_cons]
    by_cases hmem : blob ∈ l.writes.map (·.1)
    · rw [if_pos (hknown.mpr hmem), List.dedup_cons_of_mem hmem]
    · rw [if_neg (fun hsome => hmem (hknown.mp hsome)), List.dedup_cons_of_notMem hmem,
        List.length_cons]

/-- An issued link grants nothing but its blob. -/
theorem Reflects.link (h : Reflects issuer s l) (hbase : issuer.HasBase) {defaultTtl : Duration}
    {mode : Mode} {blob : BlobRef} {ttl : Option Duration} {now : Instant} {link : SignedLink}
    (hlink : (inMemory issuer defaultTtl).linkFor mode blob ttl now = .ok link) :
    Reflects issuer s { l with links := (link.query, blob) :: l.links } := by
  refine ⟨h.found, h.size, ?_⟩
  intro entry hentry requested t claims hclaims
  rcases List.mem_cons.mp hentry with rfl | hentry
  · -- whichever mode and clock it is checked for, the new query grants its own key or nothing
    obtain ⟨hkey, -⟩ := of_linkFor hlink
    have hchecked := validateQuery_of_linkFor hbase hlink requested t
    change issuer.validateQuery link.query requested t = _ at hchecked
    rw [hchecked] at hclaims
    split at hclaims
    · split at hclaims
      · cases hclaims
      · cases hclaims
        exact hkey
    · cases hclaims
  · exact h.links entry hentry requested t claims hclaims

/-- What is got under the key of a blob is what the ledger reads. -/
theorem Reflects.got (h : Reflects issuer s l) {blob : BlobRef} {key : StorageKey}
    (hkey : blob.resolve = .ok key) : (s.got key).map .content = l.read blob := by
  rw [Blobs.got, Ledger.read, hkey, Except.bind, h.found blob key hkey]
  cases l.writes.lookup blob <;> rfl

/-! ## One call -/

/-- **What one call does** to the blobs and to the ledger that they reflect: the answer is the
ledger's, the blobs reflect the ledger after the call, and a call that fails or does not write
leaves both the blobs and the writes as they are. -/
structure Step (v : Vault Blobs) (s : Blobs) (l : Ledger) (call : Call) : Prop where
  answer : (v.outcome s call).result = l.answer v call
  reflects : Reflects v.issuer (v.outcome s call).state (v.recorded l call)
  frame : (∃ fault, (v.outcome s call).result = .error fault) ∨ call.writes = false →
    (v.outcome s call).state = s ∧ (v.recorded l call).writes = l.writes

theorem record_error (l : Ledger) (call : Call) (fault : Fault) :
    l.record call (.error fault) = l := by
  cases call <;> rfl

section Kinds

variable {v : Vault Blobs} {call : Call} {operation : Operation} {blob : BlobRef}
  {key : StorageKey}

/-- A call that leaves blobs and ledger as they are. -/
theorem Step.of_same (h : Reflects v.issuer s l)
    (hresult : (v.outcome s call).result = l.answer v call) (hstate : (v.outcome s call).state = s)
    (hrecord : v.recorded l call = l) : Step v s l call := by
  refine ⟨hresult, ?_, fun _ => ⟨hstate, by rw [hrecord]⟩⟩
  rw [hstate, hrecord]
  exact h

/-- A call that is refused. -/
theorem Step.of_refused {α : Type} {f : α → Answer} {entries : List Event} {fault : Fault}
    (h : Reflects v.issuer s l)
    (houtcome : v.outcome s call = (refused operation entries fault s).map f)
    (hanswer : l.answer v call = .error fault) : Step v s l call := by
  refine .of_same h ?_ ?_ (by rw [recorded, hanswer, record_error])
  · rw [houtcome, hanswer, Outcome.map_result, refused_result, Except.map]
  · rw [houtcome, Outcome.map_state, refused_state]

/-- A call that writes a blob. -/
theorem Step.of_put {text : Unit → String} {data : Bytes} (h : Reflects v.issuer s l)
    (hkey : blob.resolve = .ok key) (hwrites : call.writes = true)
    (houtcome : v.outcome s call =
      (transferred operation text (fun _ => key) ((Blobs.backend.put key data).run s)).map .stored)
    (hanswer : l.answer v call = .ok (.stored key))
    (hrecord : v.recorded l call = { l with writes := (blob, data) :: l.writes }) :
    Step v s l call := by
  have hresult : (v.outcome s call).result = .ok (.stored key) := by
    rw [houtcome]
    rfl
  have hstate : (v.outcome s call).state = s.insert key data := by
    rw [houtcome]
    rfl
  refine ⟨hresult.trans hanswer.symm, ?_, ?_⟩
  · rw [hstate, hrecord]
    exact h.write hkey data
  · rintro (⟨fault, hfault⟩ | hnone)
    · rw [hresult] at hfault
      cases hfault
    · rw [hwrites] at hnone
      cases hnone

/-- A call that reads a blob. -/
theorem Step.of_get {text : Bytes → String} (h : Reflects v.issuer s l)
    (hkey : blob.resolve = .ok key)
    (houtcome : v.outcome s call =
      (transferred operation text id ((Blobs.backend.get key).run s)).map .content)
    (hanswer : l.answer v call = l.read blob) (hrecord : v.recorded l call = l) :
    Step v s l call := by
  rw [Blobs.run_get] at houtcome
  refine .of_same h ?_ ?_ hrecord
  · rw [houtcome, hanswer, ← h.got hkey, Outcome.map_result, transferred_result]
    cases s.got key <;> rfl
  · rw [houtcome, Outcome.map_state, transferred_state]

end Kinds

/-! ## Each call -/

variable {defaultTtl : Duration}

theorem step_upload (h : Reflects issuer s l) (blob : BlobRef) (data : Bytes) :
    Step (inMemory issuer defaultTtl) s l (.upload blob data) := by
  have houtcome : (inMemory issuer defaultTtl).outcome s (.upload blob data) = _ :=
    Action.run_map ..
  rw [run_upload] at houtcome
  cases hkey : blob.resolve with
  | ok key =>
    rw [hkey] at houtcome
    exact .of_put h hkey rfl houtcome (by rw [Ledger.answer, hkey, Except.map])
      (recorded_upload hkey)
  | error fault =>
    rw [hkey] at houtcome
    exact .of_refused h houtcome (by rw [Ledger.answer, hkey, Except.map])

theorem step_download (h : Reflects issuer s l) (blob : BlobRef) :
    Step (inMemory issuer defaultTtl) s l (.download blob) := by
  have houtcome : (inMemory issuer defaultTtl).outcome s (.download blob) = _ := Action.run_map ..
  rw [run_download] at houtcome
  cases hkey : blob.resolve with
  | ok key =>
    rw [hkey] at houtcome
    exact .of_get h hkey houtcome rfl rfl
  | error fault =>
    rw [hkey] at houtcome
    exact .of_refused h houtcome (by rw [Ledger.answer, Ledger.read, hkey, Except.bind])

theorem step_link (h : Reflects issuer s l) (hbase : issuer.HasBase) (mode : Mode)
    (blob : BlobRef) (ttl : Option Duration) (now : Instant) :
    Step (inMemory issuer defaultTtl) s l (.link mode blob ttl now) := by
  have hresult := result_link (inMemory issuer defaultTtl) s mode blob ttl now
  have hstate : ((inMemory issuer defaultTtl).outcome s (.link mode blob ttl now)).state = s := by
    rw [outcome, perform, Action.run_map, run_link, Outcome.map_state]
  have hwrites : ((inMemory issuer defaultTtl).recorded l (.link mode blob ttl now)).writes =
      l.writes := by
    rw [recorded, Ledger.answer]
    cases (inMemory issuer defaultTtl).linkFor mode blob ttl now <;> rfl
  refine ⟨hresult, ?_, fun _ => ⟨hstate, hwrites⟩⟩
  rw [hstate, recorded, Ledger.answer]
  cases hlink : (inMemory issuer defaultTtl).linkFor mode blob ttl now with
  | ok link => exact h.link hbase hlink
  | error fault => exact h

/-- A query that may be redeemed: it is on the list of the ledger, or is refused. -/
def Redeemable (issuer : Issuer) (l : Ledger) (query : String) (mode : Mode) (now : Instant) :
    Prop :=
  (∃ blob, l.links.lookup query = some blob) ∨
    ∃ rejection, issuer.validateQuery query mode now = .error rejection

/-- What a redemption meets: a refusal, or a blob of the ledger and claims for its key. -/
theorem Reflects.redeemable (h : Reflects issuer s l) {query : String} {mode : Mode}
    {now : Instant} (hquery : Redeemable issuer l query mode now) :
    (∃ rejection, issuer.validateQuery query mode now = .error rejection) ∨
      ∃ claims blob, issuer.validateQuery query mode now = .ok claims ∧
        l.links.lookup query = some blob ∧ blob.resolve = .ok claims.key := by
  cases hchecked : issuer.validateQuery query mode now with
  | error rejection => exact .inl ⟨rejection, rfl⟩
  | ok claims =>
    rcases hquery with ⟨blob, hblob⟩ | ⟨rejection, hrejection⟩
    · obtain ⟨front, back, hlinks, -⟩ := List.lookup_eq_some_iff.mp hblob
      have hmem : (query, blob) ∈ l.links := by
        rw [hlinks]
        exact List.mem_append_right front List.mem_cons_self
      exact .inr ⟨claims, blob, rfl, hblob, h.links _ hmem mode now claims hchecked⟩
    · rw [hchecked] at hrejection
      cases hrejection

theorem step_redeemUpload (h : Reflects issuer s l) {query : String} {now : Instant}
    (hquery : Redeemable issuer l query .upload now) (data : Bytes) :
    Step (inMemory issuer defaultTtl) s l (.redeemUpload query data now) := by
  have houtcome : (inMemory issuer defaultTtl).outcome s (.redeemUpload query data now) = _ :=
    Action.run_map ..
  rw [run_redeemUpload, inMemory] at houtcome
  rcases h.redeemable hquery with ⟨rejection, hchecked⟩ | ⟨claims, blob, hchecked, hblob, hkey⟩
  · rw [hchecked] at houtcome
    refine .of_refused h houtcome ?_
    rw [Ledger.answer, Ledger.accepted, inMemory, hchecked, Except.bind]
  · rw [hchecked] at houtcome
    exact .of_put h hkey rfl houtcome (answer_redeemUpload hchecked hblob hkey)
      (recorded_redeemUpload hchecked hblob hkey)

theorem step_redeemDownload (h : Reflects issuer s l) {query : String} {now : Instant}
    (hquery : Redeemable issuer l query .download now) :
    Step (inMemory issuer defaultTtl) s l (.redeemDownload query now) := by
  have houtcome : (inMemory issuer defaultTtl).outcome s (.redeemDownload query now) = _ :=
    Action.run_map ..
  rw [run_redeemDownload, inMemory] at houtcome
  rcases h.redeemable hquery with ⟨rejection, hchecked⟩ | ⟨claims, blob, hchecked, hblob, hkey⟩
  · rw [hchecked] at houtcome
    refine .of_refused h houtcome ?_
    rw [Ledger.answer, Ledger.accepted, inMemory, hchecked, Except.bind]
  · rw [hchecked] at houtcome
    refine .of_get h hkey houtcome ?_ rfl
    simp only [Ledger.answer, Ledger.accepted, Ledger.named, inMemory, hchecked, hblob, Except.bind]

/-- **Every call keeps the blobs a reflection of the ledger**, and is answered as the ledger answers
it. -/
theorem step_reflects (defaultTtl : Duration) (h : Reflects issuer s l) (hbase : issuer.HasBase)
    {call : Call} (hquery : ∀ mode query now, call.redemption? = some (mode, query, now) →
      Redeemable issuer l query mode now) :
    Step (inMemory issuer defaultTtl) s l call := by
  cases call with
  | upload blob data => exact step_upload h blob data
  | download blob => exact step_download h blob
  | link mode blob ttl now => exact step_link h hbase mode blob ttl now
  | redeemUpload query data now => exact step_redeemUpload h (hquery _ _ _ rfl) data
  | redeemDownload query now => exact step_redeemDownload h (hquery _ _ _ rfl)

end Reflects

/-! ## Runs -/

section Runs

variable {issuer : Issuer} {defaultTtl : Duration} {calls : List Call}

/-- A call takes no query off the list. -/
theorem links_sublist_recorded {σ : Type} (v : Vault σ) (l : Ledger) (call : Call) :
    l.links.Sublist (v.recorded l call).links := by
  unfold recorded Ledger.record
  split
  · exact .refl _
  · exact .cons _ (.refl _)
  · split <;> exact .refl _
  · exact .refl _

/-- The query of every link that was issued is on the list. -/
theorem exists_lookup_of_issues {σ : Type} {v : Vault σ} {earlier : Call} {blob : BlobRef}
    {link : SignedLink} (hissues : v.Issues earlier blob link) (h : earlier ∈ calls) :
    ∃ named, (v.ledger calls).links.lookup link.query = some named := by
  rw [← Option.isSome_iff_exists]
  -- from the end of the run, where the ledger grows
  induction calls using List.reverseRecOn with
  | nil => exact absurd h List.not_mem_nil
  | append_singleton calls call ih =>
    rw [ledger_concat]
    rcases List.mem_append.mp h with h | h
    · exact (links_sublist_recorded v _ call).lookup_isSome (ih h)
    · obtain rfl := List.mem_singleton.mp h
      obtain ⟨mode, ttl, now, rfl, hlink⟩ := hissues
      rw [recorded, Ledger.answer, hlink]
      show (List.lookup link.query ((link.query, blob) :: _)).isSome = true
      rw [List.lookup_cons_self, Option.isSome_some]

/-- What a faithful run redeems is on the list, or is refused. -/
theorem redeemable_of_faithful (h : (inMemory issuer defaultTtl).Faithful calls)
    {before after : List Call} {call : Call} (hcalls : calls = before ++ call :: after) :
    ∀ mode query now, call.redemption? = some (mode, query, now) →
      Redeemable issuer ((inMemory issuer defaultTtl).ledger before) query mode now := by
  intro mode query now hcall
  rcases h before call after hcalls mode query now hcall with hissued | hrefused
  · obtain ⟨earlier, hearlier, blob, link, hissues, rfl⟩ := hissued
    exact .inl (exists_lookup_of_issues hissues hearlier)
  · exact .inr hrefused

/-- **After a faithful run the blobs reflect its ledger.** -/
theorem reflects_stateAfter (hbase : issuer.HasBase)
    (h : (inMemory issuer defaultTtl).Faithful calls) :
    Reflects issuer ((inMemory issuer defaultTtl).stateAfter .empty calls)
      ((inMemory issuer defaultTtl).ledger calls) := by
  induction calls using List.reverseRecOn with
  | nil => exact reflects_empty
  | append_singleton calls call ih =>
    have hstep := step_reflects defaultTtl (ih (throughout_front h)) hbase
      (redeemable_of_faithful h rfl)
    rw [stateAfter_concat, ledger_concat]
    exact hstep.reflects

/-- **The last write wins.** In a faithful run over blobs in memory, whatever the clocks: each call
is answered by the ledger of the calls before it, so a read, direct or by a link, gives what was
written last to the same blob, and that it is missing if nothing was; a call that fails, reads or
issues a link leaves the blobs and the writes as they are; and there are as many blobs as were
written to. An empty snapshot counts as none. -/
theorem refines_ledger (hbase : issuer.HasBase)
    (h : (inMemory issuer defaultTtl).Faithful calls) :
    Throughout (fun before call =>
      let s := (inMemory issuer defaultTtl).stateAfter .empty before
      let l := (inMemory issuer defaultTtl).ledger before
      let o := (inMemory issuer defaultTtl).outcome s call
      o.result = l.answer (inMemory issuer defaultTtl) call ∧
        ((∃ fault, o.result = .error fault) ∨ call.writes = false →
          o.state = s ∧ ((inMemory issuer defaultTtl).ledger (before ++ [call])).writes = l.writes))
      calls ∧
      ((inMemory issuer defaultTtl).stateAfter .empty calls).size =
        (((inMemory issuer defaultTtl).ledger calls).writes.map (·.1)).dedup.length ∧
      ∀ account key, BlobRef.of account key (some "") = BlobRef.of account key none := by
  refine ⟨?_, (reflects_stateAfter hbase h).size, BlobRef.of_empty⟩
  intro before call after hcalls
  have hbefore : (inMemory issuer defaultTtl).Faithful before := throughout_front (hcalls ▸ h)
  have hstep := step_reflects defaultTtl (reflects_stateAfter hbase hbefore) hbase
    (redeemable_of_faithful h hcalls)
  refine ⟨hstep.answer, fun hquiet => ?_⟩
  rw [ledger_concat]
  exact hstep.frame hquiet

/-- A plain blob and a snapshot of it are written, the snapshot by its link; reading by the link of
that mode is refused, and reading the snapshot gives what its link wrote. -/
theorem refines_ledger_of_issued_link :
    ∃ (v : Vault Blobs) (calls : List Call), v = inMemory sampleIssuer (.ofSeconds 600) ∧
      v.issuer.HasBase ∧ v.Faithful (calls ++ [.download sampleBlob]) ∧
      (v.outcome (v.stateAfter .empty calls) (.download sampleBlob)).result = .ok (.content [2]) ∧
      (v.stateAfter .empty (calls ++ [.download sampleBlob])).size = 2 := by
  let v := inMemory sampleIssuer (.ofSeconds 600)
  let plain := BlobRef.of "acme" "app.log" (some "")
  let write : Call := .upload plain [1]
  let issue : Call := .link .upload sampleBlob none .zero
  let redeem : Call := .redeemUpload sampleLink.query [2] .zero
  let misuse : Call := .redeemDownload sampleLink.query .zero
  let read : Call := .download sampleBlob
  have hfaithful : v.Faithful ([write, issue, redeem, misuse] ++ [read]) := by
    show Throughout _ ([] ++ [write] ++ [issue] ++ [redeem] ++ [misuse] ++ [read])
    refine throughout_concat (throughout_concat (throughout_concat (throughout_concat
      (throughout_concat throughout_nil ?_) ?_) ?_) ?_) ?_
    · intro _ _ _ hcall
      cases hcall
    · intro _ _ _ hcall
      cases hcall
    · intro _ _ _ hcall
      cases hcall
      exact .inl ⟨issue, List.mem_cons_of_mem _ List.mem_cons_self, sampleBlob, sampleLink,
        ⟨_, _, _, rfl, linkFor_sampleBlob⟩, rfl⟩
    · intro _ _ _ hcall
      cases hcall
      exact .inr ⟨_, validateQuery_sampleLink_download⟩
    · intro _ _ _ hcall
      cases hcall
  -- only storage keys are worked out here, and no signature
  have hplain : (BlobRef.of "acme" "app.log" (some "")).resolve = .ok ⟨"acme/app.log"⟩ := by decide
  have hkey : sampleBlob.resolve = .ok sampleLink.key := rfl
  have haccepted : v.issuer.validateQuery sampleLink.query .upload .zero = _ :=
    validateQuery_sampleLink_upload
  have hnamed : List.lookup sampleLink.query [(sampleLink.query, sampleBlob)] = some sampleBlob :=
    List.lookup_cons_self
  have hledger : v.ledger [write, issue, redeem, misuse] =
      ⟨[(sampleBlob, [2]), (plain, [1])], [(sampleLink.query, sampleBlob)]⟩ := by
    rw [ledger, List.foldl_cons, recorded_upload hplain, List.foldl_cons,
      recorded_link linkFor_sampleBlob, List.foldl_cons,
      recorded_redeemUpload haccepted hnamed hkey]
    rfl
  obtain ⟨hcalls, hsize, -⟩ := refines_ledger hasBase_sampleIssuer hfaithful
  obtain ⟨hresult, -⟩ := hcalls [write, issue, redeem, misuse] read [] rfl
  refine ⟨v, [write, issue, redeem, misuse], rfl, hasBase_sampleIssuer, hfaithful, ?_, ?_⟩
  · rw [hresult, hledger]
    rfl
  · rw [hsize, ledger_concat, hledger]
    rfl

end Runs

end Vault

end LogVault
