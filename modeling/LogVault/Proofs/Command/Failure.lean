import LogVault.Proofs.Command.Agreement
import LogVault.Proofs.Http.Envelope
import LogVault.Proofs.Link.Expiry
import LogVault.Proofs.Vault.Refinement

/-!
# LogVault.Proofs.Command.Failure — a command that fails has done nothing

With its blobs in memory a command does all that it is for, or it fails and nothing has happened:
not a letter is printed, and the blobs and the files are what they were (`execute_ends_cleanly`).

That is a matter of order. A command first looks (`Action.LeavesState`), then changes one thing or
fails to (`Action.AllOrNothing`), and what comes after that cannot fail (`Action.Succeeds`); actions
put together in this order are all or nothing again, whichever of their steps it is that fails.
-/

namespace LogVault

/-! ## Actions that fail -/

namespace Action

variable {σ τ α β : Type}

/-- **An action that only looks**: however it ends, the state is as it was. -/
def LeavesState (a : Action σ α) : Prop := ∀ s, (a.run s).state = s

/-- **An action that is all or nothing**: when it fails, the state is as it was. -/
def AllOrNothing (a : Action σ α) : Prop :=
  ∀ s fault, (a.run s).result = .error fault → (a.run s).state = s

/-- An action that cannot fail. -/
def Succeeds (a : Action σ α) : Prop := ∀ s, ∃ x, (a.run s).result = .ok x

theorem leavesState_pure (x : α) : (pure x : Action σ α).LeavesState := fun _ => rfl

theorem leavesState_fail (fault : Fault) : (fail fault : Action σ α).LeavesState := fun _ => rfl

theorem Succeeds.allOrNothing {a : Action σ α} (h : a.Succeeds) : a.AllOrNothing := by
  intro s fault hfault
  obtain ⟨x, hx⟩ := h s
  rw [hx] at hfault
  cases hfault

/-- **Looking first** does no harm, whatever fails. -/
theorem LeavesState.bind {a : Action σ α} {f : α → Action σ β} (ha : a.LeavesState)
    (hf : ∀ x, (f x).AllOrNothing) : (a >>= f).AllOrNothing := by
  intro s fault hfault
  have hstate := ha s
  cases hrun : a.run s with
  | mk result t events =>
    rw [hrun] at hstate
    obtain rfl : t = s := hstate
    cases result with
    | error _ => rw [run_bind_error hrun]
    | ok x =>
      rw [run_bind_ok hrun] at hfault ⊢
      exact hf x t fault hfault

/-- **Nothing that can fail comes after** the one thing that is done. -/
theorem AllOrNothing.bind {a : Action σ α} {f : α → Action σ β} (ha : a.AllOrNothing)
    (hf : ∀ x, (f x).Succeeds) : (a >>= f).AllOrNothing := by
  intro s fault hfault
  cases hrun : a.run s with
  | mk result t events =>
    cases result with
    | error cause =>
      rw [run_bind_error hrun]
      have hstate := ha s cause (by rw [hrun])
      rwa [hrun] at hstate
    | ok x =>
      rw [run_bind_ok hrun] at hfault
      obtain ⟨y, hy⟩ := hf x t
      rw [hy] at hfault
      cases hfault

section Within

variable {view : τ → σ} {update : σ → τ → τ} {a : Action σ α}

theorem LeavesState.within (h : a.LeavesState) (hkeep : ∀ t, update (view t) t = t) :
    (a.within view update).LeavesState := by
  intro t
  show update (a.run (view t)).state t = t
  rw [h, hkeep]

theorem AllOrNothing.within (h : a.AllOrNothing) (hkeep : ∀ t, update (view t) t = t) :
    (a.within view update).AllOrNothing := by
  intro t fault hfault
  show update (a.run (view t)).state t = t
  rw [h (view t) fault hfault, hkeep]

end Within

end Action

/-! ## Operations of a vault -/

namespace Vault

variable {σ : Type} {v : Vault σ}

theorem leavesState_download (h : ∀ key, (v.store.get key).LeavesState) (blob : BlobRef) :
    (v.download blob).LeavesState := by
  intro s
  rw [run_download]
  cases blob.resolve with
  | ok key => exact (transferred_state ..).trans (h key s)
  | error fault => rfl

theorem allOrNothing_upload (h : ∀ key data, (v.store.put key data).AllOrNothing) (blob : BlobRef)
    (data : Bytes) : (v.upload blob data).AllOrNothing := by
  intro s fault hfault
  rw [run_upload] at hfault ⊢
  cases hkey : blob.resolve with
  | error _ => rfl
  | ok key =>
    rw [hkey] at hfault
    simp only [transferred_result, transferred_state] at hfault ⊢
    cases hput : ((v.store.put key data).run s).result with
    | ok _ =>
      rw [hput] at hfault
      cases hfault
    | error cause => exact h key data s cause hput

theorem leavesState_link (mode : Mode) (blob : BlobRef) (ttl : Option Duration) (now : Instant) :
    (v.link mode blob ttl now).LeavesState := fun s => by
  rw [run_link]

end Vault

namespace World

theorem leavesState_memoryStore_get (key : StorageKey) : (memoryStore.get key).LeavesState := by
  refine Action.LeavesState.within (fun b => ?_) fun _ => rfl
  rw [Blobs.run_get]

theorem succeeds_memoryStore_put (key : StorageKey) (data : Bytes) :
    (memoryStore.put key data).Succeeds := fun _ => ⟨(), rfl⟩

end World

namespace StoreCommand

/-! ## Steps of a command -/

theorem leavesState_inWorld {α : Type} {a : Action World α} (h : a.LeavesState) :
    (inWorld a).LeavesState := h.within fun _ => rfl

theorem allOrNothing_inWorld {α : Type} {a : Action World α} (h : a.AllOrNothing) :
    (inWorld a).AllOrNothing := h.within fun _ => rfl

theorem succeeds_print (octets : Bytes) : (print octets).Succeeds := fun _ => ⟨(), rfl⟩

theorem leavesState_fetch (input : Except String Bytes) (file : Option String) :
    (fetch input file).LeavesState := fun _ => rfl

/-- A file that cannot be written is not touched. -/
theorem allOrNothing_writeFile (path : String) (content : Bytes) :
    (writeFile path content).AllOrNothing := by
  intro w fault hfault
  unfold writeFile Action.run at hfault ⊢
  dsimp only at hfault ⊢
  split at hfault
  · cases hfault
  · rfl

theorem leavesState_requireSharedSecret {σ : Type} (v : Vault World) :
    (requireSharedSecret v : Action σ Unit).LeavesState := by
  unfold requireSharedSecret
  split
  · exact Action.leavesState_fail _
  · exact Action.leavesState_pure ()

section Memory

variable (issuer : Issuer) (ttl : Duration) (input : Except String Bytes) (now : Instant)

/-- **A command that fails has done nothing**: one case a command, its steps in their order. -/
theorem allOrNothing_execute (c : StoreCommand) :
    (c.execute ⟨World.memoryStore, issuer, ttl⟩ input now).AllOrNothing := by
  have hlink : ∀ mode blob seconds,
      (printLink ⟨World.memoryStore, issuer, ttl⟩ mode blob seconds now).AllOrNothing :=
    fun mode blob seconds => (leavesState_requireSharedSecret _).bind fun _ =>
      (leavesState_inWorld (Vault.leavesState_link _ _ _ _)).bind fun _ =>
        (succeeds_print _).allOrNothing
  cases c with
  | download blob output =>
    refine (leavesState_inWorld
      (Vault.leavesState_download World.leavesState_memoryStore_get _)).bind fun data => ?_
    cases output with
    | some path => exact allOrNothing_inWorld (allOrNothing_writeFile path data)
    | none => exact (succeeds_print data).allOrNothing
  | downloadLink blob seconds => exact hlink .download blob seconds
  | upload blob file =>
    have hput : ∀ data, (inWorld (Vault.upload ⟨World.memoryStore, issuer, ttl⟩ (named blob) data) >>=
        fun key => print (Http.documentOctets (receipt key data.length))).AllOrNothing :=
      fun data => (allOrNothing_inWorld (Vault.allOrNothing_upload
        (fun key data => (World.succeeds_memoryStore_put key data).allOrNothing) _ data)).bind
          fun _ => succeeds_print _
    exact (leavesState_fetch input file).bind hput
  | uploadLink blob seconds => exact hlink .upload blob seconds

/-! ## What a command leaves -/

/-- **A command ends cleanly.** If it fails, all is as it was. A download without a storage key or
without a blob fails, and so does an upload whose file or standard input cannot be read. An upload that
succeeds had its octets and its storage key; it puts just these octets under just this key, and prints
a document that reads as the key and their number, a length being a number of 64 bits. -/
structure EndsCleanly (input : Except String Bytes) (c : StoreCommand) (desk : Desk)
    (done : Outcome Desk Unit) : Prop where
  failed : ∀ fault, done.result = .error fault → done.state = desk
  refused : ∀ blob output fault, c = .download blob output → (named blob).resolve = .error fault →
    done.result = .error fault ∧ done.state = desk
  missing : ∀ blob output key, c = .download blob output → (named blob).resolve = .ok key →
    desk.world.blobs.get? key = none →
      done.result = .error (Backend.missing key) ∧ done.state = desk
  unread : ∀ blob file fault, c = .upload blob file →
    supply input desk.world.disk.files file = .error fault →
      done.result = .error fault ∧ done.state = desk
  uploads : ∀ blob file, c = .upload blob file → (done.result = .ok () ↔
    ∃ data key, supply input desk.world.disk.files file = .ok data ∧ (named blob).resolve = .ok key)
  uploaded : ∀ blob file data key, c = .upload blob file →
    supply input desk.world.disk.files file = .ok data → (named blob).resolve = .ok key →
      done.state.world = { desk.world with blobs := desk.world.blobs.insert key data } ∧
      done.state.world.blobs.get? key = some data ∧
      done.state.printed = desk.printed ++ Http.documentOctets (receipt key data.length) ∧
      (data.length ≤ Settings.max64 →
        Http.readDocument? (Http.documentOctets (receipt key data.length)) =
          some (.object [("key", .text key.text), ("size", .whole data.length)]))

variable {issuer ttl input now} {w : World} {printed : Bytes} {blob : BlobRef}

/-- **A download that comes to no blob** ends there, wherever it was to go. -/
theorem result_download_of_error {fault : Fault}
    (h : (named blob).resolve.bind w.blobs.got = .error fault) (output : Option String) :
    ((execute ⟨World.memoryStore, issuer, ttl⟩ input now (.download blob output)).run
      ⟨w, printed⟩).result = .error fault := by
  have hresult : ((Vault.download ⟨World.memoryStore, issuer, ttl⟩ (named blob)).run w).result =
      .error fault := by
    rw [Vault.run_download]
    cases hkey : (named blob).resolve with
    | error cause =>
      rw [hkey] at h
      exact h
    | ok key =>
      rw [hkey] at h
      have hget : ((World.memoryStore.get key).run w).result = .error fault := by
        show ((Blobs.backend.get key).run w.blobs).result = _
        rw [Blobs.run_get]
        exact h
      rw [Vault.transferred_result, hget]
      rfl
  have hrun := run_inWorld (Vault.download ⟨World.memoryStore, issuer, ttl⟩ (named blob)) w printed
  rw [hresult] at hrun
  rw [execute, Action.run_bind_error hrun]

/-- **An upload that cannot read its octets** ends there. -/
theorem result_upload_of_unread {file : Option String} {fault : Fault}
    (h : supply input w.disk.files file = .error fault) :
    ((execute ⟨World.memoryStore, issuer, ttl⟩ input now (.upload blob file)).run
      ⟨w, printed⟩).result = .error fault := by
  have hrun : (fetch input file).run ⟨w, printed⟩ = ⟨.error fault, ⟨w, printed⟩, []⟩ := by
    rw [run_fetch, h]
  rw [execute, Action.run_bind_error hrun]

theorem result_upload_of_refused {file : Option String} {data : Bytes} {fault : Fault}
    (h : supply input w.disk.files file = .ok data) (hkey : (named blob).resolve = .error fault) :
    ((execute ⟨World.memoryStore, issuer, ttl⟩ input now (.upload blob file)).run
      ⟨w, printed⟩).result = .error fault := by
  rw [execute_upload h, run_print, Vault.run_upload, hkey]
  rfl

/-- **An upload that has its octets and its storage key** puts them there and prints the receipt. -/
theorem run_upload_of_supply {file : Option String} {data : Bytes} {key : StorageKey}
    (h : supply input w.disk.files file = .ok data) (hkey : (named blob).resolve = .ok key) :
    ∃ events, (execute ⟨World.memoryStore, issuer, ttl⟩ input now (.upload blob file)).run
      ⟨w, printed⟩ = ⟨.ok (), ⟨{ w with blobs := w.blobs.insert key data },
        printed ++ Http.documentOctets (receipt key data.length)⟩, events⟩ := by
  rw [execute_upload h, run_print, Vault.run_upload, hkey]
  exact ⟨_, rfl⟩

theorem reads_receipt (key : StorageKey) {size : Nat} (h : size ≤ Settings.max64) :
    (receipt key size).Reads := by
  refine Json.reads_object fun m hm => ?_
  rcases List.mem_pair.mp hm with rfl | rfl
  · exact Json.reads_text key.text
  · exact Json.reads_whole h

end Memory

/-- **A command ends cleanly**, whatever it is, whether the secret of the vault is shared or made up,
and whatever is in the files, on standard input and on the clock. -/
theorem execute_ends_cleanly (issuer : Issuer) (ttl : Duration) (input : Except String Bytes)
    (now : Instant) (c : StoreCommand) (desk : Desk) :
    EndsCleanly input c desk
      ((c.execute ⟨World.memoryStore, issuer, ttl⟩ input now).run desk) := by
  obtain ⟨w, printed⟩ := desk
  have hclean := allOrNothing_execute issuer ttl input now c ⟨w, printed⟩
  refine ⟨hclean, ?_, ?_, ?_, ?_, ?_⟩
  · rintro blob output fault rfl hkey
    refine ⟨?refused, hclean _ ?refused⟩
    exact result_download_of_error (by rw [hkey]; rfl) output
  · rintro blob output key rfl hkey hnone
    refine ⟨?missing, hclean _ ?missing⟩
    exact result_download_of_error (by rw [hkey, Except.bind, Blobs.got, hnone]) output
  · rintro blob file fault rfl hread
    refine ⟨?unread, hclean _ ?unread⟩
    exact result_upload_of_unread hread
  · rintro blob file rfl
    constructor
    · intro hdone
      cases hsupply : supply input w.disk.files file with
      | error fault => cases hdone.symm.trans (result_upload_of_unread hsupply)
      | ok data =>
        cases hkey : (named blob).resolve with
        | error fault => cases hdone.symm.trans (result_upload_of_refused hsupply hkey)
        | ok key => exact ⟨data, key, rfl, rfl⟩
    · rintro ⟨data, key, hsupply, hkey⟩
      obtain ⟨events, hrun⟩ := run_upload_of_supply hsupply hkey
      rw [hrun]
  · rintro blob file data key rfl hsupply hkey
    obtain ⟨events, hrun⟩ := run_upload_of_supply hsupply hkey
    rw [hrun]
    refine ⟨rfl, ?_, rfl, fun hsize => Http.readDocument?_documentOctets (reads_receipt key hsize)⟩
    show (w.blobs.insert key data).get? key = some data
    rw [Blobs.get?_insert, if_pos rfl]

/-- Beside a file: a download of a blob that is not there leaves the file as it is, and an upload from
the file puts its octets. -/
theorem execute_ends_cleanly_beside_a_file :
    ∃ (desk : Desk) (blob : BlobRef) (key : StorageKey) (kept put : Outcome Desk Unit),
      blob = ⟨"acct1", "app.log", none⟩ ∧ (named blob).resolve = .ok key ∧
      Directory.onPath "notes" desk.world.disk.files.read = .ok [104, 105] ∧
      (execute ⟨World.memoryStore, Issuer.hourly, .ofSeconds 60⟩ (.ok []) .zero
        (.download blob (some "notes"))).run desk = kept ∧
      (execute ⟨World.memoryStore, Issuer.hourly, .ofSeconds 60⟩ (.ok []) .zero
        (.upload blob (some "notes"))).run desk = put ∧
      kept.result = .error (Backend.missing key) ∧ kept.state = desk ∧
      put.result = .ok () ∧ put.state.world.blobs.get? key = some [104, 105] := by
  let desk : Desk :=
    ⟨{ World.empty with disk := ⟨⟨[(["notes"], .file [104, 105])]⟩, 0⟩ }, []⟩
  let blob : BlobRef := ⟨"acct1", "app.log", none⟩
  have hread : Directory.onPath "notes" desk.world.disk.files.read = .ok [104, 105] := by decide
  have hsupply : supply (.ok []) desk.world.disk.files (some "notes") = .ok [104, 105] :=
    congrArg (Except.mapError Directory.fault) hread
  let key : StorageKey := ⟨"acct1/app.log"⟩
  have hkey : (named blob).resolve = .ok key := by decide
  have hdownload := execute_ends_cleanly Issuer.hourly (.ofSeconds 60) (.ok []) .zero
    (.download blob (some "notes")) desk
  have hupload := execute_ends_cleanly Issuer.hourly (.ofSeconds 60) (.ok []) .zero
    (.upload blob (some "notes")) desk
  obtain ⟨hresult, hstate⟩ := hdownload.missing blob _ key rfl hkey rfl
  exact ⟨desk, blob, key, _, _, rfl, hkey, hread, rfl, rfl, hresult, hstate,
    (hupload.uploads blob _ rfl).mpr ⟨_, key, hsupply, hkey⟩,
    (hupload.uploaded blob _ _ key rfl hsupply hkey).2.1⟩

end StoreCommand

end LogVault
