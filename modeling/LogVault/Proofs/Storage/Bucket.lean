import LogVault.Proofs.Storage.Key
import LogVault.Proofs.Url.Path
import LogVault.Proofs.Vault.Refinement
import LogVault.Storage.Bucket
import Mathlib.Logic.Function.Basic

/-!
# LogVault.Proofs.Storage.Bucket — a bucket keeps the last write to each blob

The backend of a bucket shows the storage key in the target of its requests, so two things keep one
blob from another: no two keys have the same target (`target_injective`), and a reader of paths
finds nothing in a target to take away or to go up by (`inside_target`). Then, over a server that
keeps bodies by their targets (`KeepsByTarget`), uploads and downloads are answered as by a map from
blobs to what was written to them last (`refines_holdings`), whatever the server held before.
-/

namespace LogVault

namespace Bucket

open Utf8 (octet)

/-! ## The characters of a target -/

/-- A character of a key in a target: an octet that stands for itself, or one of an escape. -/
def isTargetChar (c : Char) : Bool := c.toNat < 0x80 && (c == '%' || keepsInTarget (octet c))

/-- A key as it stands in a target. -/
def encodeKey (l : List Char) : List Char := Percent.encodeText keepsInTarget l

theorem toList_target (bucket : String) (key : StorageKey) :
    (target bucket key).toList = '/' :: (bucket.toList ++ '/' :: encodeKey key.text.toList) := by
  simp [target, encodeKey]

theorem isTargetChar_of_mem_encodeKey {l : List Char} :
    ∀ c ∈ encodeKey l, isTargetChar c = true := by
  apply Percent.forall_mem_encode
  · intro c hc
    have hascii := Percent.toNat_lt_of_isEscapeChar hc
    revert hc
    refine Url.forall_ascii hascii ?_
    decide +kernel
  · intro b _ hkept
    revert hkept
    refine Utf8.forall_octet b ?_
    decide +kernel

/-- A character of a target stands for itself in a path, and ends neither a path nor a segment of it
unless it is a slash. -/
theorem isTargetChar_facts {c : Char} (h : isTargetChar c = true) :
    c.toNat < 0x80 ∧ Url.keepsInPath (octet c) = true ∧ c ≠ '\\' ∧ Url.endsStem c = false := by
  have hascii : c.toNat < 0x80 := by
    rw [isTargetChar, Bool.and_eq_true, decide_eq_true_eq] at h
    exact h.1
  refine ⟨hascii, ?_⟩
  revert h
  refine Url.forall_ascii hascii ?_
  decide +kernel

theorem slash_not_mem_encodeKey {l : List Char} (h : '/' ∉ l) : '/' ∉ encodeKey l := by
  intro hslash
  refine Percent.forall_mem_encode (P := fun c => c ≠ '/') ?_ ?_ '/' hslash rfl
  · rintro c hc rfl
    revert hc
    decide
  · intro b hb _ heq
    have hvalue : b = 0x2F := by
      rw [← Percent.octet_char b, heq]
      rfl
    subst hvalue
    exact h (Utf8.char_mem_of_octet_mem (by decide) hb)

/-- **The segments of a target** are those of the key, each written on its own. -/
theorem splitOn_encodeKey (l : List Char) :
    (encodeKey l).splitOn '/' = (l.splitOn '/').map encodeKey := by
  -- on the slashes: a slash stands for itself, and no other character is written with one
  by_cases hslash : '/' ∈ l
  · obtain ⟨segment, rest, hl, hsegment⟩ := List.eq_append_cons_of_mem hslash
    have hencode : encodeKey l = encodeKey segment ++ '/' :: encodeKey rest := by
      rw [hl, encodeKey, Percent.encodeText_append, Percent.encodeText_cons (by decide) (by decide)]
      rfl
    rw [hencode, hl, List.splitOn_append_cons_self_of_not_mem hsegment,
      List.splitOn_append_cons_self_of_not_mem (slash_not_mem_encodeKey hsegment),
      splitOn_encodeKey rest, List.map_cons]
  · rw [List.splitOn_eq_singleton hslash,
      List.splitOn_eq_singleton (slash_not_mem_encodeKey hslash), List.map_singleton]
termination_by l.length
decreasing_by simp [hl]; omega

theorem encodeKey_injective {l m : List Char} (h : encodeKey l = encodeKey m) : l = m :=
  Percent.encodeText_injective (by decide) h

/-! ## Points -/

theorem plainPoints_of_ne {c : Char} (hpoint : c ≠ '.') (hsign : c ≠ '%') (l : List Char) :
    Url.plainPoints (c :: l) = c :: l := by
  unfold Url.plainPoints
  split
  · next heq => exact absurd (List.cons.inj heq).1 hsign
  · next heq => exact absurd (List.cons.inj heq).1 hpoint
  · rfl

/-- No point is written as an escape. -/
theorem escape_ne_point {b : UInt8} : keepsInTarget b = false →
    ¬ (Percent.upperDigit (b.toNat / 16) = '2' ∧
      (Percent.upperDigit (b.toNat % 16) = 'e' ∨ Percent.upperDigit (b.toNat % 16) = 'E')) := by
  refine Utf8.forall_octet b ?_
  decide +kernel

theorem plainPoints_encode (l : Bytes) :
    Url.plainPoints (Percent.encode keepsInTarget l) = Percent.encode keepsInTarget l := by
  induction l with
  | nil => rfl
  | cons b l ih =>
    have hcons : Percent.encode keepsInTarget (b :: l) =
        (if keepsInTarget b then [Char.ofNat b.toNat] else Percent.escape b) ++
          Percent.encode keepsInTarget l := rfl
    rw [hcons]
    split
    · next hkept =>
      rw [List.singleton_append]
      by_cases hpoint : Char.ofNat b.toNat = '.'
      · rw [hpoint]
        show '.' :: Url.plainPoints (Percent.encode keepsInTarget l) = _
        rw [ih]
      · have hsign : Char.ofNat b.toNat ≠ '%' := by
          revert hkept
          refine Utf8.forall_octet b ?_
          decide +kernel
        exact plainPoints_of_ne hpoint hsign _
    · -- an escape is looked at for being that of a point, and it is not
      next hkept =>
      have hne := escape_ne_point (Bool.eq_false_iff.mpr hkept)
      rw [Percent.escape]
      simp only [List.cons_append, List.nil_append]
      unfold Url.plainPoints
      split
      · next hdigits =>
        simp only [List.cons.injEq, true_and] at hdigits
        obtain ⟨htwo, rfl, rfl⟩ := hdigits
        rw [if_neg fun hlast => hne ⟨htwo, hlast⟩, htwo]
      · next heq => exact absurd (List.cons.inj heq).1 (by decide)
      · rfl

/-! ## Targets -/

theorem isKept_encodeKey {segment : List Char} (hdots : StorageKey.isDots segment = false) :
    Url.IsKept (encodeKey segment) := by
  rw [StorageKey.isDots, Bool.or_eq_false_iff, beq_eq_false_iff_ne, beq_eq_false_iff_ne] at hdots
  refine ⟨?_, ?_, plainPoints_encode _, ?_, ?_⟩
  · intro c hc
    obtain ⟨hascii, hkept, -⟩ := isTargetChar_facts (isTargetChar_of_mem_encodeKey c hc)
    exact ⟨hascii, hkept⟩
  · intro hc
    obtain ⟨-, -, hne, -⟩ := isTargetChar_facts (isTargetChar_of_mem_encodeKey _ hc)
    exact hne rfl
  · intro heq
    exact hdots.1 (encodeKey_injective heq)
  · intro heq
    exact hdots.2 (encodeKey_injective heq)

/-- **A target inside a bucket**, for one who reads it as the path of a URL: it starts with the
bucket, no query and no fragment starts in what follows, and the path is the one to which the bucket
leads with what follows below it. So if the bucket itself is read as written, the target is. -/
structure Inside (bucket target : String) : Prop where
  starts : ∃ rest, target.toList = '/' :: (bucket.toList ++ '/' :: rest) ∧
    (∀ c ∈ rest, Url.endsStem c = false) ∧
    Url.pathOf .web (target.toList.drop 1) = Url.above bucket.toList ++ rest.splitOn '/'
  unchanged : Url.writePath (Url.pathOf .web (bucket.toList ++ ['/'])) =
      '/' :: (bucket.toList ++ ['/']) →
    Url.writePath (Url.pathOf .web (target.toList.drop 1)) = target.toList

variable {bucket : String} {blob : BlobRef} {key : StorageKey}

/-- **No target leads out of its bucket.** -/
theorem inside_target (h : blob.resolve = .ok key) (bucket : String) :
    Inside bucket (target bucket key) := by
  obtain ⟨hnames, -⟩ := StorageKey.names_of_build (BlobRef.resolve_eq_ok_iff.mp h)
  -- a reader takes a backslash for a slash, but a key's is written as an escape
  have hbackslash : '\\' ∉ encodeKey key.text.toList := by
    intro hc
    obtain ⟨-, -, hne, -⟩ := isTargetChar_facts (isTargetChar_of_mem_encodeKey _ hc)
    exact hne rfl
  have hkept : ∀ segment ∈ (encodeKey key.text.toList).splitOn '/', Url.IsKept segment := by
    intro segment hsegment
    rw [splitOn_encodeKey, List.mem_map] at hsegment
    obtain ⟨raw, hraw, rfl⟩ := hsegment
    exact isKept_encodeKey (hnames raw hraw).2
  have htarget := toList_target bucket key
  have hpath : (target bucket key).toList.drop 1 =
      bucket.toList ++ '/' :: encodeKey key.text.toList := by
    rw [htarget, List.drop_one, List.tail_cons]
  refine ⟨⟨encodeKey key.text.toList, htarget, ?_, ?_⟩, ?_⟩
  · intro c hc
    exact (isTargetChar_facts (isTargetChar_of_mem_encodeKey c hc)).2.2.2
  · rw [hpath]
    exact Url.pathOf_append_slash hbackslash hkept bucket.toList
  · intro hbucket
    rw [hpath, htarget]
    exact Url.writePath_pathOf_append_slash hbackslash hkept hbucket

/-- **No two keys have one target.** -/
theorem target_injective (bucket : String) {key₁ key₂ : StorageKey}
    (h : target bucket key₁ = target bucket key₂) : key₁ = key₂ := by
  have hlists := congrArg String.toList h
  rw [toList_target, toList_target, List.cons_inj_right, List.append_cancel_left_eq,
    List.cons_inj_right] at hlists
  obtain ⟨text₁⟩ := key₁
  obtain ⟨text₂⟩ := key₂
  congr 1
  exact String.toList_injective (encodeKey_injective hlists)

/-! ## Servers -/

variable {σ : Type} {server : StoreServer σ} {stored : σ → String → Option Bytes}

/-- **A server that keeps bodies by their targets**: to put a body always succeeds and changes what is
stored under its target alone, to get a target changes nothing, and gives what is stored there, or
says in a readable text that nothing is. -/
structure KeepsByTarget (server : StoreServer σ) (stored : σ → String → Option Bytes) : Prop where
  put : ∀ target body contentType s, ∃ reply t,
    server ⟨"PUT", target, body, contentType⟩ s = (.ok reply, t) ∧ reply.isSuccess = true ∧
      stored t = Function.update (stored s) target (some body)
  found : ∀ target s data, stored s target = some data → ∃ reply t,
    server ⟨"GET", target, [], none⟩ s = (.ok reply, t) ∧ reply.isSuccess = true ∧
      reply.body = data ∧ stored t = stored s
  absent : ∀ target s, stored s target = none → ∃ reply t,
    server ⟨"GET", target, [], none⟩ s = (.ok reply, t) ∧ reply.status = 404 ∧
      Utf8.flaw? reply.body = none ∧ stored t = stored s

/-- Through the strict client of a server that answers. -/
theorem strict_of_answer {request : StoreRequest} {reply : StoreReply} {s t : σ}
    (h : server request s = (.ok reply, t)) :
    StoreClient.strict server request s = (reply.strictly, t) := by
  rw [StoreClient.strict, h]

/-- Putting asks once. -/
theorem run_put (key : StorageKey) (data : Bytes) (s : σ) :
    ((backend server bucket).put key data).run s =
      putOutcome bucket key data (StoreClient.strict server (putRequest bucket key data) s).2
        (StoreClient.strict server (putRequest bucket key data) s).1 := rfl

/-- Getting asks once. -/
theorem run_get (key : StorageKey) (s : σ) :
    ((backend server bucket).get key).run s =
      getOutcome key (StoreClient.strict server (getRequest bucket key) s).2
        (StoreClient.strict server (getRequest bucket key) s).1 := rfl

theorem strictly_of_isSuccess {reply : StoreReply} (h : reply.isSuccess = true) :
    reply.strictly = .ok reply := by
  rw [StoreReply.strictly, if_pos h]

/-- Of a refusal with a text the strict client tells the status and the text. -/
theorem strictly_of_text {reply : StoreReply} (h : reply.isSuccess = false)
    (htext : Utf8.flaw? reply.body = none) :
    reply.strictly = .error (.refused reply.status (Utf8.textLossy reply.body)) := by
  rw [StoreReply.strictly, if_neg (Bool.eq_false_iff.mp h), htext]

theorem KeepsByTarget.exists_run_put (h : KeepsByTarget server stored) (bucket : String)
    (key : StorageKey) (data : Bytes) (s : σ) : ∃ t entries,
      ((backend server bucket).put key data).run s = ⟨.ok (), t, entries⟩ ∧
        stored t = Function.update (stored s) (target bucket key) (some data) := by
  obtain ⟨reply, t, hreply, hsuccess, hstored⟩ :=
    h.put (target bucket key) data (some contentType) s
  refine ⟨t, [.note .debug (storedNote bucket key data)], ?_, hstored⟩
  rw [run_put, putRequest, strict_of_answer hreply, strictly_of_isSuccess hsuccess, putOutcome,
    if_pos hsuccess]

theorem KeepsByTarget.exists_run_get (h : KeepsByTarget server stored) (bucket : String)
    (key : StorageKey) (s : σ) : ∃ t,
      ((backend server bucket).get key).run s =
          ⟨match stored s (target bucket key) with
            | some data => .ok data
            | none => .error (Backend.missing key), t, []⟩ ∧
        stored t = stored s := by
  rw [run_get, getRequest]
  cases hdata : stored s (target bucket key) with
  | some data =>
    obtain ⟨reply, t, hreply, hsuccess, rfl, hstored⟩ := h.found _ s data hdata
    refine ⟨t, ?_, hstored⟩
    rw [strict_of_answer hreply, strictly_of_isSuccess hsuccess, getOutcome, if_pos hsuccess]
  | none =>
    obtain ⟨reply, t, hreply, hstatus, htext, hstored⟩ := h.absent _ s hdata
    have hrefused : reply.isSuccess = false := by
      rw [StoreReply.isSuccess, hstatus]
      rfl
    refine ⟨t, ?_, hstored⟩
    -- the one flaw that is told apart from the others
    have hnotFound : (ClientFlaw.refused 404 (Utf8.textLossy reply.body)).isNotFound = true := rfl
    rw [strict_of_answer hreply, strictly_of_text hrefused htext, hstatus, getOutcome,
      if_pos hnotFound]

/-! ## What a server is asked -/

/-- The state after an action of the backend is the one in which the server leaves off. -/
theorem state_run_put (key : StorageKey) (data : Bytes) (s : σ) :
    (((backend server bucket).put key data).run s).state =
      (server ⟨"PUT", target bucket key, data, some contentType⟩ s).2 := by
  rw [run_put, state_putOutcome]
  rfl

@[inherit_doc state_run_put]
theorem state_run_get (key : StorageKey) (s : σ) :
    (((backend server bucket).get key).run s).state =
      (server ⟨"GET", target bucket key, [], none⟩ s).2 := by
  rw [run_get, state_getOutcome]
  rfl

/-- **A server with a list** of the requests that it was sent, the latest last. -/
def listing (server : StoreServer σ) : StoreServer (σ × List StoreRequest) := fun request s =>
  ((server request s.1).1, (server request s.1).2, s.2 ++ [request])

end Bucket

/-! ## Transfers -/

namespace Vault

/-- **An upload or a download.** -/
inductive Transfer where
  | upload (blob : BlobRef) (data : Bytes)
  | download (blob : BlobRef)
  deriving DecidableEq

/-- A transfer as a call. -/
def Transfer.call : Transfer → Call
  | .upload blob data => .upload blob data
  | .download blob => .download blob

/-- The answers to a run of calls. -/
def answers {σ : Type} (v : Vault σ) (s : σ) : List Call → List (Except Fault Answer)
  | [] => []
  | call :: rest => (v.outcome s call).result :: v.answers (v.outcome s call).state rest

/-- **What is held for each blob**, by its account, log key and snapshot. -/
abbrev Holdings := BlobRef → Option Bytes

namespace Holdings

/-- What a transfer is answered with. -/
def answer (h : Holdings) : Transfer → Except Fault Answer
  | .upload blob _ => blob.resolve.map .stored
  | .download blob =>
    blob.resolve.bind fun key =>
      match h blob with
      | some data => .ok (.content data)
      | none => .error (Backend.missing key)

/-- What is held after a transfer: an upload that is not refused replaces what was held. -/
def after (h : Holdings) : Transfer → Holdings
  | .upload blob data =>
    match blob.resolve with
    | .ok _ => Function.update h blob (some data)
    | .error _ => h
  | .download _ => h

/-- **The answers to a run of transfers**: the last write to a blob is what is read of it. -/
def answers (h : Holdings) : List Transfer → List (Except Fault Answer)
  | [] => []
  | transfer :: rest => h.answer transfer :: (h.after transfer).answers rest

end Holdings

end Vault

namespace Bucket

open Vault (Transfer Holdings)

variable {σ : Type} {server : StoreServer σ} {stored : σ → String → Option Bytes} {bucket : String}

/-- The vault over a bucket. -/
def vault (server : StoreServer σ) (bucket : String) (issuer : Issuer) (defaultTtl : Duration) :
    Vault σ :=
  ⟨backend server bucket, issuer, defaultTtl⟩

/-- **What a server holds for each blob.** -/
def held (stored : σ → String → Option Bytes) (bucket : String) (s : σ) : Holdings := fun blob =>
  match blob.resolve with
  | .ok key => stored s (target bucket key)
  | .error _ => none

/-- **What a transfer asks of the server**: one request, or none if the blob is refused. -/
def asked (bucket : String) : Transfer → List StoreRequest
  | .upload blob data =>
    match blob.resolve with
    | .ok key => [⟨"PUT", target bucket key, data, some contentType⟩]
    | .error _ => []
  | .download blob =>
    match blob.resolve with
    | .ok key => [⟨"GET", target bucket key, [], none⟩]
    | .error _ => []

theorem held_update {s t : σ} {blob : BlobRef} {key : StorageKey} {data : Bytes}
    (hkey : blob.resolve = .ok key)
    (hstored : stored t = Function.update (stored s) (target bucket key) (some data)) :
    held stored bucket t = Function.update (held stored bucket s) blob (some data) := by
  funext other
  by_cases hsame : other = blob
  · rw [hsame, Function.update_self, held, hkey]
    simp only [hstored, Function.update_self]
  · rw [Function.update_of_ne hsame, held, held]
    cases hother : other.resolve with
    | error fault => rfl
    | ok otherKey =>
      -- another blob has another key, and so another target
      have hne : target bucket otherKey ≠ target bucket key := by
        intro heq
        rw [target_injective bucket heq] at hother
        exact hsame (BlobRef.resolve_injective hother hkey)
      simp only [hstored, Function.update_of_ne hne]

section Step

variable (issuer : Issuer) (defaultTtl : Duration)

/-- **One transfer** is answered from what the server holds, and leaves it holding what it should. -/
theorem step_transfer (h : KeepsByTarget server stored) (s : σ) (transfer : Transfer) :
    ((vault server bucket issuer defaultTtl).outcome s transfer.call).result =
        (held stored bucket s).answer transfer ∧
      held stored bucket ((vault server bucket issuer defaultTtl).outcome s transfer.call).state =
        (held stored bucket s).after transfer := by
  cases transfer with
  | upload blob data =>
    have houtcome : (vault server bucket issuer defaultTtl).outcome s (.upload blob data) = _ :=
      Action.run_map ..
    rw [Vault.run_upload] at houtcome
    show ((vault server bucket issuer defaultTtl).outcome s (.upload blob data)).result = _ ∧
      held stored bucket
        ((vault server bucket issuer defaultTtl).outcome s (.upload blob data)).state = _
    rw [houtcome, Outcome.map_result, Outcome.map_state, Holdings.answer, Holdings.after]
    cases hkey : blob.resolve with
    | error fault => exact ⟨rfl, rfl⟩
    | ok key =>
      obtain ⟨t, entries, hrun, hstored⟩ := h.exists_run_put bucket key data s
      change ((vault server bucket issuer defaultTtl).store.put key data).run s = _ at hrun
      simp only [Vault.transferred_result, Vault.transferred_state, hrun]
      exact ⟨rfl, held_update hkey hstored⟩
  | download blob =>
    have houtcome : (vault server bucket issuer defaultTtl).outcome s (.download blob) = _ :=
      Action.run_map ..
    rw [Vault.run_download] at houtcome
    show ((vault server bucket issuer defaultTtl).outcome s (.download blob)).result = _ ∧
      held stored bucket
        ((vault server bucket issuer defaultTtl).outcome s (.download blob)).state = _
    rw [houtcome, Outcome.map_result, Outcome.map_state, Holdings.answer, Holdings.after]
    cases hkey : blob.resolve with
    | error fault => exact ⟨rfl, rfl⟩
    | ok key =>
      obtain ⟨t, hrun, hstored⟩ := h.exists_run_get bucket key s
      have hheld : held stored bucket s blob = stored s (target bucket key) := by
        rw [held, hkey]
      change ((vault server bucket issuer defaultTtl).store.get key).run s = _ at hrun
      simp only [Vault.transferred_result, Vault.transferred_state, hrun, hheld]
      constructor
      · cases stored s (target bucket key) <;> rfl
      · -- a server may change by being read, but not in what it stores
        funext other
        rw [held, held, hstored]

/-- **One transfer sends one request**, or none if its blob is refused, whatever the server. -/
theorem step_listing (server : StoreServer σ) (s : σ × List StoreRequest) (transfer : Transfer) :
    ((vault (listing server) bucket issuer defaultTtl).outcome s transfer.call).state.2 =
      s.2 ++ asked bucket transfer := by
  cases transfer with
  | upload blob data =>
    show (((vault (listing server) bucket issuer defaultTtl).perform (.upload blob data)).run
      s).state.2 = _
    rw [Vault.perform, Action.run_map, Vault.run_upload, Outcome.map_state, asked]
    cases blob.resolve with
    | error fault => exact (List.append_nil s.2).symm
    | ok key =>
      rw [Vault.transferred_state, vault, state_run_put]
      rfl
  | download blob =>
    show (((vault (listing server) bucket issuer defaultTtl).perform (.download blob)).run
      s).state.2 = _
    rw [Vault.perform, Action.run_map, Vault.run_download, Outcome.map_state, asked]
    cases blob.resolve with
    | error fault => exact (List.append_nil s.2).symm
    | ok key =>
      rw [Vault.transferred_state, vault, state_run_get]
      rfl

/-! ## Runs of transfers -/

theorem answers_eq (h : KeepsByTarget server stored) (transfers : List Transfer) (s : σ) :
    (vault server bucket issuer defaultTtl).answers s (transfers.map Transfer.call) =
      (held stored bucket s).answers transfers := by
  induction transfers generalizing s with
  | nil => rfl
  | cons transfer rest ih =>
    obtain ⟨hanswer, hheld⟩ := step_transfer issuer defaultTtl h s transfer
    rw [List.map_cons, Vault.answers, Holdings.answers, hanswer, ih, hheld]

theorem requests_eq (server : StoreServer σ) (transfers : List Transfer)
    (s : σ × List StoreRequest) :
    ((vault (listing server) bucket issuer defaultTtl).stateAfter s
        (transfers.map Transfer.call)).2 = s.2 ++ transfers.flatMap (asked bucket) := by
  induction transfers generalizing s with
  | nil => exact (List.append_nil s.2).symm
  | cons transfer rest ih =>
    rw [List.map_cons, Vault.stateAfter, List.foldl_cons, ← Vault.stateAfter, ih, step_listing,
      List.append_assoc, List.flatMap_cons]

end Step

theorem exists_resolve_of_mem_asked {transfer : Transfer} {request : StoreRequest}
    (h : request ∈ asked bucket transfer) : ∃ blob key,
      BlobRef.resolve blob = .ok key ∧ request.target = target bucket key := by
  cases transfer with
  | upload blob data =>
    simp only [asked] at h
    split at h
    · next key hkey => exact ⟨blob, key, hkey, by rw [List.mem_singleton.mp h]⟩
    · exact absurd h List.not_mem_nil
  | download blob =>
    simp only [asked] at h
    split at h
    · next key hkey => exact ⟨blob, key, hkey, by rw [List.mem_singleton.mp h]⟩
    · exact absurd h List.not_mem_nil

/-- **The last write to a blob is what is read of it.** Over a server that keeps bodies by their
targets, uploads and downloads are answered as by a map from blobs to what they hold, starting with
what the server holds. Each sends one request, or none if its blob is refused, and no request leads
out of the bucket: the segments of a storage key all name something, no control stands in it, and no
two blobs have the same target. -/
theorem refines_holdings (h : KeepsByTarget server stored) (bucket : String) (issuer : Issuer)
    (defaultTtl : Duration) (s : σ) (transfers : List Transfer) :
    (vault server bucket issuer defaultTtl).answers s (transfers.map Transfer.call) =
        (held stored bucket s).answers transfers ∧
      ((vault (listing server) bucket issuer defaultTtl).stateAfter (s, [])
        (transfers.map Transfer.call)).2 = transfers.flatMap (asked bucket) ∧
      (∀ request ∈ transfers.flatMap (asked bucket), Inside bucket request.target) ∧
      (∀ blob key, BlobRef.resolve blob = .ok key →
        (∀ segment ∈ key.text.toList.splitOn '/',
          segment ≠ [] ∧ StorageKey.isDots segment = false) ∧
        ∀ c ∈ key.text.toList, StorageKey.isControl c = false) ∧
      ∀ blob₁ key₁ blob₂ key₂, BlobRef.resolve blob₁ = .ok key₁ → BlobRef.resolve blob₂ = .ok key₂ →
        blob₁ ≠ blob₂ → target bucket key₁ ≠ target bucket key₂ := by
  refine ⟨answers_eq issuer defaultTtl h transfers s, ?_, ?_, ?_, ?_⟩
  · rw [requests_eq, List.nil_append]
  · intro request hrequest
    obtain ⟨transfer, -, hasked⟩ := List.mem_flatMap.mp hrequest
    obtain ⟨blob, key, hkey, htarget⟩ := exists_resolve_of_mem_asked hasked
    rw [htarget]
    exact inside_target hkey bucket
  · intro blob key hkey
    exact StorageKey.names_of_build (BlobRef.resolve_eq_ok_iff.mp hkey)
  · intro blob₁ key₁ blob₂ key₂ hkey₁ hkey₂ hne heq
    rw [target_injective bucket heq] at hkey₁
    exact hne (BlobRef.resolve_injective hkey₁ hkey₂)

/-- A server that puts each body on top of the others and answers with the topmost of a target. -/
def shelf : StoreServer (List (String × Bytes)) := fun request s =>
  if request.method = "PUT" then (.ok ⟨200, []⟩, (request.target, request.body) :: s)
  else
    match s.lookup request.target with
    | some data => (.ok ⟨200, data⟩, s)
    | none => (.ok ⟨404, []⟩, s)

theorem keepsByTarget_shelf : KeepsByTarget shelf fun s target => s.lookup target where
  put target body contentType s := by
    refine ⟨⟨200, []⟩, (target, body) :: s, rfl, rfl, ?_⟩
    funext other
    by_cases hsame : other = target
    · rw [hsame, Function.update_self, List.lookup_cons_self]
    · rw [Function.update_of_ne hsame, List.lookup_cons, beq_eq_false_iff_ne.mpr hsame]
  found target s data hdata := by
    refine ⟨⟨200, data⟩, s, ?_, rfl, rfl, rfl⟩
    simp [shelf, hdata]
  absent target s hdata := by
    have hempty : Utf8.flaw? [] = none := by
      rw [Utf8.flaw?, Utf8.items, Utf8.flawFrom]
    refine ⟨⟨404, []⟩, s, ?_, rfl, hempty, rfl⟩
    simp [shelf, hdata]

/-- A snapshot that was written is read, and a reader of paths leaves its target as it is. -/
theorem refines_holdings_of_shelf :
    (vault shelf "logs" Vault.sampleIssuer (.ofSeconds 600)).answers []
        [.upload Vault.sampleBlob [1], .download Vault.sampleBlob] =
      [.ok (.stored ⟨"acme/app.log@2024-05"⟩), .ok (.content [1])] ∧
    Url.writePath (Url.pathOf .web
      ((target "logs" ⟨"acme/app.log@2024-05"⟩).toList.drop 1)) =
        (target "logs" ⟨"acme/app.log@2024-05"⟩).toList := by
  obtain ⟨hanswers, -, hinside, -, -⟩ :=
    refines_holdings keepsByTarget_shelf "logs" Vault.sampleIssuer (.ofSeconds 600) []
      [.upload Vault.sampleBlob [1], .download Vault.sampleBlob]
  refine ⟨hanswers.trans rfl, ?_⟩
  have hasked : (⟨"GET", target "logs" ⟨"acme/app.log@2024-05"⟩, [], none⟩ : StoreRequest) ∈
      [Transfer.upload Vault.sampleBlob [1], .download Vault.sampleBlob].flatMap (asked "logs") :=
    List.mem_cons_of_mem _ List.mem_cons_self
  exact (hinside _ hasked).unchanged (by decide)

end Bucket

end LogVault
