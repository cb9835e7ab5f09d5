import LogVault.Proofs.Storage.Access
import LogVault.Proofs.Storage.Route
import LogVault.Proofs.Text.Hex
import LogVault.Storage.Directory

/-!
# LogVault.Proofs.Storage.Directory — a directory of files is as good as memory

A store in files answers every run as a store in memory does, and the files under its root are the
blobs that were written and nothing else (`refines_memory`).

The tree reflects the blobs (`Reflects`): a file lies at `shard/digest` for each blob, and what else
there is are directories in nobody's way. Putting a blob succeeds in such a tree and leaves one
(`exists_run_put`, `Reflects.put`), because names of scratch files begin with a point, which is no
digit of a digest, so a scratch file is never in the way of a blob; and a blob is not found for two
reasons that read alike, no shard or no file in it (`Reflects.read`).
-/

namespace LogVault

namespace Directory

open FileTree (fits Adds)
open Route (IsName Step stepsOf placeOf Passes)

/-! ## Digests as names -/

/-- A text of digits is a name. -/
theorem isName_of_digits {name : String} (hne : name.toList ≠ [])
    (h : ∀ c ∈ name.toList, c ∈ Hex.digits) : IsName name where
  ne_nil := hne
  slash hmem := absurd (h _ hmem) (by decide)
  nul hmem := absurd (h _ hmem) (by decide)
  ne_point heq := absurd (h '.' (heq ▸ List.mem_cons_self)) (by decide)
  ne_points heq := absurd (h '.' (heq ▸ List.mem_cons_self)) (by decide)

section Names

variable (key : StorageKey)

theorem toList_digest : (digest key).toList = Hex.encode (Sha256.hash (Text.bytes key.text)) :=
  String.toList_ofList

theorem toList_shard : (shard key).toList = (digest key).toList.take 2 := String.toList_ofList

theorem length_digest : (digest key).toList.length = 64 := by
  rw [toList_digest, Hex.length_encode, Sha256.length_hash]

theorem length_shard : (shard key).toList.length = 2 := by
  rw [toList_shard, List.length_take, length_digest]
  rfl

theorem mem_digits_of_mem_digest {c : Char} (h : c ∈ (digest key).toList) : c ∈ Hex.digits := by
  rw [toList_digest] at h
  exact Hex.mem_digits_of_mem_encode h

theorem mem_digits_of_mem_shard {c : Char} (h : c ∈ (shard key).toList) : c ∈ Hex.digits := by
  rw [toList_shard] at h
  exact mem_digits_of_mem_digest key (List.mem_of_mem_take h)

theorem isName_digest : IsName (digest key) := by
  refine isName_of_digits ?_ fun _ => mem_digits_of_mem_digest key
  rw [← List.length_pos_iff, length_digest]
  decide

theorem isName_shard : IsName (shard key) := by
  refine isName_of_digits ?_ fun _ => mem_digits_of_mem_shard key
  rw [← List.length_pos_iff, length_shard]
  decide

theorem length_bytes_digest : (Text.bytes (digest key)).length = 64 := by
  rw [Hex.length_bytes_of_digits fun _ => mem_digits_of_mem_digest key, length_digest]

theorem length_bytes_shard : (Text.bytes (shard key)).length = 2 := by
  rw [Hex.length_bytes_of_digits fun _ => mem_digits_of_mem_shard key, length_shard]

end Names

/-- A digest decides the hash of its key. -/
theorem hash_eq_of_digest_eq {key other : StorageKey} (h : digest key = digest other) :
    Sha256.hash (Text.bytes key.text) = Sha256.hash (Text.bytes other.text) := by
  apply Hex.encode_injective
  rw [← toList_digest, ← toList_digest, h]

theorem fits_of_length_le {name : String} (h : (Text.bytes name).length ≤ 64) :
    fits name = true := by
  rw [fits, decide_eq_true_eq, Route.longestName]
  omega

/-! ## An open root -/

/-- The place of a root. -/
def rootPlace (root : String) : List String := placeOf (stepsOf root)

/-- **The path of a root crosses** a name in a shard under that root: it leads in there, and out
again by `..`, so that opening the root makes a directory of that name. -/
def Crosses (root : String) (key : StorageKey) (name : String) : Prop :=
  Passes (stepsOf root) (rootPlace root ++ [shard key, name])

/-- **A scratch name under a root**: hidden, not longer than a digest, and fresh. -/
structure IsScratch (root name : String) : Prop where
  isName : IsName name
  hidden : name.toList.head? = some '.'
  short : (Text.bytes name).length ≤ 64
  fresh : ∀ key, ¬ Crosses root key name

/-- No blob is named like a scratch file. -/
theorem digest_ne_of_isScratch {root name : String} (h : IsScratch root name) (key : StorageKey) :
    digest key ≠ name := by
  intro heq
  have hmem : '.' ∈ (digest key).toList := by
    rw [heq]
    exact List.mem_of_mem_head? h.hidden
  exact absurd (mem_digits_of_mem_digest key hmem) (by decide)

/-- **The paths of blobs are not too long** for the system. -/
def Roomy (root : String) : Prop :=
  ∀ key, (Text.bytes (blobPath root key)).length ≤ Route.longestPath

/-- **A root is open** when its path can be walked, and leaves room for the names below it. -/
structure Opened (root : String) (t : FileTree) : Prop where
  nul : '\x00' ∉ root.toList
  roomy : Roomy root
  walks : t.walk [] (stepsOf root) = .ok (rootPlace root)

section Opened

variable {root : String} {t t' : FileTree} {name : String} (key : StorageKey)

theorem Opened.of_directories (h : Opened root t)
    (hkept : ∀ place, t.node? place = some .directory → t'.node? place = some .directory) :
    Opened root t' :=
  ⟨h.nul, h.roomy, FileTree.walk_of_directories hkept h.walks⟩

/-- The path of a shard leads one step below the root. -/
theorem Opened.ofText_shardPath (h : Opened root t) :
    Route.ofText (shardPath root key) = .ok ⟨stepsOf root ++ [.down (shard key)], false⟩ := by
  refine Route.ofText_join (isName_shard key) h.nul ?_
  have hlength := Route.length_bytes_le_join (shardPath root key) (digest key)
  exact Nat.le_trans hlength (h.roomy key)

/-- The path of a name in a shard leads two steps below the root. -/
theorem Opened.ofText_join_shardPath (h : Opened root t) (hname : IsName name)
    (hlength : (Text.bytes name).length ≤ 64) :
    Route.ofText (Route.join (shardPath root key) name) =
      .ok ⟨stepsOf root ++ [.down (shard key)] ++ [.down name], false⟩ := by
  have hnul : '\x00' ∉ (shardPath root key).toList :=
    Route.nul_not_mem_join (isName_shard key) h.nul
  rw [Route.ofText_join hname hnul]
  · rw [shardPath, Route.stepsOf_join (isName_shard key)]
  · have hroomy := h.roomy key
    rw [blobPath, Route.length_bytes_join, length_bytes_digest] at hroomy
    rw [Route.length_bytes_join]
    omega

theorem fits_shard : fits (shard key) = true :=
  fits_of_length_le (by rw [length_bytes_shard]; decide)

theorem shardPath_ne_empty : (shardPath root key).isEmpty = false := by
  rw [Bool.eq_false_iff, Ne, String.isEmpty_iff]
  intro hempty
  -- there is at least the step down to the shard
  have hsteps : stepsOf (shardPath root key) = stepsOf root ++ [.down (shard key)] :=
    Route.stepsOf_join (isName_shard key)
  rw [hempty] at hsteps
  exact absurd hsteps.symm (by simp [stepsOf])

/-- A blob's path is not much longer than the root's. -/
theorem roomy_of_length_le (h : (Text.bytes root).length + 68 ≤ Route.longestPath) :
    Roomy root := by
  intro key
  have hshard := Route.length_bytes_join_le root (shard key)
  have hblob := Route.length_bytes_join_le (shardPath root key) (digest key)
  rw [length_bytes_shard, ← shardPath] at hshard
  rw [length_bytes_digest, ← blobPath] at hblob
  omega

/-- **A path without `..` crosses nothing** of what is under it. -/
theorem not_crosses_of_no_up (h : Step.up ∉ stepsOf root) (key : StorageKey) (name : String) :
    ¬ Crosses root key name :=
  Route.not_passes_below h (List.cons_ne_nil _ _)

variable {key} in
/-- A shard that is there can be walked to. -/
theorem Opened.walk_shard (h : Opened root t)
    (hshard : t.node? (rootPlace root ++ [shard key]) = some .directory) :
    t.walk [] (stepsOf root ++ [.down (shard key)]) = .ok (rootPlace root ++ [shard key]) := by
  rw [FileTree.walk_concat_down h.walks (fits_shard key), hshard]

/-! ## Putting a blob -/

/-- Where the steps of putting a blob go as they should, it is put. -/
theorem run_of_steps {p : Put} {t₁ t₂ t₃ t₄ : FileTree} (h₁ : p.step root t .start = (.placed, t₁))
    (h₂ : p.step root t₁ .placed = (.opened, t₂)) (h₃ : p.step root t₂ .opened = (.filled, t₃))
    (h₄ : p.step root t₃ .filled = (.done (.ok ()), t₄)) : p.run root t = (.ok (), t₄) := by
  simp only [Put.run, stepCount, Put.steps, h₁, h₂, h₃, h₄]
  rfl

/-- **Putting a blob** where nothing is in its way: its shard is there afterwards and its file in
it, and nothing else has changed. -/
theorem exists_run_put {p : Put} (h : Opened root t) (hscratch : IsScratch root p.scratch)
    (hshard : ∀ content, t.node? (rootPlace root ++ [shard p.key]) ≠ some (.file content))
    (hunused : t.node? (rootPlace root ++ [shard p.key, p.scratch]) = none)
    (hblob : t.node? (rootPlace root ++ [shard p.key, digest p.key]) ≠ some .directory) :
    ∃ t', p.run root t = (.ok (), t') ∧ ∀ place, t'.node? place =
      if place = rootPlace root ++ [shard p.key, digest p.key] then some (.file p.data)
      else if place = rootPlace root ++ [shard p.key] then some .directory
      else t.node? place := by
  have htwo : ∀ name, rootPlace root ++ [shard p.key, name] =
      rootPlace root ++ [shard p.key] ++ [name] := fun name => by simp
  have hdown : ∀ name,
      rootPlace root ++ [shard p.key] ++ [name] ≠ rootPlace root ++ [shard p.key] :=
    fun name => by simp
  rw [htwo] at hunused hblob
  -- of the directory, at most the shard is new
  obtain ⟨t₁, hmade, ht₁⟩ := FileTree.exists_makeDirs_concat_down h.walks (fits_shard p.key) hshard
  have hshard₁ : t₁.node? (rootPlace root ++ [shard p.key]) = some .directory := by
    rw [ht₁, if_pos rfl]
  have hsame₁ : ∀ name, t₁.node? (rootPlace root ++ [shard p.key] ++ [name]) =
      t.node? (rootPlace root ++ [shard p.key] ++ [name]) := fun name => by
    rw [ht₁, if_neg (hdown name)]
  have hopened₁ : Opened root t₁ := h.of_directories fun place hplace => by
    rw [ht₁]
    split
    · rfl
    · exact hplace
  have hwalk₁ := hopened₁.walk_shard hshard₁
  obtain ⟨t₂, t₃, t₄, hcreate, hfill, hrename, ht₄⟩ := FileTree.exists_replace hwalk₁
    (fits_of_length_le hscratch.short)
    (fits_of_length_le (Nat.le_of_eq (length_bytes_digest p.key)))
    (digest_ne_of_isScratch hscratch p.key) (by rw [hsame₁, hunused]) (by rw [hsame₁]; exact hblob)
    p.data
  have hscratchPath := h.ofText_join_shardPath p.key hscratch.isName hscratch.short
  have hblobPath := h.ofText_join_shardPath p.key (isName_digest p.key)
    (Nat.le_of_eq (length_bytes_digest p.key))
  have hstart : p.step root t .start = (.placed, t₁) := by
    simp only [Put.step, makeDirs, shardPath_ne_empty, Bool.false_eq_true, if_false,
      h.ofText_shardPath, hmade]
  have hplaced : p.step root t₁ .placed = (.opened, t₂) := by
    simp only [Put.step, onPath, scratchPath, hscratchPath, hcreate, advance]
  have hopened : p.step root t₂ .opened = (.filled, t₃) := by
    simp only [Put.step, onPath, scratchPath, hscratchPath, hfill, advance]
  have hfilled : p.step root t₃ .filled = (.done (.ok ()), t₄) := by
    simp only [Put.step, onPaths, onPath, scratchPath, blobPath, hscratchPath, hblobPath, hrename,
      advance]
  refine ⟨t₄, run_of_steps hstart hplaced hopened hfilled, fun place => ?_⟩
  rw [ht₄, ht₁, htwo]

end Opened

/-! ## A tree that reflects blobs -/

/-- **The files under a root are the blobs**, each at `shard/digest`; what else is there are
directories, either one step down or on the way that the path of the root itself takes. The shard of
each blob is one of them. -/
structure Reflects (root : String) (t : FileTree) (b : Blobs) : Prop where
  files : ∀ names, names ≠ [] → ∀ content,
    t.node? (rootPlace root ++ names) = some (.file content) ↔
      ∃ key, names = [shard key, digest key] ∧ b.get? key = some content
  directories : ∀ names, names ≠ [] →
    t.node? (rootPlace root ++ names) = some .directory →
      names.length = 1 ∨ Passes (stepsOf root) (rootPlace root ++ names)
  shards : ∀ key content, b.get? key = some content →
    t.node? (rootPlace root ++ [shard key]) = some .directory

/-- **No two keys of which the digests meet**: a key shares its digest with no key of a blob. -/
def Apart (key : StorageKey) (b : Blobs) : Prop :=
  ∀ other content, b.get? other = some content → digest other = digest key → other = key

section Reflects

variable {root name : String} {t : FileTree} {b : Blobs} {key : StorageKey}

theorem Reflects.no_file_at_shard (h : Reflects root t b) (key : StorageKey) (content : Bytes) :
    t.node? (rootPlace root ++ [shard key]) ≠ some (.file content) := by
  intro hfile
  obtain ⟨other, hnames, -⟩ := (h.files _ (List.cons_ne_nil _ _) content).mp hfile
  exact absurd hnames (by simp)

theorem Reflects.no_directory_in_shard (h : Reflects root t b) (hname : ¬ Crosses root key name) :
    t.node? (rootPlace root ++ [shard key, name]) ≠ some .directory := by
  intro hdirectory
  rcases h.directories _ (List.cons_ne_nil _ _) hdirectory with hlength | hpasses
  · simp at hlength
  · exact hname hpasses

/-- In a shard there is nothing under a scratch name. -/
theorem Reflects.node?_scratch (h : Reflects root t b) (hname : IsScratch root name) :
    t.node? (rootPlace root ++ [shard key, name]) = none := by
  cases hnode : t.node? (rootPlace root ++ [shard key, name]) with
  | none => rfl
  | some node =>
    cases node with
    | directory => exact absurd hnode (h.no_directory_in_shard (hname.fresh key))
    | file content =>
      obtain ⟨other, hnames, -⟩ := (h.files _ (List.cons_ne_nil _ _) content).mp hnode
      have hdigest : digest other = name := (List.cons.inj (List.cons.inj hnames).2).1.symm
      exact absurd hdigest (digest_ne_of_isScratch hname other)

/-- **After a blob was put** the tree reflects the blobs with that one. -/
theorem Reflects.put (h : Reflects root t b) (hapart : Apart key b) {data : Bytes} {t' : FileTree}
    (hnode : ∀ place, t'.node? place =
      if place = rootPlace root ++ [shard key, digest key] then some (.file data)
      else if place = rootPlace root ++ [shard key] then some .directory
      else t.node? place) :
    Reflects root t' (b.insert key data) := by
  have hbelow : ∀ names, t'.node? (rootPlace root ++ names) =
      if names = [shard key, digest key] then some (.file data)
      else if names = [shard key] then some .directory
      else t.node? (rootPlace root ++ names) := by
    intro names
    rw [hnode]
    simp only [List.append_cancel_left_eq]
  refine ⟨fun names hnames content => ?_, fun names hnames hdirectory => ?_,
    fun other content hother => ?_⟩
  · rw [hbelow]
    split
    · next hblob =>
      -- the file of the blob: only its own key has this digest
      rw [hblob, Option.some.injEq, Node.file.injEq]
      constructor
      · rintro rfl
        exact ⟨key, rfl, by rw [Blobs.get?_insert, if_pos rfl]⟩
      · rintro ⟨other, hplace, hother⟩
        have hdigest : digest other = digest key := (List.cons.inj (List.cons.inj hplace).2).1.symm
        rw [Blobs.get?_insert] at hother
        split at hother
        · exact Option.some.inj hother
        · next hne => exact absurd (hapart other content hother hdigest) hne
    · next hblob =>
      split
      · next hshard =>
        rw [hshard]
        constructor
        · intro hfile
          cases hfile
        · rintro ⟨other, hplace, -⟩
          exact absurd hplace (by simp)
      · rw [h.files names hnames]
        -- every other file belongs to another key
        refine exists_congr fun other => and_congr_right fun hplace => ?_
        have hne : other ≠ key := by
          rintro rfl
          exact hblob hplace
        rw [Blobs.get?_insert, if_neg hne]
  · rw [hbelow] at hdirectory
    split at hdirectory
    · cases hdirectory
    · split at hdirectory
      · next hshard =>
        rw [hshard]
        exact .inl rfl
      · exact h.directories names hnames hdirectory
  · rw [hbelow, if_neg (by simp)]
    split
    · rfl
    · next hshard =>
      rw [Blobs.get?_insert] at hother
      split at hother
      · next hsame =>
        rw [hsame] at hshard
        exact absurd rfl hshard
      · exact h.shards other content hother

/-- **Reading a blob** gives what is held for its key, where its place and its shard say so. -/
theorem read_of_node? (hopened : Opened root t) {held : Option Bytes}
    (hblob : t.node? (rootPlace root ++ [shard key, digest key]) = held.map .file)
    (hnofile : ∀ content, t.node? (rootPlace root ++ [shard key]) ≠ some (.file content))
    (hshard : held.isSome = true → t.node? (rootPlace root ++ [shard key]) = some .directory) :
    Directory.read root key t = held.elim (.error .noEntry) .ok := by
  have hpath := hopened.ofText_join_shardPath key (isName_digest key)
    (Nat.le_of_eq (length_bytes_digest key))
  have hfits := fits_of_length_le (Nat.le_of_eq (length_bytes_digest key))
  have hplace : rootPlace root ++ [shard key] ++ [digest key] =
      rootPlace root ++ [shard key, digest key] := by simp
  simp only [Directory.read, onPath, blobPath, hpath]
  cases hnode : t.node? (rootPlace root ++ [shard key]) with
  | none =>
    -- there is no shard to go through
    have hwalk : t.walk [] (stepsOf root ++ [.down (shard key)]) = .error .noEntry := by
      rw [FileTree.walk_concat_down hopened.walks (fits_shard key), hnode]
    rw [FileTree.read_concat_of_error hwalk]
    cases held with
    | none => rfl
    | some content =>
      rw [hnode] at hshard
      cases hshard rfl
  | some node =>
    cases node with
    | file content => exact absurd hnode (hnofile content)
    | directory =>
      rw [FileTree.read_concat_down (hopened.walk_shard hnode) hfits, hplace, hblob]
      cases held <;> rfl

/-- In the place of a blob lies the blob of its key and nothing else. -/
theorem Reflects.node?_blob (h : Reflects root t b) (hapart : Apart key b)
    (hclear : ¬ Crosses root key (digest key)) :
    t.node? (rootPlace root ++ [shard key, digest key]) = (b.get? key).map .file := by
  cases hget : b.get? key with
  | some content => exact (h.files _ (List.cons_ne_nil _ _) content).mpr ⟨key, rfl, hget⟩
  | none =>
    cases hnode : t.node? (rootPlace root ++ [shard key, digest key]) with
    | none => rfl
    | some node =>
      cases node with
      | directory => exact absurd hnode (h.no_directory_in_shard hclear)
      | file content =>
        obtain ⟨other, hnames, hother⟩ := (h.files _ (List.cons_ne_nil _ _) content).mp hnode
        have hdigest : digest other = digest key := (List.cons.inj (List.cons.inj hnames).2).1.symm
        rw [hapart other content hother hdigest, hget] at hother
        cases hother

/-- **Reading a blob** gives the blob of its key, or finds no entry. -/
theorem Reflects.read (h : Reflects root t b) (hopened : Opened root t) (hapart : Apart key b)
    (hclear : ¬ Crosses root key (digest key)) :
    Directory.read root key t =
      match b.get? key with
      | some content => .ok content
      | none => .error .noEntry := by
  have hshard : (b.get? key).isSome = true →
      t.node? (rootPlace root ++ [shard key]) = some .directory := by
    intro hsome
    obtain ⟨content, hcontent⟩ := Option.isSome_iff_exists.mp hsome
    exact h.shards key content hcontent
  rw [read_of_node? hopened (h.node?_blob hapart hclear) (h.no_file_at_shard key) hshard]
  cases b.get? key <;> rfl

end Reflects

/-! ## Opening -/

/-- **A root that is empty or does not exist**: nothing lies below the place of its path. -/
def Vacant (root : String) (t : FileTree) : Prop :=
  ∀ names, names ≠ [] → t.node? (rootPlace root ++ names) = none

section Opening

variable {root : String} {t : FileTree} {disk : Disk}

theorem run_prepare (root : String) (disk : Disk) :
    (prepare root).run disk =
      ⟨(makeDirs disk.files root).1.mapError fault,
        { disk with files := (makeDirs disk.files root).2 }, []⟩ := by
  show prepare root disk = _
  rw [prepare]
  rcases makeDirs disk.files root with ⟨_ | _, files⟩ <;> rfl

/-- A root that is opened has its directory made. -/
theorem makeDirs_of_prepare (h : ((prepare root).run disk).result = .ok ()) :
    (makeDirs disk.files root).1 = .ok () := by
  rw [run_prepare] at h
  cases hresult : (makeDirs disk.files root).1 with
  | ok _ => rfl
  | error e =>
    rw [hresult] at h
    cases h

/-- **Making the directory of a root** that succeeds: it can be walked to, and at most directories
on the way to it are new. -/
theorem walks_of_makeDirs (h : (makeDirs t root).1 = .ok ()) :
    '\x00' ∉ root.toList ∧ (makeDirs t root).2.walk [] (stepsOf root) = .ok (rootPlace root) ∧
      Adds (Passes (stepsOf root)) t (makeDirs t root).2 := by
  unfold makeDirs at h ⊢
  split at h
  · next hempty =>
    rw [if_pos hempty, String.isEmpty_iff.mp hempty]
    exact ⟨by decide, rfl, FileTree.adds_refl⟩
  · next hempty =>
    rw [if_neg hempty]
    cases hroute : Route.ofText root with
    | error e =>
      rw [hroute] at h
      cases h
    | ok route =>
      rw [hroute] at h
      obtain ⟨hnul, hsteps⟩ := Route.nul_not_mem_of_ofText hroute
      have hmade : t.makeDirs route = (.ok (), (t.makeDirs route).2) := Prod.ext h rfl
      have hwalks := FileTree.walk_of_makeDirs hmade
      have hadds := FileTree.adds_makeDirs t route
      rw [hsteps] at hwalks hadds
      exact ⟨hnul, hwalks, hadds⟩

/-- So the root is open, if there is room for the names below it. -/
theorem opened_of_makeDirs (hroomy : Roomy root) (h : (makeDirs t root).1 = .ok ()) :
    Opened root (makeDirs t root).2 ∧ Adds (Passes (stepsOf root)) t (makeDirs t root).2 := by
  obtain ⟨hnul, hwalks, hadds⟩ := walks_of_makeDirs h
  exact ⟨⟨hnul, hroomy, hwalks⟩, hadds⟩

/-- A root that is open can be opened again, and nothing changes. -/
theorem makeDirs_of_opened (h : Opened root t) : makeDirs t root = (.ok (), t) := by
  rw [makeDirs]
  split
  · rfl
  · next hempty =>
    have hnul : root.toList.contains '\x00' = false := by
      rw [Bool.eq_false_iff, Ne, List.contains_iff_mem]
      exact h.nul
    have hlength : ¬ Route.longestPath < (Text.bytes root).length := by
      have hshard := Route.length_bytes_le_join root (shard default)
      have hblob := Route.length_bytes_le_join (shardPath root default) (digest default)
      have hroomy := h.roomy default
      exact Nat.not_lt.mpr (Nat.le_trans hshard (Nat.le_trans hblob hroomy))
    have hroute : Route.ofText root =
        .ok ⟨stepsOf root, root.toList.getLast? == some '/'⟩ := by
      rw [Route.ofText, if_neg hempty, hnul, if_neg Bool.false_ne_true, if_neg hlength]
    rw [hroute]
    exact FileTree.makeDirs_of_walk h.walks

/-- A root that was empty or did not exist reflects no blobs once it is open. -/
theorem reflects_empty_of_adds {t' : FileTree} (hvacant : Vacant root t)
    (hadds : Adds (Passes (stepsOf root)) t t') : Reflects root t' .empty := by
  refine ⟨fun names hnames content => ⟨fun hfile => ?_, ?_⟩, fun names hnames hdirectory => ?_,
    fun key content hget => by cases hget⟩
  · rcases hadds (rootPlace root ++ names) with hsame | ⟨-, hnew, -⟩
    · rw [hsame, hvacant names hnames] at hfile
      cases hfile
    · rw [hnew] at hfile
      cases hfile
  · rintro ⟨key, -, hget⟩
    cases hget
  · rcases hadds (rootPlace root ++ names) with hsame | ⟨-, -, hpasses⟩
    · rw [hsame, hvacant names hnames] at hdirectory
      cases hdirectory
    · exact .inr hpasses

end Opening

/-! ## Runs -/

/-- **A call on stores that are open under one root.** A store is its root and where it takes
scratch names from, so a call says only the latter; any of them may be opened at any time. -/
inductive Call where
  | reopen
  | through (names : Nat → String) (access : Access)

/-- The call gives out nothing but scratch names. -/
def Call.Scratches (root : String) : Call → Prop
  | .reopen => True
  | .through names _ => ∀ n, IsScratch root (names n)

/-- The key that a call uses. -/
def Call.key? : Call → Option StorageKey
  | .reopen => none
  | .through _ access => some access.key

/-- What a call does to the disk. -/
def perform (root : String) : Call → Action Disk (Option Bytes)
  | .reopen => (fun _ => none) <$> prepare root
  | .through names access => (backend root names).serve access

/-- What a call does to one store in memory, which needs no opening. -/
def remember : Call → Action Blobs (Option Bytes)
  | .reopen => pure none
  | .through _ access => Blobs.backend.serve access

/-- **No two of the keys have one hash.** -/
def HashesApart (used : List StorageKey) : Prop :=
  ∀ key ∈ used, ∀ other ∈ used,
    Sha256.hash (Text.bytes key.text) = Sha256.hash (Text.bytes other.text) → key = other

/-- **The disk reflects the blobs** under an open root, and all of these are among the keys used. -/
structure Matches (root : String) (used : List StorageKey) (disk : Disk) (b : Blobs) : Prop where
  opened : Opened root disk.files
  reflects : Reflects root disk.files b
  used : ∀ key content, b.get? key = some content → key ∈ used

section Runs

variable {root : String} {used : List StorageKey} {disk : Disk} {b : Blobs}

theorem apart_of_matches (h : Matches root used disk b) (hhash : HashesApart used)
    {key : StorageKey} (hkey : key ∈ used) : Apart key b := by
  intro other content hother hdigest
  exact hhash other (h.used other content hother) key hkey (hash_eq_of_digest_eq hdigest)

theorem step_reopen (h : Matches root used disk b) :
    ((perform root .reopen).run disk).result = ((remember .reopen).run b).result ∧
      Matches root used ((perform root .reopen).run disk).state
        ((remember .reopen).run b).state := by
  have hmade := makeDirs_of_opened h.opened
  rw [perform, Action.run_map, run_prepare, hmade]
  exact ⟨rfl, h⟩

theorem step_put (h : Matches root used disk b) {names : Nat → String}
    (hnames : ∀ n, IsScratch root (names n)) {key : StorageKey} (hkey : key ∈ used)
    (hapart : Apart key b) (hclear : ¬ Crosses root key (digest key)) (data : Bytes) :
    ((perform root (.through names (.put key data))).run disk).result =
        ((remember (.through names (.put key data))).run b).result ∧
      Matches root used ((perform root (.through names (.put key data))).run disk).state
        ((remember (.through names (.put key data))).run b).state := by
  have hscratch := hnames disk.scratchCount
  obtain ⟨t', hrun, hnode⟩ := exists_run_put (p := ⟨key, data, names disk.scratchCount⟩) h.opened
    hscratch (h.reflects.no_file_at_shard key) (h.reflects.node?_scratch hscratch)
    (h.reflects.no_directory_in_shard hclear)
  have hput : ((backend root names).put key data).run disk =
      ⟨.ok (), ⟨t', disk.scratchCount + 1⟩, [.note .debug (wroteNote root key data)]⟩ := by
    show (backend root names).put key data disk = _
    simp only [backend, hrun]
  have hopened : Opened root t' := by
    refine h.opened.of_directories fun place hplace => ?_
    rw [hnode]
    split
    · next heq =>
      rw [heq] at hplace
      exact absurd hplace (h.reflects.no_directory_in_shard hclear)
    · split
      · rfl
      · exact hplace
  rw [perform, remember, Backend.serve, Backend.serve, Action.run_map, Action.run_map, hput]
  refine ⟨rfl, hopened, h.reflects.put hapart hnode, fun other content hother => ?_⟩
  have hinsert : (b.insert key data).get? other = some content := hother
  rw [Blobs.get?_insert] at hinsert
  split at hinsert
  · next hsame => exact hsame ▸ hkey
  · exact h.used other content hinsert

theorem step_get (h : Matches root used disk b) (names : Nat → String) {key : StorageKey}
    (hapart : Apart key b) (hclear : ¬ Crosses root key (digest key)) :
    ((perform root (.through names (.get key))).run disk).result =
        ((remember (.through names (.get key))).run b).result ∧
      Matches root used ((perform root (.through names (.get key))).run disk).state
        ((remember (.through names (.get key))).run b).state := by
  have hread := h.reflects.read h.opened hapart hclear
  have hboth : ((backend root names).get key).run disk =
      ⟨((Blobs.backend.get key).run b).result, disk, []⟩ ∧
        ((Blobs.backend.get key).run b).state = b := by
    show (backend root names).get key disk = ⟨(Blobs.backend.get key b).result, disk, []⟩ ∧
      (Blobs.backend.get key b).state = b
    simp only [backend, Blobs.backend, hread]
    cases b.get? key <;> exact ⟨rfl, rfl⟩
  rw [perform, remember, Backend.serve, Backend.serve, Action.run_map, Action.run_map, hboth.1]
  exact ⟨rfl, hboth.2.symm ▸ h⟩

/-- **Every call keeps the disk a reflection of the blobs**, and ends as it would in memory. -/
theorem step_matches (h : Matches root used disk b) (hhash : HashesApart used)
    (hclear : ∀ key ∈ used, ¬ Crosses root key (digest key)) {call : Call}
    (hnames : call.Scratches root) (hkey : ∀ key, call.key? = some key → key ∈ used) :
    ((perform root call).run disk).result = ((remember call).run b).result ∧
      Matches root used ((perform root call).run disk).state ((remember call).run b).state := by
  cases call with
  | reopen => exact step_reopen h
  | through names access =>
    have hused := hkey access.key rfl
    have hapart := apart_of_matches h hhash hused
    cases access with
    | put key data => exact step_put h hnames hused hapart (hclear key hused) data
    | get key => exact step_get h names hapart (hclear key hused)

/-- So does every run. -/
theorem run_matches {calls : List Call} (h : Matches root used disk b) (hhash : HashesApart used)
    (hclear : ∀ key ∈ used, ¬ Crosses root key (digest key))
    (hnames : ∀ call ∈ calls, call.Scratches root)
    (hkeys : ∀ call ∈ calls, ∀ key, call.key? = some key → key ∈ used) :
    Action.results disk (calls.map (perform root)) = Action.results b (calls.map remember) ∧
      Matches root used (Action.stateAfter disk (calls.map (perform root)))
        (Action.stateAfter b (calls.map remember)) :=
  Action.results_eq_of_related (R := Matches root used)
    (fun call hcall _ _ hmatches =>
      step_matches hmatches hhash hclear (hnames call hcall) (hkeys call hcall)) h

/-- **A directory of files is as good as memory.** Under a root that was empty or did not exist and
has been opened, whatever stores are open there and in whatever order they are used: every call ends
as in one store in memory, and after every call the files under the root are the blobs that were
written last, each at `shard/digest` of its key, and no others.

The system has no cause to refuse: the root could be made, the paths are not too long, and the path
of the root does not itself make a directory where a blob is to be. -/
theorem refines_memory {calls : List Call} (hvacant : Vacant root disk.files)
    (hopens : ((prepare root).run disk).result = .ok ()) (hroomy : Roomy root)
    (hclear : ∀ key ∈ calls.filterMap Call.key?, ¬ Crosses root key (digest key))
    (hnames : ∀ call ∈ calls, call.Scratches root)
    (hhash : HashesApart (calls.filterMap Call.key?)) :
    let opened := ((prepare root).run disk).state
    Action.results opened (calls.map (perform root)) = Action.results .empty (calls.map remember) ∧
      ∀ front, front <+: calls → ∀ names, names ≠ [] → ∀ content,
        (Action.stateAfter opened (front.map (perform root))).files.node?
            (rootPlace root ++ names) = some (.file content) ↔
          ∃ key, names = [shard key, digest key] ∧
            (Action.stateAfter .empty (front.map remember)).get? key = some content := by
  rw [run_prepare] at hopens ⊢
  have hmade : (makeDirs disk.files root).1 = .ok () := by
    cases hresult : (makeDirs disk.files root).1 with
    | ok _ => rfl
    | error e =>
      rw [hresult] at hopens
      cases hopens
  obtain ⟨hopened, hadds⟩ := opened_of_makeDirs hroomy hmade
  have hstart : Matches root (calls.filterMap Call.key?)
      { disk with files := (makeDirs disk.files root).2 } .empty :=
    ⟨hopened, reflects_empty_of_adds hvacant hadds, fun _ _ hget => by cases hget⟩
  have hkeys : ∀ call ∈ calls, ∀ key, call.key? = some key → key ∈ calls.filterMap Call.key? :=
    fun call hcall key hkey => List.mem_filterMap.mpr ⟨call, hcall, hkey⟩
  refine ⟨(run_matches hstart hhash hclear hnames hkeys).1,
    fun front hfront names hne content => ?_⟩
  -- what holds after a run holds after every part of it
  have hmatches := run_matches hstart hhash hclear
    (fun call hcall => hnames call (hfront.subset hcall))
    (fun call hcall => hkeys call (hfront.subset hcall))
  exact hmatches.2.reflects.files names hne content

/-- Two stores under `data/blobs` write two blobs, one of them twice; the third is missing. -/
theorem refines_memory_of_two_stores :
    ∃ (calls : List Call) (key missing : StorageKey), Vacant "data/blobs" Disk.empty.files ∧
      Roomy "data/blobs" ∧
      (∀ key ∈ calls.filterMap Call.key?, ¬ Crosses "data/blobs" key (digest key)) ∧
      (∀ call ∈ calls, call.Scratches "data/blobs") ∧ HashesApart (calls.filterMap Call.key?) ∧
        Action.results ((prepare "data/blobs").run Disk.empty).state
            (calls.map (perform "data/blobs")) =
          [.ok none, .ok none, .ok none, .ok none, .ok (some [3]),
            .error (Backend.missing missing)] ∧
        (Action.stateAfter ((prepare "data/blobs").run Disk.empty).state
            (calls.map (perform "data/blobs"))).files.node?
          ["data", "blobs", shard key, digest key] = some (.file [3]) := by
  let key : StorageKey := ⟨"acme/a"⟩
  let snapshot : StorageKey := ⟨"acme/a@1"⟩
  let missing : StorageKey := ⟨"acme/a/b"⟩
  let one : Nat → String := fun _ => ".0d9e.tmp"
  let two : Nat → String := fun _ => ".51c7.tmp"
  let calls : List Call := [.through one (.put key [1]), .through two (.put snapshot [2]), .reopen,
    .through two (.put key [3]), .through one (.get key), .through one (.get missing)]
  have hvacant : Vacant "data/blobs" Disk.empty.files := by
    intro names _
    rfl
  have hroomy : Roomy "data/blobs" := roomy_of_length_le (by decide)
  have hclear : ∀ key name, ¬ Crosses "data/blobs" key name := not_crosses_of_no_up (by decide)
  have hone : IsScratch "data/blobs" ".0d9e.tmp" :=
    ⟨⟨by decide, by decide, by decide, by decide, by decide⟩, by decide, by decide,
      fun key => hclear key _⟩
  have htwo : IsScratch "data/blobs" ".51c7.tmp" :=
    ⟨⟨by decide, by decide, by decide, by decide, by decide⟩, by decide, by decide,
      fun key => hclear key _⟩
  have hnames : ∀ call ∈ calls, call.Scratches "data/blobs" := by
    simp only [calls, List.forall_mem_cons]
    exact ⟨fun _ => hone, fun _ => htwo, trivial, fun _ => htwo, fun _ => hone, fun _ => hone,
      List.forall_mem_nil _⟩
  have hhash : HashesApart (calls.filterMap Call.key?) := by
    unfold HashesApart
    decide +kernel
  obtain ⟨hresults, hfiles⟩ := refines_memory hvacant rfl hroomy (fun key _ => hclear key _) hnames
    hhash
  refine ⟨calls, key, missing, hvacant, hroomy, fun key _ => hclear key _, hnames, hhash, hresults,
    ?_⟩
  exact (hfiles calls List.prefix_rfl [shard key, digest key] (List.cons_ne_nil _ _) [3]).mpr
    ⟨key, rfl, rfl⟩

end Runs

end Directory

end LogVault
