import LogVault.Proofs.Storage.Put

/-!
# LogVault.Proofs.Storage.Atomicity — a blob is put, or nothing has happened

Putting a blob in any tree, whatever is in its way and whatever the system refuses, ends in one of
two ways (`put_all_or_nothing`). It succeeds, and the tree has changed by directories on the way to
the blob and by the blob's file. Or it fails, and every file is as before, no scratch file is left,
and a reader of any key is answered as before, although directories may have been made.

What a put has done by each stage is one predicate (`Course`), which every step keeps. That readers
do not see added directories is a matter of closed trees: below a directory that was missing there
was nothing to be read.
-/

namespace LogVault

namespace Directory

open FileTree (fits Adds Closed)
open Route (IsName Step stepsOf placeOf Passes)

/-! ## On the way to a blob -/

/-- **A place on the way** to the directory of a blob. -/
def OnTheWay (root : String) (key : StorageKey) : List String → Prop :=
  Passes (stepsOf root ++ [.down (shard key)])

section OnTheWay

variable {root : String} {key other : StorageKey} {t t' : FileTree}

theorem no_up_of_root (hup : .up ∉ stepsOf root) (key : StorageKey) :
    .up ∉ stepsOf root ++ [.down (shard key)] := by
  simp [hup]

theorem placeOf_shard (root : String) (key : StorageKey) :
    placeOf (stepsOf root ++ [.down (shard key)]) = rootPlace root ++ [shard key] :=
  Route.placeOf_concat _ _

/-- Nothing in a shard is on the way to a blob. -/
theorem not_onTheWay (hup : .up ∉ stepsOf root) (key other : StorageKey) (name : String) :
    ¬ OnTheWay root key (rootPlace root ++ [shard other, name]) := by
  intro hpasses
  -- what is passed on the way is no longer than the place to which the way leads
  have hlength := (Passes.prefix_placeOf hpasses (no_up_of_root hup key)).length_le
  rw [placeOf_shard, List.length_append, List.length_append] at hlength
  simp at hlength

/-- **The root of a store** could be opened once, on whatever disk. -/
def IsRoot (root : String) : Prop :=
  ∃ disk, ((prepare root).run disk).result = .ok ()

/-- The names in the path of a root are not too long. -/
theorem fits_of_isRoot (h : IsRoot root) (key : StorageKey) :
    ∀ name, .down name ∈ stepsOf root ++ [.down (shard key)] → fits name = true := by
  obtain ⟨disk, hopens⟩ := h
  obtain ⟨-, hwalks, -⟩ := walks_of_makeDirs (makeDirs_of_prepare hopens)
  intro name hname
  -- a name of the root's was walked over when the root was opened, and a shard is two digits
  rcases List.mem_append.mp hname with hname | hname
  · exact FileTree.fits_of_walk hwalks hname
  · rw [Step.down.inj (List.mem_singleton.mp hname)]
    exact fits_shard key

/-- **A reader does not see directories** that were made on the way to a blob, its own or another. -/
theorem read_of_adds (hclosed : t.Closed) (hup : .up ∉ stepsOf root) (hroot : IsRoot root)
    (h : Adds (OnTheWay root key) t t') (other : StorageKey) :
    Directory.read root other t' = Directory.read root other t := by
  unfold Directory.read onPath
  cases hroute : Route.ofText (blobPath root other) with
  | error e => rfl
  | ok route =>
    rw [eq_of_ofText_blobPath hroute]
    refine FileTree.read_of_adds hclosed h (no_up_of_root hup other) (fits_of_isRoot hroot other)
      (fits_digest other) ?_
    rw [placeOf_shard, List.append_assoc]
    exact not_onTheWay hup key other (digest other)

end OnTheWay

/-! ## What has been done by each stage -/

/-- **The tree with a file**, new or in place of another. -/
def WithFile (t : FileTree) (place : List String) (content : Bytes) (t' : FileTree) : Prop :=
  ∀ other, t'.node? other = if other = place then some (.file content) else t.node? other

/-- **What putting a blob has done** to a tree by each stage. Until it ends nothing has come to it but
directories on the way and the scratch file. -/
inductive Course (root : String) (p : Put) (t : FileTree) : Stage → FileTree → Prop
  | start {tree : FileTree} (adds : Adds (OnTheWay root p.key) t tree) : Course root p t .start tree
  | placed {tree : FileTree} (adds : Adds (OnTheWay root p.key) t tree)
      (shelved : Shelved root p.key tree) : Course root p t .placed tree
  | opened {made tree : FileTree} (adds : Adds (OnTheWay root p.key) t made)
      (shelved : Shelved root p.key made) (writable : p.Writable root)
      (file : WithFile made (p.scratchPlace root) [] tree) : Course root p t .opened tree
  | filled {made tree : FileTree} (adds : Adds (OnTheWay root p.key) t made)
      (shelved : Shelved root p.key made) (writable : p.Writable root)
      (file : WithFile made (p.scratchPlace root) p.data tree) : Course root p t .filled tree
  | unopened {tree : FileTree} (cause : FileError) (adds : Adds (OnTheWay root p.key) t tree)
      (shelved : Shelved root p.key tree) : Course root p t (.undoing cause) tree
  | unfinished {made tree : FileTree} (cause : FileError) (content : Bytes)
      (adds : Adds (OnTheWay root p.key) t made) (shelved : Shelved root p.key made)
      (writable : p.Writable root) (file : WithFile made (p.scratchPlace root) content tree) :
      Course root p t (.undoing cause) tree
  | published {made tree : FileTree} (adds : Adds (OnTheWay root p.key) t made)
      (file : WithFile made (p.blobPlace root) p.data tree) : Course root p t (.done (.ok ())) tree
  | failed {tree : FileTree} (cause : FileError) (adds : Adds (OnTheWay root p.key) t tree) :
      Course root p t (.done (.error cause)) tree

section Course

variable {root : String} {p : Put} {t tree : FileTree} {stage : Stage}

theorem WithFile.set {place : List String} (hplace : place ≠ []) (t : FileTree) (content : Bytes) :
    WithFile t place content (t.set place (.file content)) :=
  FileTree.node?_set t hplace (.file content)

/-- The later content counts. -/
theorem WithFile.again {place : List String} {content later : Bytes} {t' : FileTree}
    (hplace : place ≠ []) (h : WithFile t place content t') :
    WithFile t place later (t'.set place (.file later)) := by
  intro other
  rw [FileTree.node?_set t' hplace, h other]
  split <;> rfl

theorem WithFile.of_directory {place other : List String} {content : Bytes} {t' : FileTree}
    (h : WithFile t place content t') (hfree : t.node? place ≠ some .directory)
    (hdirectory : t.node? other = some .directory) : t'.node? other = some .directory := by
  rw [h other, if_neg, hdirectory]
  rintro rfl
  exact hfree hdirectory

theorem node?_scratchPlace (hup : .up ∉ stepsOf root)
    (hunused : t.node? (p.scratchPlace root) = none) (h : Adds (OnTheWay root p.key) t tree) :
    tree.node? (p.scratchPlace root) = none := by
  have hsame : tree.node? (p.scratchPlace root) = t.node? (p.scratchPlace root) :=
    h.node?_eq (not_onTheWay hup p.key p.key p.scratch)
  rw [hsame, hunused]

/-- **Each step keeps the course**, in a tree where nothing has the name of the scratch file. -/
theorem Course.step (hup : .up ∉ stepsOf root) (hscratch : IsScratch root p.scratch)
    (hunused : t.node? (p.scratchPlace root) = none) (h : Course root p t stage tree)
    (refusal : Option Refusal) :
    Course root p t (p.stepAmid root tree refusal stage).1
      (p.stepAmid root tree refusal stage).2 := by
  -- directories on the way do not get in the way of the scratch file
  have hnone : ∀ {made}, Adds (OnTheWay root p.key) t made →
      made.node? (p.scratchPlace root) = none := fun hadds => node?_scratchPlace hup hunused hadds
  have hfree : ∀ {made}, Adds (OnTheWay root p.key) t made →
      made.node? (p.scratchPlace root) ≠ some .directory := by
    intro made hadds
    rw [hnone hadds]
    exact nofun
  cases hnext : p.stepAmid root tree refusal stage with
  | mk next tree' =>
  show Course root p t next tree'
  cases h with
  | start hadds =>
    obtain ⟨hmade, ⟨rfl, hshelved⟩ | ⟨e, rfl⟩⟩ := cases_of_start hnext
    · exact .placed (hadds.trans hmade) hshelved
    · exact .failed e (hadds.trans hmade)
  | placed hadds hshelved =>
    rcases cases_of_placed hscratch hshelved (hfree hadds) hnext with
      ⟨⟨e, rfl⟩, rfl⟩ | ⟨rfl, hwritable, rfl⟩
    · exact .unopened e hadds hshelved
    · exact .opened hadds hshelved hwritable (.set Put.scratchPlace_ne_nil tree [])
  | opened hadds hshelved hwritable hfile =>
    have hshelved' := hshelved.of_directories fun _ => hfile.of_directory (hfree hadds)
    obtain ⟨content, rfl, ⟨rfl, rfl⟩ | ⟨e, rfl⟩⟩ :=
      cases_of_opened hscratch hshelved' hwritable hnext
    · exact .filled hadds hshelved hwritable (hfile.again Put.scratchPlace_ne_nil)
    · exact .unfinished e content hadds hshelved hwritable (hfile.again Put.scratchPlace_ne_nil)
  | @filled made _ hadds hshelved hwritable hfile =>
    have hshelved' := hshelved.of_directories fun _ => hfile.of_directory (hfree hadds)
    have hthere : tree.node? (p.scratchPlace root) = some (.file p.data) := by
      rw [hfile _, if_pos rfl]
    rcases cases_of_filled hscratch hshelved' hwritable hthere hnext with
      ⟨⟨e, rfl⟩, rfl⟩ | ⟨rfl, -, rfl⟩
    · exact .unfinished e p.data hadds hshelved hwritable hfile
    · -- the scratch file is gone, as if it had never been there
      refine .published hadds fun other => ?_
      rw [FileTree.node?_set _ Put.blobPlace_ne_nil, FileTree.node?_erase _ Put.scratchPlace_ne_nil,
        hfile other]
      split
      · rfl
      · split
        · next hother => rw [hother, hnone hadds]
        · rfl
  | unopened cause hadds hshelved =>
    obtain ⟨rfl, hnode⟩ := cases_of_undoing hscratch hshelved (hfree hadds)
      (fun _ => hnone hadds) hnext
    refine .failed cause fun other => ?_
    rw [hnode]
    split
    · next hother =>
      rw [hother]
      exact .inl hunused.symm
    · exact hadds other
  | unfinished cause content hadds hshelved hwritable hfile =>
    have hshelved' := hshelved.of_directories fun _ => hfile.of_directory (hfree hadds)
    have hthere : tree.node? (p.scratchPlace root) = some (.file content) := by
      rw [hfile _, if_pos rfl]
    obtain ⟨rfl, hnode⟩ := cases_of_undoing hscratch hshelved' (by rw [hthere]; exact nofun)
      (fun hnot => absurd hwritable hnot) hnext
    refine .failed cause fun other => ?_
    -- once it is removed, what differs is what differed before the scratch file came
    rw [hnode, hfile other]
    split
    · next hother =>
      rw [hother]
      exact .inl hunused.symm
    · exact hadds other
  | published hadds hfile =>
    rw [stepAmid_done] at hnext
    cases hnext
    exact .published hadds hfile
  | failed cause hadds =>
    rw [stepAmid_done] at hnext
    cases hnext
    exact .failed cause hadds

/-- So does every run. -/
theorem Course.steps (hup : .up ∉ stepsOf root) (hscratch : IsScratch root p.scratch)
    (hunused : t.node? (p.scratchPlace root) = none) (h : Course root p t stage tree)
    (refusals : List (Option Refusal)) :
    Course root p t (p.stepsAmid root refusals (stage, tree)).1
      (p.stepsAmid root refusals (stage, tree)).2 := by
  induction refusals generalizing stage tree with
  | nil => exact h
  | cons refusal rest ih => exact ih (h.step hup hscratch hunused refusal)

end Course

/-! ## All or nothing -/

/-- **The blob is there**, with directories on the way to it, and nothing else has changed. -/
def Published (root : String) (p : Put) (t t' : FileTree) : Prop :=
  ∃ made, Adds (OnTheWay root p.key) t made ∧ WithFile made (p.blobPlace root) p.data t'

/-- **Nothing has happened** but directories on the way: the files are the same, the scratch file is
not among them, and whoever gets a key from a store is answered alike. -/
structure Untouched (root : String) (p : Put) (t t' : FileTree) : Prop where
  directories : Adds (OnTheWay root p.key) t t'
  files : ∀ place content,
    t'.node? place = some (.file content) ↔ t.node? place = some (.file content)
  scratch : t'.node? (p.scratchPlace root) = none
  gets : IsRoot root → ∀ key names count count',
    (((backend root names).get key).run ⟨t', count'⟩).result =
      (((backend root names).get key).run ⟨t, count⟩).result

/-- What holds when putting a blob has ended: it is there, or nothing has happened. -/
def Settled {ε : Type} (root : String) (p : Put) (t : FileTree) :
    Except ε Unit → FileTree → Prop
  | .ok _, t' => Published root p t t'
  | .error _, t' => Untouched root p t t'

section Settled

variable {root : String} {p : Put} {t t' : FileTree}

theorem result_get (root : String) (names : Nat → String) (key : StorageKey) (disk : Disk) :
    (((backend root names).get key).run disk).result =
      match Directory.read root key disk.files with
      | .ok data => .ok data
      | .error .noEntry => .error (Backend.missing key)
      | .error e => .error (fault e) := by
  show ((backend root names).get key disk).result = _
  simp only [backend]
  cases Directory.read root key disk.files with
  | ok data => rfl
  | error e => cases e <;> rfl

theorem settled_of_course (hclosed : t.Closed) (hup : .up ∉ stepsOf root)
    (hunused : t.node? (p.scratchPlace root) = none) {result : Except FileError Unit}
    (h : Course root p t (.done result) t') : Settled root p t result t' := by
  cases h with
  | published hadds hfile => exact ⟨_, hadds, hfile⟩
  | failed cause hadds =>
    refine ⟨hadds, fun place content => hadds.file_iff content,
      node?_scratchPlace hup hunused hadds, ?_⟩
    intro hroot other names count count'
    rw [result_get, result_get, read_of_adds hclosed hup hroot hadds]

/-- However the steps go, the end is settled. -/
theorem settled_of_steps (hclosed : t.Closed) (hup : .up ∉ stepsOf root)
    (hscratch : IsScratch root p.scratch) (hunused : t.node? (p.scratchPlace root) = none)
    {refusals : List (Option Refusal)} {result : Except FileError Unit}
    (h : p.stepsAmid root refusals (.start, t) = (.done result, t')) :
    Settled root p t result t' := by
  have hstart : Course root p t .start t := .start FileTree.adds_refl
  have hcourse := hstart.steps hup hscratch hunused refusals
  rw [h] at hcourse
  exact settled_of_course hclosed hup hunused hcourse

/-- **A blob is put, or nothing has happened.** In any tree of directories and files, with whatever is
in the way of the blob, its directory or the root, putting a blob under the root of a store either
succeeds and has added its file, or fails and has touched no file and no reader. That holds as well
when the system refuses steps for causes of its own, and then too putting a blob ends. -/
theorem put_all_or_nothing (names : Nat → String) (count : Nat) (key : StorageKey) (data : Bytes)
    (hclosed : t.Closed) (hup : .up ∉ stepsOf root) (hscratch : IsScratch root (names count))
    (hunused : t.node? ((Put.mk key data (names count)).scratchPlace root) = none) :
    Settled root ⟨key, data, names count⟩ t
        (((backend root names).put key data).run ⟨t, count⟩).result
        (((backend root names).put key data).run ⟨t, count⟩).state.files ∧
      ∀ refusals : List (Option Refusal), stepCount ≤ refusals.length → ∃ result t',
        (Put.mk key data (names count)).stepsAmid root refusals (.start, t) = (.done result, t') ∧
          Settled root ⟨key, data, names count⟩ t result t' := by
  have hsettled : ∀ {refusals result t'},
      (Put.mk key data (names count)).stepsAmid root refusals (.start, t) = (.done result, t') →
        Settled root ⟨key, data, names count⟩ t result t' :=
    fun hrun => settled_of_steps hclosed hup hscratch hunused hrun
  constructor
  · have hrun := hsettled (stepsAmid_none_eq root ⟨key, data, names count⟩ t)
    show Settled root _ t ((backend root names).put key data ⟨t, count⟩).result
      ((backend root names).put key data ⟨t, count⟩).state.files
    simp only [backend]
    cases hput : (Put.mk key data (names count)).run root t with
    | mk result t' =>
      rw [hput] at hrun
      -- a fault stands for the cause of the failure, and the tree is the same
      cases result with
      | ok _ => exact hrun
      | error e => exact hrun
  · intro refusals hlength
    obtain ⟨result, t', hdone⟩ :=
      exists_done_of_stepsAmid root ⟨key, data, names count⟩ .start t hlength
    exact ⟨result, t', hdone, hsettled hdone⟩

/-- A directory of the blob's own name is in the way, and only the renaming step meets it. -/
theorem put_all_or_nothing_of_directory_in_the_way :
    ∃ (t : FileTree) (key : StorageKey), t.Closed ∧
      (((backend "store" fun _ => ".0d9e.tmp").put key [1]).run ⟨t, 0⟩).result =
          .error (fault .isDirectory) ∧
        Untouched "store" ⟨key, [1], ".0d9e.tmp"⟩ t
          (((backend "store" fun _ => ".0d9e.tmp").put key [1]).run ⟨t, 0⟩).state.files := by
  let key : StorageKey := ⟨"acme/a"⟩
  let t : FileTree := ⟨[(["store"], .directory), (["store", shard key], .directory),
    (["store", shard key, digest key], .directory)]⟩
  have hclosed : t.Closed := FileTree.closed_of_entries (by decide +kernel)
  have hup : .up ∉ stepsOf "store" := by decide
  have hscratch : IsScratch "store" ".0d9e.tmp" :=
    ⟨⟨by decide, by decide, by decide, by decide, by decide⟩, by decide, by decide,
      fun key => not_crosses_of_no_up hup key _⟩
  have hunused : t.node? ((Put.mk key [1] ".0d9e.tmp").scratchPlace "store") = none := by
    decide +kernel
  have hresult : (((backend "store" fun _ => ".0d9e.tmp").put key [1]).run ⟨t, 0⟩).result =
      .error (fault .isDirectory) := by
    decide +kernel
  have hall := put_all_or_nothing (fun _ => ".0d9e.tmp") 0 key [1] hclosed hup hscratch hunused
  rw [hresult] at hall
  exact ⟨t, key, hclosed, hresult, hall.1⟩

end Settled

end Directory

end LogVault
