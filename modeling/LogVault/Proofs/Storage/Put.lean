import LogVault.Proofs.Storage.Directory

/-!
# LogVault.Proofs.Storage.Put — what a step of putting a blob can do

The system may refuse a step for a cause of its own, such as a disk that is full, and leave half of
it done (`Refusal`). Of each stage one lemma says everything that the next step can do from there, in
whatever tree, whether it goes well, fails or is refused: the directories on the way to the blob are
made at the start, the scratch file alone is touched after that, and the blob's own file in the
renaming step alone.

However the steps go, five of them are enough (`exists_done_of_stepsAmid`).
-/

namespace LogVault

namespace Directory

open FileTree (fits Adds)
open Route (IsName Step stepsOf placeOf Passes)

/-! ## Refusals -/

/-- **A refusal** of the system's, and how far the step had come. -/
structure Refusal where
  cause : FileError
  progress : Nat

/-- The tree after some of the directories above a path were made: all of them but the last few. -/
def makeSomeDirs (tree : FileTree) (path : String) (missing : Nat) : FileTree :=
  match Route.ofText path with
  | .ok route => (tree.makeDirsUp ((FileTree.stepsAbove route).drop missing)).2
  | .error _ => tree

/-- **One step** of putting a blob, which the system may refuse. A refused step has made some of the
directories, or written a part of the content, and removing the scratch file is not refused. -/
def Put.stepAmid (root : String) (p : Put) (tree : FileTree) :
    Option Refusal → Stage → Stage × FileTree
  -- nothing is undone after a failure at the start: there is no scratch file yet
  | some r, .start =>
    (.done (.error r.cause), makeSomeDirs tree (shardPath root p.key) r.progress)
  | some r, .placed => (.undoing r.cause, tree)
  | some r, .opened =>
    match onPath (scratchPath root p.key p.scratch) (tree.fill · (p.data.take r.progress)) with
    | .ok tree => (.undoing r.cause, tree)
    | .error _ => (.undoing r.cause, tree)
  | some r, .filled => (.undoing r.cause, tree)
  | _, stage => p.step root tree stage

/-- Several steps without anybody in between, of which the system may refuse some. -/
def Put.stepsAmid (root : String) (p : Put) :
    List (Option Refusal) → Stage × FileTree → Stage × FileTree
  | [], s => s
  | refusal :: rest, (stage, tree) => p.stepsAmid root rest (p.stepAmid root tree refusal stage)

/-! ## Places -/

/-- The place of a blob. -/
def Put.blobPlace (root : String) (p : Put) : List String :=
  rootPlace root ++ [shard p.key, digest p.key]

/-- The place of a scratch file. -/
def Put.scratchPlace (root : String) (p : Put) : List String :=
  rootPlace root ++ [shard p.key, p.scratch]

/-- The shard of a key is there, and the path to it can be walked. -/
def Shelved (root : String) (key : StorageKey) (tree : FileTree) : Prop :=
  tree.walk [] (stepsOf root ++ [.down (shard key)]) = .ok (rootPlace root ++ [shard key])

/-- The path of the scratch file can be used. -/
def Put.Writable (root : String) (p : Put) : Prop :=
  ∃ route, Route.ofText (scratchPath root p.key p.scratch) = .ok route

section Places

variable {root : String} {p q : Put} {key : StorageKey} {tree tree' : FileTree}

theorem Put.blobPlace_eq (root : String) (p : Put) :
    p.blobPlace root = rootPlace root ++ [shard p.key] ++ [digest p.key] := by
  simp [blobPlace]

theorem Put.scratchPlace_eq (root : String) (p : Put) :
    p.scratchPlace root = rootPlace root ++ [shard p.key] ++ [p.scratch] := by
  simp [scratchPlace]

theorem Put.blobPlace_ne_nil : p.blobPlace root ≠ [] := by simp [blobPlace]

theorem Put.scratchPlace_ne_nil : p.scratchPlace root ≠ [] := by simp [scratchPlace]

/-- Below a root nothing is both a blob and a scratch file. -/
theorem blobNames_ne_scratchNames {scratch : String} (h : IsScratch root scratch)
    (key other : StorageKey) : [shard key, digest key] ≠ [shard other, scratch] := by
  intro heq
  simp only [List.cons.injEq] at heq
  exact digest_ne_of_isScratch h key heq.2.1

theorem Put.blobPlace_ne_scratchPlace (h : IsScratch root q.scratch) :
    p.blobPlace root ≠ q.scratchPlace root := by
  intro heq
  exact blobNames_ne_scratchNames h p.key q.key (List.append_cancel_left heq)

/-- Scratch files of different names lie apart. -/
theorem Put.scratchPlace_ne (h : p.scratch ≠ q.scratch) :
    p.scratchPlace root ≠ q.scratchPlace root := by
  intro heq
  have hnames := List.append_cancel_left heq
  simp only [List.cons.injEq] at hnames
  exact h hnames.2.1

theorem fits_digest (key : StorageKey) : fits (digest key) = true :=
  fits_of_length_le (Nat.le_of_eq (length_bytes_digest key))

theorem steps_of_shardPath (root : String) (key : StorageKey) :
    stepsOf (shardPath root key) = stepsOf root ++ [.down (shard key)] :=
  Route.stepsOf_join (isName_shard key)

theorem ofText_scratchPath (hscratch : IsScratch root p.scratch) (h : p.Writable root) :
    Route.ofText (scratchPath root p.key p.scratch) =
      .ok ⟨stepsOf root ++ [.down (shard p.key)] ++ [.down p.scratch], false⟩ := by
  obtain ⟨route, hroute⟩ := h
  have hsteps := Route.eq_of_ofText_join hscratch.isName hroute
  rw [steps_of_shardPath] at hsteps
  rw [hroute, hsteps]

theorem eq_of_ofText_blobPath {route : Route} (h : Route.ofText (blobPath root key) = .ok route) :
    route = ⟨stepsOf root ++ [.down (shard key)] ++ [.down (digest key)], false⟩ := by
  rw [← steps_of_shardPath]
  exact Route.eq_of_ofText_join (isName_digest key) h

theorem Shelved.of_directories (h : Shelved root key tree)
    (hkept : ∀ place, tree.node? place = some .directory → tree'.node? place = some .directory) :
    Shelved root key tree' :=
  FileTree.walk_of_directories hkept h

theorem Shelved.node? (h : Shelved root key tree) :
    tree.node? (rootPlace root ++ [shard key]) = some .directory := by
  have hplace : placeOf (stepsOf root ++ [.down (shard key)]) = rootPlace root ++ [shard key] :=
    Route.placeOf_concat _ _
  rw [← hplace]
  exact FileTree.node?_of_passes h (Route.passes_placeOf _)

end Places

/-! ## Each step -/

section Steps

variable {root : String} {p : Put} {tree tree' : FileTree} {refusal : Option Refusal}
  {stage : Stage}

theorem stepAmid_none (root : String) (p : Put) (tree : FileTree) (stage : Stage) :
    p.stepAmid root tree none stage = p.step root tree stage := by
  cases stage <;> rfl

/-- Undoing is not refused. -/
theorem stepAmid_undoing (root : String) (p : Put) (tree : FileTree) (refusal : Option Refusal)
    (cause : FileError) :
    p.stepAmid root tree refusal (.undoing cause) = p.step root tree (.undoing cause) := by
  cases refusal <;> rfl

theorem adds_makeSomeDirs (tree : FileTree) (path : String) (missing : Nat) :
    Adds (Passes (stepsOf path)) tree (makeSomeDirs tree path missing) := by
  unfold makeSomeDirs
  split
  · next route hroute =>
    obtain ⟨-, hsteps⟩ := Route.nul_not_mem_of_ofText hroute
    rw [← hsteps]
    refine (FileTree.adds_makeDirsUp tree _).mono fun place hplace => ?_
    apply FileTree.passes_of_stepsAbove
    exact hplace.mono (List.reverse_prefix.mpr (List.drop_suffix missing _))
  · exact FileTree.adds_refl

/-- **At the start** only directories are made, on the way to the blob; if the step succeeds, the
last of them is there. -/
theorem cases_of_start (h : p.stepAmid root tree refusal .start = (stage, tree')) :
    Adds (Passes (stepsOf root ++ [.down (shard p.key)])) tree tree' ∧
      (stage = .placed ∧ Shelved root p.key tree' ∨ ∃ e, stage = .done (.error e)) := by
  rw [← steps_of_shardPath]
  cases refusal with
  | some r =>
    cases h
    exact ⟨adds_makeSomeDirs tree _ _, .inr ⟨r.cause, rfl⟩⟩
  | none =>
    rw [stepAmid_none] at h
    simp only [Put.step, makeDirs, shardPath_ne_empty, Bool.false_eq_true, if_false] at h
    cases hroute : Route.ofText (shardPath root p.key) with
    | error e =>
      rw [hroute] at h
      cases h
      exact ⟨FileTree.adds_refl, .inr ⟨e, rfl⟩⟩
    | ok route =>
      obtain ⟨-, hsteps⟩ := Route.nul_not_mem_of_ofText hroute
      have hadds := FileTree.adds_makeDirs tree route
      rw [hroute] at h
      rw [← hsteps]
      cases hmade : tree.makeDirs route with
      | mk result made =>
        rw [hmade] at hadds
        simp only [hmade] at h
        cases result with
        | error e =>
          -- some of the directories may have been made before the failure
          cases h
          exact ⟨hadds, .inr ⟨e, rfl⟩⟩
        | ok _ =>
          cases h
          refine ⟨hadds, .inl ⟨rfl, ?_⟩⟩
          have hwalk := FileTree.walk_of_makeDirs hmade
          rw [hsteps, steps_of_shardPath, Route.placeOf_concat] at hwalk
          exact hwalk

/-- **In its place** the scratch file is opened, or nothing is done. -/
theorem cases_of_placed (hscratch : IsScratch root p.scratch) (hshelved : Shelved root p.key tree)
    (hfree : tree.node? (p.scratchPlace root) ≠ some .directory)
    (h : p.stepAmid root tree refusal .placed = (stage, tree')) :
    (∃ e, stage = .undoing e) ∧ tree' = tree ∨
      stage = .opened ∧ p.Writable root ∧ tree' = tree.set (p.scratchPlace root) (.file []) := by
  cases refusal with
  | some r =>
    cases h
    exact .inl ⟨⟨r.cause, rfl⟩, rfl⟩
  | none =>
    rw [stepAmid_none] at h
    cases hroute : Route.ofText (scratchPath root p.key p.scratch) with
    | error e =>
      -- a path that cannot be used at all: the tree is not even looked at
      simp only [Put.step, onPath, hroute, advance] at h
      cases h
      exact .inl ⟨⟨e, rfl⟩, rfl⟩
    | ok route =>
      have hwritable : p.Writable root := ⟨route, hroute⟩
      rw [Put.scratchPlace_eq] at hfree ⊢
      simp only [Put.step, onPath, ofText_scratchPath hscratch hwritable,
        FileTree.create_concat_down hshelved (fits_of_length_le hscratch.short) hfree, advance] at h
      cases h
      exact .inr ⟨rfl, hwritable, rfl⟩

/-- **Once it is open** the scratch file is filled, or with a part of the content. -/
theorem cases_of_opened (hscratch : IsScratch root p.scratch) (hshelved : Shelved root p.key tree)
    (hwritable : p.Writable root) (h : p.stepAmid root tree refusal .opened = (stage, tree')) :
    ∃ content, tree' = tree.set (p.scratchPlace root) (.file content) ∧
      (stage = .filled ∧ content = p.data ∨ ∃ e, stage = .undoing e) := by
  have hfill := FileTree.fill_concat_down hshelved (fits_of_length_le hscratch.short)
  rw [Put.scratchPlace_eq]
  cases refusal with
  | some r =>
    simp only [Put.stepAmid, onPath, ofText_scratchPath hscratch hwritable, hfill] at h
    cases h
    exact ⟨p.data.take r.progress, rfl, .inr ⟨r.cause, rfl⟩⟩
  | none =>
    rw [stepAmid_none] at h
    simp only [Put.step, onPath, ofText_scratchPath hscratch hwritable, hfill, advance] at h
    cases h
    exact ⟨p.data, rfl, .inl ⟨rfl, rfl⟩⟩

/-- **Once it is filled** the scratch file becomes the blob's, or nothing is done. -/
theorem cases_of_filled {content : Bytes} (hscratch : IsScratch root p.scratch)
    (hshelved : Shelved root p.key tree) (hwritable : p.Writable root)
    (hfile : tree.node? (p.scratchPlace root) = some (.file content))
    (h : p.stepAmid root tree refusal .filled = (stage, tree')) :
    (∃ e, stage = .undoing e) ∧ tree' = tree ∨
      stage = .done (.ok ()) ∧ tree.node? (p.blobPlace root) ≠ some .directory ∧
        tree' = (tree.erase (p.scratchPlace root)).set (p.blobPlace root) (.file content) := by
  cases refusal with
  | some r =>
    cases h
    exact .inl ⟨⟨r.cause, rfl⟩, rfl⟩
  | none =>
    rw [stepAmid_none] at h
    cases hroute : Route.ofText (blobPath root p.key) with
    | error e =>
      simp only [Put.step, onPaths, onPath, ofText_scratchPath hscratch hwritable, hroute,
        advance] at h
      cases h
      exact .inl ⟨⟨e, rfl⟩, rfl⟩
    | ok route =>
      rw [Put.scratchPlace_eq] at hfile ⊢
      rw [Put.blobPlace_eq]
      have hfits := fits_of_length_le hscratch.short
      have hpath := eq_of_ofText_blobPath hroute
      simp only [Put.step, onPaths, onPath, ofText_scratchPath hscratch hwritable, hroute,
        hpath] at h
      by_cases hdirectory :
          tree.node? (rootPlace root ++ [shard p.key] ++ [digest p.key]) = some .directory
      · -- a directory in the place of the blob is met here, with all the content written
        rw [FileTree.rename_concat_down_of_directory hshelved hfits (fits_digest p.key) hfile
          hdirectory] at h
        cases h
        exact .inl ⟨⟨.isDirectory, rfl⟩, rfl⟩
      · rw [FileTree.rename_concat_down hshelved hfits (fits_digest p.key) hfile hdirectory] at h
        cases h
        exact .inr ⟨rfl, hdirectory, rfl⟩

/-- **Undoing** leaves no scratch file, and everything else as it is. -/
theorem cases_of_undoing {cause : FileError} (hscratch : IsScratch root p.scratch)
    (hshelved : Shelved root p.key tree)
    (hfree : tree.node? (p.scratchPlace root) ≠ some .directory)
    (hclean : ¬ p.Writable root → tree.node? (p.scratchPlace root) = none)
    (h : p.stepAmid root tree refusal (.undoing cause) = (stage, tree')) :
    stage = .done (.error cause) ∧ ∀ other, tree'.node? other =
      if other = p.scratchPlace root then none else tree.node? other := by
  have hnothing : tree.node? (p.scratchPlace root) = none → ∀ other, tree.node? other =
      if other = p.scratchPlace root then none else tree.node? other := by
    intro hnone other
    split
    · next hother => rw [hother, hnone]
    · rfl
  rw [stepAmid_undoing] at h
  cases hroute : Route.ofText (scratchPath root p.key p.scratch) with
  | error e =>
    -- removing fails for the same cause as opening did, so no file is left
    have hnot : ¬ p.Writable root := by
      rintro ⟨route, hok⟩
      rw [hroute] at hok
      cases hok
    simp only [Put.step, onPath, hroute] at h
    cases h
    exact ⟨rfl, hnothing (hclean hnot)⟩
  | ok route =>
    have hremove := FileTree.remove_concat_down hshelved (fits_of_length_le hscratch.short)
    rw [← Put.scratchPlace_eq] at hremove
    simp only [Put.step, onPath, ofText_scratchPath hscratch ⟨route, hroute⟩, hremove] at h
    cases hnode : tree.node? (p.scratchPlace root) with
    | none =>
      rw [hnode] at h
      cases h
      exact ⟨rfl, hnothing hnode⟩
    | some node =>
      rw [hnode] at h
      cases node with
      | directory => exact absurd hnode hfree
      | file content =>
        cases h
        exact ⟨rfl, FileTree.node?_erase tree Put.scratchPlace_ne_nil⟩

/-- A put that has ended does nothing more. -/
theorem stepAmid_done (result : Except FileError Unit) :
    p.stepAmid root tree refusal (.done result) = (.done result, tree) := by
  cases refusal <;> rfl

theorem advance_ne_done (tree : FileTree) (result : Except FileError FileTree) {next : Stage}
    (hnext : next ≠ .done (.ok ())) : (advance tree result next).1 ≠ .done (.ok ()) := by
  cases result with
  | ok _ => exact hnext
  | error e => exact nofun

/-- **Only the renaming step ends well.** -/
theorem filled_of_stepAmid_done
    (h : (p.stepAmid root tree refusal stage).1 = .done (.ok ())) :
    stage = .filled ∨ stage = .done (.ok ()) := by
  cases stage with
  | filled => exact .inl rfl
  | done result =>
    rw [stepAmid_done] at h
    exact .inr h
  | start =>
    cases hnext : p.stepAmid root tree refusal .start with
    | mk next tree' =>
      rw [hnext] at h
      obtain ⟨-, ⟨rfl, -⟩ | ⟨e, rfl⟩⟩ := cases_of_start hnext <;> cases h
  | placed =>
    cases refusal with
    | some r => cases h
    | none => exact absurd h (advance_ne_done tree _ nofun)
  | opened =>
    cases refusal with
    | some r =>
      simp only [Put.stepAmid] at h
      split at h <;> cases h
    | none => exact absurd h (advance_ne_done tree _ nofun)
  | undoing cause =>
    rw [stepAmid_undoing, Put.step] at h
    split at h <;> cases h

end Steps

/-! ## Runs -/

/-- The most steps that are left at a stage. -/
def Stage.left : Stage → Nat
  | .start => stepCount
  | .placed => 4
  | .opened => 3
  | .filled => 2
  | .undoing _ => 1
  | .done _ => 0

section Runs

theorem left_advance (tree : FileTree) (result : Except FileError FileTree) {next : Stage} {n : Nat}
    (hnext : next.left ≤ n) (hn : 1 ≤ n) : (advance tree result next).1.left ≤ n := by
  cases result with
  | ok _ => exact hnext
  | error e => exact hn

/-- **Each step** is one step nearer to the end. -/
theorem left_stepAmid (root : String) (p : Put) (tree : FileTree) (refusal : Option Refusal)
    (stage : Stage) : (p.stepAmid root tree refusal stage).1.left ≤ stage.left - 1 := by
  cases stage with
  | start =>
    cases h : p.stepAmid root tree refusal .start with
    | mk next tree' =>
      obtain ⟨-, ⟨rfl, -⟩ | ⟨e, rfl⟩⟩ := cases_of_start h
      · exact Nat.le_refl 4
      · exact Nat.zero_le 4
  | placed =>
    cases refusal with
    | some r => show 1 ≤ 3; omega
    | none =>
      show (advance _ _ .opened).1.left ≤ 3
      exact left_advance _ _ (Nat.le_refl 3) (by omega)
  | opened =>
    cases refusal with
    | some r =>
      simp only [Put.stepAmid]
      split <;> exact Nat.le_succ 1
    | none =>
      show (advance _ _ .filled).1.left ≤ 2
      exact left_advance _ _ (Nat.le_refl 2) (by omega)
  | filled =>
    cases refusal with
    | some r => exact Nat.le_refl 1
    | none => exact left_advance _ _ (Nat.zero_le 1) (Nat.le_refl 1)
  | undoing cause =>
    rw [stepAmid_undoing, Put.step]
    split <;> exact Nat.zero_le 0
  | done result =>
    rw [stepAmid_done]
    exact Nat.zero_le 0

/-- **With enough steps putting a blob ends**, whatever the system refuses. -/
theorem exists_done_of_stepsAmid (root : String) (p : Put) (stage : Stage) (tree : FileTree)
    {refusals : List (Option Refusal)} (h : stage.left ≤ refusals.length) : ∃ result tree',
      p.stepsAmid root refusals (stage, tree) = (.done result, tree') := by
  -- on the steps, each of which leaves one less to be taken, refused or not
  induction refusals generalizing stage tree with
  | nil =>
    cases stage with
    | done result => exact ⟨result, tree, rfl⟩
    | start => simp [Stage.left, stepCount] at h
    | placed => simp [Stage.left] at h
    | opened => simp [Stage.left] at h
    | filled => simp [Stage.left] at h
    | undoing cause => simp [Stage.left] at h
  | cons refusal rest ih =>
    have hleft := left_stepAmid root p tree refusal stage
    rw [List.length_cons] at h
    cases hnext : p.stepAmid root tree refusal stage with
    | mk next tree' =>
      rw [hnext] at hleft
      rw [Put.stepsAmid, hnext]
      have hnear : next.left ≤ stage.left - 1 := hleft
      exact ih next tree' (by omega)

theorem stepsAmid_replicate_none (root : String) (p : Put) (n : Nat) (s : Stage × FileTree) :
    p.stepsAmid root (List.replicate n none) s = p.steps root n s := by
  induction n generalizing s with
  | zero => rfl
  | succ n ih =>
    obtain ⟨stage, tree⟩ := s
    rw [List.replicate_succ, Put.stepsAmid, stepAmid_none, ih]
    rfl

/-- **Putting a blob is the run of which no step is refused.** -/
theorem stepsAmid_none_eq (root : String) (p : Put) (tree : FileTree) :
    p.stepsAmid root (List.replicate stepCount none) (.start, tree) =
      (.done (p.run root tree).1, (p.run root tree).2) := by
  have hlength : Stage.start.left ≤ (List.replicate stepCount (none : Option Refusal)).length :=
    Nat.le_of_eq List.length_replicate.symm
  obtain ⟨result, tree', hdone⟩ := exists_done_of_stepsAmid root p .start tree hlength
  have hsteps := hdone
  rw [stepsAmid_replicate_none] at hsteps
  rw [hdone, Put.run, hsteps]

end Runs

end Directory

end LogVault
