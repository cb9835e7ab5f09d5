import LogVault.Proofs.Storage.Atomicity
import Mathlib.Logic.Function.Basic

/-!
# LogVault.Proofs.Storage.Interleaving — readers see whole blobs, whoever writes

Any number of puts are under way in one tree, and between the steps of each the others may take
theirs, the system may refuse some, and keys may be got (`Traffic`). Whatever the order, getting a key
gives the content of the put to that key whose scratch file became the blob's last, or what was there
before any did (`gets_published`): never a part of a content, two mixed, or another key's. When all
puts have ended the files under the root are the blobs, and no scratch file is left.

What makes this so is said once for all stages (`Coherent`): the scratch file of each put is its own,
the shards that they share are directories once they are there, and what lies in the place of a blob
changes in a renaming step alone.
-/

namespace LogVault

namespace Directory

open FileTree (fits Adds)
open Route (IsName Step stepsOf placeOf Passes)

/-! ## Puts under way -/

/-- **Puts under way** in one tree: how far each has come, and which of them have renamed their
scratch file, the latest first. -/
structure Traffic (ι : Type) where
  tree : FileTree
  stage : ι → Stage
  renamed : List ι

/-- **A move**: the next step of one of the puts, which the system may refuse, or getting a key. -/
inductive Move (ι : Type) where
  | step (i : ι) (refusal : Option Refusal)
  | get (key : StorageKey)

namespace Traffic

variable {ι : Type}

/-- No put has begun. -/
def start (tree : FileTree) : Traffic ι := ⟨tree, fun _ => .start, []⟩

/-- The puts that have renamed when one goes from a stage to another. -/
def renamedBy (i : ι) (renamed : List ι) : Stage → Stage → List ι
  | .filled, .done (.ok _) => i :: renamed
  | _, _ => renamed

theorem mem_renamedBy {i j : ι} {renamed : List ι} {stage stage' : Stage} :
    i ∈ renamedBy j renamed stage stage' ↔
      i = j ∧ stage = .filled ∧ stage' = .done (.ok ()) ∨ i ∈ renamed := by
  unfold renamedBy
  split
  · simp
  · next hnot =>
    have hfalse : ¬ (i = j ∧ stage = .filled ∧ stage' = .done (.ok ())) := by
      rintro ⟨-, rfl, rfl⟩
      exact hnot () rfl rfl
    simp [hfalse]

variable [DecidableEq ι]

/-- **After a move.** A get reads the tree once and leaves it as it is. -/
def next (root : String) (puts : ι → Put) (s : Traffic ι) : Move ι → Traffic ι
  | .step i refusal =>
    let after := (puts i).stepAmid root s.tree refusal (s.stage i)
    { tree := after.2
      stage := Function.update s.stage i after.1
      renamed := renamedBy i s.renamed (s.stage i) after.1 }
  | .get _ => s

/-- After several moves. -/
def run (root : String) (puts : ι → Put) (s : Traffic ι) (moves : List (Move ι)) : Traffic ι :=
  moves.foldl (next root puts) s

/-- **The puts after several moves from the beginning**, in a tree. -/
def after (root : String) (puts : ι → Put) (tree : FileTree) (moves : List (Move ι)) : Traffic ι :=
  (start tree).run root puts moves

end Traffic

/-- **What is published under a key**: the content of the put that renamed last, among those to that
key, or what was there before. -/
def published {ι : Type} (puts : ι → Put) (b : Blobs) (renamed : List ι) (key : StorageKey) :
    Option Bytes :=
  match renamed.find? fun i => (puts i).key = key with
  | some i => some (puts i).data
  | none => b.get? key

/-- One more put has renamed: its content is what is published under its key. -/
theorem published_cons {ι : Type} (puts : ι → Put) (b : Blobs) (i : ι) (renamed : List ι)
    (key : StorageKey) : published puts b (i :: renamed) key =
      if key = (puts i).key then some (puts i).data else published puts b renamed key := by
  rw [published, List.find?_cons]
  by_cases hsame : key = (puts i).key
  · simp [hsame]
  · have hdiffer : decide ((puts i).key = key) = false := decide_eq_false (Ne.symm hsame)
    rw [if_neg hsame, hdiffer, published]

/-! ## Coherence -/

/-- A put that has made its directory and has not ended. -/
def Stage.InFlight : Stage → Prop
  | .placed => True
  | .opened => True
  | .filled => True
  | .undoing _ => True
  | _ => False

/-- **What is under the scratch name** of a put at a stage: nothing before the file is opened and
nothing after the end, and a file of its own in between. -/
def Stage.Leaves (p : Put) : Stage → Option Node → Prop
  | .opened, node => node = some (.file [])
  | .filled, node => node = some (.file p.data)
  | .undoing _, node => node ≠ some .directory
  | _, node => node = none

theorem Stage.Leaves.ne_directory {p : Put} {stage : Stage} {node : Option Node}
    (h : stage.Leaves p node) : node ≠ some .directory := by
  cases stage with
  | undoing cause => exact h
  | start => rw [show node = none from h]; exact nofun
  | placed => rw [show node = none from h]; exact nofun
  | done result => rw [show node = none from h]; exact nofun
  | opened => rw [show node = some (.file []) from h]; exact nofun
  | filled => rw [show node = some (.file p.data) from h]; exact nofun

/-- **The tree and the puts under way agree.** -/
structure Coherent {ι : Type} (root : String) (puts : ι → Put) (b : Blobs)
    (used : StorageKey → Prop) (s : Traffic ι) : Prop where
  opened : Opened root s.tree
  -- nobody puts a file where a shard belongs
  shards : ∀ key content, s.tree.node? (rootPlace root ++ [shard key]) ≠ some (.file content)
  -- a shard that was made stays, since no put removes a directory
  shelved : ∀ i, (s.stage i).InFlight →
    s.tree.node? (rootPlace root ++ [shard (puts i).key]) = some .directory
  -- no put touches the scratch file of another
  scratch : ∀ i, (s.stage i).Leaves (puts i) (s.tree.node? ((puts i).scratchPlace root))
  blobs : ∀ key, used key → s.tree.node? (rootPlace root ++ [shard key, digest key]) =
    (published puts b s.renamed key).map .file
  -- a reader of a published key finds its shard
  kept : ∀ key, used key → (published puts b s.renamed key).isSome = true →
    s.tree.node? (rootPlace root ++ [shard key]) = some .directory
  -- every other file under the root is the scratch file of some put
  others : ∀ names, names ≠ [] → ∀ content,
    s.tree.node? (rootPlace root ++ names) = some (.file content) →
      (∃ key, used key ∧ names = [shard key, digest key]) ∨
        ∃ i, names = [shard (puts i).key, (puts i).scratch]

/-- **No two of the keys in use have one hash.** -/
def NoCollision (used : StorageKey → Prop) : Prop :=
  ∀ key other, used key → used other →
    Sha256.hash (Text.bytes key.text) = Sha256.hash (Text.bytes other.text) → key = other

section Coherent

variable {ι : Type} {root : String} {puts : ι → Put} {b : Blobs} {used : StorageKey → Prop}
  {s : Traffic ι} {i : ι} {stage : Stage} {tree' : FileTree}

/-- The shard of a put under way can be walked to. -/
theorem Coherent.shelved_tree (h : Coherent root puts b used s) (hflight : (s.stage i).InFlight) :
    Shelved root (puts i).key s.tree :=
  h.opened.walk_shard (h.shelved i hflight)

theorem Coherent.writable (h : Coherent root puts b used s)
    (hscratch : IsScratch root (puts i).scratch) : (puts i).Writable root :=
  ⟨_, h.opened.ofText_join_shardPath (puts i).key hscratch.isName hscratch.short⟩

/-- **Before any put has begun** the tree holds what was there. -/
theorem coherent_start {tree : FileTree} (hopened : Opened root tree)
    (hreflects : Reflects root tree b) (hscratch : ∀ i, IsScratch root (puts i).scratch)
    (hb : ∀ key content, b.get? key = some content → used key)
    (hclear : ∀ key, used key → ¬ Crosses root key (digest key)) (hapart : NoCollision used) :
    Coherent root puts b used (.start tree) where
  opened := hopened
  shards := hreflects.no_file_at_shard
  shelved _ hflight := absurd hflight id
  scratch i := hreflects.node?_scratch (hscratch i)
  blobs key hkey := by
    -- what lay in the place of its blob was a blob of the key itself
    have hown : Apart key b := fun other content hother hdigest =>
      hapart other key (hb other content hother) hkey (hash_eq_of_digest_eq hdigest)
    exact hreflects.node?_blob hown (hclear key hkey)
  kept key _ hsome := by
    obtain ⟨content, hcontent⟩ := Option.isSome_iff_exists.mp hsome
    exact hreflects.shards key content hcontent
  others names hnames content hfile := by
    obtain ⟨key, hplace, hcontent⟩ := (hreflects.files names hnames content).mp hfile
    exact .inl ⟨key, hb key content hcontent, hplace⟩

/-- **Getting a key gives what is published under it.** -/
theorem Coherent.result_get (h : Coherent root puts b used s) {key : StorageKey} (hkey : used key)
    (names : Nat → String) (count : Nat) :
    (((backend root names).get key).run ⟨s.tree, count⟩).result =
      match published puts b s.renamed key with
      | some data => .ok data
      | none => .error (Backend.missing key) := by
  have hread := read_of_node? h.opened (h.blobs key hkey) (h.shards key) (h.kept key hkey)
  rw [Directory.result_get, hread]
  cases published puts b s.renamed key <;> rfl

/-- **When all puts have ended** the files under the root are what is published. -/
theorem Coherent.files_of_done (h : Coherent root puts b used s)
    (hdone : ∀ i, ∃ result, s.stage i = .done result) (hused : ∀ i, used (puts i).key)
    (hb : ∀ key content, b.get? key = some content → used key) {names : List String}
    (hnames : names ≠ []) (content : Bytes) :
    s.tree.node? (rootPlace root ++ names) = some (.file content) ↔
      ∃ key, names = [shard key, digest key] ∧
        published puts b s.renamed key = some content := by
  constructor
  · intro hfile
    rcases h.others names hnames content hfile with ⟨key, hkey, rfl⟩ | ⟨i, rfl⟩
    · rw [h.blobs key hkey, Option.map_eq_some_iff] at hfile
      obtain ⟨data, hdata, hsame⟩ := hfile
      cases hsame
      exact ⟨key, rfl, hdata⟩
    · -- the scratch file of a put that has ended is gone
      obtain ⟨result, hresult⟩ := hdone i
      have hnone := h.scratch i
      rw [hresult] at hnone
      rw [show s.tree.node? (rootPlace root ++ _) = none from hnone] at hfile
      cases hfile
  · rintro ⟨key, rfl, hdata⟩
    have hkey : used key := by
      rw [published] at hdata
      split at hdata
      · next i hfind =>
        have hsame : (puts i).key = key := by simpa using List.find?_some hfind
        exact hsame ▸ hused i
      · exact hb key content hdata
    rw [h.blobs key hkey, hdata]
    rfl

/-! ## Each kind of step -/

variable [DecidableEq ι]

/-- **A step that is about its own scratch file** keeps the tree and the puts in agreement. -/
theorem Coherent.scratched (h : Coherent root puts b used s)
    (hscratch : ∀ i, IsScratch root (puts i).scratch)
    (hdistinct : Function.Injective fun i => (puts i).scratch) {node : Option Node}
    (hnode : ∀ other, tree'.node? other =
      if other = (puts i).scratchPlace root then node else s.tree.node? other)
    (hleaves : stage.Leaves (puts i) node) (hflight : stage.InFlight → (s.stage i).InFlight) :
    Coherent root puts b used ⟨tree', Function.update s.stage i stage, s.renamed⟩ := by
  have hbelow : ∀ names, tree'.node? (rootPlace root ++ names) =
      if names = [shard (puts i).key, (puts i).scratch] then node
      else s.tree.node? (rootPlace root ++ names) := by
    intro names
    rw [hnode, Put.scratchPlace]
    simp only [List.append_cancel_left_eq]
  have hshard : ∀ key, tree'.node? (rootPlace root ++ [shard key]) =
      s.tree.node? (rootPlace root ++ [shard key]) := by
    intro key
    rw [hbelow, if_neg (by simp)]
  constructor
  case opened =>
    -- where there was a directory there was no scratch file
    refine h.opened.of_directories fun place hplace => ?_
    rw [hnode, if_neg, hplace]
    rintro rfl
    exact (h.scratch i).ne_directory hplace
  case shards =>
    intro key content
    rw [hshard]
    exact h.shards key content
  case shelved =>
    simp only [hshard]
    apply (Function.forall_update_iff s.stage fun j stage => stage.InFlight →
      s.tree.node? (rootPlace root ++ [shard (puts j).key]) = some .directory).mpr
    constructor
    · intro hthis
      exact h.shelved i (hflight hthis)
    · intro j _
      exact h.shelved j
  case scratch =>
    apply (Function.forall_update_iff s.stage fun j stage =>
      stage.Leaves (puts j) (tree'.node? ((puts j).scratchPlace root))).mpr
    constructor
    · rw [hnode, if_pos rfl]
      exact hleaves
    · -- the scratch files of the others have other names
      intro j hother
      rw [hnode, if_neg (Put.scratchPlace_ne fun hname => hother (hdistinct hname))]
      exact h.scratch j
  case blobs =>
    intro key hkey
    rw [hbelow, if_neg (blobNames_ne_scratchNames (hscratch i) key _)]
    exact h.blobs key hkey
  case kept =>
    intro key hkey hsome
    rw [hshard]
    exact h.kept key hkey hsome
  case others =>
    intro names hnames content hfile
    rw [hbelow] at hfile
    split at hfile
    · next heq => exact .inr ⟨i, heq⟩
    · exact h.others names hnames content hfile

/-- A step that does nothing to the tree keeps them in agreement. -/
theorem Coherent.unmoved (h : Coherent root puts b used s)
    (hscratch : ∀ i, IsScratch root (puts i).scratch)
    (hdistinct : Function.Injective fun i => (puts i).scratch)
    (hleaves : stage.Leaves (puts i) (s.tree.node? ((puts i).scratchPlace root)))
    (hflight : stage.InFlight → (s.stage i).InFlight) :
    Coherent root puts b used ⟨s.tree, Function.update s.stage i stage, s.renamed⟩ := by
  refine h.scratched hscratch hdistinct (fun other => ?_) hleaves hflight
  split
  · next hother => rw [hother]
  · rfl

/-- **A step that makes no more than the shard** keeps them in agreement. -/
theorem Coherent.placed (h : Coherent root puts b used s) (hstart : s.stage i = .start)
    (hadds : Adds (· = rootPlace root ++ [shard (puts i).key]) s.tree tree')
    (hstage : stage = .placed ∧
        tree'.node? (rootPlace root ++ [shard (puts i).key]) = some .directory ∨
      ∃ e, stage = .done (.error e)) :
    Coherent root puts b used ⟨tree', Function.update s.stage i stage, s.renamed⟩ := by
  -- no file is in the place of a shard, so what lies in a shard is as it was
  have hin : ∀ first name, tree'.node? (rootPlace root ++ [first, name]) =
      s.tree.node? (rootPlace root ++ [first, name]) := by
    intro first name
    apply hadds.node?_eq
    rw [List.append_cancel_left_eq]
    simp
  constructor
  case opened => exact h.opened.of_directories fun place => hadds.node?_eq_some
  case shards =>
    intro key content hfile
    exact h.shards key content ((hadds.file_iff content).mp hfile)
  case shelved =>
    apply (Function.forall_update_iff s.stage fun j stage => stage.InFlight →
      tree'.node? (rootPlace root ++ [shard (puts j).key]) = some .directory).mpr
    constructor
    · intro hthis
      rcases hstage with ⟨-, hdirectory⟩ | ⟨e, rfl⟩
      · exact hdirectory
      · exact absurd hthis id
    · intro j _ hthis
      exact hadds.node?_eq_some (h.shelved j hthis)
  case scratch =>
    have hsame : ∀ j, tree'.node? ((puts j).scratchPlace root) =
        s.tree.node? ((puts j).scratchPlace root) := fun j => hin _ _
    simp only [hsame]
    apply (Function.forall_update_iff s.stage fun j stage =>
      stage.Leaves (puts j) (s.tree.node? ((puts j).scratchPlace root))).mpr
    constructor
    · have hleaves := h.scratch i
      rw [hstart] at hleaves
      rcases hstage with ⟨rfl, -⟩ | ⟨e, rfl⟩
      · exact hleaves
      · exact hleaves
    · intro j _
      exact h.scratch j
  case blobs =>
    intro key hkey
    rw [hin]
    exact h.blobs key hkey
  case kept =>
    intro key hkey hsome
    exact hadds.node?_eq_some (h.kept key hkey hsome)
  case others =>
    intro names hnames content hfile
    exact h.others names hnames content ((hadds.file_iff content).mp hfile)

/-- **A step that renames** publishes the content of its put, and keeps them in agreement. -/
theorem Coherent.renamed (h : Coherent root puts b used s)
    (hscratch : ∀ i, IsScratch root (puts i).scratch)
    (hdistinct : Function.Injective fun i => (puts i).scratch) (hapart : NoCollision used)
    (hused : used (puts i).key) (hfilled : s.stage i = .filled)
    (hnode : ∀ other, tree'.node? other =
      if other = (puts i).blobPlace root then some (.file (puts i).data)
      else if other = (puts i).scratchPlace root then none else s.tree.node? other) :
    Coherent root puts b used
      ⟨tree', Function.update s.stage i (.done (.ok ())), i :: s.renamed⟩ := by
  have hbelow : ∀ names, tree'.node? (rootPlace root ++ names) =
      if names = [shard (puts i).key, digest (puts i).key] then some (.file (puts i).data)
      else if names = [shard (puts i).key, (puts i).scratch] then none
      else s.tree.node? (rootPlace root ++ names) := by
    intro names
    rw [hnode, Put.scratchPlace, Put.blobPlace]
    simp only [List.append_cancel_left_eq]
  have hshard : ∀ key, tree'.node? (rootPlace root ++ [shard key]) =
      s.tree.node? (rootPlace root ++ [shard key]) := by
    intro key
    rw [hbelow, if_neg (by simp), if_neg (by simp)]
  constructor
  case opened =>
    -- neither in the place of a blob nor under a scratch name was there a directory
    refine h.opened.of_directories fun place hplace => ?_
    rw [hnode, if_neg, if_neg, hplace]
    · rintro rfl
      exact (h.scratch i).ne_directory hplace
    · rintro rfl
      rw [Put.blobPlace, h.blobs (puts i).key hused, Option.map_eq_some_iff] at hplace
      obtain ⟨content, -, hfile⟩ := hplace
      cases hfile
  case shards =>
    intro key content
    rw [hshard]
    exact h.shards key content
  case shelved =>
    simp only [hshard]
    apply (Function.forall_update_iff s.stage fun j stage => stage.InFlight →
      s.tree.node? (rootPlace root ++ [shard (puts j).key]) = some .directory).mpr
    constructor
    · intro hthis
      exact absurd hthis id
    · intro j _
      exact h.shelved j
  case scratch =>
    apply (Function.forall_update_iff s.stage fun j stage =>
      stage.Leaves (puts j) (tree'.node? ((puts j).scratchPlace root))).mpr
    constructor
    · rw [hnode, if_neg (Put.blobPlace_ne_scratchPlace (hscratch i)).symm, if_pos rfl]
      rfl
    · intro j hother
      rw [hnode, if_neg (Put.blobPlace_ne_scratchPlace (hscratch j)).symm,
        if_neg (Put.scratchPlace_ne fun hname => hother (hdistinct hname))]
      exact h.scratch j
  case blobs =>
    intro key hkey
    show tree'.node? _ = (published puts b (i :: s.renamed) key).map .file
    rw [published_cons, hbelow]
    by_cases hsame : key = (puts i).key
    · rw [if_pos hsame, hsame, if_pos rfl]
      rfl
    · -- another key has another digest
      have hblob : [shard key, digest key] ≠ [shard (puts i).key, digest (puts i).key] := by
        intro heq
        simp only [List.cons.injEq] at heq
        exact hsame (hapart key (puts i).key hkey hused (hash_eq_of_digest_eq heq.2.1))
      rw [if_neg hblob, if_neg (blobNames_ne_scratchNames (hscratch i) key _), if_neg hsame]
      exact h.blobs key hkey
  case kept =>
    intro key hkey hsome
    rw [hshard]
    rw [published_cons] at hsome
    split at hsome
    · next hsame =>
      have hflight : (s.stage i).InFlight := by
        rw [hfilled]
        trivial
      rw [hsame]
      exact h.shelved i hflight
    · exact h.kept key hkey hsome
  case others =>
    intro names hnames content hfile
    rw [hbelow] at hfile
    split at hfile
    · next heq => exact .inl ⟨(puts i).key, hused, heq⟩
    · split at hfile
      · cases hfile
      · exact h.others names hnames content hfile

/-! ## Every move -/

/-- The places on the way to a shard are there already, but for the shard. -/
theorem adds_of_opened {root : String} {tree tree' : FileTree} (h : Opened root tree)
    (key : StorageKey) (hadds : Adds (OnTheWay root key) tree tree') :
    Adds (· = rootPlace root ++ [shard key]) tree tree' := by
  intro place
  rcases hadds place with hsame | ⟨hnone, hnew, front, hfront, hplace⟩
  · exact .inl hsame
  · refine .inr ⟨hnone, hnew, ?_⟩
    rcases List.prefix_concat_iff.mp hfront with hall | hroot
    · rw [hplace, hall, placeOf_shard]
    · -- what the path of the root passes are directories
      rw [hplace, FileTree.node?_of_passes h.walks ⟨front, hroot, rfl⟩] at hnone
      cases hnone

/-- **Every move keeps the tree and the puts in agreement.** -/
theorem Coherent.next (h : Coherent root puts b used s)
    (hscratch : ∀ i, IsScratch root (puts i).scratch)
    (hdistinct : Function.Injective fun i => (puts i).scratch) (hapart : NoCollision used)
    (hused : ∀ i, used (puts i).key) (move : Move ι) :
    Coherent root puts b used (s.next root puts move) := by
  cases move with
  | get key => exact h
  | step i refusal =>
    have hwritable := h.writable (hscratch i)
    have hleaves := h.scratch i
    have hfree := hleaves.ne_directory
    have hunderway : ∀ {stage : Stage}, s.stage i = stage → stage.InFlight →
        (s.stage i).InFlight := by
      rintro _ rfl hflight
      exact hflight
    cases hnext : (puts i).stepAmid root s.tree refusal (s.stage i) with
    | mk stage tree' =>
    have hmove : s.next root puts (.step i refusal) = ⟨tree', Function.update s.stage i stage,
        Traffic.renamedBy i s.renamed (s.stage i) stage⟩ := by
      rw [Traffic.next, hnext]
    rw [hmove]
    cases hstage : s.stage i with
    | start =>
      rw [hstage] at hnext
      obtain ⟨hadds, hcases⟩ := cases_of_start hnext
      refine h.placed hstage (adds_of_opened h.opened (puts i).key hadds) ?_
      rcases hcases with ⟨hplaced, hshelved⟩ | hfailed
      · exact .inl ⟨hplaced, hshelved.node?⟩
      · exact .inr hfailed
    | placed =>
      have hflight := hunderway hstage trivial
      rw [hstage] at hnext
      rcases cases_of_placed (hscratch i) (h.shelved_tree hflight) hfree hnext with
        ⟨⟨e, rfl⟩, rfl⟩ | ⟨rfl, -, rfl⟩
      · exact h.unmoved hscratch hdistinct hfree fun _ => hflight
      · exact h.scratched hscratch hdistinct
          (FileTree.node?_set s.tree Put.scratchPlace_ne_nil (.file [])) rfl fun _ => hflight
    | opened =>
      have hflight := hunderway hstage trivial
      rw [hstage] at hnext
      obtain ⟨content, rfl, ⟨rfl, rfl⟩ | ⟨e, rfl⟩⟩ :=
        cases_of_opened (hscratch i) (h.shelved_tree hflight) hwritable hnext
      · exact h.scratched hscratch hdistinct
          (FileTree.node?_set s.tree Put.scratchPlace_ne_nil (.file (puts i).data)) rfl
          fun _ => hflight
      · exact h.scratched hscratch hdistinct
          (FileTree.node?_set s.tree Put.scratchPlace_ne_nil (.file content)) (by exact nofun)
          fun _ => hflight
    | filled =>
      have hflight := hunderway hstage trivial
      have hfile : s.tree.node? ((puts i).scratchPlace root) = some (.file (puts i).data) := by
        rw [hstage] at hleaves
        exact hleaves
      rw [hstage] at hnext
      rcases cases_of_filled (hscratch i) (h.shelved_tree hflight) hwritable hfile hnext with
        ⟨⟨e, rfl⟩, rfl⟩ | ⟨rfl, -, rfl⟩
      · exact h.unmoved hscratch hdistinct hfree fun _ => hflight
      · refine h.renamed hscratch hdistinct hapart (hused i) hstage fun other => ?_
        rw [FileTree.node?_set _ Put.blobPlace_ne_nil,
          FileTree.node?_erase _ Put.scratchPlace_ne_nil]
    | undoing cause =>
      have hflight := hunderway hstage trivial
      rw [hstage] at hnext
      obtain ⟨rfl, hnode⟩ := cases_of_undoing (hscratch i) (h.shelved_tree hflight) hfree
        (fun hnot => absurd hwritable hnot) hnext
      exact h.scratched hscratch hdistinct hnode rfl fun hdone => absurd hdone id
    | done result =>
      rw [hstage, stepAmid_done] at hnext
      rw [hstage] at hleaves
      cases hnext
      exact h.unmoved hscratch hdistinct hleaves fun hdone => absurd hdone id

/-- So does every run. -/
theorem Coherent.run (h : Coherent root puts b used s)
    (hscratch : ∀ i, IsScratch root (puts i).scratch)
    (hdistinct : Function.Injective fun i => (puts i).scratch) (hapart : NoCollision used)
    (hused : ∀ i, used (puts i).key) (moves : List (Move ι)) :
    Coherent root puts b used (s.run root puts moves) := by
  induction moves generalizing s with
  | nil => exact h
  | cons move rest ih => exact ih (h.next hscratch hdistinct hapart hused move)

/-- A move keeps the list of those that have renamed right. -/
theorem mem_renamed_next (root : String) (puts : ι → Put) {s : Traffic ι} (move : Move ι) {i : ι}
    (h : i ∈ s.renamed ↔ s.stage i = .done (.ok ())) :
    i ∈ (s.next root puts move).renamed ↔ (s.next root puts move).stage i = .done (.ok ()) := by
  cases move with
  | get key => exact h
  | step j refusal =>
    show i ∈ Traffic.renamedBy j s.renamed (s.stage j) _ ↔
      Function.update s.stage j _ i = .done (.ok ())
    rw [Traffic.mem_renamedBy]
    by_cases hsame : i = j
    · rw [← hsame, Function.update_self]
      constructor
      · -- one that has renamed has ended, and does nothing more
        rintro (⟨-, -, hdone⟩ | hmem)
        · exact hdone
        · rw [h.mp hmem, stepAmid_done]
      · intro hdone
        rcases filled_of_stepAmid_done hdone with hfilled | hearlier
        · exact .inl ⟨rfl, hfilled, hdone⟩
        · exact .inr (h.mpr hearlier)
    · rw [Function.update_of_ne hsame, ← h]
      constructor
      · rintro (⟨heq, -⟩ | hmem)
        · exact absurd heq hsame
        · exact hmem
      · exact .inr

/-- **The puts that have renamed are those that have ended well.** -/
theorem mem_renamed_iff (root : String) (puts : ι → Put) (tree : FileTree) (moves : List (Move ι))
    (i : ι) : i ∈ (Traffic.after root puts tree moves).renamed ↔
      (Traffic.after root puts tree moves).stage i = .done (.ok ()) := by
  have hrun : ∀ s : Traffic ι, (i ∈ s.renamed ↔ s.stage i = .done (.ok ())) →
      (i ∈ (s.run root puts moves).renamed ↔
        (s.run root puts moves).stage i = .done (.ok ())) := by
    induction moves with
    | nil => exact fun _ h => h
    | cons move rest ih => exact fun s h => ih _ (mem_renamed_next root puts move h)
  refine hrun (.start tree) ⟨fun hmem => absurd hmem List.not_mem_nil, fun hdone => ?_⟩
  cases hdone

end Coherent

/-! ## Every interleaving -/

section Interleaving

variable {ι : Type} [DecidableEq ι] {root : String} {puts : ι → Put} {b : Blobs} {tree : FileTree}
  {moves : List (Move ι)}

/-- **A key in use**: it is put, it is got, or there was a blob of it before. -/
def InUse (puts : ι → Put) (b : Blobs) (moves : List (Move ι)) (key : StorageKey) : Prop :=
  (∃ i, (puts i).key = key) ∨ .get key ∈ moves ∨ ∃ content, b.get? key = some content

/-- **Readers see whole blobs.** Under a root that is open and whose files are blobs, any number of
puts with scratch names of their own go on at once, in any order of their steps and whatever the
system refuses. Every get in between is answered with the content of the put to its key that renamed
last, or with what was there if none has renamed: with one complete content, or that there is none.
Once all have ended, the files under the root are those contents and no others, and no scratch file
is among them. A put has renamed if and only if it ends well. -/
theorem gets_published (hopened : Opened root tree) (hreflects : Reflects root tree b)
    (hscratch : ∀ i, IsScratch root (puts i).scratch)
    (hdistinct : Function.Injective fun i => (puts i).scratch)
    (hclear : ∀ key, InUse puts b moves key → ¬ Crosses root key (digest key))
    (hapart : NoCollision (InUse puts b moves)) :
    (∀ before key after, moves = before ++ .get key :: after → ∀ names count,
      (((backend root names).get key).run
          ⟨(Traffic.after root puts tree before).tree, count⟩).result =
        match published puts b (Traffic.after root puts tree before).renamed key with
        | some data => .ok data
        | none => .error (Backend.missing key)) ∧
      ((∀ i, ∃ result, (Traffic.after root puts tree moves).stage i = .done result) →
        (∀ i, (Traffic.after root puts tree moves).tree.node? ((puts i).scratchPlace root) = none) ∧
          ∀ names, names ≠ [] → ∀ content,
            (Traffic.after root puts tree moves).tree.node? (rootPlace root ++ names) =
                some (.file content) ↔
              ∃ key, names = [shard key, digest key] ∧
                published puts b (Traffic.after root puts tree moves).renamed key =
                  some content) ∧
      ∀ front i,
        i ∈ (Traffic.after root puts tree front).renamed ↔
          (Traffic.after root puts tree front).stage i = .done (.ok ()) := by
  have hput : ∀ i, InUse puts b moves (puts i).key := fun i => .inl ⟨i, rfl⟩
  have hbefore : ∀ key content, b.get? key = some content → InUse puts b moves key :=
    fun key content hcontent => .inr (.inr ⟨content, hcontent⟩)
  have hstart : Coherent root puts b (InUse puts b moves) (.start tree) :=
    coherent_start hopened hreflects hscratch hbefore hclear hapart
  have hrun : ∀ front,
      Coherent root puts b (InUse puts b moves) (Traffic.after root puts tree front) :=
    hstart.run hscratch hdistinct hapart hput
  refine ⟨?_, ?_, mem_renamed_iff root puts tree⟩
  · -- a get is looked at in the traffic before it, whatever comes after
    intro before key after hmoves names count
    have hkey : InUse puts b moves key := by
      refine .inr (.inl ?_)
      rw [hmoves]
      exact List.mem_append_right _ List.mem_cons_self
    exact (hrun before).result_get hkey names count
  · intro hdone
    refine ⟨fun i => ?_, fun names hnames content => ?_⟩
    · obtain ⟨result, hresult⟩ := hdone i
      have hnone := (hrun moves).scratch i
      rw [hresult] at hnone
      exact hnone
    · exact (hrun moves).files_of_done hdone hput hbefore hnames content

/-- Two puts to one key. -/
def twoPuts : Bool → Put
  | false => ⟨⟨"acme/a"⟩, [1], ".0d9e.tmp"⟩
  | true => ⟨⟨"acme/a"⟩, [2, 3], ".51c7.tmp"⟩

/-- Their steps: the second fills its scratch file after the first has renamed. -/
def twoPutsMoves : List (Move Bool) :=
  [.step false none, .step true none, .step false none, .step true none, .step false none,
    .get ⟨"acme/a"⟩, .step false none, .get ⟨"acme/a"⟩, .step true none, .step true none,
    .get ⟨"acme/a"⟩]

/-- The two puts after some of their moves under a root that was empty. -/
def twoPutsAfter (n : Nat) : Traffic Bool :=
  Traffic.after "store" twoPuts (makeDirs .empty "store").2 (twoPutsMoves.take n)

/-- What getting their key gives then. -/
def twoPutsGot (n : Nat) : Except Fault Bytes :=
  (((backend "store" fun _ => ".tmp").get ⟨"acme/a"⟩).run ⟨(twoPutsAfter n).tree, 0⟩).result

/-- Neither blob is there, then the one, then the other; and in the end no scratch file. -/
theorem gets_published_of_two_puts :
    twoPutsGot 5 = .error (Backend.missing ⟨"acme/a"⟩) ∧ twoPutsGot 7 = .ok [1] ∧
      twoPutsGot 10 = .ok [2, 3] ∧
        ∀ i, (twoPutsAfter 11).tree.node? ((twoPuts i).scratchPlace "store") = none := by
  have hclear : ∀ key name, ¬ Crosses "store" key name := not_crosses_of_no_up (by decide)
  have hroomy : Roomy "store" := roomy_of_length_le (by decide)
  obtain ⟨hopened, hadds⟩ := opened_of_makeDirs (t := .empty) hroomy rfl
  have hreflects : Reflects "store" (makeDirs .empty "store").2 .empty :=
    reflects_empty_of_adds (fun _ _ => rfl) hadds
  have hscratch : ∀ i, IsScratch "store" (twoPuts i).scratch := by
    intro i
    cases i with
    | false => exact ⟨⟨by decide, by decide, by decide, by decide, by decide⟩, by decide, by decide,
        fun key => hclear key _⟩
    | true => exact ⟨⟨by decide, by decide, by decide, by decide, by decide⟩, by decide, by decide,
        fun key => hclear key _⟩
  have hdistinct : Function.Injective fun i => (twoPuts i).scratch := by
    intro i j
    revert i j
    decide
  have hkeys : ∀ key, InUse twoPuts .empty twoPutsMoves key → key = ⟨"acme/a"⟩ := by
    rintro key (⟨i, rfl⟩ | hget | ⟨content, hcontent⟩)
    · cases i <;> rfl
    · simpa [twoPutsMoves] using hget
    · cases hcontent
  obtain ⟨hgets, hend, hended⟩ := gets_published hopened hreflects hscratch hdistinct
    (fun key _ => hclear key _)
    (fun key other hkey hother _ => (hkeys key hkey).trans (hkeys other hother).symm)
  have hrenamed : (twoPutsAfter 5).renamed = [] ∧ (twoPutsAfter 7).renamed = [false] ∧
      (twoPutsAfter 10).renamed = [true, false] ∧ (twoPutsAfter 11).renamed = [true, false] := by
    decide +kernel
  obtain ⟨hfive, hseven, hten, heleven⟩ := hrenamed
  have hdone : ∀ i, (twoPutsAfter 11).stage i = .done (.ok ()) := by
    intro i
    refine (hended twoPutsMoves i).mp ?_
    show i ∈ (twoPutsAfter 11).renamed
    rw [heleven]
    cases i <;> simp
  refine ⟨?_, ?_, ?_, (hend fun i => ⟨.ok (), hdone i⟩).1⟩
  · rw [twoPutsGot, twoPutsAfter, hgets _ _ (twoPutsMoves.drop 6) rfl, ← twoPutsAfter, hfive]
    rfl
  · rw [twoPutsGot, twoPutsAfter, hgets _ _ (twoPutsMoves.drop 8) rfl, ← twoPutsAfter, hseven]
    rfl
  · rw [twoPutsGot, twoPutsAfter, hgets _ _ [] rfl, ← twoPutsAfter, hten]
    rfl

end Interleaving

end Directory

end LogVault
