import LogVault.Digest.Sha256
import LogVault.Storage.Backend
import LogVault.Storage.FileTree
import LogVault.Text.Decimal

/-!
# LogVault.Storage.Directory — blobs in files

Each blob is a file named by the digest of its storage key, in a directory named by the first two
digits. Keys of which one begins with another therefore never need one path to be a file and a
directory at once.

Putting a blob takes five steps: make the directory, open a scratch file beside the blob's place, fill
it, and give it the blob's name, or, after a failure, remove it. The steps are apart here
(`Put.step`), because other writers and readers may come between them: the blob's own file changes in
the renaming step alone, from one complete content to another.
-/

namespace LogVault

/-! ## Where blobs lie -/

namespace Directory

/-- The digits of the digest of a key. -/
def digest (key : StorageKey) : String := Hex.text (Sha256.hash (Text.bytes key.text))

/-- The name of the directory that holds a blob. -/
def shard (key : StorageKey) : String := String.ofList ((digest key).toList.take 2)

/-- The path of the directory that holds a blob. -/
def shardPath (root : String) (key : StorageKey) : String := Route.join root (shard key)

/-- **The path of a blob.** -/
def blobPath (root : String) (key : StorageKey) : String :=
  Route.join (shardPath root key) (digest key)

/-- The path of a scratch file beside a blob. -/
def scratchPath (root : String) (key : StorageKey) (scratch : String) : String :=
  Route.join (shardPath root key) scratch

/-! ## Putting, step by step -/

/-- One blob to be put, with the name of its scratch file. -/
structure Put where
  key : StorageKey
  data : Bytes
  scratch : String
  deriving Repr, DecidableEq

/-- **How far putting a blob has come.** -/
inductive Stage where
  | start
  | placed
  | opened
  | filled
  | undoing (cause : FileError)
  | done (result : Except FileError Unit)

/-- An operation of a tree on the path that a text spells. -/
def onPath {α : Type} (text : String) (f : Route → Except FileError α) : Except FileError α :=
  match Route.ofText text with
  | .ok route => f route
  | .error e => .error e

/-- An operation of a tree on two paths. -/
def onPaths {α : Type} (source target : String) (f : Route → Route → Except FileError α) :
    Except FileError α :=
  onPath source fun s => onPath target fun t => f s t

/-- Making a directory and those above it. The empty path is the working directory, which is there. -/
def makeDirs (tree : FileTree) (path : String) : Except FileError Unit × FileTree :=
  if path.isEmpty then (.ok (), tree)
  else match Route.ofText path with
    | .ok route => tree.makeDirs route
    | .error e => (.error e, tree)

/-- The stage and the tree after a step that either does one thing or fails. -/
def advance (tree : FileTree) (result : Except FileError FileTree) (next : Stage) :
    Stage × FileTree :=
  match result with
  | .ok tree => (next, tree)
  | .error e => (.undoing e, tree)

/-- **One step** of putting a blob. -/
def Put.step (root : String) (p : Put) (tree : FileTree) : Stage → Stage × FileTree
  | .start =>
    match makeDirs tree (shardPath root p.key) with
    | (.ok (), tree) => (.placed, tree)
    | (.error e, tree) => (.done (.error e), tree)
  | .placed => advance tree (onPath (scratchPath root p.key p.scratch) tree.create) .opened
  | .opened =>
    advance tree (onPath (scratchPath root p.key p.scratch) (tree.fill · p.data)) .filled
  | .filled =>
    advance tree (onPaths (scratchPath root p.key p.scratch) (blobPath root p.key) tree.rename)
      (.done (.ok ()))
  | .undoing cause =>
    match onPath (scratchPath root p.key p.scratch) tree.remove with
    | .ok tree => (.done (.error cause), tree)
    | .error _ => (.done (.error cause), tree)
  | .done result => (.done result, tree)

/-- Several steps without anybody in between. -/
def Put.steps (root : String) (p : Put) : Nat → Stage × FileTree → Stage × FileTree
  | 0, s => s
  | n + 1, (stage, tree) => p.steps root n (p.step root tree stage)

/-- The most steps that putting a blob takes. -/
def stepCount : Nat := 5

/-- **Putting a blob** without anybody in between. -/
def Put.run (root : String) (p : Put) (tree : FileTree) : Except FileError Unit × FileTree :=
  match p.steps root stepCount (.start, tree) with
  | (.done result, tree) => (result, tree)
  | (_, tree) => (.ok (), tree)

/-- **Reading a blob.** -/
def read (root : String) (key : StorageKey) (tree : FileTree) : Except FileError Bytes :=
  onPath (blobPath root key) tree.read

end Directory

/-! ## The backend -/

/-- A disk: its files, and how many scratch names have been given out. -/
structure Disk where
  files : FileTree
  scratchCount : Nat
  deriving Repr, DecidableEq

namespace Disk

/-- A disk without files. -/
def empty : Disk := ⟨.empty, 0⟩

instance : Inhabited Disk := ⟨empty⟩

end Disk

namespace Directory

/-- The scratch names that count up. -/
def countedName (n : Nat) : String := "." ++ Decimal.natText n ++ ".tmp"

/-- The fault for a failed file operation. -/
def fault (e : FileError) : Fault := .internal e.message

/-- Opening a store under a path: the directory is there afterwards. -/
def prepare (root : String) : Action Disk Unit := fun disk =>
  match makeDirs disk.files root with
  | (.ok (), files) => ⟨.ok (), { disk with files }, []⟩
  | (.error e, files) => ⟨.error (fault e), { disk with files }, []⟩

/-- The note that goes with a blob that has been put. -/
def wroteNote (root : String) (key : StorageKey) (data : Bytes) : String :=
  "Wrote " ++ Decimal.natText data.length ++ " bytes for " ++ key.text ++ " to " ++
    blobPath root key

/-- **The backend under a path**, which gives out scratch names in the order of `names`. -/
def backend (root : String) (names : Nat → String) : Backend Disk where
  name := "filesystem"
  put key data := fun disk =>
    match (Put.mk key data (names disk.scratchCount)).run root disk.files with
    | (.ok (), files) =>
      ⟨.ok (), ⟨files, disk.scratchCount + 1⟩, [.note .debug (wroteNote root key data)]⟩
    | (.error e, files) => ⟨.error (fault e), ⟨files, disk.scratchCount + 1⟩, []⟩
  get key := fun disk =>
    match read root key disk.files with
    | .ok data => ⟨.ok data, disk, []⟩
    | .error .noEntry => ⟨.error (Backend.missing key), disk, []⟩
    | .error e => ⟨.error (fault e), disk, []⟩

end Directory

end LogVault
