import LogVault.Storage.Directory
import LogVault.Storage.Endpoint
import LogVault.Storage.Memory
import LogVault.Vault

/-!
# LogVault.World — the stores that settings choose

A vault of a process has one of three stores, which the settings name: `memory`, `filesystem` or
`s3`. A `World` is the state of all three, so that what a store leaves behind, such as its files,
can be seen by whatever else uses them.
-/

namespace LogVault

/-- **What the stores of a process work on.** -/
structure World where
  blobs : Blobs
  disk : Disk
  network : Network

namespace World

/-- A world with nothing in it. -/
def empty : World := ⟨.empty, .empty, .unreachable⟩

instance : Inhabited World := ⟨empty⟩

/-! ## Stores -/

/-- The store in memory. -/
def memoryStore : Backend World := Blobs.backend.within World.blobs fun blobs w => { w with blobs }

/-- The store in files under a path. -/
def directoryStore (root : String) : Backend World :=
  (Directory.backend root Directory.countedName).within World.disk fun disk w => { w with disk }

/-- The store on the server behind an endpoint. -/
def bucketStore (e : Endpoint) : Backend World :=
  (Bucket.backend (e.server Network.server) e.bucket).within World.network
    fun network w => { w with network }

/-- Opening a store in files. -/
def prepareDirectory (root : String) : Action World Unit :=
  (Directory.prepare root).within World.disk fun disk w => { w with disk }

/-- Opening a store on a server, to which no request is sent yet. -/
def openBucket (s : StorageSettings) : Action World (Backend World) := fun w =>
  ⟨(w.network.endpoint s).map bucketStore, w, []⟩

/-- The fault of an `s3` store without a bucket. -/
def noBucket : Fault := .invalidArgument "S3_BUCKET must be set for the s3 storage provider"

/-- **The store that settings name**, opened and empty as far as it is not kept elsewhere. -/
def openStore (s : StorageSettings) : Action World (Backend World) :=
  if s.provider = "memory" then fun w => ⟨.ok memoryStore, { w with blobs := .empty }, []⟩
  else if s.provider = "filesystem" then do
    prepareDirectory s.path
    return directoryStore s.path
  else if s.provider = "s3" then
    if s.bucket.isEmpty then Action.fail noBucket else openBucket s
  else Action.fail (.invalidArgument ("unknown storage provider: " ++ s.provider))

/-- The store that settings name, with an entry in the journal. -/
def announceStore (s : StorageSettings) : Action World (Backend World) := do
  let store ← openStore s
  Action.note .info ("Using " ++ store.name ++ " blob store")
  return store

end World

/-- A vault over a store that is open. -/
def Vault.withStore {σ : Type} (store : Backend σ) (links : LinkSettings) (spare : Bytes) :
    Action σ (Vault σ) := do
  let issuer ← Issuer.ofSettings links spare
  return ⟨store, issuer, links.defaultTtl⟩

/-- **The vault that settings make.** -/
def Vault.ofSettings (s : Settings) (spare : Bytes) : Action World (Vault World) := do
  let store ← World.announceStore s.storage
  Vault.withStore store s.links spare

end LogVault
