import LogVault.Action
import LogVault.Storage.Key
import LogVault.Text.Utf8

/-!
# LogVault.Storage.Backend — what holds the blobs

A backend keeps one sequence of octets under each storage key. Putting replaces what was there;
getting a key under which nothing was put is the fault `missing`. Everything above works over any
backend, with whatever state it needs.

`BlobRef` is how callers name a blob: an empty snapshot counts as none.
-/

namespace LogVault

/-- **A store of blobs**, over states in `σ`. -/
structure Backend (σ : Type) where
  name : String
  put : StorageKey → Bytes → Action σ Unit
  get : StorageKey → Action σ Bytes

namespace Backend

/-- The fault of getting what was never put. -/
def missing (key : StorageKey) : Fault := .notFound ("no blob stored at " ++ key.text)

/-- A backend on a part of the state. -/
def within {σ τ : Type} (view : τ → σ) (update : σ → τ → τ) (b : Backend σ) : Backend τ :=
  { name := b.name
    put := fun key data => (b.put key data).within view update
    get := fun key => (b.get key).within view update }

end Backend

/-- **A blob as its caller names it.** -/
structure BlobRef where
  account : String
  key : String
  snapshot : Option String
  deriving Repr, DecidableEq, Inhabited

namespace BlobRef

/-- The blob of an account, a log key and perhaps a snapshot that is not empty. -/
def of (account key : String) (snapshot : Option String) : BlobRef :=
  ⟨account, key, snapshot.filter (· != "")⟩

/-- Where the blob lies. -/
def resolve (b : BlobRef) : Except Fault StorageKey :=
  match StorageKey.build b.account b.key b.snapshot with
  | .ok key => .ok key
  | .error flaw => .error flaw.fault

end BlobRef

end LogVault
