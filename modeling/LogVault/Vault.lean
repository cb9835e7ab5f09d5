import LogVault.Link.Issuer
import LogVault.Settings.Basic
import LogVault.Storage.Backend

/-!
# LogVault.Vault — the six operations on blobs

A vault is a store of blobs with an issuer of links. Blobs are written and read directly, by whoever
names them, or through a link, by whoever bears it; links are issued without touching the store.

Each operation goes through its phases in order and is heard of in the journal at each of them. The
step that fails is the last one, and the journal says so (`Vault.step`). The clock is read once, at
the `now` of the operation.
-/

namespace LogVault

/-! ## Links as actions -/

namespace Issuer

variable {σ : Type}

/-- Issuing a link, with its entry in the journal. -/
def issuing (i : Issuer) (key : StorageKey) (snapshot : Option String) (mode : Mode)
    (ttl : Duration) (now : Instant) : Action σ SignedLink :=
  match i.issue key snapshot mode ttl now with
  | .ok link => do
    Action.note .debug (issuedNote link)
    return link
  | .error flaw => Action.fail flaw.fault

/-- The claims of a link that was checked, or the entry in the journal that says why there are
none. -/
def judging (checked : Except Rejection Claims) : Action σ Claims :=
  match checked with
  | .ok claims => pure claims
  | .error rejection =>
    match rejection.note? with
    | some text => do
      Action.note .debug text
      Action.fail rejection.fault
    | none => Action.fail rejection.fault

/-- The note of a vault that makes its own secret. -/
def ephemeralNote : String := "LINK_SECRET not set - generating an ephemeral signing key"

/-- **The issuer of settings.** Without a secret of theirs it takes `spare`, which nobody else
knows. -/
def ofSettings (links : LinkSettings) (spare : Bytes) : Action σ Issuer :=
  match links.secret with
  | some secret =>
    Action.ofExcept ((make (Text.bytes secret) links.publicUrl links.maxTtl).mapError Flaw.fault)
  | none => do
    Action.note .warning ephemeralNote
    let issuer ← Action.ofExcept ((make spare links.publicUrl links.maxTtl).mapError Flaw.fault)
    return { issuer with ephemeral := true }

end Issuer

/-! ## Vaults -/

/-- **A vault** over a store with states in `σ`. -/
structure Vault (σ : Type) where
  store : Backend σ
  issuer : Issuer
  defaultTtl : Duration

namespace Vault

variable {σ α : Type}

/-- A step of an operation: when it fails, the operation has failed. -/
def step (operation : Operation) (a : Action σ α) : Action σ α := a.onFault (.failed operation)

/-- The operation has come to a phase. -/
def reach (operation : Operation) (phase : Phase) : Action σ Unit :=
  Action.record (.reached operation phase)

/-- A count of octets and where they went. -/
def transferNote (verb : String) (size : Nat) (way : String) (key : StorageKey) (tail : String) :
    String :=
  verb ++ " " ++ Decimal.natText size ++ " bytes " ++ way ++ " " ++ key.text ++ tail

/-- **Writing a blob**, in place of one that was there. -/
def upload (v : Vault σ) (blob : BlobRef) (data : Bytes) : Action σ StorageKey := do
  reach .upload .received
  let key ← step .upload (Action.ofExcept blob.resolve)
  reach .upload .keyResolved
  reach .upload .transferInFlight
  step .upload (v.store.put key data)
  Action.note .info (transferNote "Uploaded" data.length "to" key "")
  reach .upload .completed
  return key

/-- **Reading a blob.** -/
def download (v : Vault σ) (blob : BlobRef) : Action σ Bytes := do
  reach .download .received
  let key ← step .download (Action.ofExcept blob.resolve)
  reach .download .keyResolved
  reach .download .transferInFlight
  let data ← step .download (v.store.get key)
  Action.note .info (transferNote "Downloaded" data.length "from" key "")
  reach .download .completed
  return data

/-- The operation that issues links for a mode. -/
def linkOperation : Mode → Operation
  | .upload => .uploadLink
  | .download => .downloadLink

/-- The note that goes with a link. -/
def linkNote (link : SignedLink) : String :=
  "Issued " ++ link.mode.word ++ " link for " ++ link.key.text ++ " valid until " ++
    link.expires.messageText

/-- **Issuing a link** for a mode, to live for the given time or else for the usual one. -/
def link (v : Vault σ) (mode : Mode) (blob : BlobRef) (ttl : Option Duration) (now : Instant) :
    Action σ SignedLink := do
  let operation := linkOperation mode
  reach operation .received
  let key ← step operation (Action.ofExcept blob.resolve)
  reach operation .keyResolved
  let link ← step operation
    (v.issuer.issuing key blob.snapshot mode (ttl.getD v.defaultTtl) now)
  reach operation .linkIssued
  Action.note .info (linkNote link)
  reach operation .completed
  return link

/-- Issuing a link to write a blob. -/
def uploadLink (v : Vault σ) (blob : BlobRef) (ttl : Option Duration) (now : Instant) :
    Action σ SignedLink := v.link .upload blob ttl now

/-- Issuing a link to read a blob. -/
def downloadLink (v : Vault σ) (blob : BlobRef) (ttl : Option Duration) (now : Instant) :
    Action σ SignedLink := v.link .download blob ttl now

/-- **Writing the blob that a link names**, the link being given by its query. -/
def redeemUpload (v : Vault σ) (query : String) (data : Bytes) (now : Instant) :
    Action σ StorageKey := do
  reach .redeemUpload .received
  let claims ← step .redeemUpload (Issuer.judging (v.issuer.validateQuery query .upload now))
  reach .redeemUpload .keyResolved
  reach .redeemUpload .transferInFlight
  step .redeemUpload (v.store.put claims.key data)
  Action.note .info (transferNote "Uploaded" data.length "to" claims.key " via signed link")
  reach .redeemUpload .completed
  return claims.key

/-- **Reading the blob that a link names**, the link being given by its query. -/
def redeemDownload (v : Vault σ) (query : String) (now : Instant) : Action σ Bytes := do
  reach .redeemDownload .received
  let claims ← step .redeemDownload (Issuer.judging (v.issuer.validateQuery query .download now))
  reach .redeemDownload .keyResolved
  reach .redeemDownload .transferInFlight
  let data ← step .redeemDownload (v.store.get claims.key)
  Action.note .info (transferNote "Downloaded" data.length "from" claims.key " via signed link")
  reach .redeemDownload .completed
  return data

end Vault

end LogVault
