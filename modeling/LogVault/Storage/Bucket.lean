import LogVault.Storage.Backend
import LogVault.Text.Decimal
import LogVault.Text.Percent

/-!
# LogVault.Storage.Bucket — blobs on an S3 server

Each call of this backend sends one request to a server, by way of a client: a blob is put by `PUT`
and got by `GET` under a target that spells the bucket and the storage key. A client gives an
answer, or says why there is none to give. An answer with a status from 200 to 299 is a success;
that there is no such blob may be an answer to `GET` or a flaw of the client's; and everything else
is a fault of the server's.

A strict client takes every answer that is no success for a flaw. It reads the body of such an
answer as a text, so with a body that is no text the status is lost. The server behind it is a
parameter, so what it stores and how it fails is a matter of the one who states it.
-/

namespace LogVault

/-! ## Servers -/

/-- What the backend asks of a server. -/
structure StoreRequest where
  method : String
  target : String
  body : Bytes
  contentType : Option String
  deriving Repr, DecidableEq

/-- What a server answers. -/
structure StoreReply where
  status : Nat
  body : Bytes
  deriving Repr, DecidableEq

/-- **A server** with a state: it answers a request, or cannot be reached for a reason. -/
abbrev StoreServer (σ : Type) := StoreRequest → σ → Except String StoreReply × σ

/-! ## Clients -/

/-- **Why a client has no answer to give**: the server refused, with a status and a text; or it
refused with a body that is no text; or it did not answer. -/
inductive ClientFlaw where
  | refused (status : Nat) (content : String)
  | unreadable (flaw : Utf8.Flaw)
  | unanswered (detail : String)
  deriving Repr, DecidableEq

namespace ClientFlaw

/-- The sentence for a flaw. -/
def message : ClientFlaw → String
  | .refused status content =>
    "Got HTTP " ++ Decimal.natText status ++ " with content '" ++ content ++ "'"
  | .unreadable flaw => "from utf8: " ++ flaw.message
  | .unanswered detail => detail

/-- A refusal that says that there is no such thing. -/
def isNotFound : ClientFlaw → Bool
  | .refused status _ => status == 404
  | _ => false

end ClientFlaw

/-- **A client** of a server: it sends a request, and has the answer or none to give. -/
abbrev StoreClient (σ : Type) := StoreRequest → σ → Except ClientFlaw StoreReply × σ

namespace StoreReply

/-- An answer is a success. -/
def isSuccess (r : StoreReply) : Bool := 200 ≤ r.status && r.status < 300

/-- **What a strict client makes of an answer**: a flaw, unless it is a success. -/
def strictly (r : StoreReply) : Except ClientFlaw StoreReply :=
  if r.isSuccess then .ok r
  else match Utf8.flaw? r.body with
    | some flaw => .error (.unreadable flaw)
    | none => .error (.refused r.status (Utf8.textLossy r.body))

end StoreReply

/-- **The strict client** of a server. -/
def StoreClient.strict {σ : Type} (server : StoreServer σ) : StoreClient σ := fun request s =>
  let (answer, s) := server request s
  (match answer with
    | .ok reply => reply.strictly
    | .error detail => .error (.unanswered detail), s)

namespace Bucket

/-- Octets that stand for themselves in a target. -/
def keepsInTarget (b : UInt8) : Bool :=
  (0x30 ≤ b && b ≤ 0x39) || (0x41 ≤ b && b ≤ 0x5A) || (0x61 ≤ b && b ≤ 0x7A) ||
    b == 0x2D || b == 0x2E || b == 0x2F || b == 0x5F || b == 0x7E

/-- **The target** of a storage key. -/
def target (bucket : String) (key : StorageKey) : String :=
  "/" ++ bucket ++ "/" ++ String.ofList (Percent.encodeText keepsInTarget key.text.toList)

/-- The kind of content that is put. -/
def contentType : String := "application/octet-stream"

/-- The request that puts a blob. -/
def putRequest (bucket : String) (key : StorageKey) (data : Bytes) : StoreRequest :=
  ⟨"PUT", target bucket key, data, some contentType⟩

/-- The request that gets a blob. -/
def getRequest (bucket : String) (key : StorageKey) : StoreRequest :=
  ⟨"GET", target bucket key, [], none⟩

/-! ## Answers -/

/-- The note that goes with a blob that has been put. -/
def storedNote (bucket : String) (key : StorageKey) (data : Bytes) : String :=
  "Stored " ++ Decimal.natText data.length ++ " bytes at s3://" ++ bucket ++ "/" ++ key.text

section Outcomes

variable {σ α : Type}

/-- A call for which the client had no answer to give. -/
def failed (verb : String) (key : StorageKey) (flaw : ClientFlaw) (s : σ) : Outcome σ α :=
  ⟨.error (.internal flaw.message), s,
    [.note .error ("S3 " ++ verb ++ " failed for " ++ key.text ++ ": " ++ flaw.message)]⟩

/-- A call that was answered with a status that tells nothing. -/
def returned (verb : String) (key : StorageKey) (status : Nat) (s : σ) : Outcome σ α :=
  ⟨.error (.internal ("S3 " ++ verb ++ " returned status " ++ Decimal.natText status)), s,
    [.note .error
      ("S3 " ++ verb ++ " for " ++ key.text ++ " returned status " ++ Decimal.natText status)]⟩

/-- **What becomes of a put**, by what the client gives. -/
def putOutcome (bucket : String) (key : StorageKey) (data : Bytes) (s : σ) :
    Except ClientFlaw StoreReply → Outcome σ Unit
  | .error flaw => failed "put" key flaw s
  | .ok reply =>
    if reply.isSuccess then ⟨.ok (), s, [.note .debug (storedNote bucket key data)]⟩
    else returned "put" key reply.status s

/-- **What becomes of a get**, by what the client gives. -/
def getOutcome (key : StorageKey) (s : σ) : Except ClientFlaw StoreReply → Outcome σ Bytes
  | .error flaw =>
    if flaw.isNotFound then ⟨.error (Backend.missing key), s, []⟩ else failed "get" key flaw s
  | .ok reply =>
    if reply.isSuccess then ⟨.ok reply.body, s, []⟩
    else if reply.status = 404 then ⟨.error (Backend.missing key), s, []⟩
    else returned "get" key reply.status s

theorem state_putOutcome (bucket : String) (key : StorageKey) (data : Bytes) (s : σ)
    (given : Except ClientFlaw StoreReply) : (putOutcome bucket key data s given).state = s := by
  cases given with
  | error flaw => rfl
  | ok reply => rw [putOutcome]; split <;> rfl

theorem state_getOutcome (key : StorageKey) (s : σ) (given : Except ClientFlaw StoreReply) :
    (getOutcome key s given).state = s := by
  cases given with
  | error flaw => rw [getOutcome]; split <;> rfl
  | ok reply =>
    rw [getOutcome]
    split
    · rfl
    · split <;> rfl

end Outcomes

/-! ## The backend -/

/-- **The backend of a bucket**, by way of a client. -/
def backendOver {σ : Type} (client : StoreClient σ) (bucket : String) : Backend σ where
  name := "s3"
  put key data := fun s =>
    let (given, s) := client (putRequest bucket key data) s
    putOutcome bucket key data s given
  get key := fun s =>
    let (given, s) := client (getRequest bucket key) s
    getOutcome key s given

/-- **The backend of a bucket** on a server, whose client is strict. -/
def backend {σ : Type} (server : StoreServer σ) (bucket : String) : Backend σ :=
  backendOver (.strict server) bucket

end Bucket

end LogVault
