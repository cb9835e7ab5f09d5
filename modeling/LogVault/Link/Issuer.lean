import LogVault.Digest.Hmac
import LogVault.Link.Query
import LogVault.Storage.Key
import LogVault.Time.Instant
import LogVault.Url.Basic

/-!
# LogVault.Link.Issuer — links that permit one operation for a while

An issuer holds a secret, the URL under which links are redeemed and the longest time a link may
live. `issue` makes a link that ends at a whole millisecond; `validateQuery` and `validate` check one
against a clock. Nothing is kept: whoever has the secret can check a link, and it is good until it
expires, for the one mode and the one storage key that its signature covers.

A link that is refused is `malformed`, `forged`, for another mode, without an instant of expiry or
expired, and these causes are looked for in that order.
-/

namespace LogVault

/-- **A link**, as its receiver gets it. -/
structure SignedLink where
  url : String
  mode : Mode
  expires : Instant
  key : StorageKey
  deriving DecidableEq

/-- The document of a link. -/
def SignedLink.document (l : SignedLink) : Json.Value :=
  .object [("link", .text l.url), ("mode", .text l.mode.word),
    ("expires", .text l.expires.documentText), ("key", .text l.key.text)]

/-- **What a valid link grants.** -/
structure Claims where
  key : StorageKey
  snapshot : Option String
  mode : Mode
  expires : Instant
  deriving DecidableEq

/-- The part of a vault that makes and checks links. `ephemeral` holds when nobody else knows the
secret, so that a link is of no use outside this process. -/
structure Issuer where
  secret : Bytes
  base : Url
  maxTtl : Duration
  ephemeral : Bool
  deriving DecidableEq

namespace Issuer

/-! ## Making an issuer -/

/-- Why there can be no such issuer. -/
inductive Flaw where
  | emptySecret
  | invalidUrl (text : String) (flaw : Url.Flaw)
  | notABase (text : String)
  deriving Repr, DecidableEq

/-- The sentence for a flaw. -/
def Flaw.message : Flaw → String
  | .emptySecret => "link secret must not be empty"
  | .invalidUrl text flaw => "invalid public URL " ++ Text.quoted text ++ ": " ++ flaw.message
  | .notABase text => "public URL cannot be a base: " ++ text

/-- The fault for a flaw. -/
def Flaw.fault (f : Flaw) : Fault := .invalidArgument f.message

/-- The segments under the public URL where links are redeemed. -/
def redeemSegments : List (List Char) := ["blob".toList, "signed".toList]

/-- The URL where links are redeemed, under a public URL. -/
def baseOf (publicUrl : String) : Except Flaw Url :=
  match Url.parse publicUrl with
  | .error flaw => .error (.invalidUrl publicUrl flaw)
  | .ok url =>
    match url.below? redeemSegments with
    | some base => .ok base
    | none => .error (.notABase publicUrl)

/-- **An issuer** for a secret that must not be empty and a public URL. -/
def make (secret : Bytes) (publicUrl : String) (maxTtl : Duration) : Except Flaw Issuer :=
  if secret.isEmpty then .error .emptySecret
  else (baseOf publicUrl).map fun base => ⟨secret, base, maxTtl, false⟩

/-! ## Issuing -/

/-- Why a link cannot live for a time. -/
inductive TtlFlaw where
  | zero
  | tooLong (ttl limit : Duration)
  | outOfRange
  deriving Repr, DecidableEq

/-- The sentence for a flaw. -/
def TtlFlaw.message : TtlFlaw → String
  | .zero => "link ttl must be positive"
  | .tooLong ttl limit =>
    "link ttl " ++ Decimal.natText ttl.seconds ++ "s exceeds the maximum of " ++
      Decimal.natText limit.seconds ++ "s"
  | .outOfRange => "link ttl out of range"

/-- The fault for a flaw. -/
def TtlFlaw.fault (f : TtlFlaw) : Fault := .invalidArgument f.message

/-- The instant at which a link expires that is issued at `now` to live for `ttl`: the last whole
millisecond that is not after the end of that time. -/
def expiry (i : Issuer) (ttl : Duration) (now : Instant) : Except TtlFlaw Instant :=
  if ttl.nanos = 0 then .error .zero
  else if i.maxTtl.nanos < ttl.nanos then .error (.tooLong ttl i.maxTtl)
  else match (now.add? ttl).bind fun t => Instant.ofMillis? t.millis with
    | some expires => .ok expires
    | none => .error .outOfRange

/-- The signature of a payload. -/
def sign (i : Issuer) (p : Payload) : String := Hmac.sign i.secret p.octets

/-- The query of a link with a payload. -/
def queryOf (i : Issuer) (p : Payload) : LinkQuery := ⟨p, i.sign p⟩

/-- The URL of a link with a payload. -/
def urlOf (i : Issuer) (p : Payload) : String :=
  String.ofList { i.base with query := some (i.queryOf p).write }.write

/-- **Issuing a link.** -/
def issue (i : Issuer) (key : StorageKey) (snapshot : Option String) (mode : Mode) (ttl : Duration)
    (now : Instant) : Except TtlFlaw SignedLink :=
  (i.expiry ttl now).map fun expires =>
    ⟨i.urlOf ⟨key.text, snapshot, mode, expires.millis⟩, mode, expires, key⟩

/-- The note that goes with a link. -/
def issuedNote (l : SignedLink) : String :=
  "Issued " ++ l.mode.word ++ " link for " ++ l.key.text ++ " expiring at " ++ l.expires.messageText

/-! ## Checking -/

/-- Why a link is refused. -/
inductive Rejection where
  | malformed
  | forged (key : String)
  | otherMode (issued requested : Mode)
  | noInstant
  | expired (key : String) (instant : Instant)
  deriving DecidableEq

/-- The fault for a rejection. -/
def Rejection.fault : Rejection → Fault
  | .malformed => .signatureInvalid
  | .forged _ => .signatureInvalid
  | .otherMode issued requested => .modeMismatch issued requested
  | .noInstant => .signatureInvalid
  | .expired _ _ => .expired

/-- The note that goes with a rejection. -/
def Rejection.note? : Rejection → Option String
  | .forged key => some ("Rejected link for " ++ key ++ ": bad signature")
  | .expired key instant => some ("Rejected link for " ++ key ++ ": expired at " ++ instant.messageText)
  | _ => none

/-- What a link grants whose query carries `q`, for an operation at `now`. -/
def validateFields (i : Issuer) (q : LinkQuery) (mode : Mode) (now : Instant) :
    Except Rejection Claims :=
  if Hmac.verify i.secret q.payload.octets q.signature then
    if q.payload.mode = mode then
      match Instant.ofMillis? q.payload.expires with
      | none => .error .noInstant
      | some expires =>
        if expires < now then .error (.expired q.payload.key expires)
        else .ok ⟨⟨q.payload.key⟩, q.payload.snapshot, q.payload.mode, expires⟩
    else .error (.otherMode q.payload.mode mode)
  else .error (.forged q.payload.key)

/-- **Checking the query of a link.** -/
def validateQuery (i : Issuer) (query : String) (mode : Mode) (now : Instant) :
    Except Rejection Claims :=
  match LinkQuery.read? query with
  | none => .error .malformed
  | some q => i.validateFields q mode now

/-- **Checking a link.** -/
def validate (i : Issuer) (link : String) (mode : Mode) (now : Instant) :
    Except Rejection Claims :=
  match Url.parse link with
  | .error _ => .error .malformed
  | .ok url => i.validateQuery (String.ofList (url.query.getD [])) mode now

end Issuer

end LogVault
