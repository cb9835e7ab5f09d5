import LogVault.Http.Target
import LogVault.Settings.Basic
import LogVault.Storage.Network
import LogVault.Url.Basic

/-!
# LogVault.Storage.Endpoint — the way to an S3 server

Settings say where the server of a bucket is. An endpoint is a place with perhaps a scheme in front,
and the bucket is then the first part of every path; without an endpoint the client knows the place
of the region, and the bucket stands in front of its name. What the client cannot make out is an
internal fault of the vault that was to be opened (`Network.endpoint`).

A request needs headers and a URL before it is sent. If one of them cannot be written nothing is
sent, and `Endpoint.peer` tells what stands against it: of two flaws, the one met first. With a
secret key a request is signed, which asks for a place named in ASCII and sends the access key and
the region in a header of its own.
-/

namespace LogVault

/-! ## Endpoints -/

/-- What a signed request shows of its signer. -/
structure Signer where
  accessKey : String
  region : String
  deriving Repr, DecidableEq

/-- **The place of a bucket.** `inPath` holds if the bucket is in the paths, and else it is in the
name of the place. -/
structure Endpoint where
  scheme : List Char
  place : List Char
  bucket : String
  inPath : Bool
  signer : Option Signer
  deriving Repr, DecidableEq

namespace Endpoint

/-- A text cut at its first `://`. -/
def cutScheme? : List Char → Option (List Char × List Char)
  | ':' :: '/' :: '/' :: rest => some ([], rest)
  | c :: rest => (cutScheme? rest).map fun p => (c :: p.1, p.2)
  | [] => none

/-- **The endpoint of a bucket** in a region, with the credentials for it. -/
def of (bucket : String) (inPath : Bool) (region : Region) (credentials : Credentials) : Endpoint :=
  let text := region.place.toList
  let (scheme, place) := (cutScheme? text).getD ("https".toList, text)
  { scheme, place, bucket, inPath
    signer := credentials.secretKey.map fun _ => ⟨credentials.accessKey.getD "", region.name⟩ }

/-- The name of the place, as requests give it. -/
def host (e : Endpoint) : List Char :=
  if e.inPath then e.place else e.bucket.toList ++ '.' :: e.place

/-- The URL of a target, which begins with the bucket. -/
def url (e : Endpoint) (target : String) : String :=
  let path := if e.inPath then target.toList else target.toList.drop (e.bucket.length + 1)
  String.ofList (e.scheme ++ ':' :: '/' :: '/' :: (e.host ++ path))

/-! ## What can be sent -/

/-- **Why a request is not sent**: a header that cannot be sent, a place that makes no URL, a name of
the place that cannot be signed, or a URL that no request can ask for. -/
inductive Flaw where
  | header
  | url (flaw : Url.Flaw)
  | script
  | target (flaw : Http.Target.Flaw)
  deriving Repr, DecidableEq

/-- The sentence for a flaw. -/
def Flaw.message : Flaw → String
  | .header => "invalid header value: failed to parse header value"
  | .url flaw => "url parse: " ++ flaw.message
  | .script => "header to string: failed to convert header to a str"
  | .target flaw => "http: " ++ flaw.message

/-- A character that no header holds. A tab is the one control that is held. -/
def isUnsendable (c : Char) : Bool := (c.toNat < 0x20 && c != '\t') || c.toNat == 0x7F

/-- What stands against signing a request. -/
def signingFlaw? (e : Endpoint) (signer : Signer) : Option Flaw :=
  if e.host.any fun c => 0x80 ≤ c.toNat then some .script
  else if (signer.accessKey ++ signer.region).toList.any isUnsendable then some .header
  else none

/-- **The peer** that gets a request for a target, or what stands against sending it. The host is
looked at first, then the URL, then what the signature needs, and last the URL as it goes out. -/
def peer (e : Endpoint) (target : String) : Except Flaw Peer := do
  if e.host.any isUnsendable then throw .header
  let text := e.url target
  let read ← (Url.parse text).mapError .url
  if let some flaw := e.signer.bind e.signingFlaw? then throw flaw
  let line := String.ofList (read.write ++ Url.fragment text)
  let _ ← (Http.Target.parse line).mapError .target
  return ⟨(read.authority.map (·.host)).getD []⟩

/-- **The server behind an endpoint**, among all that peers are. It is asked what can be sent. -/
def server {σ : Type} (e : Endpoint) (servers : Peer → StoreServer σ) : StoreServer σ :=
  fun request s =>
    match e.peer request.target with
    | .error flaw => (.error flaw.message, s)
    | .ok peer => servers peer request s

end Endpoint

/-! ## Opening -/

namespace Network

/-- The region of the server that settings name. An endpoint takes the place of the region's own. -/
def regionOf (n : Network) (s : StorageSettings) : Except Fault Region :=
  match s.endpoint with
  | some place => .ok ⟨s.region, place⟩
  | none => (n.region s.region).mapError fun e => .internal ("invalid S3 region: " ++ e)

/-- **The endpoint that settings name**, or what the client says against the region, the credentials
or the bucket, of which the first that fails counts. -/
def endpoint (n : Network) (s : StorageSettings) : Except Fault Endpoint := do
  let region ← n.regionOf s
  let credentials ← (n.credentials s.accessKey s.secretKey).mapError fun e =>
    .internal ("S3 credentials: " ++ e)
  let _ ← (n.admits s.bucket region credentials).mapError fun e => .internal ("S3 bucket: " ++ e)
  return .of s.bucket s.endpoint.isSome region credentials

end Network

end LogVault
