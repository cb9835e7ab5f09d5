import LogVault.Http.Params
import LogVault.Http.Response
import LogVault.Http.Target
import LogVault.Vault

/-!
# LogVault.Http.Router — requests to a vault

Five paths, each with the methods it knows: direct transfer of a blob, links to write and to read
one, the redemption of a link, and a report of health. A request for another path or with another
method never reaches the vault. `HEAD` is `GET` without the body.

`handle` is a request as an action, which may fail; `answer` turns a failure into its envelope, so
that every request is answered. A body that is too long, or did not come to its end, is refused
after the query was read, and before anything is looked up.
-/

namespace LogVault

/-- The document that confirms a blob was written. -/
def receipt (key : StorageKey) (size : Nat) : Json.Value :=
  .object [("key", .text key.text), ("size", .whole size)]

namespace Http

/-! ## Bodies -/

/-- **The body of a request**: the octets that came, and what broke it off if they are not all. -/
structure Body where
  octets : Bytes
  broken : Option String
  deriving Repr, DecidableEq

namespace Body

/-- A body that came to its end. -/
def whole (data : Bytes) : Body := ⟨data, none⟩

theorem eq_whole_of_broken_eq_none {b : Body} (h : b.broken = none) : b = whole b.octets := by
  cases b with
  | mk octets broken =>
    cases h
    rfl

/-- What is said of a body that cannot be taken. -/
def unbuffered (cause : String) : String := "Failed to buffer the request body: " ++ cause

/-- The fault of a body that is too long. -/
def tooLarge : Fault := .payloadTooLarge (unbuffered "length limit exceeded")

/-- The fault of a body that broke off. -/
def brokenOff (cause : String) : Fault := .invalidArgument (unbuffered cause)

/-- **The octets of a body**, at most `limit` of them. Those beyond the limit are noticed before the
end that does not come. -/
def take (limit : Nat) (b : Body) : Except Fault Bytes :=
  if limit < b.octets.length then .error tooLarge
  else match b.broken with
    | some cause => .error (brokenOff cause)
    | none => .ok b.octets

/-- A body is taken when it came to its end within the limit. -/
theorem take_eq_ok_iff {limit : Nat} {b : Body} {data : Bytes} :
    b.take limit = .ok data ↔ data = b.octets ∧ b.octets.length ≤ limit ∧ b.broken = none := by
  rw [take]
  by_cases hlong : limit < b.octets.length
  · rw [if_pos hlong]
    exact iff_of_false nofun fun h => Nat.not_le.mpr hlong h.2.1
  · rw [if_neg hlong]
    cases b.broken with
    | some cause => exact iff_of_false nofun fun h => nomatch h.2.2
    | none =>
      show Except.ok b.octets = Except.ok data ↔ _
      rw [Except.ok.injEq, eq_comm]
      exact (and_iff_left ⟨Nat.not_lt.mp hlong, rfl⟩).symm

/-- A body is refused for its length, or else because it broke off. -/
theorem cases_of_take_eq_error {limit : Nat} {b : Body} {fault : Fault}
    (h : b.take limit = .error fault) :
    limit < b.octets.length ∧ fault = tooLarge ∨
      b.octets.length ≤ limit ∧ ∃ cause, b.broken = some cause ∧ fault = brokenOff cause := by
  rw [take] at h
  by_cases hlong : limit < b.octets.length
  · rw [if_pos hlong] at h
    exact .inl ⟨hlong, (Except.error.inj h).symm⟩
  · rw [if_neg hlong] at h
    cases hbroken : b.broken with
    | none =>
      rw [hbroken] at h
      cases h
    | some cause =>
      rw [hbroken] at h
      exact .inr ⟨Nat.not_lt.mp hlong, cause, rfl, (Except.error.inj h).symm⟩

end Body

/-! ## Requests -/

/-- **A request.** -/
structure Request where
  method : String
  target : Target
  body : Body
  deriving Repr, DecidableEq

/-- **What a path leads to.** -/
inductive Route where
  | blob
  | link (mode : Mode)
  | signed
  | health
  deriving Repr, DecidableEq

namespace Route

/-- The route of a path. -/
def ofPath? (path : List Char) : Option Route :=
  if path = "/blob".toList then some .blob
  else if path = "/blob/link/upload".toList then some (.link .upload)
  else if path = "/blob/link/download".toList then some (.link .download)
  else if path = "/blob/signed".toList then some .signed
  else if path = "/healthz".toList then some .health
  else none

/-- The methods of a route, as its answer to another method lists them. -/
def allowed : Route → String
  | .blob => "GET,HEAD,POST"
  | .link _ => "POST"
  | .signed => "GET,HEAD,PUT"
  | .health => "GET,HEAD"

end Route

/-- **What a request is about**: a route with one of its methods. -/
inductive Endpoint where
  | upload
  | download
  | link (mode : Mode)
  | redeemUpload
  | redeemDownload
  | health
  deriving Repr, DecidableEq

namespace Endpoint

/-- The endpoint of a route and a method. -/
def of? (route : Route) (method : String) : Option Endpoint :=
  let reads := method = "GET" ∨ method = "HEAD"
  match route with
  | .blob => if reads then some .download else if method = "POST" then some .upload else none
  | .link mode => if method = "POST" then some (.link mode) else none
  | .signed =>
    if reads then some .redeemDownload else if method = "PUT" then some .redeemUpload else none
  | .health => if reads then some .health else none

end Endpoint

namespace Router

variable {σ : Type}

/-- The note of a router that starts. -/
def createdNote : String := "Creating application router"

/-- The query of a request, empty if there is none. -/
def queryText (r : Request) : String := String.ofList (r.target.query.getD [])

/-- The parameters of a request. -/
def params (r : Request) : Action σ Params :=
  match Params.ofQuery (queryText r) with
  | .ok p => pure p
  | .error repeated => Action.fail repeated.fault

/-- The report of health. -/
def healthDocument (status timestamp store : String) : Json.Value :=
  .object [("status", .text status), ("timestamp", .text timestamp), ("storage", .text store)]

/-- **A request as an action.** -/
def handle (v : Vault σ) (limit : Nat) (now : Instant) (r : Request) :
    Endpoint → Action σ Response
  | .upload => do
    let p ← params r
    let data ← Action.ofExcept (r.body.take limit)
    let blob ← Action.ofExcept p.blobRef
    let key ← v.upload blob data
    return .document 200 (receipt key data.length)
  | .download => do
    let p ← params r
    let blob ← Action.ofExcept p.blobRef
    let data ← v.download blob
    return .blob 200 data
  | .link mode => do
    let p ← params r
    let blob ← Action.ofExcept p.blobRef
    let link ← v.link mode blob none now
    return .document 200 link.document
  | .redeemUpload => do
    Action.note .info "Signed upload request received"
    let data ← Action.ofExcept (r.body.take limit)
    let key ← v.redeemUpload (queryText r) data now
    return .document 200 (receipt key data.length)
  | .redeemDownload => do
    Action.note .info "Signed download request received"
    let data ← v.redeemDownload (queryText r) now
    return .blob 200 data
  | .health => return .document 200 (healthDocument "ok" now.reportText v.store.name)

/-- **An exchange**: the answer to a request, what it left behind and what the journal says. -/
structure Exchange (σ : Type) where
  response : Response
  state : σ
  events : List Event

/-- The entry in the journal for a fault that is answered: its detail, if callers are not shown it. -/
def faultEvents : Fault → List Event
  | .internal detail => [.note .error ("Request failed: " ++ detail)]
  | _ => []

/-- The answer of an outcome. -/
def Exchange.ofOutcome (o : Outcome σ Response) : Exchange σ :=
  match o.result with
  | .ok response => ⟨response, o.state, o.events⟩
  | .error fault => ⟨.ofFault fault, o.state, o.events ++ faultEvents fault⟩

/-- The answer to a path that leads nowhere. -/
def notFound : Response := ⟨404, [], []⟩

/-- The answer to a method that a route does not know. -/
def notAllowed (route : Route) : Response := ⟨405, [("allow", route.allowed)], []⟩

/-- An answer as it is sent: with its length, and without its body if only the head was asked for. -/
def sent (method : String) (r : Response) : Response :=
  if method = "HEAD" then r.measured.headOnly else r.measured

/-- **The answer to a request**, by a vault that takes bodies of at most `limit` octets. -/
def answer (v : Vault σ) (limit : Nat) (now : Instant) (r : Request) (s : σ) : Exchange σ :=
  match Route.ofPath? r.target.path with
  | none => ⟨notFound, s, []⟩
  | some route =>
    match Endpoint.of? route r.method with
    | none => ⟨sent r.method (notAllowed route), s, []⟩
    | some endpoint =>
      let e := Exchange.ofOutcome ((handle v limit now r endpoint).run s)
      { e with response := sent r.method e.response }

end Router

end Http

end LogVault
