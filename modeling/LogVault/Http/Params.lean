import LogVault.Storage.Backend
import LogVault.Text.Form

/-!
# LogVault.Http.Params — a blob named by a query

A request names its blob by `accountID`, `key` and perhaps `snapshot`. A name that comes twice makes
the query unreadable; that one of the first two is missing is only noticed when the blob is asked for.
-/

namespace LogVault.Http

/-- **The parameters** of a request for a blob. -/
structure Params where
  account : Option String
  key : Option String
  snapshot : Option String
  deriving Repr, DecidableEq, Inhabited

namespace Params

/-- A parameter that comes twice. -/
structure Repeated where
  name : String
  deriving Repr, DecidableEq

/-- The fault of a query with a parameter that comes twice. -/
def Repeated.fault (r : Repeated) : Fault :=
  .invalidArgument ("Failed to deserialize query string: duplicate field \x60" ++ r.name ++ "\x60")

/-- The parameters with one more pair. Pairs with other names do not count. -/
def add (p : Params) (pair : String × String) : Except Repeated Params :=
  if pair.1 = "accountID" then
    if p.account.isSome then .error ⟨pair.1⟩ else .ok { p with account := some pair.2 }
  else if pair.1 = "key" then
    if p.key.isSome then .error ⟨pair.1⟩ else .ok { p with key := some pair.2 }
  else if pair.1 = "snapshot" then
    if p.snapshot.isSome then .error ⟨pair.1⟩ else .ok { p with snapshot := some pair.2 }
  else .ok p

/-- The parameters with more pairs, up to the first that comes twice. -/
def addAll (p : Params) : List (String × String) → Except Repeated Params
  | [] => .ok p
  | pair :: rest =>
    match p.add pair with
    | .ok q => q.addAll rest
    | .error r => .error r

/-- No parameters. -/
def none : Params := ⟨.none, .none, .none⟩

/-- **The parameters of a query.** -/
def ofQuery (query : String) : Except Repeated Params := none.addAll (Form.read query)

/-- The fault of a parameter that is missing. -/
def missing (name : String) : Fault := .invalidArgument ("missing " ++ name ++ " parameter")

/-- **The blob** that the parameters name. -/
def blobRef (p : Params) : Except Fault BlobRef :=
  match p.account, p.key with
  | .none, _ => .error (missing "accountID")
  | _, .none => .error (missing "key")
  | some account, some key => .ok (BlobRef.of account key p.snapshot)

end Params

end LogVault.Http
