import LogVault.Storage.Bucket
import LogVault.Url.Ipv4

/-!
# LogVault.Storage.Network — what a vault can reach

A vault on an S3 server works with a client and, behind it, a network; both are what they are, and a
vault sees them only through `Network`. The client makes out the place of a region and its
credentials, and takes a bucket or not. A peer answers by whatever rule it has, and everything that
is tried is kept.

One network is given here, that of a machine on which nothing is reachable. It still tells one peer
from another: an address needs a way to it, and a name has to be looked up first, which only names
of a certain form can be.
-/

namespace LogVault

/-! ## Peers -/

/-- **Who is asked**, in the form in which URLs write a host. -/
structure Peer where
  host : List Char
  deriving Repr, DecidableEq

/-! ## Networks -/

/-- **A region**: its name, and the place where its server is. -/
structure Region where
  name : String
  place : String
  deriving Repr, DecidableEq

/-- **What a client works with** for its owner. -/
structure Credentials where
  accessKey : Option String
  secretKey : Option String
  deriving Repr, DecidableEq

/-- **One request to a peer**, and what came of it. -/
structure Attempt where
  peer : Peer
  request : StoreRequest
  outcome : Except String StoreReply

/-- **The network** that a vault sees, with the client in front of it. A failure is told in the
client's words. `answer` is the rule of the peers, by all that was tried before. -/
structure Network where
  region : String → Except String Region
  credentials : Option String → Option String → Except String Credentials
  admits : String → Region → Credentials → Except String Unit
  answer : List Attempt → Peer → StoreRequest → Except String StoreReply
  attempts : List Attempt

namespace Network

/-- **The server** that a peer is on a network. -/
def server (peer : Peer) : StoreServer Network := fun request n =>
  let outcome := n.answer n.attempts peer request
  (outcome, { n with attempts := n.attempts ++ [⟨peer, request, outcome⟩] })

end Network

/-! ## A machine without a network -/

namespace Peer

/-- **Why a peer cannot be asked**: there is no way to its address, or no address to start from, or
there is no such name, or nobody to ask about the name. -/
inductive Silence where
  | noWay
  | noSource
  | noName
  | noLookup
  deriving Repr, DecidableEq

/-- The sentence for a silence. -/
def Silence.message (s : Silence) : String :=
  "hyper: error trying to connect: " ++ match s with
    | .noWay => "tcp connect error: Network is unreachable (os error 101)"
    | .noSource => "tcp connect error: Cannot assign requested address (os error 99)"
    | .noName => "dns error: failed to lookup address information: Name or service not known"
    | .noLookup =>
      "dns error: failed to lookup address information: Temporary failure in name resolution"

/-- The longest name, without a point at its end. -/
def longestName : Nat := 253

/-- The longest label of a name. -/
def longestLabel : Nat := 63

/-- A name that may be looked up. Of its labels none is empty, but for one at the end. -/
def isName (l : List Char) : Bool :=
  let labels := Url.Ipv4.labels l
  !l.isEmpty && l.head? != some '-' &&
    l.all (fun c => c.isAlphanum || c == '-' || c == '_' || c == '.') &&
    labels.all (fun label => !label.isEmpty && label.length ≤ longestLabel) &&
    (labels.flatten.length + labels.length) ≤ longestName + 1

/-- The machine itself, by its name. -/
def isLocal (l : List Char) : Bool := l.map Char.toLower == "localhost".toList

/-- Why a peer cannot be asked where nothing is reachable. -/
def silence (p : Peer) : Silence :=
  if p.host.head? = some '[' then .noSource
  else if isLocal p.host || (Url.Ipv4.ofHost? p.host).isSome then .noWay
  else if isName p.host then .noLookup
  else .noName

end Peer

namespace Network

/-- **A network where nothing is reachable.** The client looks nowhere else for credentials that it
is not given, and takes the name of a region for its place. -/
def unreachable : Network where
  region name := .ok ⟨name, name⟩
  credentials accessKey secretKey :=
    if accessKey.isSome then .ok ⟨accessKey, secretKey⟩ else .error "no credentials were given"
  admits _ _ _ := .ok ()
  answer _ peer _ := .error peer.silence.message
  attempts := []

end Network

end LogVault
