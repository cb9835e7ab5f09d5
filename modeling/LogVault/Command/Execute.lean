import LogVault.Command.Basic
import LogVault.Http.Router
import LogVault.Url.Ipv6
import LogVault.World

/-!
# LogVault.Command.Execute — carrying out a command

A command about a blob is one operation of a vault; what it prints is what the same request over
HTTP is answered with. Standard input is given as it was read, or as what the system says when it
cannot be read; only an upload without a file asks for it. A link is only printed where the secret
is configured, since a secret made up by this process dies with it. Printing comes last, so a
command that fails has printed nothing.

`run` is a whole process: it opens the vault that its settings name and carries out one command. A
fault is reported on standard error in the envelope that HTTP has for it.
-/

namespace LogVault

/-- **What a command works on**: the world of its vault, and what has been printed. -/
structure Desk where
  world : World
  printed : Bytes

namespace StoreCommand

/-! ## Steps -/

/-- A step in the world of the vault. -/
def inWorld {α : Type} (a : Action World α) : Action Desk α :=
  a.within Desk.world fun world desk => { desk with world }

/-- Printing. -/
def print (octets : Bytes) : Action Desk Unit := fun desk =>
  ⟨.ok (), { desk with printed := desk.printed ++ octets }, []⟩

/-- The octets for an upload: those of a file, or of standard input. -/
def supply (input : Except String Bytes) (files : FileTree) : Option String → Except Fault Bytes
  | some path => (Directory.onPath path files.read).mapError Directory.fault
  | none => input.mapError .internal

/-- Reading the octets for an upload. -/
def fetch (input : Except String Bytes) (file : Option String) : Action Desk Bytes := fun desk =>
  ⟨supply input desk.world.disk.files file, desk, []⟩

/-- Writing a file. -/
def writeFile (path : String) (content : Bytes) : Action World Unit := fun w =>
  match Directory.onPath path fun route => w.disk.files.write route content with
  | .ok files => ⟨.ok (), { w with disk := { w.disk with files } }, []⟩
  | .error e => ⟨.error (Directory.fault e), w, []⟩

/-! ## Commands -/

/-- The blob of a command, an empty snapshot counting as none. -/
def named (blob : BlobRef) : BlobRef := BlobRef.of blob.account blob.key blob.snapshot

/-- The fault of a link that nobody else could check. -/
def noSharedSecret : Fault :=
  .invalidArgument "LINK_SECRET must be set to issue links from the command line"

/-- Links need a secret that is shared. -/
def requireSharedSecret {σ : Type} (v : Vault World) : Action σ Unit :=
  if v.issuer.ephemeral then Action.fail noSharedSecret else pure ()

/-- Issuing a link and printing it. -/
def printLink (v : Vault World) (mode : Mode) (blob : BlobRef) (seconds : Option Nat)
    (now : Instant) : Action Desk Unit := do
  requireSharedSecret v
  let link ← inWorld (v.link mode (named blob) (seconds.map Duration.ofSeconds) now)
  print (Http.documentOctets link.document)

/-- **Carrying out a command.** -/
def execute (v : Vault World) (input : Except String Bytes) (now : Instant) :
    StoreCommand → Action Desk Unit
  | .download blob output => do
    let data ← inWorld (v.download (named blob))
    match output with
    | some path => inWorld (writeFile path data)
    | none => print data
  | .downloadLink blob seconds => printLink v .download blob seconds now
  | .upload blob file => do
    let data ← fetch input file
    let key ← inWorld (v.upload (named blob) data)
    print (Http.documentOctets (receipt key data.length))
  | .uploadLink blob seconds => printLink v .upload blob seconds now

end StoreCommand

/-! ## A process -/

/-- **What a process leaves behind**: whether it went well, and what it printed. -/
structure Report where
  success : Bool
  output : Bytes
  errors : Bytes
  deriving Repr, DecidableEq

/-- **How a process ends**: with a report, with a sentence before it could do anything, or not at
all, because it serves. -/
inductive Ending where
  | report (r : Report)
  | refused (message : String)
  | serving (address : String)
  deriving Repr, DecidableEq

namespace Launch

/-- An IPv6 address, perhaps with a `%` and the number of a zone after it. -/
def isZoned (l : List Char) : Bool :=
  let zone := l.dropWhile (· != '%')
  (Url.Ipv6.ofText? (l.takeWhile (· != '%'))).isSome &&
    (zone.isEmpty ||
      ((zone.drop 1).all Char.isDigit && (Decimal.readNat 0xFFFFFFFF (zone.drop 1)).isOk))

/-- An IPv4 address with four plain numbers, or an IPv6 address in brackets. -/
def isAddress (host : List Char) : Bool :=
  match host with
  | '[' :: rest => rest.getLast? == some ']' && isZoned rest.dropLast
  | _ => (Url.Ipv6.dotted? host).isSome

/-- Where a server is to listen. -/
def addressText (s : ServerSettings) : String := s.host ++ ":" ++ Decimal.natText s.portNumber

/-- The ending of the server command. -/
def serve (s : ServerSettings) : Ending :=
  if isAddress s.host.toList then .serving (addressText s)
  else .refused "invalid socket address syntax"

/-- What a fault is reported with on standard error. -/
def faultText (f : Fault) : Bytes :=
  Http.documentOctets (Http.Response.errorDocument f.publicMessage)

/-- The report of a command that has printed something and then ended. -/
def reportOf (printed : Bytes) : Except Fault Unit → Report
  | .ok () => ⟨true, printed, []⟩
  | .error fault => ⟨false, printed, faultText fault⟩

/-- The entry in the journal for a command that failed. -/
def failedEvents : Except Fault Unit → List Event
  | .ok () => []
  | .error fault => [.note .error ("Store command failed: " ++ fault.message)]

/-- **One process**: a vault opened for one command. `spare` is the secret it would make up, and
`input` its standard input. What it keeps in memory is gone afterwards. -/
def run (s : Settings) (spare : Bytes) (input : Except String Bytes) (now : Instant)
    (command : Command) (w : World) : Ending × World × List Event :=
  let opened := (Vault.ofSettings s spare).run { w with blobs := .empty }
  match opened.result with
  | .error fault => (.refused fault.message, { opened.state with blobs := w.blobs }, opened.events)
  | .ok vault =>
    match command with
    | .server => (serve s.server, { opened.state with blobs := w.blobs }, opened.events)
    | .store command =>
      let done := (command.execute vault input now).run ⟨opened.state, []⟩
      (.report (reportOf done.state.printed done.result), { done.state.world with blobs := w.blobs },
        opened.events ++ done.events ++ failedEvents done.result)

end Launch

end LogVault
