import LogVault.Json.Printer
import LogVault.Link.Mode
import LogVault.Text.Utf8

/-!
# LogVault.Link.Payload — what a signature covers

A link names a storage key, perhaps a snapshot, a mode and the millisecond at which it expires. The
signature covers the four of them as one JSON document without blanks and with a fixed order of
members, in UTF-8, so changing any of them in a link breaks its signature.
-/

namespace LogVault

/-- **The signed part of a link.** `expires` counts milliseconds since the start of 1970. -/
structure Payload where
  key : String
  snapshot : Option String
  mode : Mode
  expires : Int
  deriving Repr, DecidableEq

namespace Payload

/-- The snapshot as a document; none is `null`. -/
def snapshotDocument : Option String → Json.Value
  | none => .null
  | some s => .text s

/-- The document that is signed. -/
def document (p : Payload) : Json.Value :=
  .object [("key", .text p.key), ("snapshot", snapshotDocument p.snapshot),
    ("mode", .text p.mode.word), ("expires", .whole p.expires)]

/-- **The octets that are signed.** -/
def octets (p : Payload) : Bytes := p.document.compact.flatMap String.utf8EncodeChar

end Payload

end LogVault
