import LogVault.Fault
import LogVault.Json.Printer
import LogVault.Text.Utf8

/-!
# LogVault.Http.Response — answers

Every answer about blobs comes in one envelope: four headers that forbid caching, the kind of content,
a status and a body. A document is written with one member a line and a line end; a fault is the
document with its public message as `error_msg`; a blob is its own octets.
-/

namespace LogVault.Http

/-- **An answer.** The headers stand under lower-case names. -/
structure Response where
  status : Nat
  headers : List (String × String)
  body : Bytes
  deriving Repr, DecidableEq

/-- The octets of a document as answers have it. -/
def documentOctets (v : Json.Value) : Bytes :=
  (v.pretty ++ ['\n']).flatMap String.utf8EncodeChar

namespace Response

/-- The kind of content of documents. -/
def documentType : String := "application/json"

/-- The kind of content of blobs. -/
def blobType : String := "application/octet-stream"

/-- The headers that forbid caching. -/
def noCache : List (String × String) :=
  [("cache-control", "no-cache, no-store, must-revalidate, private, max-age=0"),
    ("expires", "Thu, 01 Jan 1970 00:00:00 UTC"), ("pragma", "no-cache"), ("x-accel-expires", "0")]

/-- The envelope. -/
def envelope (status : Nat) (contentType : String) (body : Bytes) : Response :=
  ⟨status, noCache ++ [("content-type", contentType)], body⟩

/-- **A document.** -/
def document (status : Nat) (v : Json.Value) : Response :=
  envelope status documentType (documentOctets v)

/-- **A blob.** -/
def blob (status : Nat) (data : Bytes) : Response := envelope status blobType data

/-- The document of an error message. -/
def errorDocument (message : String) : Json.Value := .object [("error_msg", .text message)]

/-- **An error message.** -/
def error (status : Nat) (message : String) : Response := document status (errorDocument message)

/-- The error message of a request that is at fault itself. -/
def badRequest (message : String) : Response := error 400 message

/-- The error message where there is nothing. -/
def notFound (message : String) : Response := error 404 message

/-- The error message of a failure that is not the caller's. -/
def internalError (message : String) : Response := error 500 message

/-- The answer in place of a document that cannot be written. -/
def unwritable : Response := internalError Fault.internalMessage

/-- **A fault.** -/
def ofFault (f : Fault) : Response := error f.status f.publicMessage

/-- An answer with the length of its body as a header. -/
def measured (r : Response) : Response :=
  { r with headers := r.headers ++ [("content-length", Decimal.natText r.body.length)] }

/-- An answer without its body. -/
def headOnly (r : Response) : Response := { r with body := [] }

end Response

end LogVault.Http
