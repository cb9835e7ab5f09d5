import LogVault.Fault

/-!
# LogVault.Journal — what the vault records about its work

Work on a blob is one of six operations and passes through phases. The journal holds an event for
each phase reached, one for the fault that ends a failing operation, and notes at a level of
importance; `Event.message`, `Event.operation?` and `Event.phase?` are how an event reads.
-/

namespace LogVault

/-- How important an event is. -/
inductive Level where
  | error
  | warning
  | info
  | debug
  deriving Repr, DecidableEq

/-- The name of a level. -/
def Level.name : Level → String
  | .error => "ERROR"
  | .warning => "WARN"
  | .info => "INFO"
  | .debug => "DEBUG"

/-- **The six operations** on blobs. -/
inductive Operation where
  | upload
  | download
  | uploadLink
  | downloadLink
  | redeemUpload
  | redeemDownload
  deriving Repr, DecidableEq

/-- The name of an operation. -/
def Operation.name : Operation → String
  | .upload => "upload"
  | .download => "download"
  | .uploadLink => "upload_link"
  | .downloadLink => "download_link"
  | .redeemUpload => "redeem_upload"
  | .redeemDownload => "redeem_download"

/-- **How far an operation has come.** The last two phases end it. -/
inductive Phase where
  | received
  | keyResolved
  | transferInFlight
  | linkIssued
  | completed
  | failed
  deriving Repr, DecidableEq

/-- The name of a phase. -/
def Phase.name : Phase → String
  | .received => "received"
  | .keyResolved => "key_resolved"
  | .transferInFlight => "transfer_in_flight"
  | .linkIssued => "link_issued"
  | .completed => "completed"
  | .failed => "failed"

/-- **An entry of the journal.** -/
inductive Event where
  | note (level : Level) (message : String)
  | reached (operation : Operation) (phase : Phase)
  | failed (operation : Operation) (fault : Fault)
  deriving Repr, DecidableEq

namespace Event

/-- The level of an event. -/
def level : Event → Level
  | .note level _ => level
  | .reached _ _ => .debug
  | .failed _ _ => .warning

/-- The sentence of an event. -/
def message : Event → String
  | .note _ message => message
  | .reached _ _ => "transfer phase"
  | .failed _ fault => fault.message

/-- The operation that an event belongs to. -/
def operation? : Event → Option Operation
  | .note _ _ => none
  | .reached operation _ => some operation
  | .failed operation _ => some operation

/-- The phase that an event reports. -/
def phase? : Event → Option Phase
  | .note _ _ => none
  | .reached _ phase => some phase
  | .failed _ _ => some .failed

end Event

end LogVault
