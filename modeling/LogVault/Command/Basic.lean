import LogVault.Storage.Backend

/-!
# LogVault.Command.Basic — what the command line can ask for

The command line starts the server or does one thing with a blob: download it, upload it, or issue a
link for either.
-/

namespace LogVault

/-- **A command about a blob.** A download goes to a file or to standard output, an upload comes from
a file or from standard input, and a link lives for a number of seconds or for the usual time. -/
inductive StoreCommand where
  | download (blob : BlobRef) (output : Option String)
  | downloadLink (blob : BlobRef) (seconds : Option Nat)
  | upload (blob : BlobRef) (file : Option String)
  | uploadLink (blob : BlobRef) (seconds : Option Nat)
  deriving Repr, DecidableEq

/-- **A command.** -/
inductive Command where
  | server
  | store (command : StoreCommand)
  deriving Repr, DecidableEq

/-- **Why arguments are no command**, or what they ask for instead of one. -/
inductive Usage where
  | unknownArgument
  | invalidSubcommand
  | missingRequired
  | invalidValue
  | valueValidation
  | conflict
  | tooManyValues
  | help
  | helpForMissing
  | version
  deriving Repr, DecidableEq

end LogVault
