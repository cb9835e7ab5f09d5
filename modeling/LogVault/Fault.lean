import LogVault.Link.Mode

/-!
# LogVault.Fault — why a request is refused

Seven causes, each with the sentence that names it and the HTTP status it is answered with. A caller
is shown that sentence, except for an internal fault: its detail stays in the journal, and the
caller sees one fixed sentence (`publicMessage_internal`).
-/

namespace LogVault

/-- **The cause of a refusal.** -/
inductive Fault where
  | invalidArgument (reason : String)
  | payloadTooLarge (reason : String)
  | notFound (what : String)
  | expired
  | signatureInvalid
  | modeMismatch (issued requested : Mode)
  | internal (detail : String)
  deriving Repr, DecidableEq, Inhabited

namespace Fault

/-- The full sentence, for the journal. -/
def message : Fault → String
  | .invalidArgument reason => "Invalid argument: " ++ reason
  | .payloadTooLarge reason => "Payload too large: " ++ reason
  | .notFound what => "Not found: " ++ what
  | .expired => "Link expired"
  | .signatureInvalid => "Link signature invalid"
  | .modeMismatch issued requested =>
    "Link issued for " ++ issued.word ++ " cannot be used for " ++ requested.word
  | .internal detail => "Internal error: " ++ detail

/-- The sentence in place of every internal detail. -/
def internalMessage : String := "Internal server error"

/-- The sentence that a caller is shown. -/
def publicMessage : Fault → String
  | .internal _ => internalMessage
  | fault => fault.message

/-- The HTTP status. -/
def status : Fault → Nat
  | .invalidArgument _ => 400
  | .payloadTooLarge _ => 413
  | .notFound _ => 404
  | .expired => 403
  | .signatureInvalid => 403
  | .modeMismatch _ _ => 403
  | .internal _ => 500

/-- The fault of a word that is no mode. -/
def unknownMode (word : String) : Fault := .invalidArgument ("unknown link mode: " ++ word)

theorem publicMessage_internal (d e : String) :
    (internal d).publicMessage = (internal e).publicMessage := rfl

end Fault

/-- The mode of a word that has to be one. -/
def Mode.read (word : String) : Except Fault Mode :=
  match Mode.ofWord? word with
  | some mode => .ok mode
  | none => .error (.unknownMode word)

end LogVault
