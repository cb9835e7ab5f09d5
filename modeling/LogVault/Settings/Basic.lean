import LogVault.Text.Blank
import LogVault.Text.Decimal
import LogVault.Text.Quoted
import LogVault.Time.Instant

/-!
# LogVault.Settings.Basic — how a vault is set up

A vault is set up by variables, each of them a name with a text. All have defaults; four are numbers,
and the first of them that is set to no number in range is the flaw that is reported, in the order
`PORT`, `MAX_UPLOAD_BYTES`, `LINK_TTL_SECS`, `LINK_MAX_TTL_SECS`. An empty secret counts as none, and
a public URL loses the slashes at its end.
-/

namespace LogVault

/-! ## Values -/

/-- Where and how much the server takes in. -/
structure ServerSettings where
  portNumber : Nat
  host : String
  maxUploadBytes : Nat
  deriving Repr, DecidableEq

/-- Which store holds the blobs. -/
structure StorageSettings where
  provider : String
  path : String
  bucket : String
  region : String
  accessKey : Option String
  secretKey : Option String
  endpoint : Option String
  deriving Repr, DecidableEq

/-- How links are made. -/
structure LinkSettings where
  secret : Option String
  defaultTtlSeconds : Nat
  maxTtlSeconds : Nat
  publicUrl : String
  deriving Repr, DecidableEq

/-- **The settings of a vault.** -/
structure Settings where
  server : ServerSettings
  storage : StorageSettings
  links : LinkSettings
  deriving Repr, DecidableEq

/-- How long a link lives that nobody gave a time for. -/
def LinkSettings.defaultTtl (s : LinkSettings) : Duration := .ofSeconds s.defaultTtlSeconds

/-- How long a link may live. -/
def LinkSettings.maxTtl (s : LinkSettings) : Duration := .ofSeconds s.maxTtlSeconds

namespace Settings

/-! ## Reading -/

/-- The text of each variable that is set. -/
abbrev Variables := String → Option String

/-- A variable that is no number in range. -/
structure Flaw where
  name : String
  text : String
  cause : Decimal.Flaw
  deriving Repr, DecidableEq

/-- The sentence for a flaw. -/
def Flaw.message (f : Flaw) : String :=
  f.name ++ " has an invalid value: " ++ Text.quoted f.text ++ ": " ++ f.cause.message

/-- The number that a variable is set to, or else `default`. Blanks around it do not count. -/
def number (vars : Variables) (name : String) (max default : Nat) : Except Flaw Nat :=
  match vars name with
  | none => .ok default
  | some text =>
    match Decimal.readNat max (Text.trimmed text.toList) with
    | .ok n => .ok n
    | .error cause => .error ⟨name, text, cause⟩

/-- A text without the slashes at its end. -/
def withoutSlashes (s : String) : String :=
  String.ofList (Text.dropTrailing (· == '/') s.toList)

/-- The largest number of sixteen bits. -/
def max16 : Nat := 0xFFFF

/-- The largest number of 64 bits. -/
def max64 : Nat := 0xFFFFFFFFFFFFFFFF

/-- The public URL of a server that listens at a number on this machine. -/
def localUrl (portNumber : Nat) : String := "http://localhost:" ++ Decimal.natText portNumber

/-- **The settings** that variables make. -/
def ofVariables (vars : Variables) : Except Flaw Settings := do
  let portNumber ← number vars "PORT" max16 3000
  let maxUploadBytes ← number vars "MAX_UPLOAD_BYTES" max64 (64 * 1024 * 1024)
  let defaultTtlSeconds ← number vars "LINK_TTL_SECS" max64 3600
  let maxTtlSeconds ← number vars "LINK_MAX_TTL_SECS" max64 (7 * 24 * 3600)
  return {
    server := { portNumber, host := (vars "HOST").getD "0.0.0.0", maxUploadBytes }
    storage := {
      provider := (vars "STORAGE_PROVIDER").getD "filesystem"
      path := (vars "STORAGE_PATH").getD "./data"
      bucket := (vars "S3_BUCKET").getD ""
      region := (vars "S3_REGION").getD "us-east-1"
      accessKey := vars "AWS_ACCESS_KEY_ID"
      secretKey := vars "AWS_SECRET_ACCESS_KEY"
      endpoint := vars "S3_ENDPOINT" }
    links := {
      secret := (vars "LINK_SECRET").filter (· != "")
      defaultTtlSeconds
      maxTtlSeconds
      publicUrl := withoutSlashes ((vars "PUBLIC_URL").getD (localUrl portNumber)) } }

/-! ## For the start-up log -/

/-- A record as its name and its fields. -/
def recordText (name : String) (fields : List (String × String)) : String :=
  name ++ " \x7b " ++ ", ".intercalate (fields.map fun f => f.1 ++ ": " ++ f.2) ++ " \x7d"

/-- What a log may show in place of a secret. -/
def secretText : Option String → String
  | none => "None"
  | some _ => "Some(" ++ Text.quoted "<redacted>" ++ ")"

end Settings

/-- The link settings for a log, which never shows the secret. -/
def LinkSettings.logText (s : LinkSettings) : String :=
  Settings.recordText "LinkConfig" [("secret", Settings.secretText s.secret),
    ("default_ttl_secs", Decimal.natText s.defaultTtlSeconds),
    ("max_ttl_secs", Decimal.natText s.maxTtlSeconds),
    ("public_url", Text.quoted s.publicUrl)]

/-- The server settings for a log. -/
def ServerSettings.logText (s : ServerSettings) : String :=
  Settings.recordText "ServerConfig" [("port", Decimal.natText s.portNumber),
    ("host", Text.quoted s.host), ("max_upload_bytes", Decimal.natText s.maxUploadBytes)]

end LogVault
