import LogVault.Json.Reader
import LogVault.Main
import LogVault.Proofs.Json.Text
import LogVault.Proofs.Storage.Key
import LogVault.Proofs.Text.Decimal
import LogVault.Proofs.Text.Form
import LogVault.Proofs.Vault.Phases
import LogVault.Proofs.Vault.Secrecy
import LogVault.Proofs.Http.Envelope
import LogVault.Proofs.Command.Links
import LogVault.Proofs.Vault.Redemption
import LogVault.Proofs.Vault.Refinement
import LogVault.Proofs.Storage.FileTree
import LogVault.Proofs.Storage.Route
import LogVault.Proofs.Storage.Directory
import LogVault.Proofs.Http.Frame
import LogVault.Proofs.Http.Redemption
import LogVault.Proofs.Http.Isolation
import LogVault.Proofs.Command.Agreement
import LogVault.Proofs.Command.Failure
import LogVault.Proofs.Url.Path
import LogVault.Proofs.Storage.Bucket
import LogVault.Proofs.Storage.Put
import LogVault.Proofs.Storage.Atomicity
import LogVault.Proofs.Storage.Interleaving
import LogVault.Proofs.Time.Calendar
import LogVault.Proofs.Time.Instant
import LogVault.Proofs.Vault.Opening
import LogVault.Proofs.Time.Span
import LogVault.Proofs.Url.Apart
import LogVault.Proofs.Link.Expiry
import LogVault.Proofs.Http.Lifetime
import LogVault.Proofs.Storage.Reply
import LogVault.Proofs.Link.Grammar
import LogVault.Proofs.Http.Params
import LogVault.Proofs.Http.Direct
import LogVault.Proofs.Storage.Grammar
import LogVault.Proofs.Time.Gregorian
import LogVault.Proofs.Time.Timestamp
import LogVault.Proofs.Vault.Document
import LogVault.Proofs.Link.Binding
import LogVault.Proofs.Settings.Variables
