import LogVault.Proofs.Command.Agreement
import LogVault.Proofs.Http.Envelope
import LogVault.Proofs.Storage.Key
import LogVault.Proofs.Time.Instant
import LogVault.Proofs.Vault.Document
import LogVault.Proofs.Vault.Opening

/-!
# LogVault.Proofs.Command.Links — printed links are good elsewhere

A process that was started with `LINK_SECRET` prints links that every vault with the same secret
takes, whatever else its settings say: for the printed mode, the key of the arguments and up to the
printed instant. A process without it prints no link, and says so before it looks at its arguments
(`printed_links_redeemable`).

What is printed is read back as a document, and its text for the instant of expiry stands for one
instant only (`Instant.documentText_injective`); what the link grants is known from the issuers
(`Issuer.validateQuery_of_issue`).
-/

namespace LogVault

namespace StoreCommand

/-! ## Commands for links -/

/-- The command that prints a link for a mode. -/
def linkCommand (mode : Mode) (blob : BlobRef) (seconds : Option Nat) : StoreCommand :=
  match mode with
  | .upload => .uploadLink blob seconds
  | .download => .downloadLink blob seconds

theorem execute_linkCommand (v : Vault World) (input : Except String Bytes) (now : Instant)
    (mode : Mode) (blob : BlobRef) (seconds : Option Nat) :
    execute v input now (linkCommand mode blob seconds) = printLink v mode blob seconds now := by
  cases mode <;> rfl

/-- What is printed about a link, or about the fault in its place. -/
def linkReport : Except Fault SignedLink → Report
  | .ok link => ⟨true, Http.documentOctets link.document, []⟩
  | .error fault => ⟨false, [], Launch.faultText fault⟩

section Process

variable {s : Settings} {spare : Bytes} {input : Except String Bytes} {now : Instant} {w : World}
  {v : Vault World}

/-- **A process that opened its vault** reports what its command printed and how it ended. -/
theorem run_store (h : ((Vault.ofSettings s spare).run { w with blobs := .empty }).result = .ok v)
    (c : StoreCommand) :
    ∃ world, (Launch.run s spare input now (.store c) w).1 =
      let done := (c.execute v input now).run ⟨world, []⟩
      .report (Launch.reportOf done.state.printed done.result) := by
  refine ⟨((Vault.ofSettings s spare).run { w with blobs := .empty }).state, ?_⟩
  simp only [Launch.run, h]

/-- **Without a shared secret** no link is printed, whatever it would be for. -/
theorem run_linkCommand_of_ephemeral
    (h : ((Vault.ofSettings s spare).run { w with blobs := .empty }).result = .ok v)
    (hephemeral : v.issuer.ephemeral = true) (mode : Mode) (blob : BlobRef)
    (seconds : Option Nat) :
    (Launch.run s spare input now (.store (linkCommand mode blob seconds)) w).1 =
      .report (linkReport (.error noSharedSecret)) := by
  obtain ⟨world, hrun⟩ := run_store h (linkCommand mode blob seconds)
  have hrefused : (requireSharedSecret v : Action Desk Unit) = Action.fail noSharedSecret := by
    rw [requireSharedSecret, if_pos hephemeral]
  rw [hrun, execute_linkCommand, printLink, hrefused]
  rfl

/-- **With a shared secret** the link is printed that the vault issues. -/
theorem run_linkCommand_of_shared
    (h : ((Vault.ofSettings s spare).run { w with blobs := .empty }).result = .ok v)
    (hshared : v.issuer.ephemeral = false) (mode : Mode) (blob : BlobRef) (seconds : Option Nat) :
    (Launch.run s spare input now (.store (linkCommand mode blob seconds)) w).1 =
      .report (linkReport (v.linkFor mode (named blob) (seconds.map Duration.ofSeconds) now)) := by
  obtain ⟨world, hrun⟩ := run_store h (linkCommand mode blob seconds)
  rw [hrun, execute_linkCommand, printLink_eq hshared]
  simp only [run_print, Vault.run_link]
  cases v.linkFor mode (named blob) (seconds.map Duration.ofSeconds) now <;> rfl

end Process

/-! ## What is printed -/

/-- **A printed link that an issuer takes**: the octets spell a document with a link, a mode, an
instant and a key; the key is that of the blob, and up to the printed instant the issuer grants the
bearer of the link just this mode of just this key. -/
def PrintsLinkFor (octets : Bytes) (mode : Mode) (blob : BlobRef) (taker : Issuer) : Prop :=
  ∃ (url instant : String) (key : StorageKey),
    Http.readDocument? octets = some (.object [("link", .text url), ("mode", .text mode.word),
      ("expires", .text instant), ("key", .text key.text)]) ∧
    StorageKey.build blob.account blob.key (blob.snapshot.filter (· != "")) = .ok key ∧
    (∃ expires : Instant, expires.documentText = instant) ∧
    ∀ expires t : Instant, expires.documentText = instant → t ≤ expires →
      taker.validate url mode t = .ok ⟨key, blob.snapshot.filter (· != ""), mode, expires⟩

/-- A link that was issued is taken where the secret is known. -/
theorem printsLinkFor_of_linkFor {v : Vault World} {taker : Issuer} (hweb : v.issuer.OnWeb)
    (hsecret : taker.secret = v.issuer.secret) {mode : Mode} {blob : BlobRef}
    {ttl : Option Duration} {now : Instant} {link : SignedLink}
    (h : v.linkFor mode (named blob) ttl now = .ok link) :
    PrintsLinkFor (Http.documentOctets link.document) mode blob taker := by
  obtain ⟨hkey, hissue⟩ := Vault.issue_of_linkFor h
  obtain ⟨-, -, rfl, -⟩ := Issuer.of_issue hissue
  refine ⟨link.url, link.expires.documentText, link.key,
    Http.readDocument?_documentOctets link.reads_document, BlobRef.resolve_eq_ok_iff.mp hkey,
    ⟨link.expires, rfl⟩, fun expires t htext ht => ?_⟩
  obtain rfl := Instant.documentText_injective htext
  have hclock : ¬ link.expires < t := fun hlt => hlt ht
  rw [Issuer.validate_of_issue hweb.1 hissue, Issuer.validateQuery_of_issue hweb.1 hsecret hissue,
    if_pos rfl, if_neg hclock]
  rfl

/-- **Printed links are good elsewhere.** Two vaults are opened with variables that say the same about
`LINK_SECRET`. If there is a secret, and the first one's public URL is one of the web, every link that
a process prints with the first variables is taken by the second vault: for the printed mode, the
printed key, which is that of the arguments, and up to the printed instant. If there is none, the
process fails and prints nothing, whatever its arguments are. -/
theorem printed_links_redeemable {vars others : Settings.Variables} {s t : Settings}
    (hs : Settings.ofVariables vars = .ok s) (ht : Settings.ofVariables others = .ok t)
    (hsecret : vars "LINK_SECRET" = others "LINK_SECRET")
    {w u : World} {spare another : Bytes} {v taker : Vault World}
    (hv : ((Vault.ofSettings s spare).run { w with blobs := .empty }).result = .ok v)
    (htaker : ((Vault.ofSettings t another).run u).result = .ok taker)
    (mode : Mode) (blob : BlobRef) (seconds : Option Nat) (input : Except String Bytes)
    (now : Instant) :
    ((∃ secret, vars "LINK_SECRET" = some secret ∧ secret ≠ "") →
      (∃ url, Url.parse s.links.publicUrl = .ok url ∧
        (url.scheme = "http".toList ∨ url.scheme = "https".toList)) →
      ∀ report, (Launch.run s spare input now (.store (linkCommand mode blob seconds)) w).1 =
          .report report →
        report.success = true → PrintsLinkFor report.output mode blob taker.issuer) ∧
    ((vars "LINK_SECRET" = none ∨ vars "LINK_SECRET" = some "") →
      (Launch.run s spare input now (.store (linkCommand mode blob seconds)) w).1 =
        .report ⟨false, [], Launch.faultText noSharedSecret⟩) := by
  constructor
  · rintro ⟨secret, hset, hsome⟩ ⟨url, hurl, hscheme⟩ report hreport hsuccess
    have hmade := Vault.make_of_ofVariables hs hv hset hsome
    have htakerMade := Vault.make_of_ofVariables ht htaker (hsecret ▸ hset) hsome
    obtain ⟨hkept, hshared⟩ := Issuer.secret_of_make hmade
    obtain ⟨htakerKept, -⟩ := Issuer.secret_of_make htakerMade
    rw [run_linkCommand_of_shared hv hshared] at hreport
    cases hlink : v.linkFor mode (named blob) (seconds.map Duration.ofSeconds) now with
    | error fault =>
      rw [hlink] at hreport
      cases hreport
      cases hsuccess
    | ok link =>
      rw [hlink] at hreport
      cases hreport
      exact printsLinkFor_of_linkFor (Issuer.onWeb_of_make hmade hurl hscheme)
        (htakerKept.trans hkept.symm) hlink
  · intro hnone
    have hephemeral := Vault.ephemeral_of_ofVariables hs hv hnone
    exact run_linkCommand_of_ephemeral hv hephemeral mode blob seconds

/-- The variables of a process with its blobs in memory. -/
def memoryVariables (more : List (String × String)) : Settings.Variables := fun name =>
  (("STORAGE_PROVIDER", "memory") :: more).lookup name

/-- A link that is printed under one public URL is taken under another one, where links may live for a
minute only; a process without the secret prints none. -/
theorem printed_links_redeemable_of_two_urls :
    ∃ (s t lone : Settings) (taker : Vault World) (report : Report),
      Settings.ofVariables (memoryVariables [("LINK_SECRET", "s3cret")]) = .ok s ∧
      Settings.ofVariables (memoryVariables [("LINK_SECRET", "s3cret"), ("LINK_MAX_TTL_SECS", "60"),
        ("PUBLIC_URL", "https://logs.example/")]) = .ok t ∧
      Settings.ofVariables (memoryVariables []) = .ok lone ∧
      ((Vault.ofSettings t []).run .empty).result = .ok taker ∧
      (Launch.run s [] (.ok []) .zero
        (.store (.uploadLink ⟨"acme", "app.log", some ""⟩ (some 600))) .empty).1 = .report report ∧
      report.success = true ∧
      PrintsLinkFor report.output .upload ⟨"acme", "app.log", some ""⟩ taker.issuer ∧
      (Launch.run lone [7] (.ok []) .zero
        (.store (.downloadLink ⟨"", "", none⟩ (some 0))) .empty).1 =
          .report ⟨false, [], Launch.faultText noSharedSecret⟩ := by
  obtain ⟨s, v, link, hs, hweb, hv, hshared, hlink⟩ : ∃ s v link,
      Settings.ofVariables (memoryVariables [("LINK_SECRET", "s3cret")]) = .ok s ∧
      (∃ url, Url.parse s.links.publicUrl = .ok url ∧ url.scheme = "http".toList) ∧
      ((Vault.ofSettings s []).run { World.empty with blobs := .empty }).result = .ok v ∧
      v.issuer.ephemeral = false ∧
      v.linkFor .upload (named ⟨"acme", "app.log", some ""⟩) (some (.ofSeconds 600)) .zero =
        .ok link := ⟨_, _, _, rfl, ⟨_, rfl, rfl⟩, rfl, rfl, rfl⟩
  obtain ⟨t, taker, ht, htaker⟩ : ∃ t taker,
      Settings.ofVariables (memoryVariables [("LINK_SECRET", "s3cret"), ("LINK_MAX_TTL_SECS", "60"),
        ("PUBLIC_URL", "https://logs.example/")]) = .ok t ∧
      ((Vault.ofSettings t []).run .empty).result = .ok taker := ⟨_, _, rfl, rfl⟩
  obtain ⟨lone, alone, hlone, halone⟩ : ∃ lone alone,
      Settings.ofVariables (memoryVariables []) = .ok lone ∧
      ((Vault.ofSettings lone [7]).run { World.empty with blobs := .empty }).result = .ok alone :=
    ⟨_, _, rfl, rfl⟩
  obtain ⟨url, hurl, hscheme⟩ := hweb
  have hreport : (Launch.run s [] (.ok []) .zero
      (.store (.uploadLink ⟨"acme", "app.log", some ""⟩ (some 600))) .empty).1 =
        .report (linkReport (.ok link)) := by
    rw [← hlink]
    exact run_linkCommand_of_shared hv hshared .upload ⟨"acme", "app.log", some ""⟩ (some 600)
  have hprints := (printed_links_redeemable hs ht rfl hv htaker .upload
    ⟨"acme", "app.log", some ""⟩ (some 600) (.ok []) .zero).1 ⟨"s3cret", rfl, by decide⟩
      ⟨url, hurl, .inl hscheme⟩ _ hreport rfl
  have hrefused := (printed_links_redeemable hlone hlone rfl halone halone .download ⟨"", "", none⟩
    (some 0) (.ok []) .zero).2 (.inl rfl)
  exact ⟨s, t, lone, taker, _, hs, ht, hlone, htaker, hreport, rfl, hprints, hrefused⟩

end StoreCommand

end LogVault
