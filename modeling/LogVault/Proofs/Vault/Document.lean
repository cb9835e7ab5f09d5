import LogVault.Proofs.Http.Envelope
import LogVault.Proofs.Link.Expiry
import LogVault.Proofs.Time.Timestamp
import LogVault.Proofs.Vault.Run

/-!
# LogVault.Proofs.Vault.Document — the document of a link says what its URL says

A link goes out as a document that gives its URL and, for people and programs that do not take the URL
apart, its mode, its key and its end. The URL says all of this once more, in its own spelling: the key
escaped, the end in milliseconds. `AgreesWithUrl` reads both, each by the rules of its own format, and
`document_agrees_with_url` is that they say the same.
-/

namespace LogVault

open LinkQuery (valuesOf)

namespace SignedLink

/-- The document of a link is read back. -/
theorem reads_document (l : SignedLink) : l.document.Reads := by
  refine Json.reads_object fun m hm => ?_
  simp only [List.mem_cons, List.not_mem_nil, or_false] at hm
  rcases hm with rfl | rfl | rfl | rfl <;> exact Json.reads_text _

/-- **A document says what the pairs of a query say** about a link: the same key, the same mode and,
as a timestamp instead of milliseconds, the same end. -/
structure Says (document : Json.Value) (pairs : List (String × String)) : Prop where
  key : ∃ key, document.member? "key" = some (.text key) ∧ valuesOf "key" pairs = [key]
  mode : ∃ mode, document.member? "mode" = some (.text mode) ∧ valuesOf "mode" pairs = [mode]
  expires : ∃ (text digits : String) (ms : Int),
    document.member? "expires" = some (.text text) ∧ valuesOf "expires" pairs = [digits] ∧
      Decimal.Spells digits.toList ms ∧ Timestamp.nanos? text.toList = some (ms * 1000000) ∧
      ('.' ∈ text.toList ↔ ms % 1000 ≠ 0)

/-- **The document of a link agrees with its URL**, both read from what the receiver gets. -/
def AgreesWithUrl (l : SignedLink) : Prop :=
  ∃ (members : List (String × Json.Value)) (url : Url) (query : List Char),
    Http.readDocument? (Http.documentOctets l.document) = some (.object members) ∧
      members.map (·.1) = ["link", "mode", "expires", "key"] ∧
      (Json.Value.object members).member? "link" = some (.text l.url) ∧
      Url.parse l.url = .ok url ∧ url.query = some query ∧
      Says (.object members) (Form.read (String.ofList query))

end SignedLink

namespace Issuer

variable {i : Issuer} {key : StorageKey} {snapshot : Option String} {mode : Mode}
  {ttl : Duration} {now : Instant} {link : SignedLink}

/-- The timestamp of an instant of whole milliseconds. -/
theorem timestamp_of_millis {t : Instant} (h : Instant.ofMillis? t.millis = some t)
    (hyears : Timestamp.FourDigits t) :
    Timestamp.nanos? t.documentText.toList = some (t.millis * 1000000) ∧
      ('.' ∈ t.documentText.toList ↔ t.millis % 1000 ≠ 0) := by
  obtain ⟨hnanos, hleap⟩ := Instant.ofNanos?_eq_some.mp h
  have hnano := Instant.isLeap_eq_false.mp hleap
  rw [Instant.documentText, String.toList_ofList, Timestamp.nanos?_write hleap hyears,
    Timestamp.dot_mem_write_iff hleap hyears, hnanos]
  refine ⟨rfl, ?_⟩
  generalize t.millis = ms at hnanos ⊢
  simp only [Instant.nanos, nanosPerSecond, nanosPerMilli] at hnanos hnano
  omega

/-- **The document of an issued link** agrees with its URL. -/
theorem agreesWithUrl_of_issue (hbase : i.HasBase)
    (h : i.issue key snapshot mode ttl now = .ok link) (hyears : Timestamp.FourDigits link.expires) :
    link.AgreesWithUrl := by
  obtain ⟨-, rfl, rfl, hmillis, hlink⟩ := of_issue h
  obtain ⟨url, hurl, hquery⟩ := exists_parse_urlOf_of_hasBase hbase
    ⟨link.key.text, snapshot, link.mode, link.expires.millis⟩
  have hread := Http.readDocument?_documentOctets link.reads_document
  obtain ⟨hkey, -, hmode, hexpires, -⟩ := LinkQuery.valuesOf_pairs
    (i.queryOf ⟨link.key.text, snapshot, link.mode, link.expires.millis⟩)
  have hfits := Decimal.spells_ofInt link.expires.millis
  obtain ⟨htimestamp, hfraction⟩ := timestamp_of_millis hmillis hyears
  refine ⟨_, url, _, hread, rfl, rfl, hlink ▸ hurl, hquery, ?_⟩
  rw [LinkQuery.write, Form.read_text (LinkQuery.pairs_ne_nil _)]
  exact {
    key := ⟨_, rfl, hkey⟩
    mode := ⟨_, rfl, hmode⟩
    expires := ⟨_, _, link.expires.millis, rfl, hexpires,
      by rwa [Decimal.intText, String.toList_ofList], htimestamp, hfraction⟩ }

end Issuer

namespace Vault

variable {σ : Type} {v : Vault σ} {s : σ} {mode : Mode} {blob : BlobRef} {ttl : Option Duration}
  {now : Instant} {link : SignedLink}

/-- A link that a vault gives is one that its issuer issues. -/
theorem linkFor_of_link (h : ((v.link mode blob ttl now).run s).result = .ok link) :
    v.linkFor mode blob ttl now = .ok link := by
  rw [run_link] at h
  cases hlink : v.linkFor mode blob ttl now with
  | error fault =>
    rw [hlink] at h
    cases h
  | ok link' =>
    rw [hlink] at h
    cases h
    rfl

/-- **Documents of links agree with their URLs.** Of every link that ends in the years 0 to 9999,
whether an issuer issued it or a vault gave it for writing or for reading, the document is read back
as an object that says the same as the query of its URL, which is itself the one in the document. -/
theorem document_agrees_with_url {i : Issuer} (hbase : i.HasBase) :
    (∀ key snapshot mode ttl now link, i.issue key snapshot mode ttl now = .ok link →
      Timestamp.FourDigits link.expires → link.AgreesWithUrl) ∧
    ∀ (σ : Type) (v : Vault σ), v.issuer = i → ∀ s blob ttl now link,
      ((v.uploadLink blob ttl now).run s).result = .ok link ∨
        ((v.downloadLink blob ttl now).run s).result = .ok link →
      Timestamp.FourDigits link.expires → link.AgreesWithUrl := by
  refine ⟨fun key snapshot mode ttl now link h => Issuer.agreesWithUrl_of_issue hbase h, ?_⟩
  rintro σ v rfl s blob ttl now link (h | h)
  · exact Issuer.agreesWithUrl_of_issue hbase (issue_of_linkFor (linkFor_of_link h)).2
  · exact Issuer.agreesWithUrl_of_issue hbase (issue_of_linkFor (linkFor_of_link h)).2

/-- A link that ends a millisecond into a leap day, for a key that is spelled in two ways. -/
theorem document_agrees_with_url_on_a_leap_day :
    ∃ (now : Instant) (link : SignedLink), Issuer.hourly.HasBase ∧
      Issuer.hourly.issue ⟨"acct1/a \"é\""⟩ (some "") .upload ⟨2000000⟩ now = .ok link ∧
      link.expires.documentText = "2000-02-29T00:00:00.001Z" ∧
      Timestamp.FourDigits link.expires ∧ link.AgreesWithUrl := by
  have hbase : Issuer.hourly.HasBase := Issuer.onWeb_hourly.1
  have hexpiry : Issuer.hourly.expiry ⟨2000000⟩
      ⟨951782399, 999000000, by decide, by decide, by decide⟩ =
      .ok ⟨951782400, 1000000, by decide, by decide, by decide⟩ := rfl
  have hissue : Issuer.hourly.issue ⟨"acct1/a \"é\""⟩ (some "") .upload ⟨2000000⟩ _ = .ok _ :=
    Issuer.issue_eq_ok_iff.mpr ⟨_, hexpiry, rfl⟩
  have hyears : Timestamp.FourDigits ⟨951782400, 1000000, by decide, by decide, by decide⟩ := by
    rw [Timestamp.FourDigits, Calendar.dayNumber_first, Calendar.dayNumber_last]
    decide
  exact ⟨_, _, hbase, hissue, by decide +kernel, hyears,
    (document_agrees_with_url hbase).1 _ _ _ _ _ _ hissue hyears⟩

end Vault

end LogVault
